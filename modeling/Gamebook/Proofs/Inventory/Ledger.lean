/-
**Additions and removals in any order.**

Over an inventory of natural counts, additions and removals of integers can be told apart exactly:
an addition is refused when it would take the total over a capacity, and leaves all counts alone;
every other transaction writes the sum or the difference, cut at zero.  Since no count is ever below
zero, an addition of more than nothing is never cut: the count and the total rise by just what is
added.

Main definitions:

* `Inventory.Transaction` — an addition or a removal, and `Transaction.run`, which makes it;
* `Inventory.ledger` — an entry for each of some transactions, made one after the other;
* `Inventory.Entry.IsBalanced` — what holds of an entry.

Main results:

* `Inventory.add_eq`, `Inventory.remove_eq` — what the two do to natural counts;
* `Inventory.run_isBalanced` — each transaction returns and is balanced;
* `Inventory.ledger_isBalanced` — **so are all transactions of a ledger**.
-/

import Gamebook.Proofs.Inventory
import Gamebook.Proofs.Number.Range

set_option autoImplicit false

namespace Gamebook

/-- A text that is not empty holds. -/
theorem Value.holds_str {s : String} (h : s ≠ "") : (Value.str s).holds = true := by
  simpa [Value.holds] using h

namespace Inventory

/-! ### Transactions -/

/-- An addition, perhaps up to a capacity, or a removal. -/
inductive Transaction where
  | add (item : String) (qty : Int) (capacity : Option Int)
  | remove (item : String) (qty : Int)

/-- A capacity as a value; null where there is none. -/
def capacityValue (capacity : Option Int) : Value := .ofOption (capacity.map .int)

namespace Transaction

/-- The item that is added or removed. -/
def item : Transaction → String
  | add item _ _ => item
  | remove item _ => item

/-- **Makes a transaction.**  The answer is whether it was accepted; a removal always is. -/
def run (t : Transaction) (inv : Inventory) : Except Fault (Bool × Inventory) :=
  match t with
  | add item qty capacity => inv.add (.str item) (.int qty) (capacityValue capacity)
  | remove item qty => do return (true, ← inv.remove (.str item) (.int qty))

/-- The transaction names an item, and its integers are below `10 ^ 300` in magnitude. -/
def IsProper : Transaction → Prop
  | add item qty capacity =>
      item ≠ "" ∧ qty.natAbs < tenTo 300 ∧ ∀ c ∈ capacity, c.natAbs < tenTo 300
  | remove item qty => item ≠ "" ∧ qty.natAbs < tenTo 300

instance (t : Transaction) : Decidable t.IsProper :=
  match t with
  | add _ _ _ => inferInstanceAs (Decidable (_ ∧ _ ∧ _))
  | remove _ _ => inferInstanceAs (Decidable (_ ∧ _))

end Transaction

/-- A transaction that has been made: the inventory before and after it, and whether it was
accepted. -/
structure Entry where
  before : Inventory
  transaction : Transaction
  accepted : Bool
  after : Inventory

/-- **The entries of some transactions** that are made one after the other. -/
def ledger (inv : Inventory) : List Transaction → Except Fault (List Entry)
  | [] => .ok []
  | t :: ts => do
      let (accepted, after) ← t.run inv
      return ⟨inv, t, accepted, after⟩ :: (← ledger after ts)

/-- What an accepted addition of `q` to an item does: it raises the count of the item and the total
by `q`, and the total is within the capacity. -/
def Raises (before after : Inventory) (item : String) (q : Int) (capacity : Option Int) : Prop :=
  ∃ n total : Nat,
    before.quantity (.str item) = .ok (.int n) ∧ after.quantity (.str item) = .ok (.int (n + q)) ∧
    before.total = .ok (.int total) ∧ after.total = .ok (.int (total + q)) ∧
    ∀ c ∈ capacity, 0 ≤ c → total + q ≤ c

/-- **What holds of an entry**: the counts after it are natural numbers; what is refused changes
nothing; what is accepted of more than nothing is added in full and within the capacity; and no
other item is touched. -/
structure Entry.IsBalanced (e : Entry) : Prop where
  counted : e.after.IsCounted
  refused : e.accepted = false → e.after = e.before
  raises : ∀ item q capacity, e.transaction = .add item q capacity → 0 < q → e.accepted = true →
    Raises e.before e.after item q capacity
  others : ∀ name : Key, name.same e.transaction.item = false →
    e.after.counts.get? name = e.before.counts.get? name

/-! ### Natural counts -/

variable {inv : Inventory} {item : String} {q : Int} {capacity : Option Int}

/-- The count of an item is what is stored for it. -/
theorem quantity_eq {n : Nat} (h : inv.stored item = .int n) :
    inv.quantity (.str item) = .ok (.int n) := by
  have horElse : (Value.int n).orElse (.int 0) = .int n := by
    cases n with
    | zero => rfl
    | succ n => rfl
  change Except.ok ((inv.stored item).orElse (.int 0)) = _
  rw [h, horElse]

/-- The written count is stored. -/
theorem stored_written (inv : Inventory) (name : Key) (k : Int) :
    (inv.written name (.int k)).stored name = .int k.toNat := by
  unfold stored written
  rw [Fields.get?_set_self, Option.getD_some, atLeastZero_int]

/-- The counts of all other items stay. -/
theorem get?_written {name other : Key} (h : other.same name = false) (k : Number) :
    (inv.written name k).counts.get? other = inv.counts.get? other := by
  rw [Key.same_comm] at h
  exact Fields.get?_set_of_not_same h inv.counts _

/-- **Which additions go over the capacity**: those of more than nothing that do not fit into a
capacity that is not negative. -/
theorem overflows_eq (h : inv.IsCounted) (hcapacity : ∀ c ∈ capacity, c.natAbs < tenTo 300) :
    inv.overflows (.int q) (capacityValue capacity) =
      .ok (decide (0 < q ∧ ∃ c ∈ capacity, 0 ≤ c ∧ c < inv.units + q)) := by
  unfold overflows
  by_cases hq : 0 < q
  case neg => simp [hq, pure, Except.pure]
  rw [if_neg (by simpa using hq)]
  cases capacity with
  | none =>
      simp [capacityValue, Value.ofOption, Value.isFiniteNumber, bind, Except.bind, pure,
        Except.pure]
  | some c =>
      have hfinite : (capacityValue (some c)).isFiniteNumber = .ok true :=
        Value.isFiniteNumber_int (hcapacity c rfl)
      have hnumber : (capacityValue (some c)).toNumber = .int c := rfl
      have hafter : inRange ((Number.int inv.units).add? (.int q)) = .ok (.int (inv.units + q)) :=
        rfl
      by_cases hc : c < 0
      · have hlt : Number.lt (.int c) (.int 0) = true := Number.lt_int_iff.2 hc
        have hno : ¬ 0 ≤ c := by omega
        simp [hfinite, hnumber, hlt, hno, bind, Except.bind, pure, Except.pure]
      · have hlt : Number.lt (.int c) (.int 0) = false := by
          rw [Bool.eq_false_iff, ne_eq, Number.lt_int_iff]
          exact hc
        have hyes : 0 ≤ c := by omega
        have hfull : Number.lt (.int c) (.int (inv.units + q)) =
            decide (c < inv.units + q) := by
          rw [Bool.eq_iff_iff, Number.lt_int_iff, decide_eq_true_iff]
        simp [hfinite, hnumber, hlt, total_eq h, hafter, hfull, hq, hyes, bind, Except.bind, pure,
          Except.pure]

/-! ### Each transaction -/

/-- **What an addition does**: it is refused, or writes the sum. -/
theorem add_eq (h : inv.IsCounted) (hitem : item ≠ "") (hq : q.natAbs < tenTo 300)
    (hcapacity : ∀ c ∈ capacity, c.natAbs < tenTo 300) {n : Nat} (hn : inv.stored item = .int n) :
    inv.add (.str item) (.int q) (capacityValue capacity) =
      if 0 < q ∧ ∃ c ∈ capacity, 0 ≤ c ∧ c < inv.units + q then .ok (false, inv)
      else .ok (true, inv.written item (.int (n + q))) := by
  have hplus : (inv.stored item).plus (.int q) = .ok (.int (n + q)) := by
    rw [hn]
    rfl
  unfold add
  rw [Value.holds_str hitem, Value.isFiniteNumber_int hq]
  change (inv.overflows (.int q) (capacityValue capacity) >>= _) = _
  rw [overflows_eq h hcapacity]
  by_cases hfull : 0 < q ∧ ∃ c ∈ capacity, 0 ≤ c ∧ c < inv.units + q
  · rw [if_pos hfull, decide_eq_true hfull]
    rfl
  · rw [if_neg hfull, decide_eq_false hfull]
    change ((inv.stored item).plus (.int q) >>= _) = _
    rw [hplus]
    rfl

/-- **What a removal does**: it writes the difference. -/
theorem remove_eq (hitem : item ≠ "") (hq : q.natAbs < tenTo 300) {n : Nat}
    (hn : inv.stored item = .int n) :
    inv.remove (.str item) (.int q) = .ok (inv.written item (.int (n - q))) := by
  have hminus : (inv.stored item).minus (.int q) = .ok (.int (n - q)) := by
    rw [hn]
    rfl
  unfold remove
  rw [Value.holds_str hitem, Value.isFiniteNumber_int hq]
  change ((inv.stored item).minus (.int q) >>= _) = _
  rw [hminus]
  rfl

/-- An entry that changes nothing is balanced. -/
theorem Entry.isBalanced_refused (h : inv.IsCounted) (t : Transaction) :
    Entry.IsBalanced ⟨inv, t, false, inv⟩ where
  counted := h
  refused _ := rfl
  raises _ _ _ _ _ haccepted := (Bool.false_ne_true haccepted).elim
  others _ _ := rfl

/-- What is added in full raises the count and the total by just that much. -/
theorem raises_written (h : inv.IsCounted) {n : Nat} (hn : inv.stored item = .int n) (hq : 0 < q)
    (hfits : ∀ c ∈ capacity, 0 ≤ c → inv.units + q ≤ c) :
    Raises inv (inv.written item (.int (n + q))) item q capacity := by
  obtain ⟨hcounted, hunits⟩ := h.written hn (n + q)
  have hsum : ((n + q).toNat : Int) = n + q := Int.toNat_of_nonneg (by omega)
  have htotal : ((inv.written item (.int (n + q))).units : Int) = inv.units + q := by omega
  have hstored := stored_written inv item (n + q)
  refine ⟨n, inv.units, quantity_eq hn, ?_, total_eq h, ?_, hfits⟩
  · rw [quantity_eq hstored, hsum]
  · rw [total_eq hcounted, htotal]

/-- **Each transaction returns and is balanced.** -/
theorem run_isBalanced (h : inv.IsCounted) {t : Transaction} (ht : t.IsProper) :
    ∃ accepted after, t.run inv = .ok (accepted, after) ∧
      Entry.IsBalanced ⟨inv, t, accepted, after⟩ := by
  cases t with
  | add item q capacity =>
      obtain ⟨hitem, hq, hcapacity⟩ := ht
      obtain ⟨n, hn⟩ := h.stored item
      have hadd := add_eq h hitem hq hcapacity hn
      by_cases hfull : 0 < q ∧ ∃ c ∈ capacity, 0 ≤ c ∧ c < inv.units + q
      · rw [if_pos hfull] at hadd
        exact ⟨false, inv, hadd, Entry.isBalanced_refused h _⟩
      · rw [if_neg hfull] at hadd
        refine ⟨true, _, hadd, (h.written hn _).1, nofun, ?_, fun name hname =>
          get?_written hname _⟩
        rintro item q capacity ⟨⟩ hpos -
        refine raises_written h hn hpos fun c hc hnonneg => ?_
        by_contra hover
        exact hfull ⟨hpos, c, hc, hnonneg, by omega⟩
  | remove item q =>
      obtain ⟨hitem, hq⟩ := ht
      obtain ⟨n, hn⟩ := h.stored item
      have hremove := remove_eq hitem hq hn
      refine ⟨true, inv.written item (.int (n - q)), ?_, (h.written hn _).1, nofun, nofun,
        fun name hname => get?_written hname _⟩
      change (inv.remove (.str item) (.int q) >>= _) = _
      rw [hremove]
      rfl

/-! ### All transactions -/

/-- **Every ledger is balanced**: over natural counts all transactions return, there is an entry for
each of them, and every entry is balanced. -/
theorem ledger_isBalanced (h : inv.IsCounted) {ts : List Transaction}
    (hts : ∀ t ∈ ts, t.IsProper) :
    ∃ entries, inv.ledger ts = .ok entries ∧ entries.map Entry.transaction = ts ∧
      ∀ e ∈ entries, e.IsBalanced := by
  induction ts generalizing inv with
  | nil => exact ⟨[], rfl, rfl, nofun⟩
  | cons t ts ih =>
      obtain ⟨ht, hrest⟩ := List.forall_mem_cons.1 hts
      obtain ⟨accepted, after, hrun, hbalanced⟩ := run_isBalanced h ht
      obtain ⟨entries, hentries, htransactions, hall⟩ := ih hbalanced.counted hrest
      refine ⟨⟨inv, t, accepted, after⟩ :: entries, ?_, ?_, ?_⟩
      · unfold ledger
        rw [hrun]
        change (after.ledger ts >>= _) = _
        rw [hentries]
        rfl
      · rw [List.map_cons, htransactions]
      · exact List.forall_mem_cons.2 ⟨hbalanced, hall⟩

/-- Two gems. -/
def twoGems : Inventory := ⟨[("gem", .int 2)]⟩

/-- An addition that does not fit, one that does, one below zero, and a removal of too much. -/
def gemTrades : List Transaction :=
  [.add "gem" 3 (some 4), .add "key" 2 (some 4), .add "gem" (-7) none, .remove "key" 9]

theorem ledger_isBalanced_gems :
    twoGems.IsCounted ∧ (∀ t ∈ gemTrades, t.IsProper) ∧
    ∃ entries, twoGems.ledger gemTrades = .ok entries ∧
      entries.map Entry.accepted = [false, true, true, true] ∧ ∀ e ∈ entries, e.IsBalanced := by
  have hcounted : twoGems.IsCounted := by
    intro f hf
    rw [List.mem_singleton.1 hf]
    exact ⟨2, rfl⟩
  have hproper : ∀ t ∈ gemTrades, t.IsProper := by decide +kernel
  have haccepted : (twoGems.ledger gemTrades).toOption.map (·.map Entry.accepted) =
      some [false, true, true, true] := by decide +kernel
  obtain ⟨entries, hentries, -, hall⟩ := ledger_isBalanced hcounted hproper
  rw [hentries] at haccepted
  exact ⟨hcounted, hproper, entries, hentries, Option.some.inj haccepted, hall⟩

end Inventory

end Gamebook
