/-
**What adding and removing do to an inventory.**

Either leaves the inventory as it is or writes one count.  Where the counts are natural numbers and
what is added or removed is an integer, the total follows: writing a count takes away what was there
and puts down what is new.  An addition of more than nothing is only made when the total stays
within the capacity, and any other addition makes the total no greater.  A removal asks for no
capacity, so it keeps the total down only when what it removes is not below zero.

Main definitions:

* `Inventory.IsCounted` — inventories whose counts are natural numbers;
* `Inventory.units` — the total of such an inventory.

Main results:

* `Inventory.add_cases`, `Inventory.remove_cases` — the count that is written;
* `Inventory.total_eq` — the total is `Inventory.units`;
* `Inventory.units_add_le` — **an addition stays within the capacity**;
* `Inventory.units_remove_le` — a removal of what is not below zero makes the total no greater.
-/

import Gamebook.Inventory
import Gamebook.Proofs.Fields
import Gamebook.Proofs.Number.Finite
import Gamebook.Proofs.Outcome

set_option autoImplicit false

namespace Gamebook

namespace Inventory

/-! ### What is written -/

section

variable {inv inv' : Inventory} {item qty capacity : Value} {accepted : Bool}

/-- The inventory with a count that is brought up to zero. -/
def written (inv : Inventory) (name : Key) (n : Number) : Inventory :=
  ⟨inv.counts.set name (atLeastZero n)⟩

/-- An addition that does something writes the count of the item, and has not been found to take the
total over the capacity. -/
theorem add_cases (h : inv.add item qty capacity = .ok (accepted, inv')) :
    inv' = inv ∨ ∃ name n, item.asKey = .ok name ∧
      inv.overflows qty.toNumber capacity = .ok false ∧
      (inv.stored name).plus qty.toNumber = .ok n ∧ inv' = inv.written name n := by
  unfold add at h
  split at h
  · cases h
    exact .inl rfl
  obtain ⟨finite, _, h⟩ := exists_of_bind_eq_ok h
  split at h
  · cases h
    exact .inl rfl
  obtain ⟨full, hfull, h⟩ := exists_of_bind_eq_ok h
  cases full with
  | true =>
      cases h
      exact .inl rfl
  | false =>
      obtain ⟨name, hname, h⟩ := exists_of_bind_eq_ok h
      obtain ⟨n, hn, h⟩ := exists_of_bind_eq_ok h
      cases h
      exact .inr ⟨name, n, hname, hfull, hn, rfl⟩

/-- A removal that does something writes the count of the item. -/
theorem remove_cases (h : inv.remove item qty = .ok inv') :
    inv' = inv ∨ ∃ name n, item.asKey = .ok name ∧ (inv.stored name).minus qty = .ok n ∧
      inv' = inv.written name n := by
  unfold remove at h
  split at h
  · cases h
    exact .inl rfl
  obtain ⟨finite, _, h⟩ := exists_of_bind_eq_ok h
  split at h
  · cases h
    exact .inl rfl
  obtain ⟨name, hname, h⟩ := exists_of_bind_eq_ok h
  obtain ⟨n, hn, h⟩ := exists_of_bind_eq_ok h
  cases h
  exact .inr ⟨name, n, hname, hn, rfl⟩

end

/-! ### Natural counts -/

/-- How many units a count stands for, when it is a natural number. -/
def unitsOf : Value → Nat
  | .num (.int n) => n.toNat
  | _ => 0

/-- The units of some counts. -/
def unitsIn (counts : Fields Value) : Nat := (counts.map fun f => unitsOf f.2).sum

/-- How many units there are of all items. -/
def units (inv : Inventory) : Nat := unitsIn inv.counts

/-- The count is a natural number. -/
def IsCount (count : Value) : Prop := ∃ n : Nat, count = .int n

/-- Every count is a natural number. -/
def IsCounted (inv : Inventory) : Prop := ∀ f ∈ inv.counts, IsCount f.2

@[simp] theorem unitsOf_int (n : Int) : unitsOf (.int n) = n.toNat := rfl

@[simp] theorem unitsIn_nil : unitsIn [] = 0 := rfl

@[simp] theorem unitsIn_cons (f : Key × Value) (fs : Fields Value) :
    unitsIn (f :: fs) = unitsOf f.2 + unitsIn fs := by simp [unitsIn]

theorem sumFrom_eq {counts : Fields Value} (h : ∀ f ∈ counts, IsCount f.2) (k : Int) :
    sumFrom (.int k) (counts.map Prod.snd) = .ok (.int (k + unitsIn counts)) := by
  induction counts generalizing k with
  | nil => simp [sumFrom]
  | cons f counts ih =>
      obtain ⟨⟨n, hn⟩, hcounts⟩ := List.forall_mem_cons.1 h
      have hplus : f.2.plus (.int k) = .ok (.int (n + k)) := by
        rw [hn]
        rfl
      rw [List.map_cons, sumFrom, hplus]
      refine (ih hcounts (n + k)).trans ?_
      rw [unitsIn_cons, hn, unitsOf_int, Int.toNat_natCast]
      congr 2
      omega

/-- The total of natural counts is the number of units. -/
theorem total_eq {inv : Inventory} (h : inv.IsCounted) : inv.total = .ok (.int inv.units) := by
  rw [total, sumFrom_eq h 0, Int.zero_add]
  rfl

/-- Writing a count takes away the units that were there and puts down the new ones. -/
theorem unitsIn_set (counts : Fields Value) (name : Key) (count : Value) :
    unitsIn (counts.set name count) + unitsOf ((counts.get? name).getD (.int 0)) =
      unitsIn counts + unitsOf count := by
  induction counts with
  | nil => simp [Fields.set]
  | cons f counts ih =>
      obtain ⟨k, v⟩ := f
      rw [Fields.set, Fields.get?_cons]
      split
      · simp only [unitsIn_cons, Option.getD_some]
        omega
      · simp only [unitsIn_cons]
        omega

theorem atLeastZero_int (k : Int) : atLeastZero (.int k) = .int k.toNat := by
  unfold atLeastZero
  by_cases hk : 0 < k
  · rw [if_pos (Number.lt_int_iff.2 hk), Int.toNat_of_nonneg hk.le]
  · rw [if_neg (by simpa using hk), Int.toNat_of_nonpos (by omega)]
    rfl

variable {inv inv' : Inventory} {name : Key} {item : Value}

/-- The count of an item is a natural number. -/
theorem IsCounted.stored (h : inv.IsCounted) (name : Key) : IsCount (inv.stored name) := by
  unfold Inventory.stored
  cases hget : inv.counts.get? name with
  | none => exact ⟨0, rfl⟩
  | some v => exact Fields.forall_get? h hget

/-- The inventory with another integer written is counted, and its units are known. -/
theorem IsCounted.written (h : inv.IsCounted) {n : Nat} (hn : inv.stored name = .int n) (k : Int) :
    (inv.written name (.int k)).IsCounted ∧
      (inv.written name (.int k)).units + n = inv.units + k.toNat := by
  have hcount : atLeastZero (.int k) = .int k.toNat := atLeastZero_int k
  have hunits := unitsIn_set inv.counts name (atLeastZero (.int k))
  rw [← Inventory.stored, hn, hcount, unitsOf_int, unitsOf_int, Int.toNat_natCast,
    Int.toNat_natCast] at hunits
  unfold Inventory.written
  rw [hcount]
  exact ⟨Fields.forall_set h ⟨k.toNat, rfl⟩, hunits⟩

/-! ### Within the capacity -/

/-- What is added without going over the capacity fits. -/
theorem add_le_of_not_overflows (h : inv.IsCounted) {q c : Int} (hq : 0 < q) (hc : 0 ≤ c)
    (hfull : inv.overflows (.int q) (.int c) = .ok false) : inv.units + q ≤ c := by
  unfold overflows at hfull
  rw [if_neg (by simpa using hq)] at hfull
  obtain ⟨finite, hfinite, hfull⟩ := exists_of_bind_eq_ok hfull
  have hfinite : finite = true := by
    cases finite with
    | true => rfl
    | false => exact absurd (inRange_eq_ok hfinite) (Number.isFinite?_int c)
  subst hfinite
  rw [if_neg (by simp), if_neg (by simpa using hc), total_eq h] at hfull
  obtain ⟨after, hafter, hfull⟩ := exists_of_bind_eq_ok hfull
  cases hafter
  have hlt : Number.lt (.int c) (.int (inv.units + q)) = false := Except.ok.inj hfull
  have hfits : ¬ c < inv.units + q := by
    rw [← Number.lt_int_iff, hlt]
    exact Bool.false_ne_true
  omega

/-- **An addition stays within the capacity.** -/
theorem units_add_le (h : inv.IsCounted) {q c : Int} {accepted : Bool} (hc : 0 ≤ c)
    (hunits : (inv.units : Int) ≤ c)
    (hadd : inv.add item (.int q) (.int c) = .ok (accepted, inv')) :
    inv'.IsCounted ∧ (inv'.units : Int) ≤ c := by
  rcases add_cases hadd with rfl | ⟨name, sum, -, hfull, hsum, rfl⟩
  · exact ⟨h, hunits⟩
  · obtain ⟨n, hn⟩ := h.stored name
    have hsum : sum = .int (n + q) := by
      rw [hn] at hsum
      exact (Except.ok.inj hsum).symm
    subst hsum
    obtain ⟨hcounted, hwritten⟩ := h.written hn (n + q)
    refine ⟨hcounted, ?_⟩
    by_cases hq : 0 < q
    · have hfits := add_le_of_not_overflows h hq hc hfull
      omega
    · omega

/-- A removal of what is not below zero makes the total no greater. -/
theorem units_remove_le (h : inv.IsCounted) {q : Nat}
    (hremove : inv.remove item (.int q) = .ok inv') :
    inv'.IsCounted ∧ inv'.units ≤ inv.units := by
  rcases remove_cases hremove with rfl | ⟨name, rest, -, hrest, rfl⟩
  · exact ⟨h, le_refl _⟩
  · obtain ⟨n, hn⟩ := h.stored name
    have hrest : rest = .int (n - q) := by
      rw [hn] at hrest
      exact (Except.ok.inj hrest).symm
    subst hrest
    obtain ⟨hcounted, hwritten⟩ := h.written hn (n - q)
    exact ⟨hcounted, by omega⟩

end Inventory

end Gamebook
