/-
**Adjusting stats.**

What a modifier does is to add a number to the current or to the greatest value of a stat.  Two such
adjustments can change places: they change different values, or they add to the same one.  So a list
of adjustments does the same in every order.

Main definitions:

* `Fields.adjust` — an entry changed in place;
* `Stat.add` — a stat with an integer added to one of its values;
* `Adjustment`, `Adjustment.applyAll` — what is added to which value of which stat, and the stats
  after a list of such additions;
* `Adjustment.sumFor` — the sum of what is added to a stat.

Main results:

* `Fields.adjust_comm` — **changes that commute on entries commute on the list of entries**;
* `Adjustment.applyAll_perm` — **adjustments can be made in any order**;
* `Adjustment.get?_applyAll_cur` — additions to the current value of a stat add up.
-/

import Gamebook.Proofs.Fields
import Gamebook.Proofs.Stat
import Mathlib.Algebra.Ring.Int.Defs
import Mathlib.Data.List.Perm.Basic

set_option autoImplicit false

namespace Gamebook

/-! ### Entries changed in place -/

namespace Fields

variable {α : Type}

/-- Changes the entry under a name, if there is one. -/
def adjust (fs : Fields α) (k : Key) (f : α → α) : Fields α :=
  match fs with
  | [] => []
  | (k', a) :: rest => if k'.same k then (k', f a) :: rest else (k', a) :: adjust rest k f

/-- Writing what is made of an entry changes it in place. -/
theorem set_eq_adjust {fs : Fields α} {k : Key} {a : α} (h : fs.get? k = some a) (f : α → α) :
    fs.set k (f a) = fs.adjust k f := by
  induction fs with
  | nil => cases h
  | cons entry fs ih =>
      obtain ⟨k', a'⟩ := entry
      rw [get?_cons] at h
      unfold set adjust
      split
      · rename_i hk
        rw [if_pos hk] at h
        cases h
        rfl
      · rename_i hk
        rw [if_neg hk] at h
        rw [ih h]

@[simp] theorem keys_adjust (fs : Fields α) (k : Key) (f : α → α) :
    (fs.adjust k f).keys = fs.keys := by
  induction fs with
  | nil => rfl
  | cons entry fs ih =>
      unfold adjust
      split
      · rfl
      · simp only [keys, List.map_cons] at ih ⊢
        rw [ih]

/-- Reading after an entry was changed in place. -/
theorem get?_adjust (fs : Fields α) (k k' : Key) (f : α → α) :
    (fs.adjust k f).get? k' = if k.same k' then (fs.get? k').map f else fs.get? k' := by
  induction fs with
  | nil => cases h : k.same k' <;> rfl
  | cons entry fs ih =>
      obtain ⟨k₀, a⟩ := entry
      cases h₀ : k₀.same k with
      | false =>
          rw [adjust, if_neg (by simp [h₀]), get?_cons, get?_cons, ih]
          cases h : k₀.same k' with
          | false => rfl
          | true =>
              have hk : k.same k' = false := by
                rw [Key.same_comm, ← Key.same_left h, h₀]
              simp [hk]
      | true => cases h : k.same k' <;> simp [adjust, h₀, get?_cons, Key.same_left h₀, h]

theorem adjust_eq_self (fs : Fields α) (k : Key) {f : α → α} (h : ∀ a, f a = a) :
    fs.adjust k f = fs := by
  induction fs with
  | nil => rfl
  | cons entry fs ih => simp [adjust, h, ih]

theorem adjust_adjust (fs : Fields α) (k : Key) (f g : α → α) :
    (fs.adjust k f).adjust k g = fs.adjust k fun a => g (f a) := by
  induction fs with
  | nil => rfl
  | cons entry fs ih =>
      obtain ⟨k', a⟩ := entry
      cases hk : k'.same k <;> simp [adjust, hk, ih]

/-- **Changes that commute on entries commute on the list of entries**, and changes of different
entries always do. -/
theorem adjust_comm {k k' : Key} {f g : α → α}
    (h : k.same k' = true → ∀ a, g (f a) = f (g a)) (fs : Fields α) :
    (fs.adjust k f).adjust k' g = (fs.adjust k' g).adjust k f := by
  induction fs with
  | nil => rfl
  | cons entry fs ih =>
      obtain ⟨k₀, a⟩ := entry
      cases hk : k₀.same k <;> cases hk' : k₀.same k'
      · simp [adjust, hk, hk', ih]
      · simp [adjust, hk, hk']
      · simp [adjust, hk, hk']
      · have hsame : k.same k' = true := by rw [← Key.same_left hk, hk']
        simp [adjust, hk, hk', h hsame a]

/-- An entry is one that was there before, or is made of one. -/
theorem mem_adjust {fs : Fields α} {k : Key} {f : α → α} {entry : Key × α}
    (h : entry ∈ fs.adjust k f) : ∃ e ∈ fs, entry.2 = e.2 ∨ entry.2 = f e.2 := by
  induction fs with
  | nil => cases h
  | cons first fs ih =>
      unfold adjust at h
      split at h
      · rcases List.mem_cons.1 h with rfl | h
        · exact ⟨first, List.mem_cons_self .., .inr rfl⟩
        · exact ⟨entry, List.mem_cons_of_mem _ h, .inl rfl⟩
      · rcases List.mem_cons.1 h with rfl | h
        · exact ⟨first, List.mem_cons_self .., .inl rfl⟩
        · obtain ⟨e, he, heq⟩ := ih h
          exact ⟨e, List.mem_cons_of_mem _ he, heq⟩

theorem forall_adjust {P : α → Prop} {fs : Fields α} (h : ∀ entry ∈ fs, P entry.2) (k : Key)
    {f : α → α} (hf : ∀ a, P a → P (f a)) : ∀ entry ∈ fs.adjust k f, P entry.2 := by
  intro entry hentry
  obtain ⟨e, he, heq | heq⟩ := mem_adjust hentry
  · exact heq ▸ h e he
  · exact heq ▸ hf _ (h e he)

end Fields

/-! ### Adding to a value of a stat -/

/-- The value with an integer added to it, where it is one. -/
def Value.addInt (n : Int) : Value → Value
  | num (.int a) => int (a + n)
  | v => v

theorem Value.addInt_zero (v : Value) : v.addInt 0 = v := by
  match v with
  | num (.int a) => simp [addInt]
  | num (.float _) | num (.nan _) | null | bool _ | str _ | list _ | obj _ | inventory _
  | flags _ => rfl

theorem Value.addInt_add (m n : Int) (v : Value) : (v.addInt m).addInt n = v.addInt (m + n) := by
  match v with
  | num (.int a) => simp [addInt, Int.add_assoc]
  | num (.float _) | num (.nan _) | null | bool _ | str _ | list _ | obj _ | inventory _
  | flags _ => rfl

theorem Value.addInt_comm (m n : Int) (v : Value) :
    (v.addInt m).addInt n = (v.addInt n).addInt m := by
  rw [addInt_add, Int.add_comm, addInt_add]

namespace Stat

/-- The two values of a stat. -/
inductive Part where
  | cur
  | max

/-- The name of the value. -/
def Part.key : Part → Key
  | cur => "cur"
  | max => "max"

/-- The stat with an integer added to one of its values. -/
def add (s : Stat) (part : Part) (n : Int) : Stat := Fields.adjust s part.key (Value.addInt n)

theorem add_comm (s : Stat) (part part' : Part) (m n : Int) :
    (s.add part m).add part' n = (s.add part' n).add part m :=
  Fields.adjust_comm (fun _ => Value.addInt_comm m n) s

theorem add_zero (s : Stat) (part : Part) : s.add part 0 = s :=
  Fields.adjust_eq_self s part.key Value.addInt_zero

theorem add_add (s : Stat) (part : Part) (m n : Int) :
    (s.add part m).add part n = s.add part (m + n) := by
  simp only [add, Fields.adjust_adjust, Value.addInt_add]

theorem get?_of_required {s : Stat} {k : Key} {v : Value}
    (h : Value.required (.obj s) k = .ok v) : Fields.get? s k = some v := by
  simp only [Value.required, Value.fields?] at h
  split at h
  · cases h
    assumption
  · cases h

theorem setCur_eq_add {s : Stat} {c : Int} (h : s.cur = .ok (.int c)) (n : Int) :
    s.setCur (.int (c + n)) = s.add .cur n :=
  Fields.set_eq_adjust (get?_of_required h) (Value.addInt n)

theorem setMax_eq_add {s : Stat} {m : Int} (h : s.max = .ok (.int m)) (n : Int) :
    s.setMax (.int (m + n)) = s.add .max n :=
  Fields.set_eq_adjust (get?_of_required h) (Value.addInt n)

theorem IsInteger.add {s : Stat} (h : s.IsInteger) (part : Part) (n : Int) :
    (s.add part n).IsInteger := by
  obtain ⟨c, m, hc, hm⟩ := h
  cases part with
  | cur =>
      rw [← setCur_eq_add hc n]
      exact ⟨c + n, m, cur_setCur s _, by rw [max_setCur, hm]⟩
  | max =>
      rw [← setMax_eq_add hm n]
      exact ⟨c, m + n, by rw [cur_setMax, hc], max_setMax s _⟩

end Stat

/-! ### Adjustments -/

/-- An integer added to one of the values of a stat. -/
structure Adjustment where
  stat : Key
  part : Stat.Part
  amount : Int

namespace Adjustment

/-- The stats after an adjustment.  A stat that is not there is not made. -/
def apply (stats : Fields Stat) (a : Adjustment) : Fields Stat :=
  stats.adjust a.stat fun s => s.add a.part a.amount

/-- An adjustment of a stat writes the stat with the integer added. -/
theorem apply_eq_set {stats : Fields Stat} {name : Key} {s : Stat} (h : stats.get? name = some s)
    (part : Stat.Part) (n : Int) :
    apply stats ⟨name, part, n⟩ = stats.set name (s.add part n) :=
  (Fields.set_eq_adjust h _).symm

theorem apply_cur {stats : Fields Stat} {name : Key} {s : Stat} {c : Int}
    (h : stats.get? name = some s) (hc : s.cur = .ok (.int c)) (n : Int) :
    apply stats ⟨name, .cur, n⟩ = stats.set name (s.setCur (.int (c + n))) := by
  rw [apply_eq_set h, Stat.setCur_eq_add hc]

theorem apply_max {stats : Fields Stat} {name : Key} {s : Stat} {m : Int}
    (h : stats.get? name = some s) (hm : s.max = .ok (.int m)) (n : Int) :
    apply stats ⟨name, .max, n⟩ = stats.set name (s.setMax (.int (m + n))) := by
  rw [apply_eq_set h, Stat.setMax_eq_add hm]

/-- The stats after some adjustments, from the first on. -/
def applyAll (as : List Adjustment) (stats : Fields Stat) : Fields Stat := as.foldl apply stats

theorem applyAll_singleton (a : Adjustment) (stats : Fields Stat) :
    applyAll [a] stats = a.apply stats := rfl

theorem applyAll_append (as bs : List Adjustment) (stats : Fields Stat) :
    applyAll (as ++ bs) stats = applyAll bs (applyAll as stats) :=
  List.foldl_append ..

/-- Two adjustments can change places. -/
theorem apply_comm (stats : Fields Stat) (a b : Adjustment) :
    b.apply (a.apply stats) = a.apply (b.apply stats) :=
  Fields.adjust_comm (fun _ s => s.add_comm a.part b.part a.amount b.amount) stats

/-- **Adjustments can be made in any order.** -/
theorem applyAll_perm {as bs : List Adjustment} (h : as.Perm bs) (stats : Fields Stat) :
    applyAll as stats = applyAll bs stats :=
  h.foldl_eq' (fun a _ b _ stats => apply_comm stats a b) stats

/-- The sum of what some adjustments add to a stat. -/
def sumFor (as : List Adjustment) (name : Key) : Int :=
  ((as.filter (·.stat.same name)).map (·.amount)).sum

theorem sumFor_append (as bs : List Adjustment) (name : Key) :
    sumFor (as ++ bs) name = sumFor as name + sumFor bs name := by
  simp [sumFor]

/-- **Additions to current values add up**: every stat gets the sum of what is added to it. -/
theorem get?_applyAll_cur {as : List Adjustment} (h : ∀ a ∈ as, a.part = .cur)
    (stats : Fields Stat) (name : Key) :
    (applyAll as stats).get? name = (stats.get? name).map (·.add .cur (sumFor as name)) := by
  induction as generalizing stats with
  | nil =>
      have hsame : (fun s : Stat => s.add .cur (sumFor [] name)) = id :=
        funext fun s => s.add_zero .cur
      rw [hsame, Option.map_id_fun]
      rfl
  | cons a as ih =>
      obtain ⟨hcur, has⟩ := List.forall_mem_cons.1 h
      have hfirst : applyAll (a :: as) stats = applyAll as (a.apply stats) := rfl
      rw [hfirst, ih has, apply, Fields.get?_adjust, hcur]
      cases hname : a.stat.same name with
      | false => simp [sumFor, hname]
      | true =>
          rw [if_pos rfl, Option.map_map]
          refine congrArg (fun f => Option.map f _) (funext fun s => ?_)
          simp [sumFor, hname, Stat.add_add]

end Adjustment

/-- The stats have the names of others, and their values are integers. -/
structure Stat.IntegerLike (base stats : Fields Stat) : Prop where
  keys : stats.keys = base.keys
  integer : Stat.AllInteger stats

theorem Stat.IntegerLike.applyAll {base stats : Fields Stat} (h : Stat.IntegerLike base stats)
    (as : List Adjustment) : Stat.IntegerLike base (Adjustment.applyAll as stats) := by
  induction as generalizing stats with
  | nil => exact h
  | cons a as ih =>
      refine ih ⟨(Fields.keys_adjust ..).trans h.keys, ?_⟩
      exact Fields.forall_adjust h.integer a.stat fun s hs => hs.add a.part a.amount

end Gamebook
