/-
**The order of numbers.**

Numbers are compared by their exact value.  Every number but the one that is not a number has a
place on the line of the rationals with an infinity at either end, and comparison reads off the two
places.  So the order of such numbers is total and transitive, whatever mixture of integers and
floats they are.

Main definitions:

* `Binary64.place` — the place of a float on the line;
* `Number.IsComparable`, `Number.place` — the numbers that have a place, and their place.

Main results:

* `Number.lt_iff`, `Number.le_iff` — **comparison reads off the places**;
* `Number.IsComparable.of_lt`, `Number.IsComparable.of_le` — what has been compared has a place.
-/

import Gamebook.Number.Basic
import Mathlib.Algebra.Order.Field.Power
import Mathlib.Algebra.Order.Field.Rat
import Mathlib.Order.WithBot
import Mathlib.Tactic

set_option autoImplicit false

namespace Gamebook

/-! ### Places on the line -/

namespace Binary64

/-- The value of a finite float. -/
def finiteValue (negative : Bool) (mantissa : Nat) (exponent : Int) : ℚ :=
  (signed negative mantissa : ℚ) * 2 ^ exponent

/-- The place of a float on the line of the rationals with both infinities.  What is not a number
has none, and is put at the lower end. -/
def place : Binary64 → WithBot (WithTop ℚ)
  | nan => ⊥
  | infinite true => ⊥
  | infinite false => ((⊤ : WithTop ℚ) : WithBot (WithTop ℚ))
  | finite s m e => ((finiteValue s m e : WithTop ℚ) : WithBot (WithTop ℚ))

theorem cast_twoTo (n : Nat) : ((twoTo n : Nat) : ℚ) = 2 ^ n := by
  simp [twoTo]

theorem signed_mul (s : Bool) (m n : Nat) : signed s (m * n) = signed s m * n := by
  cases s <;> simp [signed]

/-- A finite value over a common exponent. -/
theorem finiteValue_eq {s : Bool} {m : Nat} {e low : Int} (h : low ≤ e) :
    finiteValue s m e = (signed s (mantissaAt m e low) : ℚ) * 2 ^ low := by
  have hpow : (2 : ℚ) ^ e = 2 ^ (e - low).toNat * 2 ^ low := by
    rw [← zpow_natCast, ← zpow_add₀ (by norm_num)]
    congr 1
    omega
  rw [finiteValue, mantissaAt, signed_mul, hpow]
  push_cast [cast_twoTo]
  ring

theorem compareFinite_eq_lt_iff {s s' : Bool} {m m' : Nat} {e e' : Int} :
    compareFinite s m e s' m' e' = .lt ↔ finiteValue s m e < finiteValue s' m' e' := by
  rw [finiteValue_eq (min_le_left e e'), finiteValue_eq (min_le_right e e'),
    mul_lt_mul_iff_left₀ (by positivity)]
  simp [compareFinite, compare_lt_iff_lt]

theorem compareFinite_eq_eq_iff {s s' : Bool} {m m' : Nat} {e e' : Int} :
    compareFinite s m e s' m' e' = .eq ↔ finiteValue s m e = finiteValue s' m' e' := by
  rw [finiteValue_eq (min_le_left e e'), finiteValue_eq (min_le_right e e'),
    mul_left_inj' (by positivity)]
  simp [compareFinite]

/-- Two floats that are numbers compare as their places do. -/
theorem compare?_eq_lt_iff {a b : Binary64} (ha : a ≠ nan) (hb : b ≠ nan) :
    a.compare? b = some .lt ↔ a.place < b.place := by
  cases a with
  | nan => exact absurd rfl ha
  | infinite s =>
      cases b with
      | nan => exact absurd rfl hb
      | infinite s' =>
          cases s <;> cases s' <;> simp [compare?, place]
          decide
      | finite s' m' e' => cases s <;> simp [compare?, place]
  | finite s m e =>
      cases b with
      | nan => exact absurd rfl hb
      | infinite s' =>
          cases s'
          · simpa [compare?, place] using WithBot.coe_lt_coe.2 (WithTop.coe_lt_top _)
          · simp [compare?, place]
      | finite s' m' e' =>
          simpa [compare?, place] using compareFinite_eq_lt_iff

theorem compare?_eq_eq_iff {a b : Binary64} (ha : a ≠ nan) (hb : b ≠ nan) :
    a.compare? b = some .eq ↔ a.place = b.place := by
  cases a with
  | nan => exact absurd rfl ha
  | infinite s =>
      cases b with
      | nan => exact absurd rfl hb
      | infinite s' => cases s <;> cases s' <;> simp [compare?, place]
      | finite s' m' e' => cases s <;> simp [compare?, place]
  | finite s m e =>
      cases b with
      | nan => exact absurd rfl hb
      | infinite s' => cases s' <;> simp [compare?, place]
      | finite s' m' e' =>
          simpa [compare?, place] using compareFinite_eq_eq_iff

theorem ne_nan_of_compare? {a b : Binary64} {o : Ordering} (h : a.compare? b = some o) :
    a ≠ nan ∧ b ≠ nan := by
  cases a <;> cases b <;> simp_all [compare?]

end Binary64

namespace Number

/-- Whether the number has a place in the order. -/
def IsComparable (a : Number) : Prop := a.exact ≠ .nan

/-- The place of a number on the line. -/
def place (a : Number) : WithBot (WithTop ℚ) := a.exact.place

@[simp] theorem isComparable_int (n : Int) : IsComparable (.int n) := by simp [IsComparable, exact]

theorem lt_iff {a b : Number} (ha : a.IsComparable) (hb : b.IsComparable) :
    a.lt b = true ↔ a.place < b.place := by
  rw [lt, beq_iff_eq]
  exact Binary64.compare?_eq_lt_iff ha hb

theorem le_iff {a b : Number} (ha : a.IsComparable) (hb : b.IsComparable) :
    a.le b = true ↔ a.place ≤ b.place := by
  rw [le, Bool.or_eq_true, beq_iff_eq, beq_iff_eq, le_iff_lt_or_eq]
  exact or_congr (Binary64.compare?_eq_lt_iff ha hb) (Binary64.compare?_eq_eq_iff ha hb)

theorem IsComparable.of_lt {a b : Number} (h : a.lt b = true) :
    a.IsComparable ∧ b.IsComparable := by
  rw [lt, beq_iff_eq] at h
  exact Binary64.ne_nan_of_compare? h

theorem IsComparable.of_le {a b : Number} (h : a.le b = true) :
    a.IsComparable ∧ b.IsComparable := by
  rw [le, Bool.or_eq_true, beq_iff_eq, beq_iff_eq] at h
  rcases h with h | h <;> exact Binary64.ne_nan_of_compare? h

/-- Of two numbers in the order, the first is below the second or the second is at most the
first. -/
theorem lt_eq_false_iff {a b : Number} (ha : a.IsComparable) (hb : b.IsComparable) :
    a.lt b = false ↔ b.le a = true := by
  rw [le_iff hb ha, ← not_lt, ← lt_iff ha hb, Bool.not_eq_true]

theorem le_refl {a : Number} (ha : a.IsComparable) : a.le a = true := (le_iff ha ha).2 le_rfl

theorem le_of_lt {a b : Number} (h : a.lt b = true) : a.le b = true := by
  rw [le, Bool.or_eq_true]
  exact .inl h

theorem le_trans {a b c : Number} (h : a.le b = true) (h' : b.le c = true) : a.le c = true := by
  have ⟨ha, hb⟩ := IsComparable.of_le h
  have ⟨_, hc⟩ := IsComparable.of_le h'
  rw [le_iff ha hc]
  exact ((le_iff ha hb).1 h).trans ((le_iff hb hc).1 h')

theorem place_int (n : Int) :
    place (.int n) = (((n : ℚ) : WithTop ℚ) : WithBot (WithTop ℚ)) := by
  simp [place, exact, Binary64.place, Binary64.finiteValue, Binary64.signed_natAbs]

/-- Integers are compared as integers. -/
@[simp] theorem le_int_iff {m n : Int} : le (.int m) (.int n) = true ↔ m ≤ n := by
  rw [le_iff (isComparable_int m) (isComparable_int n), place_int, place_int]
  simp

@[simp] theorem lt_int_iff {m n : Int} : lt (.int m) (.int n) = true ↔ m < n := by
  rw [lt_iff (isComparable_int m) (isComparable_int n), place_int, place_int]
  simp

theorem isZero_int_iff {n : Int} : isZero (.int n) = true ↔ n = 0 := by
  have hzero : Binary64.signed false 0 = 0 := rfl
  simp [isZero, eqv, compare?, exact, Binary64.compare?, Binary64.compareFinite,
    Binary64.mantissaAt, Binary64.signed_natAbs, hzero]

end Number

end Gamebook
