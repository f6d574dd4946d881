/-
**Integers that pass through floats.**

The remainder of two integers and the rounding of an integer are computed on floats and turned back
into an integer.  What comes back is described without floats: every integer is replaced by the
nearest one that is a float, the remainder of these is exact, and rounding adds one to an odd
integer above `2 ^ 52`.

Main definitions:

* `Number.IsExactRemainder`, `Number.IsExactRound` — the integers for which nothing is lost.

Main results:

* `Binary64.HasValue.remainder` — the remainder of two integral floats is exact;
* `Number.remainder?_int`, `Number.round?_int` — **the remainder of two integers, and an integer
  rounded**, in all cases;
* `Number.remainder?_int_eq_tmod_iff`, `Number.round?_int_eq_self_iff` — **when they are exact**;
* `Number.IsExactRemainder.of_le`, `Number.IsExactRound.of_le` — up to `2 ^ 53` and `2 ^ 52` they
  are.
-/

import Gamebook.Proofs.Number.Half

set_option autoImplicit false

namespace Gamebook

namespace Binary64

variable {x y : Float} {p q : Int}

/-! ### The remainder -/

theorem tmod_signed (s : Bool) (a : Nat) (q : Int) :
    Int.tmod (signed s a) q = signed s (a % q.natAbs) := by
  obtain ⟨b, rfl | rfl⟩ := Int.eq_nat_or_neg q <;> cases s <;>
    simp [signed, Int.tmod_eq_emod_of_nonneg]

/-- The remainder of two mantissas over their common exponent is that of the integers. -/
theorem mod_mul_zpow {m m' a b : Nat} {e : Int} (ha : (m : ℚ) * 2 ^ e = a)
    (hb : (m' : ℚ) * 2 ^ e = b) : ((m % m' : Nat) : ℚ) * 2 ^ e = (a % b : Nat) := by
  rcases le_total 0 e with he | he
  · rw [two_zpow_of_nonneg he] at ha hb ⊢
    have ha' : m * twoTo e.toNat = a := by exact_mod_cast ha
    have hb' : m' * twoTo e.toNat = b := by exact_mod_cast hb
    rw [← ha', ← hb', Nat.mul_mod_mul_right]
    push_cast
    rfl
  · have hpos : (0 : ℚ) < (twoTo (-e).toNat : Nat) := Nat.cast_pos.2 (twoTo_pos _)
    rw [two_zpow_of_nonpos he, mul_inv_eq_iff_eq_mul₀ hpos.ne'] at ha hb ⊢
    have ha' : m = a * twoTo (-e).toNat := by exact_mod_cast ha
    have hb' : m' = b * twoTo (-e).toNat := by exact_mod_cast hb
    rw [ha', hb', Nat.mul_mod_mul_right]
    push_cast
    rfl

/-- The remainder has no more digits than the mantissa that keeps its exponent. -/
theorem mod_mantissaAt_lt {m m' : Nat} (e e' : Int) (hm : m < twoTo 53) (hm' : m' < twoTo 53)
    (hpos : 0 < m') : mantissaAt m e (min e e') % mantissaAt m' e' (min e e') < twoTo 53 := by
  rcases le_total e e' with h | h
  · refine lt_of_le_of_lt (Nat.mod_le _ _) ?_
    rwa [min_eq_left h, mantissaAt, sub_self, Int.toNat_zero, twoTo_zero, Nat.mul_one]
  · refine lt_trans (Nat.mod_lt _ (Nat.mul_pos hpos (twoTo_pos _))) ?_
    rwa [min_eq_right h, mantissaAt, sub_self, Int.toNat_zero, twoTo_zero, Nat.mul_one]

/-- **The remainder of two integral floats is exact.** -/
theorem HasValue.remainder (hx : HasValue x p) (hy : HasValue y q) (hq : q ≠ 0) :
    HasValue (remainder (ofFloat x) (ofFloat y)) (Int.tmod p q) := by
  obtain ⟨s, m, e, hx, hp⟩ := hx
  obtain ⟨s', m', e', hy, hq'⟩ := hy
  obtain ⟨hm, hleast, hgreatest⟩ := bounds_of_ofFloat hx
  obtain ⟨hm', hleast', hgreatest'⟩ := bounds_of_ofFloat hy
  have hpos : 0 < m' := by
    rw [Nat.pos_iff_ne_zero]
    rintro rfl
    have hzero : (q : ℚ) = 0 := by simp [← hq', finiteValue, signed]
    exact hq (by exact_mod_cast hzero)
  have hsmall := mod_mantissaAt_lt e e' hm hm' hpos
  rw [hx, hy, Binary64.remainder]
  have hleft := min_le_left e e'
  have hright := min_le_right e e'
  have hlow : min e e' = e ∨ min e e' = e' := min_choice e e'
  generalize min e e' = low at hleft hright hsmall hlow ⊢
  replace hp : finiteValue s (mantissaAt m e low) low = p := (finiteValue_eq hleft).symm.trans hp
  replace hq' : finiteValue s' (mantissaAt m' e' low) low = q :=
    (finiteValue_eq hright).symm.trans hq'
  generalize mantissaAt m e low = a at hp hsmall ⊢
  generalize mantissaAt m' e' low = b at hq' hsmall ⊢
  have hmod := mod_mul_zpow (natAbs_eq_of_finiteValue hp).symm (natAbs_eq_of_finiteValue hq').symm
  have hvalue : finiteValue s (a % b) low = Int.tmod p q := by
    rw [finiteValue, cast_signed, mul_assoc, hmod, ← cast_signed, ← tmod_signed,
      signed_natAbs_of_finiteValue hp]
  rw [← hvalue]
  refine hasValue_nearest_of_eq s (scale_pos Nat.one_pos) hsmall (by omega) (by omega) ?_
  rw [scale_eq]
  simp

end Binary64

namespace Number

variable {a b n : Int}

open Binary64 (HasValue nearestInt halfUp)

/-! ### Operations on integers -/

/-- An integer below `10 ^ 300` in magnitude is within the range. -/
theorem InRange.of_lt_tenTo (h : n.natAbs < tenTo 300) : (int n).InRange :=
  .of_size_lt (h.trans_le tenTo_le_twoTo)

theorem exists_toFloat_int (h : (int n).InRange) :
    ∃ x, (int n).toFloat? = some x ∧ HasValue x (nearestInt n) := by
  obtain ⟨x, hx⟩ := h.exists_toFloat
  exact ⟨x, hx, Binary64.hasValue_ofInt hx⟩

theorem isFinite?_of_inRange (h : (int n).InRange) : (int n).isFinite? = some true := by
  obtain ⟨x, hx, s, m, e, hvalue, -⟩ := exists_toFloat_int h
  simp [isFinite?, hx, hvalue]

theorem isNaN?_of_inRange (h : (int n).InRange) : (int n).isNaN? = some false := by
  obtain ⟨x, hx, s, m, e, hvalue, -⟩ := exists_toFloat_int h
  simp [isNaN?, hx, hvalue]

theorem isInfinite?_of_inRange (h : (int n).InRange) : (int n).isInfinite? = some false := by
  obtain ⟨x, hx, s, m, e, hvalue, -⟩ := exists_toFloat_int h
  simp [isInfinite?, hx, hvalue]

theorem floor?_int (h : (int n).InRange) : (int n).floor? = some (.int n) := by
  simp [floor?, finiteOr?, isFinite?_of_inRange h]

theorem ceil?_int (h : (int n).InRange) : (int n).ceil? = some (.int n) := by
  simp [ceil?, finiteOr?, isFinite?_of_inRange h]

theorem normalize_ofFloat {x : Float} (h : HasValue x n) : (ofFloat x).normalize = .int n := by
  have hint := h.toInt?
  obtain ⟨s, m, e, hx, -⟩ := h
  simp only [ofFloat, hx, normalize]
  rw [← hx, hint]

/-- **The remainder of two integers** is that of their nearest floats. -/
theorem remainder?_int (ha : (int a).InRange) (hb : (int b).InRange) (hzero : b ≠ 0) :
    (int a).remainder? (int b) = some (.int (Int.tmod (nearestInt a) (nearestInt b))) := by
  obtain ⟨x, hx, hvalue⟩ := exists_toFloat_int ha
  obtain ⟨y, hy, hvalue'⟩ := exists_toFloat_int hb
  have hremainder :=
    normalize_ofFloat (hvalue.remainder hvalue' (Binary64.nearestInt_ne_zero hzero))
  simp [remainder?, isZero_int_iff, hzero, isInfinite?_of_inRange ha, isNaN?_of_inRange ha,
    isNaN?_of_inRange hb, hx, hy, hremainder]

theorem floorFloat_eq {x : Float} {q : ℚ} (h : HasValue x q) : floorFloat x = .int ⌊q⌋ := by
  obtain ⟨s, m, e, hx, rfl⟩ := h
  simp [floorFloat, hx, Binary64.floor_eq]

/-- **An integer is rounded** to its nearest float, with one half added and floored. -/
theorem round?_int (h : n.natAbs < tenTo 300) :
    (int n).round? = some (.int (halfUp (nearestInt n))) := by
  have hrange := InRange.of_lt_tenTo h
  have hsmall : (nearestInt n).natAbs < twoTo 1023 := by
    have hle := Binary64.natAbs_nearestInt_le n
    have hlt := two_mul_tenTo_lt_twoTo
    omega
  obtain ⟨x, hx, hvalue⟩ := exists_toFloat_int hrange
  have hfloor := floorFloat_eq (hvalue.add_half hsmall)
  rw [Binary64.floor_halfSum hvalue] at hfloor
  simp [round?, finiteOr?, isFinite?_of_inRange hrange, hx, hfloor]

/-! ### Exact operations -/

/-- The remainder of the nearest floats is that of the integers. -/
def IsExactRemainder (a b : Int) : Prop := Int.tmod (nearestInt a) (nearestInt b) = Int.tmod a b

/-- The integer is a float, and even where one half cannot be added to it without rounding. -/
def IsExactRound (n : Int) : Prop := nearestInt n = n ∧ (n.natAbs ≤ twoTo 52 ∨ n % 2 = 0)

instance : DecidableRel IsExactRemainder := fun a b =>
  inferInstanceAs (Decidable (Int.tmod (nearestInt a) (nearestInt b) = Int.tmod a b))

instance : DecidablePred IsExactRound := fun n =>
  inferInstanceAs (Decidable (nearestInt n = n ∧ (n.natAbs ≤ twoTo 52 ∨ n % 2 = 0)))

theorem halfUp_nearestInt_eq_self_iff : halfUp (nearestInt n) = n ↔ IsExactRound n := by
  rw [IsExactRound]
  by_cases hnearest : nearestInt n = n
  · rw [hnearest, halfUp]
    split <;> omega
  · refine iff_of_false ?_ fun h => hnearest h.1
    rw [halfUp]
    split
    · -- an odd integer is the nearest one to itself only
      rename_i h
      exact fun _ => hnearest (Binary64.nearestInt_eq_self_of_odd h.2)
    · exact hnearest

/-- **When the remainder of two integers is exact.** -/
theorem remainder?_int_eq_tmod_iff (ha : (int a).InRange) (hb : (int b).InRange) (hzero : b ≠ 0) :
    (int a).remainder? (int b) = some (.int (Int.tmod a b)) ↔ IsExactRemainder a b := by
  rw [remainder?_int ha hb hzero, Option.some.injEq, Number.int.injEq, IsExactRemainder]

/-- Just above `2 ^ 53` an odd integer is no float, and its remainder is that of the one below. -/
example : (int 9007199254740993).remainder? (int 10) = some (int 2) := by decide +kernel

/-- **When an integer is rounded to itself.** -/
theorem round?_int_eq_self_iff (h : n.natAbs < tenTo 300) :
    (int n).round? = some (.int n) ↔ IsExactRound n := by
  rw [round?_int h, Option.some.injEq, Number.int.injEq, halfUp_nearestInt_eq_self_iff]

/-- Just above `2 ^ 52` an odd integer is a float, and is rounded to the next one. -/
example : (int 4503599627370497).round? = some (int 4503599627370498) := by decide +kernel

/-- Up to `2 ^ 53` remainders are exact. -/
theorem IsExactRemainder.of_le (ha : a.natAbs ≤ twoTo 53) (hb : b.natAbs ≤ twoTo 53) :
    IsExactRemainder a b := by
  rw [IsExactRemainder, Binary64.nearestInt_of_le ha, Binary64.nearestInt_of_le hb]

/-- Up to `2 ^ 52` integers are rounded to themselves. -/
theorem IsExactRound.of_le (h : n.natAbs ≤ twoTo 52) : IsExactRound n :=
  ⟨Binary64.nearestInt_of_le (h.trans (twoTo_le (by decide))), .inl h⟩

end Number

end Gamebook
