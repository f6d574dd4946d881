/-
**The float nearest to a quotient.**

A quotient is rounded to a multiple of the power of two that leaves it 53 binary digits.  So the
float nearest to a quotient that has no more digits stands for the quotient itself, and the one
nearest to an integer always stands for an integer.

Main definitions:

* `Binary64.HasValue` — what a finite float stands for;
* `Binary64.nearestInt` — the integer that the float nearest to an integer stands for.

Main results:

* `Binary64.hasValue_nearest` — **what the float nearest to a quotient stands for**;
* `Binary64.hasValue_nearest_of_eq` — a quotient with 53 digits is not rounded;
* `Binary64.hasValue_ofInt` — an integer becomes the float of its nearest one.
-/

import Gamebook.Proofs.Number.Finite
import Gamebook.Proofs.Number.Range

set_option autoImplicit false

namespace Gamebook

namespace Binary64

variable {x : Float} {q : ℚ} {n : Int} {num den : Nat} {e : Int}

/-! ### The value of a float -/

/-- The float is finite and stands for a number. -/
def HasValue (x : Float) (q : ℚ) : Prop :=
  ∃ s m e, ofFloat x = finite s m e ∧ finiteValue s m e = q

theorem cast_signed (s : Bool) (n : Nat) : (signed s n : ℚ) = (if s then -1 else 1) * n := by
  cases s <;> simp [signed]

theorem signed_not (s : Bool) (n : Nat) : signed (!s) n = -signed s n := by
  cases s <;> simp [signed]

theorem two_zpow_of_nonneg (h : 0 ≤ e) : (2 : ℚ) ^ e = (twoTo e.toNat : Nat) := by
  rw [cast_twoTo, ← zpow_natCast, Int.toNat_of_nonneg h]

theorem two_zpow_of_nonpos (h : e ≤ 0) : (2 : ℚ) ^ e = ((twoTo (-e).toNat : Nat) : ℚ)⁻¹ := by
  rw [← two_zpow_of_nonneg (neg_nonneg.2 h), zpow_neg, inv_inv]

theorem scale_pos (hden : 0 < den) : 0 < (scale num den e).2 := by
  unfold scale
  split
  · exact Nat.mul_pos hden (twoTo_pos _)
  · exact hden

/-- The scaled quotient is the quotient over the power of two. -/
theorem scale_eq (num den : Nat) (e : Int) :
    ((scale num den e).1 : ℚ) / (scale num den e).2 = num / den / 2 ^ e := by
  unfold scale
  split
  · rename_i h
    rw [two_zpow_of_nonneg h, Nat.cast_mul, div_div]
  · rename_i h
    rw [two_zpow_of_nonpos (by omega), Nat.cast_mul, div_inv_eq_mul, mul_div_right_comm]

theorem floor_eq (s : Bool) (m : Nat) (e : Int) : floor s m e = ⌊finiteValue s m e⌋ := by
  have hvalue : finiteValue s m e =
      (signed s (scale m 1 (-e)).1 : ℚ) / ((scale m 1 (-e)).2 : Nat) := by
    rw [cast_signed, mul_div_assoc, scale_eq, finiteValue, cast_signed, zpow_neg]
    simp
  rw [hvalue, Rat.floor_intCast_div_natCast, floor,
    Int.fdiv_eq_ediv_of_nonneg _ (Int.natCast_nonneg _)]

theorem ceil_eq (s : Bool) (m : Nat) (e : Int) : ceil s m e = ⌈finiteValue s m e⌉ := by
  have hvalue : finiteValue (!s) m e = -finiteValue s m e := by
    rw [finiteValue, signed_not, finiteValue]
    push_cast
    ring
  rw [ceil, floor_eq, hvalue, Int.floor_neg, neg_neg]

theorem natAbs_eq_of_finiteValue {s : Bool} {m : Nat} (h : finiteValue s m e = n) :
    (n.natAbs : ℚ) = m * 2 ^ e := by
  rw [Nat.cast_natAbs, Int.cast_abs, ← h, finiteValue, cast_signed, abs_mul, abs_mul]
  cases s <;> simp

theorem signed_natAbs_of_finiteValue {s : Bool} {m : Nat} (h : finiteValue s m e = n) :
    signed s n.natAbs = n := by
  have hvalue : (signed s n.natAbs : ℚ) = n := by
    rw [cast_signed, natAbs_eq_of_finiteValue h, ← h, finiteValue, cast_signed, mul_assoc]
  exact_mod_cast hvalue

/-- An integral float becomes its integer. -/
theorem HasValue.toInt? (h : HasValue x n) : (ofFloat x).toInt? = some n := by
  obtain ⟨s, m, e, hx, hvalue⟩ := h
  rw [hx, Binary64.toInt?]
  simp [floor_eq, ceil_eq, hvalue]

/-! ### The float of some bits -/

/-- The float with the bits of a finite one. -/
theorem ofFloat_withSign {s : Bool} {magnitude : Nat} (h : magnitude < infinityBits) :
    ofFloat (withSign s magnitude) =
      if magnitude / twoTo 52 = 0 then finite s (magnitude % twoTo 52) leastExponent
      else finite s (twoTo 52 + magnitude % twoTo 52)
        ((magnitude / twoTo 52 : Nat) + leastExponent - 1) := by
  have hb : infinityBits = 9218868437227405312 := rfl
  have h63 : twoTo 63 = 9223372036854775808 := rfl
  have h52 : twoTo 52 = 4503599627370496 := rfl
  have hsign : decide (twoTo 63 ≤ (withSign s magnitude).toBits.toNat) = s := by
    rw [toBits_withSign h]
    cases s <;> simp [h63]
    omega
  have hmagnitude : (withSign s magnitude).toBits.toNat % twoTo 63 = magnitude := by
    rw [toBits_withSign h]
    cases s <;> simp [h63] <;> omega
  have hbiased : magnitude / twoTo 52 ≠ 2047 := by
    rw [h52]
    omega
  simp only [ofFloat, fractionBits, hsign, hmagnitude, if_neg hbiased]

/-- The bits of an exponent and a mantissa, which may have one digit too many. -/
theorem hasValue_withSign {s : Bool} {k r : Nat} (hr : r ≤ twoTo 53)
    (hk : 0 < k → twoTo 52 ≤ r) (h : k * twoTo 52 + r < infinityBits) :
    HasValue (withSign s (k * twoTo 52 + r)) (signed s r * 2 ^ (k + leastExponent)) := by
  have h52 : twoTo 52 = 4503599627370496 := rfl
  have h53 : twoTo 53 = 9007199254740992 := rfl
  rw [HasValue, ofFloat_withSign h]
  rcases Nat.lt_or_ge r (twoTo 52) with hlt | hge
  · -- the least exponent
    obtain rfl : k = 0 := by omega
    have hbiased : (0 * twoTo 52 + r) / twoTo 52 = 0 := by
      rw [Nat.zero_mul, Nat.zero_add, Nat.div_eq_of_lt hlt]
    rw [if_pos hbiased, Nat.zero_mul, Nat.zero_add, Nat.mod_eq_of_lt hlt]
    exact ⟨s, r, _, rfl, by simp [finiteValue]⟩
  rcases Nat.lt_or_ge r (twoTo 53) with hlt | hge'
  · have hbiased : (k * twoTo 52 + r) / twoTo 52 = k + 1 := by
      rw [h52] at hge ⊢
      omega
    have hfraction : (k * twoTo 52 + r) % twoTo 52 = r - twoTo 52 := by
      rw [h52] at hge ⊢
      omega
    rw [if_neg (by omega), hbiased, hfraction, Nat.add_sub_cancel' hge]
    refine ⟨s, r, _, rfl, ?_⟩
    rw [finiteValue]
    congr 2
    push_cast
    ring
  · -- one digit too many: the exponent after the next one
    obtain rfl : r = twoTo 53 := by omega
    have hbiased : (k * twoTo 52 + twoTo 53) / twoTo 52 = k + 2 := by
      rw [h52, h53]
      omega
    have hfraction : (k * twoTo 52 + twoTo 53) % twoTo 52 = 0 := by
      rw [h52, h53]
      omega
    rw [if_neg (by omega), hbiased, hfraction, Nat.add_zero]
    refine ⟨s, twoTo 52, _, rfl, ?_⟩
    have hexponent : ((k + 2 : Nat) : Int) + leastExponent - 1 = k + leastExponent + 1 := by
      push_cast
      ring
    rw [finiteValue, hexponent, zpow_add_one₀ two_ne_zero, show twoTo 53 = twoTo 52 * 2 from rfl,
      signed_mul]
    push_cast
    ring

/-! ### Rounding a quotient -/

theorem scale_lt_iff (hden : 0 < den) {c : ℚ} :
    ((scale num den e).1 : ℚ) < c * (scale num den e).2 ↔ (num : ℚ) / den < c * 2 ^ e := by
  have hpos : (0 : ℚ) < (scale num den e).2 := Nat.cast_pos.2 (scale_pos hden)
  rw [← div_lt_iff₀ hpos, scale_eq, div_lt_iff₀ (by positivity)]

theorem two_zpow_log2_le (h : num ≠ 0) : (2 : ℚ) ^ (num.log2 : Int) ≤ num := by
  exact_mod_cast Nat.log2_self_le h

theorem lt_two_zpow_log2 (num : Nat) : (num : ℚ) < 2 ^ ((num.log2 : Int) + 1) := by
  exact_mod_cast (Nat.lt_log2_self : num < 2 ^ (num.log2 + 1))

/-- The order of a quotient of positive numbers. -/
theorem binaryOrder_bounds (hnum : 0 < num) (hden : 0 < den) :
    (2 : ℚ) ^ binaryOrder num den ≤ num / den ∧
      (num : ℚ) / den < 2 ^ (binaryOrder num den + 1) := by
  have hden' : (0 : ℚ) < den := Nat.cast_pos.2 hden
  have hlog (e : Int) : (scale num den e).1 < (scale num den e).2 ↔ (num : ℚ) / den < 2 ^ e := by
    have h : ((scale num den e).1 : ℚ) < 1 * (scale num den e).2 ↔ (num : ℚ) / den < 1 * 2 ^ e :=
      scale_lt_iff hden
    rw [one_mul, one_mul] at h
    exact_mod_cast h
  unfold binaryOrder
  dsimp only
  split
  · rename_i h
    rw [hlog] at h
    refine ⟨?_, by rwa [sub_add_cancel]⟩
    -- the numerator has its leading digit, and the denominator is below the next power
    rw [le_div_iff₀ hden']
    calc (2 : ℚ) ^ ((num.log2 : Int) - den.log2 - 1) * den
      _ ≤ 2 ^ ((num.log2 : Int) - den.log2 - 1) * 2 ^ ((den.log2 : Int) + 1) := by
          have hlt := lt_two_zpow_log2 den
          gcongr
      _ = 2 ^ (num.log2 : Int) := by
          rw [← zpow_add₀ two_ne_zero]
          congr 1
          ring
      _ ≤ num := two_zpow_log2_le hnum.ne'
  · rename_i h
    rw [hlog, not_lt] at h
    refine ⟨h, ?_⟩
    rw [div_lt_iff₀ hden']
    calc (num : ℚ)
      _ < 2 ^ ((num.log2 : Int) + 1) := lt_two_zpow_log2 num
      _ = 2 ^ ((num.log2 : Int) - den.log2 + 1) * 2 ^ (den.log2 : Int) := by
          rw [← zpow_add₀ two_ne_zero]
          congr 1
          ring
      _ ≤ 2 ^ ((num.log2 : Int) - den.log2 + 1) * den := by
          have hle := two_zpow_log2_le hden.ne'
          gcongr

/-- The exponent of the last digit that the float nearest to a quotient has. -/
def lastPlace (num den : Nat) : Int := max leastExponent (binaryOrder num den - fractionBits)

/-- The mantissa of the float nearest to a quotient; it may have one digit too many. -/
def nearestMantissa (num den : Nat) : Nat :=
  roundHalfEven (scale num den (lastPlace num den)).1 (scale num den (lastPlace num den)).2

theorem nearestMantissa_le (hnum : 0 < num) (hden : 0 < den) :
    nearestMantissa num den ≤ twoTo 53 := by
  refine roundHalfEven_le ?_
  have hlt : (num : ℚ) / den < ((twoTo 53 : Nat) : ℚ) * 2 ^ lastPlace num den := by
    refine (binaryOrder_bounds hnum hden).2.trans_le ?_
    rw [cast_twoTo, ← zpow_natCast, ← zpow_add₀ two_ne_zero]
    have hexponent : binaryOrder num den + 1 ≤ ((53 : Nat) : Int) + lastPlace num den := by
      rw [lastPlace, fractionBits]
      omega
    gcongr
    norm_num
  exact_mod_cast ((scale_lt_iff hden).2 hlt).le

theorem le_nearestMantissa (hnum : 0 < num) (hden : 0 < den)
    (h : leastExponent < lastPlace num den) : twoTo 52 ≤ nearestMantissa num den := by
  refine le_roundHalfEven (scale_pos hden) ?_
  have hle : ¬ (num : ℚ) / den < ((twoTo 52 : Nat) : ℚ) * 2 ^ lastPlace num den := by
    rw [not_lt]
    refine le_trans ?_ (binaryOrder_bounds hnum hden).1
    rw [cast_twoTo, ← zpow_natCast, ← zpow_add₀ two_ne_zero]
    have hexponent : ((52 : Nat) : Int) + lastPlace num den ≤ binaryOrder num den := by
      rw [lastPlace, fractionBits] at h ⊢
      omega
    gcongr
    norm_num
  rw [← scale_lt_iff hden, not_lt] at hle
  exact_mod_cast hle

theorem nearestBits_eq (hnum : num ≠ 0) : nearestBits num den =
    min infinityBits ((lastPlace num den - leastExponent).toNat * twoTo 52 +
      nearestMantissa num den) := if_neg hnum

/-- **What the float nearest to a quotient stands for.** -/
theorem hasValue_nearest (s : Bool) (hden : 0 < den) (h : nearestBits num den < infinityBits) :
    HasValue (nearest s num den)
      (signed s (nearestMantissa num den) * 2 ^ lastPlace num den) := by
  rcases Nat.eq_zero_or_pos num with rfl | hnum
  · have hzero : nearestMantissa 0 den = 0 := by
      have hscale : (scale 0 den (lastPlace 0 den)).1 = 0 * (scale 0 den (lastPlace 0 den)).2 := by
        unfold scale
        split <;> simp
      rw [nearestMantissa, hscale, roundHalfEven_mul 0 (scale_pos hden)]
    have hbits := hasValue_withSign (s := s) (k := 0) (r := 0) (Nat.zero_le _) nofun (by decide)
    simpa [hzero, nearest, nearestBits, signed] using hbits
  have hplace : (((lastPlace num den - leastExponent).toNat : Nat) : Int) + leastExponent =
      lastPlace num den := by
    have hle : leastExponent ≤ lastPlace num den := le_max_left _ _
    omega
  rw [nearestBits_eq hnum.ne', min_lt_iff, or_iff_right (lt_irrefl _)] at h
  have hbits := hasValue_withSign (s := s) (nearestMantissa_le hnum hden)
    (fun hk => le_nearestMantissa hnum hden (by omega)) h
  rwa [hplace, ← min_eq_right h.le, ← nearestBits_eq hnum.ne'] at hbits

/-! ### Quotients that are not rounded -/

/-- A quotient with few enough digits has its last one where the float can hold it. -/
theorem lastPlace_le {m : Nat} {k : Int} (hnum : 0 < num) (hden : 0 < den) (hm : m < twoTo 53)
    (hk : leastExponent ≤ k) (h : (num : ℚ) / den = m * 2 ^ k) : lastPlace num den ≤ k := by
  have hlt : (2 : ℚ) ^ binaryOrder num den < 2 ^ (53 + k) := by
    calc (2 : ℚ) ^ binaryOrder num den
      _ ≤ num / den := (binaryOrder_bounds hnum hden).1
      _ = m * 2 ^ k := h
      _ < (twoTo 53 : Nat) * 2 ^ k := by gcongr
      _ = 2 ^ (53 + k) := by rw [cast_twoTo, zpow_add₀ two_ne_zero]; norm_num
  have horder := (zpow_lt_zpow_iff_right₀ one_lt_two).1 hlt
  rw [lastPlace, fractionBits]
  omega

/-- A quotient with its last digit where the float can hold it is not rounded. -/
theorem nearestMantissa_eq {m : Nat} {k : Int} (hden : 0 < den) (hk : lastPlace num den ≤ k)
    (h : (num : ℚ) / den = m * 2 ^ k) :
    nearestMantissa num den = m * twoTo (k - lastPlace num den).toNat := by
  have hscale : ((scale num den (lastPlace num den)).1 : ℚ) =
      (m * twoTo (k - lastPlace num den).toNat : Nat) *
        (scale num den (lastPlace num den)).2 := by
    have hpos : (0 : ℚ) < (scale num den (lastPlace num den)).2 := Nat.cast_pos.2 (scale_pos hden)
    rw [← div_eq_iff hpos.ne', scale_eq, h, Nat.cast_mul, cast_twoTo, ← zpow_natCast,
      Int.toNat_of_nonneg (by omega), zpow_sub₀ two_ne_zero, mul_div_assoc]
  rw [nearestMantissa, show (scale num den (lastPlace num den)).1 = _ by exact_mod_cast hscale,
    roundHalfEven_mul _ (scale_pos hden)]

theorem nearestBits_lt_of_eq {m : Nat} {k : Int} (hden : 0 < den) (hm : m < twoTo 53)
    (hk : leastExponent ≤ k) (hk' : k ≤ 971) (h : (num : ℚ) / den = m * 2 ^ k) :
    nearestBits num den < infinityBits := by
  have hb : infinityBits = 9218868437227405312 := rfl
  have h52 : twoTo 52 = 4503599627370496 := rfl
  have h53 : twoTo 53 = 9007199254740992 := rfl
  rcases Nat.eq_zero_or_pos num with rfl | hnum
  · rw [nearestBits, if_pos rfl, hb]
    omega
  have hplace := lastPlace_le hnum hden hm hk h
  have hmantissa := nearestMantissa_le hnum hden
  rw [nearestBits_eq hnum.ne', min_lt_iff, or_iff_right (lt_irrefl _), h52, hb]
  rcases hplace.lt_or_eq with hlt | heq
  · rw [leastExponent] at hk ⊢
    omega
  · -- at the greatest exponent the mantissa is the one that was given
    have hexact : nearestMantissa num den = m := by
      rw [nearestMantissa_eq hden hplace h, heq, sub_self, Int.toNat_zero, twoTo_zero,
        Nat.mul_one]
    rw [leastExponent] at hk ⊢
    omega

/-- **A quotient with 53 digits is not rounded.** -/
theorem hasValue_nearest_of_eq (s : Bool) {m : Nat} {k : Int} (hden : 0 < den) (hm : m < twoTo 53)
    (hk : leastExponent ≤ k) (hk' : k ≤ 971) (h : (num : ℚ) / den = m * 2 ^ k) :
    HasValue (nearest s num den) (finiteValue s m k) := by
  have hvalue := hasValue_nearest s hden (nearestBits_lt_of_eq hden hm hk hk' h)
  rcases Nat.eq_zero_or_pos num with rfl | hnum
  · obtain rfl : m = 0 := by
      rw [Nat.cast_zero, zero_div, eq_comm, mul_eq_zero_iff_right (by positivity)] at h
      exact_mod_cast h
    have hplace : lastPlace 0 den ≤ max k (lastPlace 0 den) := le_max_right _ _
    rw [nearestMantissa_eq (k := max k (lastPlace 0 den)) (m := 0) hden hplace (by simp),
      Nat.zero_mul] at hvalue
    simpa [finiteValue, signed] using hvalue
  have hplace := lastPlace_le hnum hden hm hk h
  rwa [nearestMantissa_eq hden hplace h, ← mantissaAt, ← finiteValue_eq hplace] at hvalue

/-! ### Integers -/

/-- The integer that the float nearest to an integer stands for: 53 binary digits are kept, and the
last one is rounded. -/
def nearestInt (n : Int) : Int :=
  let place := twoTo (n.natAbs.log2 - fractionBits)
  signed (decide (n < 0)) (roundHalfEven n.natAbs place * place)

theorem natAbs_signed (s : Bool) (m : Nat) : (signed s m).natAbs = m := by
  cases s <;> simp [signed]

theorem natAbs_nearestInt (n : Int) : (nearestInt n).natAbs =
    roundHalfEven n.natAbs (twoTo (n.natAbs.log2 - fractionBits)) *
      twoTo (n.natAbs.log2 - fractionBits) := natAbs_signed _ _

/-- An integer with zeros behind its first 53 digits is not rounded, and no other one. -/
theorem nearestInt_eq_self_iff :
    nearestInt n = n ↔ twoTo (n.natAbs.log2 - fractionBits) ∣ n.natAbs := by
  constructor
  · intro h
    have habs := natAbs_nearestInt n
    rw [h] at habs
    exact ⟨_, habs.trans (Nat.mul_comm _ _)⟩
  · rintro ⟨c, hc⟩
    rw [Nat.mul_comm] at hc
    have hround : roundHalfEven n.natAbs (twoTo (n.natAbs.log2 - fractionBits)) = c := by
      have hround := roundHalfEven_mul c (twoTo_pos (n.natAbs.log2 - fractionBits))
      rwa [← hc] at hround
    rw [nearestInt, hround, ← hc, signed_natAbs]

theorem nearestInt_of_log2_le (h : n.natAbs.log2 ≤ 52) : nearestInt n = n := by
  rw [nearestInt_eq_self_iff, fractionBits, Nat.sub_eq_zero_of_le h, twoTo_zero]
  exact one_dvd _

/-- Up to `2 ^ 53` integers are floats. -/
theorem nearestInt_of_le (h : n.natAbs ≤ twoTo 53) : nearestInt n = n := by
  rcases h.lt_or_eq with hlt | heq
  · refine nearestInt_of_log2_le (Nat.le_of_lt_succ ?_)
    rcases eq_or_ne n.natAbs 0 with hzero | hne
    · rw [hzero]
      decide
    · exact (Nat.log2_lt hne).2 hlt
  · rw [nearestInt_eq_self_iff, heq]
    decide

/-- An odd integer is the nearest one to itself only. -/
theorem nearestInt_eq_self_of_odd (h : nearestInt n % 2 = 1) : nearestInt n = n := by
  by_contra hne
  have hlog : 52 < n.natAbs.log2 := by
    by_contra hle
    exact hne (nearestInt_of_log2_le (Nat.not_lt.1 hle))
  obtain ⟨k, hk⟩ : ∃ k, n.natAbs.log2 - fractionBits = k + 1 :=
    ⟨_, (Nat.sub_add_cancel (Nat.sub_pos_of_lt hlog)).symm⟩
  have habs := natAbs_nearestInt n
  rw [hk, twoTo_succ, ← Nat.mul_assoc] at habs
  omega

theorem twoTo_place_le (hn : n ≠ 0) : twoTo (n.natAbs.log2 - fractionBits) ≤ n.natAbs :=
  (twoTo_le (Nat.sub_le _ _)).trans (twoTo_log2_le (Int.natAbs_ne_zero.2 hn))

theorem nearestInt_ne_zero (hn : n ≠ 0) : nearestInt n ≠ 0 := by
  have hone : 1 ≤ roundHalfEven n.natAbs (twoTo (n.natAbs.log2 - fractionBits)) :=
    le_roundHalfEven (twoTo_pos _) (by rw [Nat.one_mul]; exact twoTo_place_le hn)
  rw [← Int.natAbs_ne_zero, natAbs_nearestInt]
  exact Nat.mul_ne_zero (by omega) (twoTo_pos _).ne'

/-- The nearest integer is not far away. -/
theorem natAbs_nearestInt_le (n : Int) : (nearestInt n).natAbs ≤ 2 * n.natAbs := by
  rcases eq_or_ne n 0 with rfl | hn
  · decide
  have hround : roundHalfEven n.natAbs (twoTo (n.natAbs.log2 - fractionBits)) ≤
      n.natAbs / twoTo (n.natAbs.log2 - fractionBits) + 1 := by
    unfold roundHalfEven
    dsimp only
    split <;> omega
  rw [natAbs_nearestInt]
  calc _ ≤ (n.natAbs / twoTo (n.natAbs.log2 - fractionBits) + 1) *
        twoTo (n.natAbs.log2 - fractionBits) := Nat.mul_le_mul_right _ hround
    _ = n.natAbs / twoTo (n.natAbs.log2 - fractionBits) *
        twoTo (n.natAbs.log2 - fractionBits) + twoTo (n.natAbs.log2 - fractionBits) := by ring
    _ ≤ n.natAbs + n.natAbs := Nat.add_le_add (Nat.div_mul_le_self _ _) (twoTo_place_le hn)
    _ = 2 * n.natAbs := (Nat.two_mul _).symm

/-- The float of an integer with more than 53 digits. -/
theorem hasValue_nearest_natAbs (h : 52 < n.natAbs.log2)
    (hbits : nearestBits n.natAbs 1 < infinityBits) :
    HasValue (nearest (decide (n < 0)) n.natAbs 1) (nearestInt n) := by
  have hn : n.natAbs ≠ 0 := by
    intro hzero
    simp [hzero] at h
  have hplace : lastPlace n.natAbs 1 = ((n.natAbs.log2 - fractionBits : Nat) : Int) := by
    rw [lastPlace, binaryOrder_one hn, leastExponent, fractionBits]
    omega
  have hmantissa : nearestMantissa n.natAbs 1 =
      roundHalfEven n.natAbs (twoTo (n.natAbs.log2 - fractionBits)) := by
    rw [nearestMantissa, hplace, scale, if_pos (Int.natCast_nonneg _), Int.toNat_natCast,
      Nat.one_mul]
  have hvalue := hasValue_nearest (decide (n < 0)) Nat.one_pos hbits
  rw [hplace, hmantissa, zpow_natCast] at hvalue
  rw [nearestInt, signed_mul]
  push_cast [cast_twoTo]
  exact hvalue

/-- **An integer becomes the float of its nearest one.** -/
theorem hasValue_ofInt (h : ofInt? n = some x) : HasValue x (nearestInt n) := by
  simp only [ofInt?, ite_eq_iff, reduceCtorEq, and_false, false_or, Option.some.injEq] at h
  obtain ⟨hbits, rfl⟩ := h
  replace hbits := (nearestBits_le n.natAbs 1).lt_of_ne hbits
  rcases Nat.lt_or_ge 52 n.natAbs.log2 with hlog | hlog
  · exact hasValue_nearest_natAbs hlog hbits
  · have hlt : n.natAbs < twoTo 53 :=
      Nat.lt_of_lt_of_le Nat.lt_log2_self (twoTo_le (Nat.succ_le_succ hlog))
    have hexact : (n.natAbs : ℚ) / (1 : Nat) = n.natAbs * 2 ^ (0 : Int) := by simp
    have hvalue := hasValue_nearest_of_eq (decide (n < 0)) Nat.one_pos hlt (by decide) (by decide)
      hexact
    rw [finiteValue, signed_natAbs, zpow_zero, mul_one] at hvalue
    rwa [nearestInt_of_log2_le hlog]

end Binary64

end Gamebook
