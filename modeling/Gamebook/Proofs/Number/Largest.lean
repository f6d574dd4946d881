/-
**The largest float.**

The largest float is an integer, and no integral float stands for a larger one.  An integer that is
not beyond it is rounded to a finite float.  So a number that is read from a text can be taken for a
float again, although it is read as an integer where its float is integral.

Main definition:

* `Binary64.largest` — the largest float.

Main results:

* `Binary64.natAbs_le_largest` — what a finite float stands for is not beyond the largest one;
* `Value.inRange_numberOfText` — **the number in a text is within the range**.
-/

import Gamebook.Proofs.Number.Range
import Gamebook.Value.Quantity

set_option autoImplicit false

namespace Gamebook

namespace Binary64

theorem log2_lt_of_lt_twoTo {k n : Nat} (hn : n ≠ 0) (h : n < twoTo k) : n.log2 < k :=
  (Nat.log2_lt hn).2 h

/-- The largest float, an integer. -/
def largest : Nat := (twoTo 53 - 1) * twoTo 971

/-- A natural number that is not beyond the largest float is rounded to a finite float. -/
theorem nearestBits_lt_of_le_largest {n : Nat} (h : n ≤ largest) :
    nearestBits n 1 < infinityBits := by
  by_cases hlog : n.log2 < 1023
  · exact nearestBits_lt_infinityBits hlog
  have hlt : n < twoTo (53 + 971) := by
    refine Nat.lt_of_le_of_lt h ?_
    rw [largest, twoTo_add]
    exact Nat.mul_lt_mul_of_pos_right (by decide) (twoTo_pos _)
  have hn : n ≠ 0 := by
    rintro rfl
    exact hlog (by decide)
  have hlog : n.log2 = 1023 := by
    have hlt := log2_lt_of_lt_twoTo hn hlt
    omega
  have he : max leastExponent (binaryOrder n 1 - fractionBits) = (971 : Int) := by
    rw [binaryOrder_one hn, hlog, leastExponent, fractionBits]
    omega
  -- the mantissa is not rounded up beyond the greatest one
  have hround : roundHalfEven n (1 * twoTo 971) ≤ twoTo 53 - 1 :=
    roundHalfEven_le (by rwa [one_mul])
  have hinfinity : infinityBits = 9218868437227405312 := rfl
  have hone : twoTo fractionBits = 4503599627370496 := rfl
  have htwo : twoTo 53 = 9007199254740992 := rfl
  unfold nearestBits
  rw [if_neg hn, he]
  simp only [scale, show (0 : Int) ≤ 971 by omega, if_true, hone]
  rw [leastExponent, show ((971 : Int)).toNat = 971 from rfl]
  omega

/-- The mantissa of a finite float has 53 digits at most, and its exponent is bounded. -/
theorem bounds_of_ofFloat {x : Float} {negative : Bool} {m : Nat} {e : Int}
    (h : ofFloat x = finite negative m e) : m < twoTo 53 ∧ leastExponent ≤ e ∧ e ≤ 971 := by
  have hone : twoTo fractionBits = 4503599627370496 := rfl
  have htwo : twoTo 53 = 9007199254740992 := rfl
  have hbits : twoTo 63 = 9223372036854775808 := rfl
  unfold ofFloat at h
  simp only [hone, hbits] at h
  rw [leastExponent] at h ⊢
  split at h
  · split at h <;> cases h
  split at h
  · cases h
    omega
  · cases h
    omega

/-- What a finite float stands for is not beyond the largest one. -/
theorem natAbs_le_largest {x : Float} {n : Int} (h : (ofFloat x).toInt? = some n) :
    n.natAbs ≤ largest := by
  cases hx : ofFloat x with
  | nan | infinite => rw [hx] at h; cases h
  | finite negative m e =>
      obtain ⟨hm, -, he⟩ := bounds_of_ofFloat hx
      rw [hx] at h
      have hn : n = floor negative m e := by
        simp only [toInt?] at h
        split at h
        · exact (Option.some.inj h).symm
        · cases h
      have hscale : (scale m 1 (-e)).1 ≤ largest := by
        have hmul : m * twoTo e.toNat ≤ (twoTo 53 - 1) * twoTo 971 :=
          Nat.mul_le_mul (by omega) (twoTo_le (by omega))
        unfold scale
        split
        · exact le_trans (Nat.le_mul_of_pos_right m (twoTo_pos _)) hmul
        · rwa [neg_neg]
      have hsigned : (signed negative (scale m 1 (-e)).1).natAbs = (scale m 1 (-e)).1 := by
        unfold signed
        split <;> omega
      rw [hn, floor, Int.fdiv_eq_ediv_of_nonneg _ (Int.natCast_nonneg _)]
      calc (signed negative (scale m 1 (-e)).1 / ((scale m 1 (-e)).2 : Int)).natAbs
        _ ≤ (signed negative (scale m 1 (-e)).1).natAbs := Int.natAbs_ediv_le_natAbs _ _
        _ = (scale m 1 (-e)).1 := hsigned
        _ ≤ largest := hscale

end Binary64

namespace Number

/-- The integer that an integral float stands for is within the range. -/
theorem inRange_normalize_ofFloat (x : Float) : (ofFloat x).normalize.InRange := by
  unfold ofFloat
  split
  · exact inRange_nan _
  · rw [normalize]
    split
    · rename_i n hn
      have hbits := Nat.ne_of_lt (Binary64.nearestBits_lt_of_le_largest
        (Binary64.natAbs_le_largest hn))
      simp [InRange, toFloat?, Binary64.ofInt?, hbits]
    · exact inRange_float _

end Number

/-- **The number in a text is within the range.** -/
theorem Value.inRange_numberOfText (s : String) : (numberOfText s).InRange := by
  unfold numberOfText
  split
  · exact .of_size_lt (twoTo_pos _)
  · split
    · exact Number.inRange_normalize_ofFloat _
    · exact Number.inRange_nan _

end Gamebook
