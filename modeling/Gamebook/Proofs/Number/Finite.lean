/-
**Integers are finite numbers.**

An integer that is not beyond the largest float is rounded to a float with the bits of less than an
infinity, and those are the bits of a finite float.

Main results:

* `Binary64.toBits_withSign` — a float made of such bits has them;
* `Number.isFinite?_int` — **an integer is never found not to be finite**.
-/

import Gamebook.Proofs.Number.Sum

set_option autoImplicit false

namespace Gamebook

namespace Binary64

open Float.Model (Format)
open Float.Model.UnpackedFloat

variable {negative : Bool} {magnitude : Nat}

/-- A float made of the bits of less than an infinity has them. -/
theorem toBits_withSign (h : magnitude < infinityBits) :
    (withSign negative magnitude).toBits.toNat =
      if negative then twoTo 63 + magnitude else magnitude := by
  have hb : infinityBits = 9218868437227405312 := rfl
  have h63 : twoTo 63 = 9223372036854775808 := rfl
  have h52 : twoTo 52 = 4503599627370496 := rfl
  generalize hbits : (if negative then twoTo 63 + magnitude else magnitude) = bits
  have hlt : bits < 18446744073709551616 := by
    cases negative <;> simp [h63] at hbits <;> omega
  have hmod : bits % 9223372036854775808 < infinityBits := by
    cases negative <;> simp [h63] at hbits <;> omega
  -- packing what was unpacked changes only the bits of what is not a number
  have hpack : (withSign negative magnitude).toBits.toBitVec =
      pack Format.binary64 (unpack Format.binary64 (UInt64.ofNat bits).toBitVec) := by
    rw [withSign, hbits]
    rfl
  have hnan : @isNaNBits Format.binary64 (UInt64.ofNat bits).toBitVec = false := by
    rw [isNaNBits, decide_eq_false_iff_not]
    rintro ⟨hexponent, -⟩
    rw [← BitVec.toNat_inj, toNat_unpackExponent] at hexponent
    simp [h63, h52] at hexponent
    omega
  rw [pack_unpack, if_neg (by simp [hnan])] at hpack
  have hnat := congrArg BitVec.toNat hpack
  simpa [Nat.mod_eq_of_lt hlt] using hnat

theorem exponentField_withSign (h : magnitude < infinityBits) :
    exponentField (withSign negative magnitude) ≠ 2047 := by
  have hb : infinityBits = 9218868437227405312 := rfl
  have h63 : twoTo 63 = 9223372036854775808 := rfl
  have h52 : twoTo 52 = 4503599627370496 := rfl
  rw [exponentField, toBits_withSign h, h63, show fractionBits = 52 from rfl, h52]
  cases negative <;> simp <;> omega

end Binary64

/-- An integer is never found not to be finite; it may be beyond the largest float. -/
theorem Number.isFinite?_int (n : Int) : (Number.int n).isFinite? ≠ some false := by
  cases hx : (Number.int n).toFloat? with
  | none => simp [isFinite?, hx]
  | some x =>
      have hfinite : ∃ s m e, Binary64.ofFloat x = .finite s m e := by
        simp only [toFloat?, Binary64.ofInt?] at hx
        split at hx
        · cases hx
        · rename_i hbits
          cases hx
          rw [Binary64.ofFloat_isFinite_iff]
          have hle := Binary64.nearestBits_le n.natAbs 1
          exact Binary64.exponentField_withSign (by omega)
      obtain ⟨s, m, e, h⟩ := hfinite
      simp [isFinite?, hx, h]

end Gamebook
