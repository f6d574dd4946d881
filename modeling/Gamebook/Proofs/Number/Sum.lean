/-
**Sums with a finite number.**

A float that is not a number comes out of a sum only when one goes in, or when two infinities of
different signs meet.  So a finite number added to a number that has a place in the order gives one
that has a place again.  Sums of floats are followed through the bits: the exponent field of a float
is full exactly for the infinities and for what is not a number.

Main definitions:

* `Binary64.exponentField`, `Binary64.fractionField` — the two fields of the bits of a float.

Main results:

* `Binary64.add_ne_nan` — **the sum of a number and a finite float is a number**;
* `Number.IsComparable.add?` — the same for numbers of both kinds.
-/

import Gamebook.Proofs.Number.Order
import Mathlib

set_option autoImplicit false

namespace Gamebook

open Float.Model (UnpackedFloat Format)
open Float.Model.UnpackedFloat

namespace Binary64

/-! ### The fields of a float -/

/-- The exponent field of a float. -/
def exponentField (x : Float) : Nat := x.toBits.toNat % twoTo 63 / twoTo fractionBits

/-- The fraction field of a float. -/
def fractionField (x : Float) : Nat := x.toBits.toNat % twoTo 63 % twoTo fractionBits

theorem ofFloat_eq_nan_iff (x : Float) :
    ofFloat x = nan ↔ exponentField x = 2047 ∧ fractionField x ≠ 0 := by
  unfold ofFloat
  dsimp only
  split
  · rename_i h
    split
    · rename_i h'
      exact iff_of_false (by simp) fun h'' => h''.2 h'
    · rename_i h'
      exact iff_of_true rfl ⟨h, h'⟩
  · rename_i h
    refine iff_of_false ?_ fun h' => h h'.1
    split <;> simp

theorem ofFloat_isFinite_iff (x : Float) :
    (∃ s m e, ofFloat x = finite s m e) ↔ exponentField x ≠ 2047 := by
  unfold ofFloat
  dsimp only
  split
  · rename_i h
    refine iff_of_false ?_ (not_not_intro h)
    split <;> simp
  · rename_i h
    refine iff_of_true ?_ h
    split <;> simp

/-! ### The same fields in the model of floats -/

theorem toNat_unpackMantissa (b : BitVec 64) :
    (@unpackMantissa Format.binary64 b).toNat = b.toNat % twoTo 63 % twoTo 52 := by
  have h : (@unpackMantissa Format.binary64 b).toNat = b.toNat % 4503599627370496 := by
    simp [unpackMantissa, BitVec.extractLsb]
  rw [h, show twoTo 63 = 9223372036854775808 from rfl, show twoTo 52 = 4503599627370496 from rfl]
  omega

theorem toNat_unpackExponent (b : BitVec 64) :
    (@unpackExponent Format.binary64 b).toNat = b.toNat % twoTo 63 / twoTo 52 := by
  have h : (@unpackExponent Format.binary64 b).toNat =
      b.toNat / 4503599627370496 % 2048 := by
    simp [unpackExponent, BitVec.extractLsb, Nat.shiftRight_eq_div_pow]
  rw [h, show twoTo 63 = 9223372036854775808 from rfl, show twoTo 52 = 4503599627370496 from rfl]
  omega

theorem unpackExponent_eq_neg_one_iff (x : Float) :
    @unpackExponent Format.binary64 x.toModel.toBits.toBitVec = -1#_ ↔
      exponentField x = 2047 := by
  rw [← BitVec.toNat_inj, toNat_unpackExponent]
  simp
  rfl

theorem unpackMantissa_eq_zero_iff (x : Float) :
    @unpackMantissa Format.binary64 x.toModel.toBits.toBitVec = 0#_ ↔
      fractionField x = 0 := by
  rw [← BitVec.toNat_inj, toNat_unpackMantissa]
  simp
  rfl

theorem unpack_eq_notANumber_iff (b : BitVec 64) :
    unpack Format.binary64 b = .notANumber ↔
      @unpackExponent Format.binary64 b = -1#_ ∧
        @unpackMantissa Format.binary64 b ≠ 0#_ := by
  unfold unpack
  dsimp only
  split
  · split <;> simp_all
  · rename_i hexponent
    refine iff_of_false ?_ fun h => hexponent h.1
    split
    · split <;> nofun
    · nofun

theorem exponentField_of_infinity {x : Float} {s : Sign} (h : x.toModel.unpack = .infinity s) :
    exponentField x = 2047 := by
  rw [← unpackExponent_eq_neg_one_iff]
  unfold Float.Model.unpack unpack at h
  dsimp only at h
  split at h
  · assumption
  · split at h
    · split at h <;> cases h
    · cases h

theorem ne_nan_iff (x : Float) : ofFloat x ≠ nan ↔ x.toModel.unpack ≠ .notANumber := by
  rw [Ne, Ne, ofFloat_eq_nan_iff, Float.Model.unpack, unpack_eq_notANumber_iff,
    unpackExponent_eq_neg_one_iff, Ne, Ne, ← unpackMantissa_eq_zero_iff]

/-! ### Packing and adding -/

/-- Packing into the bits of a float makes nothing that is not a number. -/
theorem eq_notANumber_of_unpack_pack {f : UnpackedFloat}
    (h : unpack Format.binary64 (pack Format.binary64 f) = .notANumber) : f = .notANumber := by
  obtain ⟨he, hm⟩ := (unpack_eq_notANumber_iff _).1 h
  revert he hm
  fun_cases pack with
  | case1 => intros; rfl
  | case2 s => simp [packedInfinity]
  | case3 s => simp [packedZero]
  | case4 s m e hm biased h => simp [packedInfinity]
  | case5 s m e hm bits biased h h' =>
      intro he
      rw [unpackExponent_packComponents, ← BitVec.toNat_inj] at he
      have hw : 2 ^ Format.binary64.exponentBits = 2048 := rfl
      simp at he
      omega
  | case6 s m e hm bits biased h h' =>
      intro he
      rw [unpackExponent_packComponents, ← BitVec.toNat_inj] at he
      simp at he

/-- A float made of the bits of an infinity or of less is a number. -/
theorem withSign_ne_nan {negative : Bool} {magnitude : Nat} (h : magnitude ≤ infinityBits) :
    ofFloat (withSign negative magnitude) ≠ nan := by
  rw [ne_nan_iff]
  intro hnan
  obtain ⟨he, hm⟩ := (unpack_eq_notANumber_iff _).1 (eq_notANumber_of_unpack_pack hnan)
  rw [← BitVec.toNat_inj, toNat_unpackExponent] at he
  rw [Ne, ← BitVec.toNat_inj, toNat_unpackMantissa] at hm
  have hb : infinityBits = 9218868437227405312 := rfl
  have h63 : twoTo 63 = 9223372036854775808 := rfl
  have h52 : twoTo 52 = 4503599627370496 := rfl
  cases negative
  · simp [h63, h52] at he hm
    omega
  · simp [h63, h52] at he hm
    omega

theorem normalize_ne_notANumber (m : Int) (e : Int) (s : Sign) :
    UnpackedFloat.normalize Format.binary64 m e s ≠ .notANumber := by
  unfold UnpackedFloat.normalize UnpackedFloat.round roundWithAccuracy
  split
  · dsimp only
    split <;> nofun
  · nofun
  · dsimp only
    split <;> nofun

theorem add_ne_notANumber {a b : UnpackedFloat} (ha : a ≠ .notANumber) (hb : b ≠ .notANumber)
    (hb' : ∀ s, b ≠ .infinity s) : UnpackedFloat.add Format.binary64 a b ≠ .notANumber := by
  unfold UnpackedFloat.add
  split
  · exact ha
  · exact hb
  · exact absurd rfl (hb' _)
  · nofun
  · exact hb
  · split <;> nofun
  · exact hb
  · exact ha
  · exact normalize_ne_notANumber _ _ _

/-- The sum of a float that is a number and a finite one is a number. -/
theorem add_ne_nan {x y : Float} (hx : ofFloat x ≠ nan) (hy : ∃ s m e, ofFloat y = finite s m e) :
    ofFloat (x + y) ≠ nan := by
  have hy' : ofFloat y ≠ nan := by
    obtain ⟨s, m, e, h⟩ := hy
    simp [h]
  rw [ne_nan_iff] at hx hy' ⊢
  rw [ofFloat_isFinite_iff] at hy
  intro h
  exact add_ne_notANumber hx hy' (fun s hs => hy (exponentField_of_infinity hs))
    (eq_notANumber_of_unpack_pack h)

theorem nearestBits_le (num den : Nat) : nearestBits num den ≤ infinityBits := by
  unfold nearestBits
  dsimp only
  split
  · exact Nat.zero_le _
  · exact min_le_left _ _

end Binary64

namespace Number

/-! ### Sums of numbers -/

theorem isComparable_ofFloat {x : Float} (h : Binary64.ofFloat x ≠ .nan) :
    (ofFloat x).IsComparable := by
  unfold ofFloat
  split
  · exact absurd ‹_› h
  · exact h

theorem ofFloat_ne_nan_of_toFloat? {a : Number} {x : Float} (ha : a.IsComparable)
    (h : a.toFloat? = some x) : Binary64.ofFloat x ≠ .nan := by
  cases a with
  | int n =>
      simp only [toFloat?, Binary64.ofInt?] at h
      split at h
      · cases h
      · cases h
        exact Binary64.withSign_ne_nan (Binary64.nearestBits_le _ _)
  | float y =>
      cases h
      exact ha
  | nan o => exact absurd rfl ha

theorem isFinite_of_isFinite? {a : Number} {x : Float} (h : a.isFinite? = some true)
    (hx : a.toFloat? = some x) : ∃ s m e, Binary64.ofFloat x = .finite s m e := by
  simp only [isFinite?, hx, Option.bind_eq_bind, Option.bind_some] at h
  split at h
  · exact ⟨_, _, _, ‹_›⟩
  · cases h

/-- A finite number has a place in the order. -/
theorem IsComparable.of_isFinite? {a : Number} (h : a.isFinite? = some true) :
    a.IsComparable := by
  cases a with
  | int n => exact isComparable_int n
  | float x =>
      obtain ⟨s, m, e, hx⟩ := isFinite_of_isFinite? h rfl
      simp [IsComparable, exact, hx]
  | nan o =>
      obtain ⟨s, m, e, hx⟩ := isFinite_of_isFinite? h rfl
      cases hx

theorem combine?_eq {onInt : Int → Int → Int} {onFloat : Float → Float → Float} {a b c : Number}
    (h : combine? onInt onFloat a b = some c) :
    (∃ n, c = .int n) ∨
      ∃ x y, a.toFloat? = some x ∧ b.toFloat? = some y ∧ c = ofFloat (onFloat x y) := by
  unfold combine? at h
  split at h
  · cases h
    exact .inl ⟨_, rfl⟩
  · rw [Option.bind_eq_bind, Option.bind_eq_some_iff] at h
    obtain ⟨x, hx, h⟩ := h
    rw [Option.bind_eq_some_iff] at h
    obtain ⟨y, hy, h⟩ := h
    cases h
    exact .inr ⟨x, y, hx, hy, rfl⟩

/-- A finite number added to one with a place in the order gives one with a place in the order. -/
theorem IsComparable.add? {a b c : Number} (ha : a.IsComparable) (hb : b.isFinite? = some true)
    (h : a.add? b = some c) : c.IsComparable := by
  rcases combine?_eq h with ⟨n, rfl⟩ | ⟨x, y, hx, hy, rfl⟩
  · exact isComparable_int n
  · exact isComparable_ofFloat
      (Binary64.add_ne_nan (ofFloat_ne_nan_of_toFloat? ha hx) (isFinite_of_isFinite? hb hy))

end Number

end Gamebook
