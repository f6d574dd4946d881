/-
**Adding one half to an integral float.**

A float is rounded to an integer by adding one half and flooring the sum.  The sum is a float again:
it has 53 binary digits and no more.  Up to `2 ^ 52` one half is among them.  Above, the sum lies
half way between two integers and is rounded to the even one, or one half is lost altogether; so the
sum is floored to the integer itself, but for odd integers above `2 ^ 52`.

Addition is followed through the parts of a float: the mantissas are added over the lesser exponent,
and the sum is shifted to 53 digits, while two bits remember how what is lost compares with one
half.

Main definitions:

* `Binary64.ofUnpacked` — what a float that has been taken apart stands for;
* `Binary64.Extends` — what the two bits behind a mantissa remember;
* `Binary64.halfSum`, `Binary64.halfUp` — an integral float with one half added, and the floor of
  that.

Main results:

* `Binary64.Extends.roundedMantissa` — the bits round a mantissa to the nearest one;
* `Binary64.hasValue_pack_round` — **what a rounded mantissa stands for**;
* `Binary64.HasValue.add_half`, `Binary64.floor_halfSum` — **an integral float with one half added,
  and floored**.
-/

import Gamebook.Proofs.Number.Largest
import Gamebook.Proofs.Number.Nearest

set_option autoImplicit false

namespace Gamebook

open Float.Model (UnpackedFloat Format)
open Float.Model.UnpackedFloat

namespace Binary64

/-! ### Floats taken apart -/

/-- Whether a sign is that of the negative numbers. -/
def isNegative : Sign → Bool
  | .negative => true
  | .positive => false

/-- What a float that has been taken apart stands for. -/
def ofUnpacked : UnpackedFloat → Binary64
  | .notANumber => nan
  | .infinity s => infinite (isNegative s)
  | .zero s => finite (isNegative s) 0 leastExponent
  | .finite s m e _ => finite (isNegative s) m e

theorem isNegative_unpackSign (b : BitVec 64) :
    isNegative (Sign.ofBitVec (@unpackSign Format.binary64 b)) = decide (twoTo 63 ≤ b.toNat) := by
  have h63 : twoTo 63 = 9223372036854775808 := rfl
  have hsign : (@unpackSign Format.binary64 b).toNat = b.toNat / 9223372036854775808 := by
    have hlt := b.isLt
    simp [unpackSign, BitVec.extractLsb, Nat.shiftRight_eq_div_pow]
    omega
  unfold Sign.ofBitVec
  split
  · rename_i h
    rw [← BitVec.toNat_inj, hsign] at h
    simp [isNegative, h63] at h ⊢
    omega
  · rename_i h
    rw [← BitVec.toNat_inj, hsign] at h
    simp [isNegative, h63] at h ⊢
    omega

theorem toNat_one_append (mantissa : BitVec 52) :
    (1#1 ++ mantissa).toNat = twoTo 52 + mantissa.toNat := by
  rw [BitVec.toNat_append, ← Nat.shiftLeft_add_eq_or_of_lt mantissa.isLt]
  rfl

/-- The reading of a float is that of its parts. -/
theorem ofFloat_eq_ofUnpacked (x : Float) : ofFloat x = ofUnpacked x.toModel.unpack := by
  have hbits : x.toBits.toNat = x.toModel.toBits.toBitVec.toNat := rfl
  have hexponent := toNat_unpackExponent x.toModel.toBits.toBitVec
  have hmantissa := toNat_unpackMantissa x.toModel.toBits.toBitVec
  have hfull (exponent : BitVec 11) : exponent = -1#_ ↔ exponent.toNat = 2047 := by
    rw [← BitVec.toNat_inj]
    rfl
  have hzero {w : Nat} (v : BitVec w) : v = 0#_ ↔ v.toNat = 0 := by
    rw [← BitVec.toNat_inj, BitVec.toNat_ofNat, Nat.zero_mod]
  have hbias : ((Format.binary64.exponentBias : Nat) : Int) = 1023 := rfl
  unfold ofFloat Float.Model.unpack unpack
  simp only [hbits, ← hexponent, ← hmantissa, ← isNegative_unpackSign, fractionBits, ← hfull,
    ← hzero]
  split
  · split <;> rfl
  split
  · split
    · rename_i h
      rw [h]
      rfl
    · rename_i h _
      rw [ofUnpacked, h, hbias]
      rfl
  · rw [ofUnpacked, toNat_one_append, hbias, leastExponent]
    push_cast
    congr 1
    ring

/-- A mantissa with 53 digits and its exponent survive being packed. -/
theorem unpack_pack_finite (s : Sign) {m : Nat} {e : Int} (hpos : 0 < m) (hm : twoTo 52 ≤ m)
    (hm' : m < twoTo 53) (he : leastExponent ≤ e) (he' : e ≤ 971) :
    unpack Format.binary64 (pack Format.binary64 (.finite s m e hpos)) = .finite s m e hpos := by
  have h52 : twoTo 52 = 4503599627370496 := rfl
  have h53 : twoTo 53 = 9007199254740992 := rfl
  have hlog : m.log2 = 52 := (Nat.log2_eq_iff hpos.ne').2 ⟨hm, hm'⟩
  have hbias : ((Format.binary64.exponentBias : Nat) : Int) = 1023 := rfl
  rw [leastExponent] at he
  obtain ⟨biased, hbiased⟩ : ∃ b : Nat, e = b - 1075 := ⟨(e + 1075).toNat, by omega⟩
  subst hbiased
  have hpack : pack Format.binary64 (.finite s m (biased - 1075) hpos) =
      packComponents Format.binary64 s (BitVec.ofNat 11 biased) (BitVec.ofNat 52 m) := by
    have htoNat : ((biased : Int) - 1075 + 1023 + (52 : Nat)).toNat = biased := by omega
    simp only [pack, hbias, hlog, htoNat]
    rw [if_neg (by norm_num; omega), if_pos (by decide)]
  have hmantissa : (1#1 ++ BitVec.ofNat 52 m).toNat = m := by
    rw [toNat_one_append, BitVec.toNat_ofNat, h52]
    omega
  have hexponent : (BitVec.ofNat 11 biased).toNat = biased := by
    rw [BitVec.toNat_ofNat]
    omega
  have hfull : BitVec.ofNat 11 biased ≠ -1#_ := by
    rw [Ne, ← BitVec.toNat_inj, hexponent]
    simp
    omega
  have hzero : BitVec.ofNat 11 biased ≠ 0#_ := by
    rw [Ne, ← BitVec.toNat_inj, hexponent]
    simp
    omega
  simp only [hpack, unpack, unpackExponent_packComponents, unpackMantissa_packComponents,
    unpackSign_packComponents, Sign.ofBitVec_toBitVec, if_neg hfull, if_neg hzero]
  simp only [hmantissa, hexponent, hbias]
  congr 1

/-! ### Rounding a mantissa -/

/-- The bits behind a mantissa `q` tell how the rest `r` compares with one half of `den`. -/
structure Extends (em : ExtendedMantissa) (q r den : Nat) : Prop where
  mantissa : em.mantissa = q
  roundBit : em.roundBit = true ↔ den ≤ 2 * r
  stickyBit : em.stickyBit = true ↔ 2 * r ≠ 0 ∧ 2 * r ≠ den

theorem Extends.shiftRightOne {em : ExtendedMantissa} {m den : Nat} (hden : 0 < den)
    (h : Extends em (m / den) (m % den) den) :
    Extends em.shiftRightOne (m / (den * 2)) (m % (den * 2)) (den * 2) := by
  have hlt := Nat.mod_lt m hden
  have hmod : m % (den * 2) = m % den + den * (m / den % 2) := Nat.mod_mul
  refine ⟨?_, ?_, ?_⟩
  · rw [ExtendedMantissa.shiftRightOne, h.mantissa, Nat.div_div_eq_div_mul]
  all_goals
    obtain hbit | hbit : m / den % 2 = 0 ∨ m / den % 2 = 1 := by omega
    all_goals
      rw [hbit] at hmod
      simp only [ExtendedMantissa.shiftRightOne, bne_iff_ne, Bool.or_eq_true, h.mantissa,
        h.roundBit, h.stickyBit, hmod, hbit]
      omega

theorem extends_shiftRight (m n : Nat) :
    Extends (ExtendedMantissa.mk m false false >>> n) (m / twoTo n) (m % twoTo n) (twoTo n) := by
  induction n with
  | zero => refine ⟨?_, ?_, ?_⟩ <;> simp [HShiftRight.hShiftRight, Nat.repeat, Nat.mod_one]
  | succ n ih => exact ih.shiftRightOne (twoTo_pos n)

/-- The bits behind a mantissa round it to the nearest one, a half to the even one. -/
theorem Extends.roundedMantissa {em : ExtendedMantissa} {m den : Nat} (hden : 0 < den)
    (h : Extends em (m / den) (m % den) den) : em.roundedMantissa = roundHalfEven m den := by
  obtain ⟨q, roundBit, stickyBit⟩ := em
  obtain ⟨hq, hround, hsticky⟩ := h
  dsimp only at hq hround hsticky
  have hlt := Nat.mod_lt m hden
  unfold roundHalfEven
  dsimp only
  cases roundBit <;> cases stickyBit <;>
    simp only [ExtendedMantissa.roundedMantissa, ExtendedMantissa.accuracy,
      Accuracy.roundToNearestEven, hq, reduceCtorEq, false_iff, true_iff] at hround hsticky ⊢ <;>
    split <;> omega

theorem roundedMantissa_shiftRight (m n : Nat) :
    (ExtendedMantissa.mk m false false >>> n).roundedMantissa = roundHalfEven m (twoTo n) :=
  (extends_shiftRight m n).roundedMantissa (twoTo_pos n)

variable {m : Nat} {e : Int}

theorem targetExponent_eq (hm : 52 ≤ m.log2) (he : leastExponent ≤ e) :
    Format.binary64.targetExponent (Float.Model.totalExponent m e) = e + (m.log2 - 52 : Nat) := by
  simp [Format.targetExponent, Float.Model.totalExponent, Format.mantissaBits, Format.minExponent]
  rw [leastExponent] at he
  omega

/-- A mantissa with 53 digits or more is shifted until it has 53. -/
theorem shiftToTargetExponent_eq (hm : 52 ≤ m.log2) (he : leastExponent ≤ e) :
    shiftToTargetExponent Format.binary64 m e .exact =
      (ExtendedMantissa.mk m false false >>> (m.log2 - 52), e + (m.log2 - 52 : Nat)) := by
  have hshift : (e + ((m.log2 - 52 : Nat) : Int) - e).toNat = m.log2 - 52 := by omega
  simp only [shiftToTargetExponent, shiftToExponent, targetExponent_eq hm he, hshift,
    ExtendedMantissa.ofMantissaAndAccuracy]

theorem roundHalfEven_bounds (hm : 52 ≤ m.log2) :
    twoTo 52 ≤ roundHalfEven m (twoTo (m.log2 - 52)) ∧
      roundHalfEven m (twoTo (m.log2 - 52)) ≤ twoTo 53 := by
  have hzero : m ≠ 0 := by
    rintro rfl
    exact absurd hm (by decide)
  refine ⟨le_roundHalfEven (twoTo_pos _) ?_, roundHalfEven_le ?_⟩
  · rw [← twoTo_add, Nat.add_sub_cancel' hm]
    exact twoTo_log2_le hzero
  · rw [← twoTo_add, show 53 + (m.log2 - 52) = m.log2 + 1 by omega]
    exact Nat.lt_log2_self.le

/-- A mantissa with 53 digits or more is rounded to 53; where the last carry makes one too many the
exponent takes it. -/
theorem round_eq (s : Sign) (hm : 52 ≤ m.log2) (he : leastExponent ≤ e) :
    ∃ m' e' hpos, UnpackedFloat.round Format.binary64 s m e = .finite s m' e' hpos ∧
      twoTo 52 ≤ m' ∧ m' < twoTo 53 ∧ leastExponent ≤ e' ∧ e' ≤ e + (m.log2 - 52 : Nat) + 1 ∧
      (m' : ℚ) * 2 ^ e' =
        roundHalfEven m (twoTo (m.log2 - 52)) * 2 ^ (e + (m.log2 - 52 : Nat)) := by
  obtain ⟨hlow, hhigh⟩ := roundHalfEven_bounds hm
  generalize hr : roundHalfEven m (twoTo (m.log2 - 52)) = r at hlow hhigh ⊢
  generalize he₁ : e + ((m.log2 - 52 : Nat) : Int) = e₁
  have hle : leastExponent ≤ e₁ := by omega
  have hzero : r ≠ 0 := by
    have hpos := twoTo_pos 52
    omega
  have hlog : 52 ≤ r.log2 := (Nat.le_log2 hzero).2 hlow
  have hround : UnpackedFloat.round Format.binary64 s m e =
      if h : r / twoTo (r.log2 - 52) = 0 then .zero s
      else .finite s (r / twoTo (r.log2 - 52)) (e₁ + (r.log2 - 52 : Nat))
        (Nat.pos_of_ne_zero h) := by
    have hshift : (e - e₁).toNat = 0 := by omega
    simp only [UnpackedFloat.round, targetExponent_eq hm he, he₁, decreaseExponent, hshift,
      Nat.shiftLeft_zero, Nat.cast_zero, sub_zero, roundWithAccuracy,
      shiftToTargetExponent_eq hm he, roundedMantissa_shiftRight, hr,
      shiftToTargetExponent_eq hlog hle, (extends_shiftRight r _).mantissa]
  rcases hhigh.lt_or_eq with hlt | heq
  · have hlog' : r.log2 = 52 := (Nat.log2_eq_iff hzero).2 ⟨hlow, hlt⟩
    simp only [hlog', Nat.sub_self, twoTo_zero, Nat.div_one, dif_neg hzero, Nat.cast_zero,
      add_zero] at hround
    exact ⟨r, e₁, _, hround, hlow, hlt, hle, by omega, rfl⟩
  · subst heq
    have hlog' : (twoTo 53).log2 = 53 := by decide
    have hdiv : twoTo 53 / twoTo (53 - 52) = twoTo 52 := by decide
    simp only [hlog', hdiv, dif_neg (twoTo_pos 52).ne'] at hround
    refine ⟨twoTo 52, e₁ + 1, _, hround, le_rfl, by decide, by omega, le_rfl, ?_⟩
    rw [zpow_add_one₀ two_ne_zero, show twoTo 53 = twoTo 52 * 2 from rfl]
    push_cast
    ring

/-- **What a rounded mantissa stands for.** -/
theorem hasValue_pack_round {x : Float} {s : Sign}
    (hx : x.toModel = .pack (UnpackedFloat.round Format.binary64 s m e)) (hm : 52 ≤ m.log2)
    (he : leastExponent ≤ e) (he' : e + m.log2 ≤ 1022) :
    HasValue x (signed (isNegative s) (roundHalfEven m (twoTo (m.log2 - 52))) *
      2 ^ (e + (m.log2 - 52 : Nat))) := by
  obtain ⟨m', e', hpos, hround, hlow, hhigh, hleast, hgreatest, hvalue⟩ := round_eq s hm he
  have hunpack : x.toModel.unpack = .finite s m' e' hpos := by
    rw [hx, hround]
    exact unpack_pack_finite s hpos hlow hhigh hleast (by omega)
  refine ⟨isNegative s, m', e', by rw [ofFloat_eq_ofUnpacked, hunpack]; rfl, ?_⟩
  rw [finiteValue, cast_signed, cast_signed, mul_assoc, hvalue, mul_assoc]

/-! ### Adding one half -/

variable {x : Float} {n : Int}

/-- The sign of the negative numbers or of the others. -/
def signOf (negative : Bool) : Sign := if negative then .negative else .positive

@[simp] theorem isNegative_signOf (negative : Bool) : isNegative (signOf negative) = negative := by
  cases negative <;> rfl

theorem signed_isNegative (s : Sign) (m : Nat) : signed (isNegative s) m = s.apply m := by
  cases s <;> rfl

theorem normalize_eq {n : Int} (hn : n ≠ 0) (e : Int) (zeroSign : Sign) :
    UnpackedFloat.normalize Format.binary64 n e zeroSign =
      UnpackedFloat.round Format.binary64 (signOf (decide (n < 0))) n.natAbs e := by
  rcases lt_trichotomy n 0 with h | h | h
  · have hnat : (-n).toNat = n.natAbs := by omega
    simp [UnpackedFloat.normalize, compare_lt_iff_lt.2 h, hnat, signOf, h]
  · exact absurd h hn
  · have hnat : n.toNat = n.natAbs := by omega
    simp [UnpackedFloat.normalize, compare_gt_iff_gt.2 h, hnat, signOf, not_lt.2 h.le]

/-- One half, taken apart. -/
theorem unpack_half : (0.5 : Float).toModel.unpack =
    .finite .positive (twoTo 52) (-53) (twoTo_pos 52) := rfl

/-- An integral float has at most 53 digits in front of its zeros. -/
theorem HasValue.exists_natAbs_eq (h : HasValue x n) :
    ∃ m k, m < twoTo 53 ∧ n.natAbs = m * twoTo k := by
  obtain ⟨s, m, e, hx, hvalue⟩ := h
  have hm := (bounds_of_ofFloat hx).1
  have habs := natAbs_eq_of_finiteValue hvalue
  rcases le_total 0 e with he | he
  · refine ⟨m, e.toNat, hm, ?_⟩
    rw [two_zpow_of_nonneg he] at habs
    exact_mod_cast habs
  · refine ⟨n.natAbs, 0, ?_, by simp⟩
    have hle : (n.natAbs : ℚ) ≤ m := by
      rw [habs]
      exact mul_le_of_le_one_right (Nat.cast_nonneg m) (zpow_le_one_of_nonpos₀ one_le_two he)
    exact lt_of_le_of_lt (by exact_mod_cast hle) hm

/-- An integral float that is not zero has no digits below one half. -/
theorem le_exponent_of_finiteValue {s : Bool} (hpos : 0 < m) (hm : m < twoTo 53)
    (hvalue : finiteValue s m e = n) : -53 ≤ e := by
  by_contra hlt
  have habs := natAbs_eq_of_finiteValue hvalue
  have hpositive : (0 : ℚ) < n.natAbs := by
    rw [habs]
    positivity
  have hsmall : (n.natAbs : ℚ) < 1 := by
    calc (n.natAbs : ℚ)
      _ = m * 2 ^ e := habs
      _ < (twoTo 53 : Nat) * 2 ^ e := by gcongr
      _ ≤ (twoTo 53 : Nat) * 2 ^ (-53 : Int) := by
          gcongr
          · exact one_le_two
          · omega
      _ = 1 := by rw [cast_twoTo]; norm_num
  have hnat : 0 < n.natAbs ∧ n.natAbs < 1 := ⟨by exact_mod_cast hpositive, by exact_mod_cast hsmall⟩
  omega

/-- The sum of an integral float that is not zero and one half, before it is rounded. -/
theorem add_half_finite {s : Sign} (hpos : 0 < m) (hm : m < twoTo 53)
    (hvalue : finiteValue (isNegative s) m e = n) :
    UnpackedFloat.add Format.binary64 (.finite s m e hpos)
        (.finite .positive (twoTo 52) (-53) (twoTo_pos 52)) =
      UnpackedFloat.round Format.binary64 (signOf (decide (n < 0)))
        (twoTo 52 * (2 * n + 1).natAbs) (-53) := by
  have he := le_exponent_of_finiteValue hpos hm hvalue
  have hmantissa : s.apply (mantissaAt m e (-53)) = n * twoTo 53 := by
    rw [finiteValue_eq he, signed_isNegative, zpow_neg, ← div_eq_mul_inv,
      div_eq_iff (by positivity)] at hvalue
    have htwo : (2 : ℚ) ^ (53 : Int) = (twoTo 53 : Nat) := (cast_twoTo 53).symm
    rw [htwo] at hvalue
    exact_mod_cast hvalue
  have hshift : m <<< (e - -53).toNat = mantissaAt m e (-53) := Nat.shiftLeft_eq _ _
  have hsum : s.apply (mantissaAt m e (-53)) + Sign.positive.apply (twoTo 52 : Nat) =
      twoTo 52 * (2 * n + 1) := by
    rw [hmantissa, show twoTo 53 = twoTo 52 * 2 from rfl, Sign.apply]
    push_cast
    ring
  have htwo : (0 : Int) < twoTo 52 := Int.natCast_pos.2 (twoTo_pos 52)
  have hne : (twoTo 52 : Int) * (2 * n + 1) ≠ 0 := mul_ne_zero htwo.ne' (by omega)
  have hsign : (twoTo 52 : Int) * (2 * n + 1) < 0 ↔ n < 0 := by
    rw [mul_neg_iff]
    omega
  simp only [UnpackedFloat.add, decreaseExponent, min_eq_right he, hshift, sub_self,
    Int.toNat_zero, Nat.shiftLeft_zero, hsum, normalize_eq hne, hsign, Int.natAbs_mul,
    Int.natAbs_natCast]

/-- The sum of an integral float and one half, before it is rounded. -/
theorem HasValue.toModel_add_half (h : HasValue x n) :
    (x + 0.5).toModel = .pack (UnpackedFloat.round Format.binary64 (signOf (decide (n < 0)))
      (twoTo 52 * (2 * n + 1).natAbs) (-53)) := by
  obtain ⟨s, m, e, hx, hvalue⟩ := h
  have hadd : (x + 0.5).toModel =
      .pack (UnpackedFloat.add Format.binary64 x.toModel.unpack (0.5 : Float).toModel.unpack) := rfl
  have hm := (bounds_of_ofFloat hx).1
  rw [hadd, unpack_half]
  rw [ofFloat_eq_ofUnpacked] at hx
  cases hunpack : x.toModel.unpack with
  | notANumber | infinity => rw [hunpack] at hx; cases hx
  | zero s =>
      rw [hunpack] at hx
      cases hx
      obtain rfl : n = 0 := by
        simp [finiteValue, signed] at hvalue
        exact_mod_cast hvalue.symm
      rfl
  | finite s m e hpos =>
      rw [hunpack] at hx
      cases hx
      rw [add_half_finite hpos hm hvalue]

/-- The sum of an integer and one half, rounded to 53 digits. -/
def halfSum (n : Int) : ℚ :=
  (signed (decide (n < 0)) (roundHalfEven (twoTo 52 * (2 * n + 1).natAbs)
    (twoTo (2 * n + 1).natAbs.log2)) : ℚ) * 2 ^ (-53 + ((2 * n + 1).natAbs.log2 : Int))

theorem log2_twoTo_mul (k : Nat) {n : Nat} (hn : n ≠ 0) :
    (twoTo k * n).log2 = k + n.log2 := by
  induction k with
  | zero => simp
  | succ k ih =>
      rw [twoTo_succ, Nat.mul_comm (twoTo k), Nat.mul_assoc,
        Nat.log2_two_mul (Nat.mul_ne_zero (twoTo_pos k).ne' hn), ih]
      omega

/-- The sum of an integral float and one half. -/
theorem HasValue.add_half (h : HasValue x n) (hn : n.natAbs < twoTo 1023) :
    HasValue (x + 0.5) (halfSum n) := by
  have hzero : (2 * n + 1).natAbs ≠ 0 := by omega
  have hlog := log2_twoTo_mul 52 hzero
  have hlimit : (2 * n + 1).natAbs.log2 < 1024 := by
    refine log2_lt_of_lt_twoTo hzero ?_
    rw [twoTo_succ]
    omega
  have hvalue := hasValue_pack_round h.toModel_add_half (by omega) (by decide) (by omega)
  rwa [isNegative_signOf, hlog, Nat.add_sub_cancel_left] at hvalue

/-! ### The sum, floored -/

/-- What remains of one half when it has been added and the sum is floored: above `2 ^ 52` an odd
number is rounded up to the next one. -/
def halfUp (n : Int) : Int := if twoTo 52 < n.natAbs ∧ n % 2 = 1 then n + 1 else n

theorem roundHalfEven_mul_mul {num den c : Nat} (hc : 0 < c) :
    roundHalfEven (c * num) (c * den) = roundHalfEven num den := by
  have hdiv : c * num / (c * den) = num / den := Nat.mul_div_mul_left _ _ hc
  have hmod : c * num % (c * den) = c * (num % den) := Nat.mul_mod_mul_left _ _ _
  unfold roundHalfEven
  dsimp only
  rw [hdiv, hmod]
  have hlt : c * den < 2 * (c * (num % den)) ↔ den < 2 * (num % den) := by
    rw [Nat.mul_left_comm, Nat.mul_lt_mul_left hc]
  have heq : 2 * (c * (num % den)) = c * den ↔ 2 * (num % den) = den := by
    rw [Nat.mul_left_comm, Nat.mul_right_inj hc.ne']
  simp only [hlt, heq]

/-- One half above a multiple of a power of two is rounded back, but for odd numbers. -/
theorem roundHalfEven_succ (c : Nat) {u : Nat} (hu : 0 < u) :
    roundHalfEven (2 * (c * u) + 1) (2 * u) = if u = 1 ∧ c % 2 = 1 then c + 1 else c := by
  rw [Nat.mul_left_comm, roundHalfEven_add c (by omega)]
  exact if_congr (by omega) rfl rfl

/-- One half below a multiple of a power of two is rounded back, but for odd numbers. -/
theorem roundHalfEven_pred {c u : Nat} (hc : 0 < c) (hu : 0 < u) :
    roundHalfEven (2 * (c * u) - 1) (2 * u) = if u = 1 ∧ c % 2 = 1 then c - 1 else c := by
  obtain ⟨b, rfl⟩ : ∃ b, c = b + 1 := ⟨c - 1, by omega⟩
  have hnum : 2 * ((b + 1) * u) - 1 = b * (2 * u) + (2 * u - 1) := by
    have hexpand : 2 * ((b + 1) * u) = b * (2 * u) + 2 * u := by ring
    omega
  rw [hnum, roundHalfEven_add b (by omega)]
  split <;> split <;> omega

theorem signed_two_mul_add_one (n : Int) :
    signed (decide (n < 0)) (2 * n + 1).natAbs = 2 * n + 1 := by
  have hsign : decide (n < 0) = decide (2 * n + 1 < 0) := by
    rw [decide_eq_decide]
    omega
  rw [hsign, signed_natAbs]

/-- The sum has at most 53 digits and is not rounded. -/
theorem floor_halfSum_of_le (h : (2 * n + 1).natAbs.log2 ≤ 52) : ⌊halfSum n⌋ = halfUp n := by
  have hsmall : n.natAbs ≤ twoTo 52 := by
    have hlt : (2 * n + 1).natAbs < twoTo 53 :=
      Nat.lt_of_lt_of_le Nat.lt_log2_self (twoTo_le (Nat.succ_le_succ h))
    rw [show twoTo 53 = 2 * twoTo 52 from rfl] at hlt
    omega
  rw [halfSum]
  generalize hj : (2 * n + 1).natAbs.log2 = j at h ⊢
  have hsplit : twoTo 52 * (2 * n + 1).natAbs = (2 * n + 1).natAbs * twoTo (52 - j) * twoTo j := by
    rw [Nat.mul_assoc, ← twoTo_add, Nat.sub_add_cancel h, Nat.mul_comm]
  have hpow : (2 : ℚ) ^ (52 - j) * 2 ^ (-53 + (j : Int)) = 2⁻¹ := by
    rw [← zpow_natCast, ← zpow_add₀ two_ne_zero, show (2 : ℚ)⁻¹ = 2 ^ (-1 : Int) by norm_num]
    congr 1
    omega
  rw [hsplit, roundHalfEven_mul _ (twoTo_pos j), signed_mul, signed_two_mul_add_one, Int.cast_mul,
    Int.cast_natCast, cast_twoTo, mul_assoc, hpow, halfUp, if_neg (by omega), Int.floor_eq_iff]
  push_cast
  constructor <;> linarith

/-- An integral float is a multiple of the last digit that its sum with one half keeps. -/
theorem twoTo_dvd_natAbs {t : Nat} (ht : (2 * n + 1).natAbs.log2 = 53 + t)
    (hn : ∃ m k, m < twoTo 53 ∧ n.natAbs = m * twoTo k) : twoTo t ∣ n.natAbs := by
  obtain ⟨m, k, hm, hn⟩ := hn
  have htk : t ≤ k := by
    have hlog : (2 * n + 1).natAbs.log2 < k + 54 := by
      refine log2_lt_of_lt_twoTo (by omega) ?_
      have hmul := Nat.mul_le_mul_right (twoTo k) (Nat.succ_le_of_lt hm)
      have hpos := twoTo_pos k
      rw [Nat.succ_mul, ← hn] at hmul
      rw [twoTo_add, show twoTo 54 = 2 * twoTo 53 from rfl, Nat.mul_left_comm,
        Nat.mul_comm (twoTo k)]
      omega
    omega
  rw [hn, ← Nat.sub_add_cancel htk, twoTo_add, ← Nat.mul_assoc]
  exact Nat.dvd_mul_left _ _

theorem twoTo_eq_one_iff {t : Nat} : twoTo t = 1 ↔ t = 0 :=
  Nat.pow_eq_one.trans (or_iff_right (by decide))

/-- Rounded to a multiple of the last digit the sum is the number itself, unless one half is that of
the last digit and the number is odd. -/
theorem signed_roundHalfEven {c t : Nat} (hc : n.natAbs = c * twoTo t)
    (hlarge : twoTo 52 ≤ n.natAbs) :
    signed (decide (n < 0)) (roundHalfEven (2 * n + 1).natAbs (2 * twoTo t) * twoTo t) =
      halfUp n := by
  have hcpos : 0 < c := by
    rw [Nat.pos_iff_ne_zero]
    rintro rfl
    have hpos := twoTo_pos 52
    omega
  have hodd : twoTo 52 < n.natAbs ∧ n % 2 = 1 ↔ twoTo t = 1 ∧ c % 2 = 1 := by
    have heven : twoTo 52 % 2 = 0 := by decide
    rw [twoTo_eq_one_iff]
    cases t with
    | zero =>
        rw [twoTo_zero, Nat.mul_one] at hc
        omega
    | succ t =>
        rw [twoTo_succ, ← Nat.mul_assoc] at hc
        omega
  rw [halfUp, if_congr hodd rfl rfl]
  rcases lt_or_ge n 0 with hneg | hpos
  · have habs : (2 * n + 1).natAbs = 2 * (c * twoTo t) - 1 := by omega
    rw [habs, roundHalfEven_pred hcpos (twoTo_pos t), decide_eq_true hneg]
    simp only [signed, if_true]
    split
    · rename_i hone
      rw [hone.1, Nat.mul_one] at hc ⊢
      omega
    · omega
  · have habs : (2 * n + 1).natAbs = 2 * (c * twoTo t) + 1 := by omega
    rw [habs, roundHalfEven_succ c (twoTo_pos t), decide_eq_false (not_lt.2 hpos)]
    simp only [signed, Bool.false_eq_true, if_false]
    split
    · rename_i hone
      rw [hone.1, Nat.mul_one] at hc ⊢
      omega
    · omega

/-- The sum has more digits and is rounded. -/
theorem floor_halfSum_of_gt (h : 52 < (2 * n + 1).natAbs.log2)
    (hn : ∃ m k, m < twoTo 53 ∧ n.natAbs = m * twoTo k) : ⌊halfSum n⌋ = halfUp n := by
  have hlarge : twoTo 52 ≤ n.natAbs := by
    have hle := (twoTo_le h).trans (twoTo_log2_le (n := (2 * n + 1).natAbs) (by omega))
    rw [show twoTo (52 + 1) = 2 * twoTo 52 from rfl] at hle
    omega
  obtain ⟨t, ht⟩ : ∃ t, (2 * n + 1).natAbs.log2 = 53 + t := ⟨_, (Nat.add_sub_cancel' h).symm⟩
  obtain ⟨c, hc⟩ := twoTo_dvd_natAbs ht hn
  have hround : roundHalfEven (twoTo 52 * (2 * n + 1).natAbs) (twoTo (53 + t)) =
      roundHalfEven (2 * n + 1).natAbs (2 * twoTo t) := by
    rw [twoTo_add, show twoTo 53 = twoTo 52 * 2 from rfl, Nat.mul_assoc,
      roundHalfEven_mul_mul (twoTo_pos 52)]
  have hpow : (2 : ℚ) ^ (-53 + ((53 + t : Nat) : Int)) = (twoTo t : Nat) := by
    rw [cast_twoTo, ← zpow_natCast]
    congr 1
    push_cast
    ring
  rw [halfSum, ht, hround, hpow, ← Int.cast_natCast, ← Int.cast_mul, Int.floor_intCast,
    ← signed_mul, signed_roundHalfEven (hc.trans (Nat.mul_comm _ _)) hlarge]

/-- **An integral float with one half added, floored.** -/
theorem floor_halfSum (h : HasValue x n) : ⌊halfSum n⌋ = halfUp n := by
  rcases Nat.lt_or_ge 52 (2 * n + 1).natAbs.log2 with hlt | hge
  · exact floor_halfSum_of_gt hlt h.exists_natAbs_eq
  · exact floor_halfSum_of_le hge

end Binary64

end Gamebook
