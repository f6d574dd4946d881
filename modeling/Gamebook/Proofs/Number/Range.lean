/-
**Numbers within the range of floats.**

An integer is out of range when it lies beyond the largest float; every other number is within it.
Classes and arithmetic are defined for numbers in range.  What they give may be out of range again,
but by a factor of two at most, and it is still short enough to be written.

Main definitions:

* `Number.InRange` — the number can be taken for a float;
* `Number.size` — the magnitude of an integer;
* `Number.Follows` — what a change in range makes of a number.

Main results:

* `Number.InRange.exists_combine` — **arithmetic on numbers in range has a result**;
* `Number.InRange.size_lt`, `Number.InRange.of_size_lt` — an integer in range has at most 1024
  binary digits, and one with less than 1024 is in range;
* `Number.Follows.add` — the sum of two numbers in range follows the first one;
* `Value.isFiniteNumber_int` — an integer below `10 ^ 300` in magnitude is a finite number;
* `Value.isWritable_num` — **what is not much larger than the range can be written**.
-/

import Gamebook.Proofs.Number.Finite
import Gamebook.Value.Quantity
import Gamebook.Value.Text

set_option autoImplicit false

namespace Gamebook

/-! ### The range -/

namespace Number

/-- The number can be taken for a float. -/
def InRange (n : Number) : Prop := n.toFloat?.isSome = true

instance (n : Number) : Decidable n.InRange := inferInstanceAs (Decidable (_ = true))

variable {a b c n : Number}

theorem InRange.exists_toFloat (h : n.InRange) : ∃ x, n.toFloat? = some x :=
  Option.isSome_iff_exists.1 h

@[simp] theorem inRange_float (x : Float) : InRange (.float x) := rfl

@[simp] theorem inRange_nan (origin : NaNOrigin) : InRange (.nan origin) := rfl

@[simp] theorem inRange_ofFloat (x : Float) : (ofFloat x).InRange := by
  unfold ofFloat
  split
  · exact inRange_nan _
  · exact inRange_float _

theorem InRange.isSome_isNaN (h : n.InRange) : n.isNaN?.isSome = true := by
  obtain ⟨x, hx⟩ := h.exists_toFloat
  simp only [isNaN?, hx, Option.bind_eq_bind, Option.bind_some]
  split <;> rfl

theorem InRange.isSome_isFinite (h : n.InRange) : n.isFinite?.isSome = true := by
  obtain ⟨x, hx⟩ := h.exists_toFloat
  simp only [isFinite?, hx, Option.bind_eq_bind, Option.bind_some]
  split <;> rfl

/-- **Arithmetic on numbers in range has a result.** -/
theorem InRange.exists_combine (ha : a.InRange) (hb : b.InRange) (onInt : Int → Int → Int)
    (onFloat : Float → Float → Float) : ∃ c, combine? onInt onFloat a b = some c := by
  obtain ⟨x, hx⟩ := ha.exists_toFloat
  obtain ⟨y, hy⟩ := hb.exists_toFloat
  unfold combine?
  split
  · exact ⟨_, rfl⟩
  · exact ⟨ofFloat (onFloat x y), by rw [hx, hy]; rfl⟩

end Number

/-! ### Magnitudes -/

theorem le_log2_of_twoTo_le {k n : Nat} (h : twoTo k ≤ n) : k ≤ n.log2 :=
  (Nat.le_log2 (Nat.ne_of_gt (Nat.lt_of_lt_of_le (twoTo_pos k) h))).2 h

theorem twoTo_le {m n : Nat} (h : m ≤ n) : twoTo m ≤ twoTo n :=
  Nat.pow_le_pow_right (by decide) h

theorem twoTo_log2_le {n : Nat} (h : n ≠ 0) : twoTo n.log2 ≤ n := Nat.log2_self_le h

namespace Binary64

theorem binaryOrder_one {n : Nat} (hn : n ≠ 0) : binaryOrder n 1 = n.log2 := by
  have hlog : Nat.log2 1 = 0 := rfl
  have hle : ¬ n < twoTo n.log2 := Nat.not_lt.2 (twoTo_log2_le hn)
  simp [binaryOrder, hlog, scale, hle]

/-- The rest decides whether a quotient is rounded up. -/
theorem roundHalfEven_add {den : Nat} (c : Nat) {r : Nat} (hr : r < den) :
    roundHalfEven (c * den + r) den =
      if den < 2 * r ∨ (2 * r = den ∧ c % 2 = 1) then c + 1 else c := by
  have hdiv : (c * den + r) / den = c := by
    rw [Nat.add_comm, Nat.add_mul_div_right _ _ (by omega), Nat.div_eq_of_lt hr, Nat.zero_add]
  have hmod : (c * den + r) % den = r := by
    rw [Nat.add_comm, Nat.add_mul_mod_self_right, Nat.mod_eq_of_lt hr]
  rw [roundHalfEven, hdiv, hmod]

theorem roundHalfEven_mul {den : Nat} (c : Nat) (hden : 0 < den) :
    roundHalfEven (c * den) den = c :=
  (roundHalfEven_add c hden).trans (if_neg (by omega))

theorem le_roundHalfEven {num den c : Nat} (hden : 0 < den) (h : c * den ≤ num) :
    c ≤ roundHalfEven num den := by
  have hdiv : c ≤ num / den := (Nat.le_div_iff_mul_le hden).2 h
  unfold roundHalfEven
  dsimp only
  split <;> omega

/-- A quotient that is not beyond a natural number is not rounded to more than this number. -/
theorem roundHalfEven_le {num den q : Nat} (h : num ≤ q * den) : roundHalfEven num den ≤ q := by
  rcases Nat.eq_or_lt_of_le h with rfl | hlt
  · rcases Nat.eq_zero_or_pos den with rfl | hden
    · simp [roundHalfEven]
    · exact Nat.le_of_eq (roundHalfEven_mul q hden)
  · have hdiv : num / den < q := Nat.div_lt_of_lt_mul (by rwa [Nat.mul_comm])
    unfold roundHalfEven
    dsimp only
    split <;> omega

/-- A natural number with more than 1024 binary digits is rounded to an infinity. -/
theorem nearestBits_eq_infinityBits {n : Nat} (h : 1024 ≤ n.log2) :
    nearestBits n 1 = infinityBits := by
  have hn : n ≠ 0 := by
    rintro rfl
    simp at h
  -- 52 digits are kept behind the leading one
  have he : max leastExponent (binaryOrder n 1 - fractionBits) = ((n.log2 - 52 : Nat) : Int) := by
    rw [binaryOrder_one hn, leastExponent, fractionBits]
    omega
  have hmantissa : twoTo fractionBits ≤ roundHalfEven n (1 * twoTo (n.log2 - 52)) := by
    rw [one_mul]
    refine le_roundHalfEven (twoTo_pos _) ?_
    rw [← twoTo_add, fractionBits, Nat.add_sub_cancel' (by omega)]
    exact twoTo_log2_le hn
  have hexponent : 2046 ≤ (((n.log2 - 52 : Nat) : Int) - leastExponent).toNat := by
    rw [leastExponent]
    omega
  have hmul := Nat.mul_le_mul_right (twoTo fractionBits) hexponent
  unfold nearestBits
  rw [if_neg hn, he]
  simp only [scale, Int.natCast_nonneg, if_true, Int.toNat_natCast]
  refine min_eq_left ?_
  rw [infinityBits]
  omega

/-- A natural number with less than 1024 binary digits is rounded to a finite float. -/
theorem nearestBits_lt_infinityBits {n : Nat} (h : n.log2 < 1023) :
    nearestBits n 1 < infinityBits := by
  have hinfinity : infinityBits = 9218868437227405312 := rfl
  have hone : twoTo fractionBits = 4503599627370496 := rfl
  by_cases hn : n = 0
  · rw [nearestBits, if_pos hn, hinfinity]
    omega
  have he : max leastExponent (binaryOrder n 1 - fractionBits) = (n.log2 : Int) - 52 := by
    rw [binaryOrder_one hn, leastExponent, fractionBits]
    omega
  -- the mantissa has 53 digits, or it is the next power of two
  have hscale : (scale n 1 ((n.log2 : Int) - 52)).1 <
      twoTo 53 * (scale n 1 ((n.log2 : Int) - 52)).2 := by
    have hlt : n < twoTo (n.log2 + 1) := Nat.lt_log2_self
    unfold scale
    split
    · rename_i hle
      rwa [one_mul, ← twoTo_add, show 53 + ((n.log2 : Int) - 52).toNat = n.log2 + 1 by omega]
    · rename_i hle
      have hmul := Nat.mul_lt_mul_of_pos_right hlt (twoTo_pos (-((n.log2 : Int) - 52)).toNat)
      rwa [← twoTo_add,
        show n.log2 + 1 + (-((n.log2 : Int) - 52)).toNat = 53 by omega, ← Nat.mul_one (twoTo 53)]
        at hmul
  have hround := roundHalfEven_le hscale.le
  have htwo : twoTo 53 = 9007199254740992 := rfl
  have hexponent : ((n.log2 : Int) - 52 - leastExponent).toNat ≤ 2044 := by
    rw [leastExponent]
    omega
  unfold nearestBits
  rw [if_neg hn, he]
  dsimp only
  rw [hone]
  omega

end Binary64

namespace Number

variable {a b c n : Number}

/-- The magnitude of an integer; floats are short. -/
def size : Number → Nat
  | int n => n.natAbs
  | _ => 0

@[simp] theorem size_ofFloat (x : Float) : (ofFloat x).size = 0 := by
  unfold ofFloat
  split <;> rfl

theorem InRange.size_lt (h : n.InRange) : n.size < twoTo 1024 := by
  cases n with
  | int n =>
      by_contra hle
      have hbits : Binary64.nearestBits n.natAbs 1 = Binary64.infinityBits :=
        Binary64.nearestBits_eq_infinityBits (le_log2_of_twoTo_le (Nat.not_lt.1 hle))
      simp [InRange, toFloat?, Binary64.ofInt?, hbits] at h
  | float | nan => exact twoTo_pos _

/-- An integer with less than 1024 binary digits is within the range. -/
theorem InRange.of_size_lt {i : Int} (h : i.natAbs < twoTo 1023) : (int i).InRange := by
  have hlog : i.natAbs.log2 < 1023 := by
    by_contra hle
    have hpos : i.natAbs ≠ 0 := by
      intro hzero
      simp [hzero] at hle
    have htwo : twoTo 1023 ≤ twoTo i.natAbs.log2 := twoTo_le (Nat.not_lt.1 hle)
    have hself := twoTo_log2_le hpos
    omega
  have hbits := Nat.ne_of_lt (Binary64.nearestBits_lt_infinityBits hlog)
  simp [InRange, toFloat?, Binary64.ofInt?, hbits]

/-- Two integers give an integer, and everything else gives a float. -/
theorem combine_cases {onInt : Int → Int → Int} {onFloat : Float → Float → Float}
    (h : combine? onInt onFloat a b = some c) :
    (∃ i j, a = .int i ∧ b = .int j ∧ c = .int (onInt i j)) ∨ ∃ x, c = ofFloat x := by
  unfold combine? at h
  split at h
  · cases h
    exact .inl ⟨_, _, rfl, rfl, rfl⟩
  · obtain ⟨x, -, h⟩ := Option.bind_eq_some_iff.1 h
    obtain ⟨y, -, h⟩ := Option.bind_eq_some_iff.1 h
    cases h
    exact .inr ⟨_, rfl⟩

theorem size_add_le (h : a.add? b = some c) : c.size ≤ a.size + b.size := by
  rcases combine_cases h with ⟨i, j, rfl, rfl, rfl⟩ | ⟨x, rfl⟩
  · exact Int.natAbs_add_le i j
  · simp

theorem size_sub_le (h : a.sub? b = some c) : c.size ≤ a.size + b.size := by
  rcases combine_cases h with ⟨i, j, rfl, rfl, rfl⟩ | ⟨x, rfl⟩
  · exact Int.natAbs_sub_le i j
  · simp

/-! ### Changes in range -/

/-- The second number is what a change in range makes of the first one: it is at most twice as large
as the range, and has a difference to the first one. -/
structure Follows (a b : Number) : Prop where
  size_lt : b.size < 2 * twoTo 1024
  difference : ∃ d, b.sub? a = some d

theorem Follows.of_inRange (ha : a.InRange) (hb : b.InRange) : a.Follows b := by
  have hsize := hb.size_lt
  exact ⟨by omega, hb.exists_combine ha _ _⟩

/-- The sum of two numbers in range follows the first one. -/
theorem Follows.add (ha : a.InRange) (hb : b.InRange) (h : a.add? b = some c) : a.Follows c := by
  have hsize := size_add_le h
  have ha' := ha.size_lt
  have hb' := hb.size_lt
  refine ⟨by omega, ?_⟩
  rcases combine_cases h with ⟨i, j, rfl, rfl, rfl⟩ | ⟨x, rfl⟩
  · exact ⟨_, rfl⟩
  · exact (inRange_ofFloat x).exists_combine ha _ _

/-! ### Text -/

/-- The magnitude of a difference to a number in range. -/
theorem Follows.size_difference_lt (ha : a.InRange) (h : a.Follows b) (hc : b.sub? a = some c) :
    c.size < 3 * twoTo 1024 := by
  have hsize := size_sub_le hc
  have ha' := ha.size_lt
  have hb' := h.size_lt
  omega

end Number

/-- How many digits an integer may have that is up to three times as large as the range. -/
def DigitLimit.ofRange : Nat := 309

theorem tenTo_le {m n : Nat} (h : m ≤ n) : tenTo m ≤ tenTo n :=
  Nat.pow_le_pow_right (by decide) h

theorem three_twoTo_le : 3 * twoTo 1024 ≤ tenTo DigitLimit.ofRange := by
  have htwo : twoTo 1024 = twoTo 256 * twoTo 256 * (twoTo 256 * twoTo 256) := by
    rw [← twoTo_add, ← twoTo_add]
  have hten : tenTo DigitLimit.ofRange = tenTo 103 * tenTo 103 * tenTo 103 := by
    rw [← tenTo_add, ← tenTo_add, DigitLimit.ofRange]
  rw [htwo, hten]
  decide +kernel

theorem two_mul_tenTo_lt_twoTo : 2 * tenTo 300 < twoTo 1023 := by
  have hten : tenTo 300 = tenTo 150 * tenTo 150 := by rw [← tenTo_add]
  have htwo : twoTo 1023 = twoTo 256 * twoTo 256 * (twoTo 256 * twoTo 255) := by
    rw [← twoTo_add, ← twoTo_add, ← twoTo_add]
  rw [htwo, hten]
  decide +kernel

theorem tenTo_le_twoTo : tenTo 300 ≤ twoTo 1023 := by
  have hlt := two_mul_tenTo_lt_twoTo
  omega

/-- An integer below `10 ^ 300` in magnitude is a finite number. -/
theorem Value.isFiniteNumber_int {n : Int} (hn : n.natAbs < tenTo 300) :
    (Value.int n).isFiniteNumber = .ok true := by
  have hlt : n.natAbs < twoTo 1023 := Nat.lt_of_lt_of_le hn tenTo_le_twoTo
  obtain ⟨finite, hfinite⟩ :=
    Option.isSome_iff_exists.1 (Number.InRange.of_size_lt hlt).isSome_isFinite
  cases finite with
  | true => simp [Value.isFiniteNumber, hfinite, inRange]
  | false => exact absurd hfinite (Number.isFinite?_int n)

/-- **What is not much larger than the range can be written** with the digits it takes. -/
theorem Value.isWritable_num {limit : DigitLimit} {n : Number}
    (hlimit : limit.admits DigitLimit.ofRange = true) (hn : n.size < 3 * twoTo 1024) :
    (Value.num n).isWritable limit = true := by
  cases n with
  | int i =>
      cases limit with
      | none => rfl
      | some d =>
          have hd : DigitLimit.ofRange ≤ d := by simpa [DigitLimit.admits] using hlimit
          have hpow : tenTo DigitLimit.ofRange ≤ tenTo d := tenTo_le hd
          have hi : i.natAbs < 3 * twoTo 1024 := hn
          have hlt : i.natAbs < tenTo d :=
            Nat.lt_of_lt_of_le hi (Nat.le_trans three_twoTo_le hpow)
          simpa [Value.isWritable, DigitLimit.admitsInt] using hlt
  | float | nan => rfl

end Gamebook
