/-
**Binary floating point, read as exact numbers.**

A 64-bit float stands for a sign, a mantissa and a power of two, for an infinity, or for no number
at all.  This module takes a float apart into that form and rounds an exact quotient to the
nearest float, so that mixed arithmetic, comparison, flooring and decimal text can all be done on
integers.

Main definitions:

* `Binary64` — what a float stands for;
* `Binary64.ofFloat` — the reading of a float;
* `Binary64.nearest` — the float nearest to a quotient of natural numbers, ties to the even
  mantissa, infinite where the quotient lies beyond the largest float;
* `Binary64.floor`, `Binary64.ceil`, `Binary64.remainder` — exact operations on finite values.
-/

import Gamebook.Number.Power

set_option autoImplicit false

namespace Gamebook

/-- What a 64-bit float stands for.  A finite one is `± mantissa * 2 ^ exponent`. -/
inductive Binary64 where
  | nan
  | infinite (negative : Bool)
  | finite (negative : Bool) (mantissa : Nat) (exponent : Int)

namespace Binary64

/-! ### Reading a float -/

/-- The least exponent of a mantissa: every finite float is a multiple of `2 ^ leastExponent`. -/
def leastExponent : Int := -1074

/-- The number of fraction bits stored in a float. -/
def fractionBits : Nat := 52

/-- The bit pattern of positive infinity. -/
def infinityBits : Nat := 2047 * twoTo fractionBits

/-- Reads the sign, the exponent and the mantissa off the bits of a float. -/
def ofFloat (x : Float) : Binary64 :=
  let bits : Nat := x.toBits.toNat
  let negative := decide (twoTo 63 ≤ bits)
  let magnitude : Nat := bits % twoTo 63
  let biased : Nat := magnitude / twoTo fractionBits
  let fraction : Nat := magnitude % twoTo fractionBits
  if biased = 2047 then
    if fraction = 0 then infinite negative else nan
  else if biased = 0 then finite negative fraction leastExponent
  else finite negative (twoTo fractionBits + fraction) (biased + leastExponent - 1)

/-! ### Rounding a quotient -/

/-- The quotient rounded to the nearest natural number, a half to the even neighbour. -/
def roundHalfEven (num den : Nat) : Nat :=
  let q := num / den
  let r := num % den
  if den < 2 * r ∨ (2 * r = den ∧ q % 2 = 1) then q + 1 else q

/-- The quotient `num / den` divided by `2 ^ e`, again as a quotient. -/
def scale (num den : Nat) (e : Int) : Nat × Nat :=
  if 0 ≤ e then (num, den * twoTo e.toNat) else (num * twoTo (-e).toNat, den)

/-- The greatest `e` with `2 ^ e ≤ num / den`, for positive arguments. -/
def binaryOrder (num den : Nat) : Int :=
  let e : Int := (num.log2 : Int) - den.log2
  let s := scale num den e
  if s.1 < s.2 then e - 1 else e

/-- The magnitude bits of the float nearest to `num / den`. -/
def nearestBits (num den : Nat) : Nat :=
  if num = 0 then 0
  else
    let e := max leastExponent (binaryOrder num den - fractionBits)
    let s := scale num den e
    min infinityBits ((e - leastExponent).toNat * twoTo fractionBits + roundHalfEven s.1 s.2)

/-- The float with the given sign and magnitude bits. -/
def withSign (negative : Bool) (magnitude : Nat) : Float :=
  Float.ofBits (UInt64.ofNat (if negative then twoTo 63 + magnitude else magnitude))

/-- The float that is not a number. -/
def quietNaN : Float := withSign false (infinityBits + 1)

/-- The float nearest to `± num / den`, for a positive `den`. -/
def nearest (negative : Bool) (num den : Nat) : Float :=
  withSign negative (nearestBits num den)

/-- The float nearest to an integer, when the integer is not beyond the largest float. -/
def ofInt? (n : Int) : Option Float :=
  let bits := nearestBits n.natAbs 1
  if bits = infinityBits then none else some (withSign (decide (n < 0)) bits)

/-- The float nearest to the quotient of two integers, the second one not zero; `none` beyond the
largest float.  A zero quotient keeps the sign of the division. -/
def ofQuotient? (a b : Int) : Option Float :=
  let bits := nearestBits a.natAbs b.natAbs
  if bits = infinityBits then none
  else some (withSign (decide (a < 0) != decide (b < 0)) bits)

/-! ### Exact operations -/

/-- The integer `± n`. -/
def signed (negative : Bool) (n : Nat) : Int := if negative then -(n : Int) else n

theorem signed_natAbs (n : Int) : signed (decide (n < 0)) n.natAbs = n := by
  rw [signed]
  split <;> rename_i h <;> rw [decide_eq_true_eq] at h <;> omega

/-- The mantissa over the exponent `e`, for `e` not above the exponent of the value. -/
def mantissaAt (mantissa : Nat) (exponent e : Int) : Nat := mantissa * twoTo (exponent - e).toNat

/-- The order of two finite values, read over their common exponent. -/
def compareFinite (s : Bool) (m : Nat) (e : Int) (s' : Bool) (m' : Nat) (e' : Int) : Ordering :=
  let low := min e e'
  compare (signed s (mantissaAt m e low)) (signed s' (mantissaAt m' e' low))

/-- The order of two values; `none` when one of them is not a number. -/
def compare? : Binary64 → Binary64 → Option Ordering
  | nan, _ => none
  | _, nan => none
  | infinite s, infinite s' => some (compare s' s)
  | infinite s, finite _ _ _ => some (if s then .lt else .gt)
  | finite _ _ _, infinite s => some (if s then .gt else .lt)
  | finite s m e, finite s' m' e' => some (compareFinite s m e s' m' e')

/-- The integer below or at a finite value. -/
def floor (negative : Bool) (mantissa : Nat) (exponent : Int) : Int :=
  let s := scale mantissa 1 (-exponent)
  Int.fdiv (signed negative s.1) s.2

/-- The integer above or at a finite value. -/
def ceil (negative : Bool) (mantissa : Nat) (exponent : Int) : Int :=
  -floor (!negative) mantissa exponent

/-- A finite value as an integer, when it is one. -/
def toInt? : Binary64 → Option Int
  | finite s m e =>
      let n := floor s m e
      if n = ceil s m e then some n else none
  | _ => none

/-- The remainder of the division truncated toward zero, with the sign of the first argument.
The second value is neither zero nor `nan`, and the first one is finite. -/
def remainder : Binary64 → Binary64 → Float
  | finite s m e, finite _ m' e' =>
      let low := min e e'
      let r := mantissaAt m e low % mantissaAt m' e' low
      let t := scale r 1 (-low)
      nearest s t.1 t.2
  | finite s m e, _ =>
      let t := scale m 1 (-e)
      nearest s t.1 t.2
  | _, _ => quietNaN

end Binary64

end Gamebook
