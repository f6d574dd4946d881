/-
**The shortest decimal that reads back as a given float.**

Every positive float owns an interval of reals that round to it.  Among the decimals in that
interval the shortest ones are those with the fewest digits, and of these the one nearest to the
float is chosen, a tie going to the even last digit.  All tests are exact comparisons of natural
numbers.

Main definitions:

* `Decimal` — digits and the place of the point;
* `Decimal.shortest` — the shortest decimal of a positive float.
-/

import Gamebook.Number.Binary64

set_option autoImplicit false

namespace Gamebook

/-- The decimal `digits * 10 ^ exponent`. -/
structure Decimal where
  digits : Nat
  exponent : Int
  deriving DecidableEq, Repr

namespace Decimal

/-- The quotient `num / den` divided by `10 ^ k`, again as a quotient. -/
def scale (num den : Nat) (k : Int) : Nat × Nat :=
  if 0 ≤ k then (num, den * tenTo k.toNat) else (num * tenTo (-k).toNat, den)

/-- The greatest `k` with `10 ^ k ≤ num / den`, for positive arguments.  The binary order gives it
up to one. -/
def decimalOrder (num den : Nat) : Int :=
  let k : Int := Binary64.binaryOrder num den * 30103 / 100000
  let atLeast (j : Int) : Bool := let s := scale num den j; s.2 ≤ s.1
  if atLeast (k + 1) then k + 1 else if atLeast k then k else k - 1

/-- The interval of reals that round to a float: its ends and its middle over one denominator. -/
structure Interval where
  low : Nat
  middle : Nat
  high : Nat
  den : Nat
  closed : Bool

/-- The interval of the float `mantissa * 2 ^ exponent`.  The lower gap is half as wide where the
float below has a smaller exponent, and the ends belong to the interval of an even mantissa. -/
def interval (mantissa : Nat) (exponent : Int) : Interval :=
  let narrow := mantissa = twoTo Binary64.fractionBits ∧ Binary64.leastExponent < exponent
  let unit := Binary64.scale 1 4 (-exponent)
  { low := (4 * mantissa - (if narrow then 1 else 2)) * unit.1
    middle := 4 * mantissa * unit.1
    high := (4 * mantissa + 2) * unit.1
    den := unit.2
    closed := mantissa % 2 = 0 }

/-- Whether `d * 10 ^ k` lies in the interval. -/
def Interval.contains (i : Interval) (d : Nat) (k : Int) : Bool :=
  let s := scale 1 1 (-k)
  let x := d * s.1
  if i.closed then i.low * s.2 ≤ x * i.den ∧ x * i.den ≤ i.high * s.2
  else i.low * s.2 < x * i.den ∧ x * i.den < i.high * s.2

/-- The multiple of `10 ^ k` in the interval that is nearest to its middle, if there is one. -/
def Interval.nearestOn? (i : Interval) (k : Int) : Option Nat :=
  let s := scale i.middle i.den k
  let below := s.1 / s.2
  let above := below + 1
  match i.contains below k, i.contains above k with
  | false, false => none
  | true, false => some below
  | false, true => some above
  | true, true => some (Binary64.roundHalfEven s.1 s.2)

/-- The first grid, from coarse to fine, that has a point in the interval. -/
def Interval.search (i : Interval) : Nat → Int → Decimal
  | 0, k => ⟨(i.nearestOn? k).getD 0, k⟩
  | n + 1, k =>
      match i.nearestOn? k with
      | some d => ⟨d, k⟩
      | none => i.search n (k - 1)

/-- The number without its trailing zeros, and how many there were. -/
def dropZeros : Nat → Nat → Nat × Nat
  | 0, d => (d, 0)
  | n + 1, d =>
      if d ≠ 0 ∧ d % 10 = 0 then
        let r := dropZeros n (d / 10)
        (r.1, r.2 + 1)
      else (d, 0)

/-- **The shortest decimal of a positive float.**  Seventeen digits always suffice. -/
def shortest (mantissa : Nat) (exponent : Int) : Decimal :=
  let i := interval mantissa exponent
  let found := i.search 17 (decimalOrder i.middle i.den + 1)
  let r := dropZeros 20 found.digits
  ⟨r.1, found.exponent + r.2⟩

end Decimal

end Gamebook
