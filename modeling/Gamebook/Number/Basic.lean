/-
**Numbers: unbounded integers and 64-bit floats.**

An operation on two integers is exact.  As soon as a float takes part the integer is rounded to
the nearest float first, and an integer beyond the largest float has none: the operation is then
out of range, which is `none` here.  Comparison never rounds.

The float that is not a number equals no number, not even itself.  A list that holds it is still
equal to itself, so each occurrence remembers where it came from: occurrences of one origin are one
and the same.

Main definitions:

* `Number` — an integer, a float, or what is not a number;
* `NaNOrigin`, `Number.identical` — where what is not a number came from;
* `Number.ofFloat` — the result of an operation on floats;
* `Number.add?`, `Number.sub?`, `Number.mul?`, `Number.quotient?`, `Number.remainder?` — arithmetic;
* `Number.compare?` — the exact order, undefined for a float that is not a number;
* `Number.floor?`, `Number.ceil?`, `Number.round?` — rounding to an integer.
-/

import Gamebook.Number.Binary64

set_option autoImplicit false

namespace Gamebook

/-- Where a float that is not a number came from. -/
inductive NaNOrigin where
  /-- The result of an operation that is not kept anywhere yet. -/
  | computed
  /-- What stands for a missing result: one and the same everywhere. -/
  | undefined
  /-- The word of a text that was read: one and the same for all texts. -/
  | written
  /-- The value with a number among those that were handed in. -/
  | given (n : Nat)
  /-- The result with a number among those that have been kept. -/
  | kept (n : Nat)
  deriving DecidableEq

/-- An integer of any size or a 64-bit float.  The float that is not a number has a constructor of
its own. -/
inductive Number where
  | int (n : Int)
  | float (x : Float)
  | nan (origin : NaNOrigin)
  deriving Inhabited, DecidableEq

namespace Number

/-- The number that stands for a missing result. -/
def notANumber : Number := .nan .undefined

/-- The result of an operation on floats. -/
def ofFloat (x : Float) : Number :=
  match Binary64.ofFloat x with
  | .nan => .nan .computed
  | _ => .float x

/-- Whether two numbers are one and the same thing that is not a number. -/
def identical : Number → Number → Bool
  | nan a, nan b => a = b
  | _, _ => false

@[simp] theorem identical_nan (a b : NaNOrigin) : (nan a).identical (nan b) = decide (a = b) := rfl

/-- The infinite float of the given sign. -/
def infinity (negative : Bool) : Number :=
  .float (Binary64.withSign negative Binary64.infinityBits)

/-- The exact value of a number. -/
def exact : Number → Binary64
  | int n => .finite (decide (n < 0)) n.natAbs 0
  | float x => .ofFloat x
  | nan _ => .nan

/-! ### Conversion and classes -/

/-- The number as a float; `none` for an integer beyond the largest float. -/
def toFloat? : Number → Option Float
  | int n => Binary64.ofInt? n
  | float x => some x
  | nan _ => some Binary64.quietNaN

/-- Whether the number is not a number; out of range for an integer beyond the largest float. -/
def isNaN? (a : Number) : Option Bool := do
  let x ← a.toFloat?
  match Binary64.ofFloat x with
  | .nan => pure true
  | _ => pure false

/-- Whether the number is an infinity; out of range for an integer beyond the largest float. -/
def isInfinite? (a : Number) : Option Bool := do
  let x ← a.toFloat?
  match Binary64.ofFloat x with
  | .infinite _ => pure true
  | _ => pure false

/-- Whether the number is finite; out of range for an integer beyond the largest float. -/
def isFinite? (a : Number) : Option Bool := do
  let x ← a.toFloat?
  match Binary64.ofFloat x with
  | .finite _ _ _ => pure true
  | _ => pure false

/-- Whether the float behind the number has its sign bit set. -/
def isNegative? (a : Number) : Option Bool := do
  let x ← a.toFloat?
  match Binary64.ofFloat x with
  | .nan => pure false
  | .infinite s => pure s
  | .finite s _ _ => pure s

/-- An integral float becomes the integer it stands for. -/
def normalize : Number → Number
  | int n => .int n
  | float x =>
      match (Binary64.ofFloat x).toInt? with
      | some n => .int n
      | none => .float x
  | nan origin => .nan origin

/-! ### Order -/

/-- The exact order of two numbers; `none` when one of them is not a number. -/
def compare? (a b : Number) : Option Ordering := a.exact.compare? b.exact

/-- Whether `a` is less than `b`. -/
def lt (a b : Number) : Bool := a.compare? b == some .lt

/-- Whether `a` is less than `b` or equal to it. -/
def le (a b : Number) : Bool := a.compare? b == some .lt || a.compare? b == some .eq

/-- Whether the two numbers have the same value. -/
def eqv (a b : Number) : Bool := a.compare? b == some .eq

/-- Whether the number has the value zero. -/
def isZero (a : Number) : Bool := a.eqv (.int 0)

/-! ### Arithmetic -/

/-- An operation that is exact on two integers and rounds when a float takes part. -/
def combine? (onInt : Int → Int → Int) (onFloat : Float → Float → Float) :
    Number → Number → Option Number
  | int a, int b => some (.int (onInt a b))
  | a, b => do
      let x ← a.toFloat?
      let y ← b.toFloat?
      pure (ofFloat (onFloat x y))

/-- The sum of two numbers. -/
def add? : Number → Number → Option Number := combine? (· + ·) (· + ·)

/-- The difference of two numbers. -/
def sub? : Number → Number → Option Number := combine? (· - ·) (· - ·)

/-- The product of two numbers. -/
def mul? : Number → Number → Option Number := combine? (· * ·) (· * ·)

/-- The number with its sign changed. -/
def neg : Number → Number
  | int n => .int (-n)
  | float x => ofFloat (-x)
  | nan _ => .nan .computed

/-- The magnitude of a number. -/
def abs : Number → Number
  | int n => .int n.natAbs
  | float x => ofFloat x.abs
  | nan _ => .nan .computed

/-- The quotient as a float.  A zero divisor gives an infinity with the sign of the division, and
`nan` when the dividend is zero or not a number. -/
def quotient? (a b : Number) : Option Number :=
  if b.isZero then
    if a.isZero then some notANumber
    else do
      if ← a.isNaN? then return notANumber
      return infinity ((← a.isNegative?) != (← b.isNegative?))
  else
    match a, b with
    | int m, int n => (Binary64.ofQuotient? m n).map ofFloat
    | a, b => do
        let x ← a.toFloat?
        let y ← b.toFloat?
        pure (ofFloat (x / y))

/-- The remainder of the division truncated toward zero, computed on floats.  It is `nan` for a
zero divisor, an infinite dividend, or an argument that is not a number, and an integer again when
both arguments are integers. -/
def remainder? (a b : Number) : Option Number :=
  if b.isZero then some notANumber
  else do
    if ← a.isInfinite? then return notANumber
    if ← a.isNaN? then return notANumber
    if ← b.isNaN? then return notANumber
    let x ← a.toFloat?
    let y ← b.toFloat?
    let r := ofFloat (Binary64.remainder (.ofFloat x) (.ofFloat y))
    match a, b with
    | int _, int _ => return r.normalize
    | _, _ => return r

/-! ### Rounding -/

/-- Applies a rounding to a finite number and leaves the others as they are. -/
def finiteOr? (a : Number) (onFinite : Number → Option Number) : Option Number := do
  if ← a.isFinite? then onFinite a else return a

/-- The integer below or at a float. -/
def floorFloat (x : Float) : Number :=
  match Binary64.ofFloat x with
  | .finite s m e => .int (Binary64.floor s m e)
  | _ => ofFloat x

/-- The greatest integer not above the number; `nan` and the infinities are kept. -/
def floor? (a : Number) : Option Number :=
  a.finiteOr? fun
    | int n => some (.int n)
    | float x => some (floorFloat x)
    | nan origin => some (.nan origin)

/-- The least integer not below the number; `nan` and the infinities are kept. -/
def ceil? (a : Number) : Option Number :=
  a.finiteOr? fun
    | int n => some (.int n)
    | float x => some (floorFloat (-x)).neg
    | nan origin => some (.nan origin)

/-- The nearest integer, a half upward: one half is added as a float and the sum is floored. -/
def round? (a : Number) : Option Number :=
  a.finiteOr? fun n => do
    let x ← n.toFloat?
    return floorFloat (x + 0.5)

end Number

end Gamebook
