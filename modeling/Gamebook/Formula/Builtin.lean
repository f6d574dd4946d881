/-
**The functions of the formula language that need no game.**

Main definitions:

* `Formula.Builtin` — a function of formulas;
* `Formula.mathBuiltin?` — `min`, `max`, `clamp`, `floor`, `ceil`, `abs` and `round`.
-/

import Gamebook.Chance
import Gamebook.Value.Quantity

set_option autoImplicit false

namespace Gamebook.Formula

/-- A function that formulas can call. -/
abbrev Builtin := List Value → Chancy Value

/-- Whether one of the numbers is not a number; the first one decides, and what stands behind it is
not looked at. -/
def anyNaN : List Number → Except Fault Bool
  | [] => .ok false
  | a :: rest => do if ← inRange a.isNaN? then return true else anyNaN rest

/-- The first of the numbers that no later one is better than. -/
def best (better : Number → Number → Bool) : Number → List Number → Number
  | a, [] => a
  | a, b :: rest => best better (if better b a then b else a) rest

/-- The best of the numbers: `nan` when one of them is not a number, a default for none. -/
def bestOf (better : Number → Number → Bool) (default : Number) (ns : List Number) :
    Except Fault Number := do
  if ← anyNaN ns then return .notANumber
  match ns with
  | [] => return default
  | a :: rest => return best better a rest

/-- The least of the numbers. -/
def minimum (ns : List Number) : Except Fault Number :=
  bestOf (fun a b => a.lt b) (.infinity false) ns

/-- The greatest of the numbers. -/
def maximum (ns : List Number) : Except Fault Number :=
  bestOf (fun a b => b.lt a) (.infinity true) ns

/-- The number moved into the range from `low` to `high`. -/
def clamp (n low high : Number) : Except Fault Number := do
  minimum [← maximum [n, low], high]

/-- A function of one number. -/
def ofOne (f : Number → Option Number) : List Value → Except Fault Number
  | [v] => inRange (f v.toNumber)
  | _ => .error .wrongKind

/-- A function of three numbers. -/
def ofThree (f : Number → Number → Number → Except Fault Number) :
    List Value → Except Fault Number
  | [u, v, w] => f u.toNumber v.toNumber w.toNumber
  | _ => .error .wrongKind

/-- The functions on numbers.  A wrong number of arguments is a fault of kind. -/
def math? (name : String) : Option (List Value → Except Fault Number) :=
  if name = "min" then some fun vs => minimum (vs.map Value.toNumber)
  else if name = "max" then some fun vs => maximum (vs.map Value.toNumber)
  else if name = "clamp" then some (ofThree clamp)
  else if name = "floor" then some (ofOne Number.floor?)
  else if name = "ceil" then some (ofOne Number.ceil?)
  else if name = "abs" then some (ofOne fun n => some n.abs)
  else if name = "round" then some (ofOne Number.round?)
  else none

/-- The functions on numbers, for formulas. -/
def mathBuiltin? (name : String) : Option Builtin :=
  (math? name).map fun f vs => do
    let n ← (f vs : Except Fault Number)
    return .num n

end Gamebook.Formula
