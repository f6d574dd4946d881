/-
**The operators of the formula language.**

Formulas are forgiving: a text that holds a number counts as the number, a missing member reads as
null, and a sum with a text on either side joins the texts.  Arithmetic on null is an error.  An
integer that becomes text has to be within the digit limit.

Main definitions:

* `Formula.BinaryOp.apply`, `Formula.UnaryOp.apply` — the operators;
* `Formula.member` — reading a member of a value.
-/

import Gamebook.Formula.Expr
import Gamebook.Value.Access
import Gamebook.Value.Text

set_option autoImplicit false

namespace Gamebook.Formula

/-- An operand as a number; null is none. -/
def operand (op : Symbol) : Value → Except Fault Number
  | .null => .error (.formula (.nullOperand op))
  | v => .ok v.toNumber

/-- Both operands as numbers, the left one first. -/
def operands (op : Symbol) (v w : Value) : Except Fault (Number × Number) := do
  let a ← operand op v
  let b ← operand op w
  return (a, b)

/-- An operation on two numbers that may leave the range of numbers. -/
def arithmetic (op : Symbol) (f : Number → Number → Option Number) (v w : Value) :
    Except Fault Value := do
  let (a, b) ← operands op v w
  return .num (← inRange (f a b))

/-- A sum, or two display texts joined when one of the values is a text. -/
def add (limit : DigitLimit) (v w : Value) : Except Fault Value :=
  match v, w with
  | .str s, w => do return .str (s ++ (← w.displayWithin limit))
  | v, .str t => do return .str ((← v.displayWithin limit) ++ t)
  | v, w => arithmetic .plus Number.add? v w

/-- A comparison: false beside null, by characters between two texts, and of numbers otherwise. -/
def comparison (onText : String → String → Bool) (onNumber : Number → Number → Bool) :
    Value → Value → Value
  | .null, _ => .bool false
  | _, .null => .bool false
  | .str s, .str t => .bool (onText s t)
  | v, w => .bool (onNumber v.toNumber w.toNumber)

/-- The value of a binary operator. -/
def BinaryOp.apply (limit : DigitLimit) : BinaryOp → Value → Value → Except Fault Value
  | add, v, w => Formula.add limit v w
  | sub, v, w => arithmetic .minus Number.sub? v w
  | mul, v, w => arithmetic .star Number.mul? v w
  | div, v, w => arithmetic .slash Number.quotient? v w
  | rem, v, w => arithmetic .percent Number.remainder? v w
  | eq, v, w => .ok (.bool (v.eqv w))
  | ne, v, w => .ok (.bool !(v.eqv w))
  | lt, v, w => .ok (comparison (· < ·) Number.lt v w)
  | le, v, w => .ok (comparison (fun s t => !decide (t < s)) Number.le v w)
  | gt, v, w => .ok (comparison (fun s t => t < s) (fun a b => b.lt a) v w)
  | ge, v, w => .ok (comparison (fun s t => !decide (s < t)) (fun a b => b.le a) v w)

/-- The value of an operator in front of its operand. -/
def UnaryOp.apply : UnaryOp → Value → Except Fault Value
  | not, v => do return .bool !(← v.isTrue)
  | negate, v => do return .num (← operand .minus v).neg
  | number, v => do return .num (← operand .plus v)

/-! ### Members -/

/-- The place a key names in a row of values: a number that is integral. -/
def indexOf? : Value → Except Fault (Option Int)
  | .num n => do
      let x ← inRange n.toFloat?
      match (Binary64.ofFloat x).toInt?, n with
      | none, _ => return none
      | some _, .int i => return some i
      | some i, _ => return some i
  | _ => .ok none

/-- The element at a place, counted from zero; null outside. -/
def elementAt (items : List Value) (i : Int) : Value :=
  if 0 ≤ i then (items[i.toNat]?).getD .null else .null

/-- A member of a row of values: its length or the element at a place. -/
def memberOfRow (items : List Value) (key : Value) : Except Fault Value :=
  match key with
  | .str k => .ok (if k = "length" then .int items.length else .null)
  | key => do
      match ← indexOf? key with
      | some i => return elementAt items i
      | none => return .null

/-- A member of an object: the field under the display text of the key. -/
def memberOfObject (limit : DigitLimit) (fields : Fields Value) (key : Value) :
    Except Fault Value := do
  return Value.ofOption (fields.get? (← key.displayWithin limit))

/-- **A member of a value.**  A missing member is null; null itself has no members.  Where the
flags hold themselves, that member is the flags again. -/
def member (limit : DigitLimit) (v : Value) (key : Value) : Except Fault Value :=
  match v with
  | .null => do throw (.formula (.memberOfNull (← key.displayWithin limit)))
  | .obj fields => memberOfObject limit fields key
  | .inventory counts => memberOfObject limit counts key
  | .list items => memberOfRow items key
  | .str s => memberOfRow (s.toList.map fun c => .str (String.singleton c)) key
  | .flags content => do return (← member limit content key).within v
  | _ => .ok .null

end Gamebook.Formula
