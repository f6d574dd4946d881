/-
**Values as numbers and as truth values.**

Main definitions:

* `Value.number?` — the number a value is, a truth value being zero or one;
* `Value.toNumber` — the number a value can be taken for: texts are read, and what is no number
  becomes `nan`;
* `Value.isTrue` — truth in a formula: unlike `Value.holds`, containers are true and `nan` is not;
* `Value.plus`, `Value.minus` — arithmetic on a stored value.
-/

import Gamebook.Value.Basic
import Gamebook.Decimal.Numeral
import Gamebook.Fault

set_option autoImplicit false

namespace Gamebook.Value

/-- The number a value is; a truth value is zero or one. -/
def number? : Value → Option Number
  | bool b => some (.int (if b then 1 else 0))
  | num n => some n
  | _ => none

/-- The number in a text: zero where there is nothing, `nan` where there is something else. -/
def numberOfText (s : String) : Number :=
  if (Text.strip s).isEmpty then .int 0
  else
    match readFloat? s with
    | some x => (Number.ofFloat x).normalize
    | none => .notANumber

/-- The number a value can be taken for. -/
def toNumber : Value → Number
  | bool b => .int (if b then 1 else 0)
  | num n => n
  | str s => numberOfText s
  | _ => .notANumber

/-- Whether the value is a finite number and no truth value. -/
def isFiniteNumber : Value → Except Fault Bool
  | num n => inRange n.isFinite?
  | _ => .ok false

/-- Truth in a formula: null, false, zero, `nan` and the empty text are not true. -/
def isTrue : Value → Except Fault Bool
  | null => .ok false
  | bool b => .ok b
  | num n => if n.isZero then .ok false else inRange (n.isNaN?.map (!·))
  | str s => .ok !s.isEmpty
  | list _ => .ok true
  | obj _ => .ok true
  | inventory _ => .ok true
  | flags _ => .ok true

/-- The sum of a stored value, which has to be a number, and a number. -/
def plus (v : Value) (n : Number) : Except Fault Number :=
  match v.number? with
  | some a => inRange (a.add? n)
  | none => .error .wrongKind

/-- The difference of two stored values, which have to be numbers. -/
def minus (v w : Value) : Except Fault Number :=
  match v.number?, w.number? with
  | some a, some b => inRange (a.sub? b)
  | _, _ => .error .wrongKind

@[simp] theorem toNumber_num (n : Number) : (num n).toNumber = n := rfl

@[simp] theorem number?_num (n : Number) : (num n).number? = some n := rfl

end Gamebook.Value
