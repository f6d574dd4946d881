/-
**Equality and order of values.**

Numbers are compared by their exact value and a truth value counts as zero or one, lists are
compared element by element and objects field by field in any order.  What is not a number equals
nothing, but inside lists and objects it is the same as itself.  The flags are the same as
themselves, and otherwise compared by what they hold.  Only numbers, texts and lists are ordered;
texts and lists lexicographically.

Main definitions:

* `Value.eqv` — equality of content;
* `Value.identical` — whether two values are one and the same thing that is not a number;
* `Value.lt`, `Value.le` — the order, a fault for values that have none.
-/

import Gamebook.Value.Quantity

set_option autoImplicit false

namespace Gamebook.Value

/-! ### Equality -/

/-- Whether two values are one and the same thing that is not a number. -/
def identical : Value → Value → Bool
  | num m, num n => m.identical n
  | _, _ => false

mutual

/-- Whether two values have the same content. -/
def eqv : Value → Value → Bool
  | null, w => w.isNull
  | bool b, w =>
      match w.number? with
      | some n => Number.eqv (.int (if b then 1 else 0)) n
      | none => false
  | num m, w =>
      match w.number? with
      | some n => m.eqv n
      | none => false
  | str s, w =>
      match w with
      | str t => s == t
      | _ => false
  | list vs, w =>
      match w.items? with
      | some ws => eqvList vs ws
      | none => false
  | obj fs, w =>
      match w.fields? with
      | some gs => fs.length == gs.length && eqvFields fs gs
      | none => false
  | inventory fs, w =>
      match w.fields? with
      | some gs => fs.length == gs.length && eqvFields fs gs
      | none => false
  | flags content, w => w.isFlags || (!content.isNull && eqv content w)

/-- Whether two lists have the same content, element by element. -/
def eqvList : List Value → List Value → Bool
  | [], ws => ws.isEmpty
  | v :: vs, ws =>
      match ws with
      | [] => false
      | w :: ws => (identical v w || eqv v w) && eqvList vs ws

/-- Whether every field is found with the same content among the others. -/
def eqvFields : List (Key × Value) → List (Key × Value) → Bool
  | [], _ => true
  | (k, v) :: fs, gs =>
      (match Fields.get? gs k with
        | some w => identical v w || eqv v w
        | none => false) && eqvFields fs gs

end

/-- Whether two elements count as the same inside a list. -/
def alike (v w : Value) : Bool := identical v w || eqv v w

/-! ### Order -/

mutual

/-- Whether the first value comes before the second. -/
def lt : Value → Value → Except Fault Bool
  | null, _ => .error .wrongKind
  | bool b, w =>
      match w.number? with
      | some n => .ok (Number.lt (.int (if b then 1 else 0)) n)
      | none => .error .wrongKind
  | num m, w =>
      match w.number? with
      | some n => .ok (m.lt n)
      | none => .error .wrongKind
  | str s, w =>
      match w with
      | str t => .ok (decide (s < t))
      | _ => .error .wrongKind
  | list vs, w =>
      match w with
      | list ws => ltList vs ws
      | _ => .error .wrongKind
  | obj _, _ => .error .wrongKind
  | inventory _, _ => .error .wrongKind
  | flags _, _ => .error .wrongKind

/-- The lexicographic order of lists: the first elements that differ decide, then the length. -/
def ltList : List Value → List Value → Except Fault Bool
  | [], ws => .ok !ws.isEmpty
  | v :: vs, ws =>
      match ws with
      | [] => .ok false
      | w :: ws => if alike v w then ltList vs ws else lt v w

end

/-- Whether the first value comes before the second or is level with it. -/
def le (v w : Value) : Except Fault Bool :=
  match v.number?, w.number? with
  | some m, some n => .ok (m.le n)
  | _, _ => do return (← lt v w) || eqv v w

/-- The larger of two values, the first one unless the second is beyond it. -/
def larger (v w : Value) : Except Fault Value := do
  return if ← v.lt w then w else v

/-- The smaller of two values, the first one unless the second is below it. -/
def smaller (v w : Value) : Except Fault Value := do
  return if ← w.lt v then w else v

end Gamebook.Value
