/-
**The value of a formula.**

A formula is evaluated in a scope of names and functions.  Operands are evaluated from the left,
and the operators of logic leave their right operand alone when the left one decides.

Main definitions:

* `Formula.Scope` — the names and functions a formula can use;
* `Formula.Expr.eval` — the value of a tree;
* `Formula.evaluate` — the value of content that may be a formula.
-/

import Gamebook.Formula.Builtin
import Gamebook.Formula.Operator
import Gamebook.Formula.Parser

set_option autoImplicit false

namespace Gamebook.Formula

/-- The names and functions that a formula can use, and the digit limit of its texts. -/
structure Scope where
  names : Fields Value
  builtins : String → Option Builtin
  digitLimit : DigitLimit

/-- The scope with some names and the functions on numbers. -/
def Scope.pure (names : Fields Value) (limit : DigitLimit) : Scope := ⟨names, mathBuiltin?, limit⟩

/-- The value of a name. -/
def Scope.lookup (scope : Scope) (name : String) : Except Fault Value :=
  match scope.names.get? name with
  | some v => .ok v
  | none => .error (.formula (.undefinedName name))

/-- Calls a function.  A value of the wrong kind inside it means that the arguments were bad. -/
def Scope.call (scope : Scope) (name : String) (arguments : List Value) : Chancy Value :=
  match scope.builtins name with
  | none => throw (.formula (.undefinedFunction name))
  | some f =>
      tryCatch (f arguments) fun
        | .wrongKind => throw (.formula (.badArguments name))
        | fault => throw fault

/-! ### Trees -/

mutual

/-- The value of a tree. -/
def Expr.eval (scope : Scope) : Expr → Chancy Value
  | .literal v => return v
  | .name n => scope.lookup n
  | .conditional test yes no => do
      if ← (← test.eval scope).isTrue then yes.eval scope else no.eval scope
  | .logical .and left right => do
      let v ← left.eval scope
      if ← v.isTrue then right.eval scope else return v
  | .logical .or left right => do
      let v ← left.eval scope
      if ← v.isTrue then return v else right.eval scope
  | .logical .orNull left right => do
      let v ← left.eval scope
      if v.isNull then right.eval scope else return v
  | .binary op left right => do
      let v ← left.eval scope
      let w ← right.eval scope
      op.apply scope.digitLimit v w
  | .unary op operand => do
      op.apply (← operand.eval scope)
  | .member object key => do
      let v ← object.eval scope
      let k ← key.eval scope
      Formula.member scope.digitLimit v k
  | .call function arguments => do
      scope.call function (← Expr.evalList scope arguments)

/-- The values of some trees, from the left. -/
def Expr.evalList (scope : Scope) : List Expr → Chancy (List Value)
  | [] => return []
  | e :: es => do
      let v ← e.eval scope
      let vs ← Expr.evalList scope es
      return v :: vs

end

/-! ### Content -/

/-- A fault of arithmetic or kind inside a formula means that the formula has no result. -/
def settle : Fault → Fault
  | .outOfRange => .formula .noResult
  | .wrongKind => .formula .noResult
  | fault => fault

/-- The value of a text as a formula. -/
def evaluateText (scope : Scope) (s : String) : Chancy Value := do
  match read (Text.strip s) with
  | .error fault => throw fault
  | .ok e => tryCatch (e.eval scope) fun fault => throw (settle fault)

/-- **The value of content that may be a formula.**  Null and blank texts are zero, other texts are
formulas, and everything else stands for itself. -/
def evaluate (scope : Scope) : Value → Chancy Value
  | .null => return .int 0
  | .str s => if (Text.strip s).isEmpty then return .int 0 else evaluateText scope s
  | v => return v

end Gamebook.Formula
