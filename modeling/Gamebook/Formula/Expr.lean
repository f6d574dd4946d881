/-
**Formulas as trees.**

Main definitions:

* `Formula.BinaryOp`, `Formula.UnaryOp`, `Formula.LogicalOp` — the operators;
* `Formula.Expr` — the tree of a formula.
-/

import Gamebook.Formula.Token
import Gamebook.Value.Basic

set_option autoImplicit false

namespace Gamebook.Formula

/-- The operators that need both operands. -/
inductive BinaryOp where
  | add | sub | mul | div | rem | eq | ne | lt | le | gt | ge
  deriving DecidableEq, Repr

/-- The operators that may leave their second operand alone. -/
inductive LogicalOp where
  | and | or | orNull
  deriving DecidableEq, Repr

/-- The operators in front of an operand. -/
inductive UnaryOp where
  | not | negate | number
  deriving DecidableEq, Repr

/-- The tree of a formula. -/
inductive Expr where
  | literal (v : Value)
  | name (n : String)
  | conditional (test yes no : Expr)
  | logical (op : LogicalOp) (left right : Expr)
  | binary (op : BinaryOp) (left right : Expr)
  | unary (op : UnaryOp) (operand : Expr)
  | member (object key : Expr)
  | call (function : String) (arguments : List Expr)
  deriving Inhabited

/-- The operator a symbol stands for between two operands of a sum or a product, or in a
comparison. -/
def BinaryOp.symbol : BinaryOp → Symbol
  | add => .plus
  | sub => .minus
  | mul => .star
  | div => .slash
  | rem => .percent
  | eq => .equal
  | ne => .notEqual
  | lt => .less
  | le => .atMost
  | gt => .more
  | ge => .atLeast

end Gamebook.Formula
