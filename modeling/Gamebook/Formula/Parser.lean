/-
**Reading the tree of a formula.**

From the loosest binding to the tightest:

    conditional    :  or_expr ('?' conditional ':' conditional)?
    or_expr        :  and_expr (('||' | '??') and_expr)*
    and_expr       :  equality ('&&' equality)*
    equality       :  relational (('==' | '!=' | '===' | '!==') relational)*
    relational     :  additive (('<' | '<=' | '>' | '>=') additive)*
    additive       :  multiplicative (('+' | '-') multiplicative)*
    multiplicative :  unary (('*' | '/' | '%') unary)*
    unary          :  ('!' | '-' | '+') unary | postfix
    postfix        :  primary ('.' NAME | '[' conditional ']' | '(' arguments ')')*
    primary        :  NUMBER | TEXT | NAME | '(' conditional ')'

Arguments may follow a plain name only.  A reader walks along the tokens, and walking past the last
one is a fault of its own.  Each level is a function of the reader of the conditional inside
brackets, and `conditional` ties the knot with a bound on the nesting of brackets.

Main definitions:

* `Formula.Reader` — what walks along the tokens, with `peek`, `next`, `accept` and `expect`;
* `Formula.Level`, `Formula.chain` — a level of operators that bind to the left;
* `Formula.conditional` — the loosest level;
* `Formula.parse` — the tree of some tokens;
* `Formula.read` — the tree of a text.
-/

import Gamebook.Formula.Expr
import Gamebook.Formula.Lexer
import Gamebook.Fault

set_option autoImplicit false

namespace Gamebook.Formula

/-- A reader takes something off the front of the tokens. -/
abbrev Reader := StateT (List Token) (Except Fault)

variable {α : Type}

/-! ### The front of the tokens -/

/-- The token at the front.  Behind the last token there is none. -/
def peek : Reader Token
  | [] => .error .noSuchPlace
  | t :: ts => .ok (t, t :: ts)

/-- Takes the token at the front. -/
def next : Reader Token
  | [] => .error .noSuchPlace
  | t :: ts => .ok (t, ts)

/-- Gives up. -/
def refuse (e : FormulaError) : Reader α := throw (.formula e)

/-- The token at the front stands where it cannot. -/
def refuseFront : Reader α := do
  let t ← peek
  refuse (.unexpected t.lexeme t.pos)

/-- Takes the symbol at the front if it is among the chosen ones, and says what it was chosen
for. -/
def acceptFor (choose : Symbol → Option α) : Reader (Option α) := do
  match (← peek).lexeme with
  | .symbol s =>
      match choose s with
      | some a => do
          let _ ← next
          return some a
      | none => return none
  | _ => return none

/-- Takes a symbol if it is at the front. -/
def accept (s : Symbol) : Reader Bool := do
  return (← acceptFor fun found => if found = s then some () else none).isSome

/-- Takes a symbol that has to be there. -/
def expect (s : Symbol) : Reader Unit := do
  if ← accept s then return ()
  else
    let t ← peek
    refuse (.expected s t.lexeme t.pos)

/-! ### Chains of operators -/

/-- The levels of operators between two operands, the loosest first. -/
inductive Level where
  | or | and | equality | relational | additive | multiplicative
  deriving DecidableEq, Repr

/-- How a level joins two operands, for the symbols that are its own.  The longer equality
operators mean the same as the shorter. -/
def Level.join : Level → Symbol → Option (Expr → Expr → Expr)
  | or, .or => some (.logical .or)
  | or, .orNull => some (.logical .orNull)
  | and, .and => some (.logical .and)
  | equality, .equal => some (.binary .eq)
  | equality, .same => some (.binary .eq)
  | equality, .notEqual => some (.binary .ne)
  | equality, .notSame => some (.binary .ne)
  | relational, .less => some (.binary .lt)
  | relational, .atMost => some (.binary .le)
  | relational, .more => some (.binary .gt)
  | relational, .atLeast => some (.binary .ge)
  | additive, .plus => some (.binary .add)
  | additive, .minus => some (.binary .sub)
  | multiplicative, .star => some (.binary .mul)
  | multiplicative, .slash => some (.binary .div)
  | multiplicative, .percent => some (.binary .rem)
  | _, _ => none

/-- More operands of a level behind the first one, with a bound on their number. -/
def chainFrom (level : Level) (operand : Reader Expr) : Nat → Expr → Reader Expr
  | 0, left => return left
  | n + 1, left => do
      match ← acceptFor level.join with
      | none => return left
      | some join => do
          let right ← operand
          chainFrom level operand n (join left right)

/-- Operands joined by the symbols of a level, to the left. -/
def chain (level : Level) (operand : Reader Expr) (n : Nat) : Reader Expr := do
  let left ← operand
  chainFrom level operand n left

/-! ### Primaries and what follows them -/

/-- The names that stand for a value. -/
def keyword? (n : String) : Option Value :=
  if n = "true" then some (.bool true)
  else if n = "false" then some (.bool false)
  else if n = "null" ∨ n = "undefined" then some .null
  else none

/-- A primary, and its name when it is a plain name. -/
def primary (inner : Reader Expr) : Reader (Expr × Option String) := do
  let t ← next
  match t.lexeme with
  | .number n => return (.literal (.num n), none)
  | .text s => return (.literal (.str s), none)
  | .name n =>
      match keyword? n with
      | some v => return (.literal v, none)
      | none => return (.name n, some n)
  | .symbol .openParen => do
      let e ← inner
      expect .closeParen
      return (e, none)
  | found => refuse (.unexpected found t.pos)

/-- Arguments up to the closing parenthesis, with a bound on their number; there is at least
one. -/
def argumentsFrom (inner : Reader Expr) : Nat → Reader (List Expr)
  | 0 => refuseFront
  | n + 1 => do
      let e ← inner
      if ← accept .closeParen then return [e]
      else
        expect .comma
        let es ← argumentsFrom inner n
        return e :: es

/-- Arguments behind an opening parenthesis. -/
def arguments (inner : Reader Expr) (n : Nat) : Reader (List Expr) := do
  if ← accept .closeParen then return []
  else argumentsFrom inner n

/-- The members and arguments behind a primary, with a bound on their number.  The name is that of
a plain name which nothing has followed yet. -/
def postfixFrom (inner : Reader Expr) : Nat → Expr → Option String → Reader Expr
  | 0, e, _ => return e
  | n + 1, e, name => do
      if ← accept .dot then
        let t ← next
        match t.lexeme with
        | .name k => postfixFrom inner n (.member e (.literal (.str k))) none
        | _ => refuse (.expectedProperty t.pos)
      else if ← accept .openBracket then
        let k ← inner
        expect .closeBracket
        postfixFrom inner n (.member e k) none
      else if ← accept .openParen then
        match name with
        | none => refuse .notCallable
        | some f => do
            let es ← arguments inner n
            postfixFrom inner n (.call f es) none
      else return e

/-- A primary with its members and arguments. -/
def postfixExpr (inner : Reader Expr) (n : Nat) : Reader Expr := do
  let (e, name) ← primary inner
  postfixFrom inner n e name

/-- The operator a symbol stands for in front of an operand. -/
def unaryOp? : Symbol → Option UnaryOp
  | .bang => some .not
  | .minus => some .negate
  | .plus => some .number
  | _ => none

/-- Operators in front of an operand, with a bound on their number. -/
def unaryFrom (operand : Reader Expr) : Nat → Reader Expr
  | 0 => operand
  | n + 1 => do
      match ← acceptFor unaryOp? with
      | none => operand
      | some op => do
          let e ← unaryFrom operand n
          return .unary op e

/-- Operators in front of a postfix expression. -/
def unary (inner : Reader Expr) (n : Nat) : Reader Expr := unaryFrom (postfixExpr inner n) n

/-! ### Operations -/

def multiplicative (inner : Reader Expr) (n : Nat) : Reader Expr :=
  chain .multiplicative (unary inner n) n

def additive (inner : Reader Expr) (n : Nat) : Reader Expr :=
  chain .additive (multiplicative inner n) n

def relational (inner : Reader Expr) (n : Nat) : Reader Expr :=
  chain .relational (additive inner n) n

def equality (inner : Reader Expr) (n : Nat) : Reader Expr :=
  chain .equality (relational inner n) n

def conjunction (inner : Reader Expr) (n : Nat) : Reader Expr :=
  chain .and (equality inner n) n

/-- Everything that binds tighter than a conditional. -/
def disjunction (inner : Reader Expr) (n : Nat) : Reader Expr :=
  chain .or (conjunction inner n) n

/-! ### Conditionals -/

/-- An operation, perhaps with two branches behind it. -/
def ternary (inner : Reader Expr) (n : Nat) : Reader Expr := do
  let test ← disjunction inner n
  if ← accept .question then
    let yes ← inner
    expect .colon
    let no ← inner
    return .conditional test yes no
  else return test

/-- A conditional, with a bound on the nesting and on the length of every level.  All of these take
a token at each step, so a bound above the number of tokens is never met. -/
def conditional : Nat → Reader Expr
  | 0 => refuseFront
  | n + 1 => ternary (conditional n) n

/-! ### Whole formulas -/

/-- A conditional between the front of the tokens and the end of the formula. -/
def formula (n : Nat) : Reader Expr := do
  let t ← peek
  if t.lexeme = .stop then refuse .empty
  else
    let e ← conditional n
    let t ← peek
    if t.lexeme = .stop then return e else refuse (.unexpected t.lexeme t.pos)

/-- The tokens in front of the end token. -/
def body (ts : List Token) : List Token := ts.takeWhile fun t => t.lexeme ≠ .stop

/-- **The tree of some tokens**, all of which have to be used up to the end token. -/
def parse (ts : List Token) : Except Fault Expr := (formula ((body ts).length + 1)).run' ts

/-- **The tree of a text.** -/
def read (s : String) : Except Fault Expr :=
  match tokenize s with
  | .error e => .error (.formula e)
  | .ok ts => parse ts

theorem read_of_tokenize {s : String} {ts : List Token} (h : tokenize s = .ok ts) :
    read s = parse ts := by
  rw [read, h]

end Gamebook.Formula
