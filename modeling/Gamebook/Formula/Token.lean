/-
**Tokens of the formula language.**

A formula is made of numbers, quoted texts, names and symbols.  Every token remembers where it
starts, counted in characters, and an end token stands behind the last one.

Main definitions:

* `Formula.Symbol` — the operators and punctuation marks, with `Symbol.text` and `Symbol.all`;
* `Formula.Lexeme`, `Formula.Token` — what a formula is split into;
* `Formula.Lexeme.shown` — a lexeme as messages show it.
-/

import Gamebook.Decimal.Notation
import Gamebook.Text.Quoted

set_option autoImplicit false

namespace Gamebook.Formula

/-- The operators and punctuation marks. -/
inductive Symbol where
  | same | notSame | equal | notEqual | atMost | atLeast | and | or | orNull
  | minus | plus | star | slash | percent | less | more | bang | question | colon
  | dot | comma | openParen | closeParen | openBracket | closeBracket
  deriving DecidableEq, Repr

namespace Symbol

/-- How a symbol is written. -/
def text : Symbol → String
  | same => "==="
  | notSame => "!=="
  | equal => "=="
  | notEqual => "!="
  | atMost => "<="
  | atLeast => ">="
  | and => "&&"
  | or => "||"
  | orNull => "??"
  | minus => "-"
  | plus => "+"
  | star => "*"
  | slash => "/"
  | percent => "%"
  | less => "<"
  | more => ">"
  | bang => "!"
  | question => "?"
  | colon => ":"
  | dot => "."
  | comma => ","
  | openParen => "("
  | closeParen => ")"
  | openBracket => "["
  | closeBracket => "]"

/-- All symbols, the longer ones first. -/
def all : List Symbol :=
  [same, notSame, equal, notEqual, atMost, atLeast, and, or, orNull, minus, plus, star, slash,
    percent, less, more, bang, question, colon, dot, comma, openParen, closeParen, openBracket,
    closeBracket]

theorem mem_all (s : Symbol) : s ∈ all := by cases s <;> decide

end Symbol

/-- What a token says. -/
inductive Lexeme where
  | number (n : Number)
  | text (s : String)
  | name (s : String)
  | symbol (s : Symbol)
  /-- The formula ends here. -/
  | stop
  deriving DecidableEq

/-- A lexeme as messages show it: a number by its text, the end in words, everything else between
quotes. -/
def Lexeme.shown : Lexeme → String
  | number n => n.toText
  | text s => Text.quoted s
  | name s => Text.quoted s
  | symbol s => Text.quoted s.text
  | stop => "end of input"

/-- A lexeme and the place where it starts. -/
structure Token where
  lexeme : Lexeme
  pos : Nat
  deriving DecidableEq

end Gamebook.Formula
