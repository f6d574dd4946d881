/-
**Splitting a formula into tokens.**

At each place the next token is the longest number, a quoted text, a name or the longest symbol;
blanks between tokens are skipped.  A character that starts none of these is an error.  An end
token closes the list.

Main definitions:

* `Formula.scanText` — a quoted text, with its escapes resolved;
* `Formula.scanSymbol` — the longest symbol;
* `Formula.scanLexeme` — one lexeme and the characters behind it;
* `Formula.tokenize` — the tokens of a formula.
-/

import Gamebook.Formula.Error
import Gamebook.Decimal.Numeral

set_option autoImplicit false

namespace Gamebook.Formula

/-! ### Lexemes -/

/-- The character that a letter behind a backslash stands for. -/
def unescape (c : Char) : Char :=
  if c = 'n' then '\n' else if c = 't' then '\t' else if c = 'r' then '\r' else c

/-- The characters of a text up to the quote that closes it.  A backslash takes the next
character with it, which may be anything but a line end. -/
def scanText (quote : Char) : List Char → Option (List Char × List Char)
  | [] => none
  | '\\' :: [] => none
  | '\\' :: c :: cs =>
      if c = '\n' then none else (scanText quote cs).map fun r => (unescape c :: r.1, r.2)
  | c :: cs =>
      if c = quote then some ([], cs) else (scanText quote cs).map fun r => (c :: r.1, r.2)

/-- Whether a name can start with the character. -/
def isNameStart (c : Char) : Bool :=
  ('a' ≤ c && c ≤ 'z') || ('A' ≤ c && c ≤ 'Z') || c = '_' || c = '$'

/-- Whether a name can go on with the character. -/
def isNamePart (c : Char) : Bool := isNameStart c || ('0' ≤ c && c ≤ '9')

/-- The first symbol, in the order of `Symbol.all`, that the characters start with.  As longer
symbols come first it is the longest one. -/
def scanSymbol (cs : List Char) : Option (Symbol × List Char) :=
  Symbol.all.findSome? fun s =>
    if s.text.toList.isPrefixOf cs then some (s, cs.drop s.text.length) else none

/-- The lexeme at the start of some characters, and the characters behind it. -/
def scanLexeme (cs : List Char) : Option (Lexeme × List Char) :=
  match Numeral.take cs with
  | some (n, rest) => some (.number (Number.float n.toFloat).normalize, rest)
  | none =>
      match cs with
      | [] => none
      | c :: rest =>
          if c = '\'' ∨ c = '"' then
            (scanText c rest).map fun r => (.text (String.ofList r.1), r.2)
          else if isNameStart c then
            some (.name (String.ofList (cs.takeWhile isNamePart)), cs.dropWhile isNamePart)
          else (scanSymbol cs).map fun r => (.symbol r.1, r.2)

/-! ### Formulas -/

/-- The tokens of some characters that start at a place, with the end token behind them and a bound
on the number of steps. -/
def tokenizeFrom : Nat → Nat → List Char → Except FormulaError (List Token)
  | 0, pos, _ => .ok [⟨.stop, pos⟩]
  | _ + 1, pos, [] => .ok [⟨.stop, pos⟩]
  | n + 1, pos, c :: cs =>
      if Text.isBlank c then tokenizeFrom n (pos + 1) cs
      else
        match scanLexeme (c :: cs) with
        | none => .error (.unexpectedCharacter c pos)
        | some (l, rest) => do
            let next ← tokenizeFrom n (pos + ((c :: cs).length - rest.length)) rest
            return ⟨l, pos⟩ :: next

/-- **The tokens of a formula**, with the end token behind them.  Every step reads a character, so
the length bounds their number. -/
def tokenize (s : String) : Except FormulaError (List Token) :=
  tokenizeFrom s.toList.length 0 s.toList

end Gamebook.Formula
