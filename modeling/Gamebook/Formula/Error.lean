/-
**What can be wrong with a formula.**

Main definitions:

* `FormulaError` — the causes, from reading and from evaluating a formula;
* `FormulaError.message` — their wording.
-/

import Gamebook.Formula.Token

set_option autoImplicit false

namespace Gamebook

/-- Why a formula cannot be read or has no value. -/
inductive FormulaError where
  /-- No token starts with this character. -/
  | unexpectedCharacter (c : Char) (pos : Nat)
  /-- There is nothing to read. -/
  | empty
  /-- A token, perhaps the end of the formula, stands where it cannot. -/
  | unexpected (found : Formula.Lexeme) (pos : Nat)
  /-- A symbol is missing in front of what was found. -/
  | expected (wanted : Formula.Symbol) (found : Formula.Lexeme) (pos : Nat)
  /-- A point is not followed by a name. -/
  | expectedProperty (pos : Nat)
  /-- Something other than a plain name is called. -/
  | notCallable
  /-- An operator meets null. -/
  | nullOperand (operator : Formula.Symbol)
  /-- A member of null is read. -/
  | memberOfNull (key : String)
  | undefinedName (name : String)
  | undefinedFunction (name : String)
  | badArguments (name : String)
  /-- The arithmetic left the range of numbers, or a value was of the wrong kind. -/
  | noResult
  deriving DecidableEq

namespace FormulaError

/-- The wording of an error.  An error of arithmetic has none of its own. -/
def message : FormulaError → Option String
  | unexpectedCharacter c pos =>
      some ("Unexpected character " ++ Text.quoted (String.singleton c) ++ " at "
        ++ Nat.repr pos)
  | empty => some "Empty expression"
  | unexpected found pos => some ("Unexpected " ++ found.shown ++ " at " ++ Nat.repr pos)
  | expected wanted found pos =>
      some ("Expected " ++ Text.quoted wanted.text ++ " but found " ++ found.shown ++ " at "
        ++ Nat.repr pos)
  | expectedProperty pos => some ("Expected property name at " ++ Nat.repr pos)
  | notCallable => some "Only builtin functions can be called"
  | nullOperand operator => some ("Cannot apply '" ++ operator.text ++ "' to null")
  | memberOfNull key => some ("Cannot read property " ++ Text.quoted key ++ " of null")
  | undefinedName name => some (name ++ " is not defined")
  | undefinedFunction name => some (name ++ " is not a function")
  | badArguments name => some ("Bad arguments for " ++ name ++ "()")
  | noResult => none

end FormulaError

end Gamebook
