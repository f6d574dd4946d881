/-
**Faults.**

A fault ends the action that met it.  The causes are kept apart because some of them are answered
on the way: a formula that fails is worth zero to the engine, a value of the wrong kind inside a
formula is an error of the formula.

Main definitions:

* `DocumentError` — why a game document cannot be loaded;
* `Fault` — all causes, with their wording where they have one.
-/

import Gamebook.Formula.Error

set_option autoImplicit false

namespace Gamebook

/-- Why a game document cannot be loaded from a file. -/
inductive DocumentError where
  | notFound (path : String)
  | malformed (path : String)
  | empty (path : String)
  | notAnObject (path : String)
  deriving DecidableEq

/-- The wording of a document error. -/
def DocumentError.message : DocumentError → String
  | notFound path => "Game data file not found: " ++ path
  | malformed path => "Error parsing game data file " ++ path
  | empty path => "Game data file is empty or contains no data: " ++ path
  | notAnObject path => "Game data must be a mapping at the top level: " ++ path

/-- Why an action ends without a result. -/
inductive Fault where
  /-- A formula cannot be read or has no value. -/
  | formula (e : FormulaError)
  /-- An integer lies beyond the largest float. -/
  | outOfRange
  /-- A value is of the wrong kind for the operation. -/
  | wrongKind
  /-- Fields are asked of a value that has none. -/
  | noFields
  /-- A required field is missing. -/
  | missingField
  /-- A place lies outside a list. -/
  | noSuchPlace
  /-- A value is of the right kind and its content is malformed. -/
  | malformed
  /-- An integer has too many digits to be read from text or written as text. -/
  | tooManyDigits
  /-- A game document cannot be loaded. -/
  | document (e : DocumentError)
  /-- Moves and days are nested too deeply. -/
  | tooDeep
  /-- A text that is shown to the player is marked wrongly. -/
  | badMarkup
  deriving DecidableEq

/-- The wording of a fault, where it has one. -/
def Fault.message : Fault → Option String
  | formula e => e.message
  | document e => some e.message
  | _ => none

/-- A result that is missing because a number left its range. -/
def inRange {α : Type} : Option α → Except Fault α
  | some a => .ok a
  | none => .error .outOfRange

end Gamebook
