/-
**Values as text.**

A value is written in two ways.  The plain text shows a text as it is, and what stands inside a
list or an object between quotes.  The display text, made for players and for joining texts in a
formula, spells null and truth values in lower case and drops the point of an integral float.
An integer with more digits than the limit is written in neither way.  The flags among the flags are
shown by dots: a text ends, although they hold themselves.

Main definitions:

* `Value.shown` — a value inside a container or a message;
* `Value.plainText` — the plain text;
* `Value.display` — the display text;
* `Value.isWritable` — whether all integers in a value are within the limit;
* `Value.plainTextWithin`, `Value.displayWithin` — the texts of a value within the limit;
* `Key.plainText`, `Key.shown` — a name as text.
-/

import Gamebook.Text.DigitLimit
import Gamebook.Value.Basic

set_option autoImplicit false

namespace Gamebook

/-! ### Names -/

namespace Key

/-- A name as it is shown inside an object. -/
def shown : Key → String
  | text s => Text.quoted s
  | null => "None"
  | bool b => if b then "True" else "False"
  | num n => n.toText

/-- The plain text of a name. -/
def plainText : Key → String
  | text s => s
  | k => k.shown

/-- Whether a name that is an integer is within the limit. -/
def isWritable (limit : DigitLimit) : Key → Bool
  | num (.int n) => limit.admitsInt n
  | _ => true

@[simp] theorem plainText_text (s : String) : (text s).plainText = s := rfl

end Key

/-! ### Values -/

namespace Value

/-- Texts with a separator between them. -/
def joined (sep : String) : List String → String
  | [] => ""
  | [s] => s
  | s :: rest => s ++ sep ++ joined sep rest

@[simp] theorem joined_nil (sep : String) : joined sep [] = "" := rfl

@[simp] theorem joined_singleton (sep s : String) : joined sep [s] = s := rfl

theorem joined_cons_cons (sep s t : String) (rest : List String) :
    joined sep (s :: t :: rest) = s ++ sep ++ joined sep (t :: rest) := rfl

mutual

/-- A value as it is shown inside a container or a message. -/
def shown : Value → String
  | null => "None"
  | bool b => if b then "True" else "False"
  | num n => n.toText
  | str s => Text.quoted s
  | list items => "[" ++ joined ", " (shownList items) ++ "]"
  | obj fields => "\x7b" ++ joined ", " (shownFields fields) ++ "\x7d"
  | inventory counts => "\x7b" ++ joined ", " (shownFields counts) ++ "\x7d"
  | flags content => shown content

/-- The elements of a list as they are shown. -/
def shownList : List Value → List String
  | [] => []
  | flags _ :: vs => "[...]" :: shownList vs
  | v :: vs => shown v :: shownList vs

/-- The fields of an object as they are shown. -/
def shownFields : List (Key × Value) → List String
  | [] => []
  | (k, flags _) :: fs => (k.shown ++ ": \x7b...\x7d") :: shownFields fs
  | (k, v) :: fs => (k.shown ++ ": " ++ shown v) :: shownFields fs

end

/-- The plain text of a value. -/
def plainText : Value → String
  | str s => s
  | v => shown v

/-- The display text of a number. -/
def displayNumber : Number → String
  | .int n => Number.toText (.int n)
  | .float x =>
      match Binary64.ofFloat x with
      | .nan => "NaN"
      | .infinite s => if s then "-Infinity" else "Infinity"
      | .finite _ _ _ => (Number.float x).normalize.toText
  | .nan _ => "NaN"

/-- The display text of a value. -/
def display : Value → String
  | null => "null"
  | bool b => if b then "true" else "false"
  | num n => displayNumber n
  | str s => s
  | v => plainText v

/-! ### The digit limit -/

mutual

/-- Whether all integers in a value are within the limit. -/
def isWritable (limit : DigitLimit) : Value → Bool
  | num (.int n) => limit.admitsInt n
  | list items => isWritableList limit items
  | obj fields => isWritableFields limit fields
  | inventory counts => isWritableFields limit counts
  | flags content => isWritable limit content
  | _ => true

/-- Whether all integers in a list are within the limit. -/
def isWritableList (limit : DigitLimit) : List Value → Bool
  | [] => true
  | v :: vs => isWritable limit v && isWritableList limit vs

/-- Whether all integers in an object are within the limit. -/
def isWritableFields (limit : DigitLimit) : List (Key × Value) → Bool
  | [] => true
  | (k, v) :: fs => k.isWritable limit && isWritable limit v && isWritableFields limit fs

end

/-- The plain text of a value, when it can be written. -/
def plainTextWithin (limit : DigitLimit) (v : Value) : Except Fault String :=
  if v.isWritable limit then .ok v.plainText else .error .tooManyDigits

/-- The display text of a value, when it can be written. -/
def displayWithin (limit : DigitLimit) (v : Value) : Except Fault String :=
  if v.isWritable limit then .ok v.display else .error .tooManyDigits

end Value

end Gamebook
