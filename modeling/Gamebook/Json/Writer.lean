/-
**Values written as JSON text.**

Texts are kept as they are but for quotes, backslashes and control characters, integers are written
out, and floats with the fewest digits that read back.  The floats that are no finite numbers have
words of their own.  A name that is no text is written as the text of its value.  What holds itself
has no text.

Main definitions:

* `Json.Layout` — the white space between the parts: `Json.Layout.indented` has a part on each
  line, `Json.Layout.compact` has none;
* `Json.render`, `Json.write` — the text of a value;
* `Json.ends` — whether a value has a text;
* `Json.begun` — as much of a text as is written before an integer with too many digits, or before
  what holds itself.
-/

import Gamebook.Decimal.Notation
import Gamebook.Text.Quoted
import Gamebook.Value.Text

set_option autoImplicit false

namespace Gamebook.Json

/-- The white space of a text: what stands before a part at a depth, and after a name. -/
structure Layout where
  before : Nat → List Char
  afterColon : List Char

/-- Every part on a line of its own, two blanks deeper than what holds it. -/
def Layout.indented : Layout where
  before depth := '\n' :: List.replicate (2 * depth) ' '
  afterColon := [' ']

/-- No white space. -/
def Layout.compact : Layout where
  before _ := []
  afterColon := []

/-! ### Leaves -/

/-- A character of a text. -/
def charChars (c : Char) : List Char :=
  if c = '"' ∨ c = '\\' then ['\\', c]
  else if c = '\n' then ['\\', 'n']
  else if c = '\r' then ['\\', 'r']
  else if c = '\t' then ['\\', 't']
  else if c.toNat = 8 then ['\\', 'b']
  else if c.toNat = 12 then ['\\', 'f']
  else if c.toNat < 0x20 then '\\' :: 'u' :: Text.hex 4 c.toNat
  else [c]

/-- A text between quotes. -/
def stringChars (s : String) : List Char := '"' :: s.toList.flatMap charChars ++ ['"']

/-- A number. -/
def numberChars : Number → List Char
  | .int n => intChars n
  | .float x =>
      match Binary64.ofFloat x with
      | .nan => "NaN".toList
      | .infinite s => if s then "-Infinity".toList else "Infinity".toList
      | .finite _ _ _ => floatChars x
  | .nan _ => "NaN".toList

/-- The text that a name is written as. -/
def keyText : Key → String
  | .text s => s
  | .null => "null"
  | .bool b => if b then "true" else "false"
  | .num n => String.ofList (numberChars n)

/-- A name. -/
def keyChars (k : Key) : List Char := stringChars (keyText k)

/-! ### Values -/

mutual

/-- The characters of a value at a depth. -/
def render (l : Layout) (depth : Nat) : Value → List Char
  | .null => "null".toList
  | .bool b => if b then "true".toList else "false".toList
  | .num n => numberChars n
  | .str s => stringChars s
  | .list [] => ['[', ']']
  | .list (v :: vs) =>
      '[' :: l.before (depth + 1) ++ render l (depth + 1) v ++ renderItems l (depth + 1) vs
        ++ l.before depth ++ [']']
  | .obj [] => ['\x7b', '\x7d']
  | .obj ((k, v) :: fs) =>
      '\x7b' :: l.before (depth + 1) ++ keyChars k ++ ':' :: l.afterColon
        ++ render l (depth + 1) v ++ renderFields l (depth + 1) fs ++ l.before depth ++ ['\x7d']
  | .inventory [] => ['\x7b', '\x7d']
  | .inventory ((k, v) :: fs) =>
      '\x7b' :: l.before (depth + 1) ++ keyChars k ++ ':' :: l.afterColon
        ++ render l (depth + 1) v ++ renderFields l (depth + 1) fs ++ l.before depth ++ ['\x7d']
  | .flags _ => []

/-- The elements of a list after the first one. -/
def renderItems (l : Layout) (depth : Nat) : List Value → List Char
  | [] => []
  | v :: vs => ',' :: l.before depth ++ render l depth v ++ renderItems l depth vs

/-- The fields of an object after the first one. -/
def renderFields (l : Layout) (depth : Nat) : List (Key × Value) → List Char
  | [] => []
  | (k, v) :: fs =>
      ',' :: l.before depth ++ keyChars k ++ ':' :: l.afterColon ++ render l depth v
        ++ renderFields l depth fs

end

/-- **The JSON text of a value.** -/
def write (l : Layout) (v : Value) : String := String.ofList (render l 0 v)

/-! ### Texts that are not written to their end -/

mutual

/-- **Whether the writing of a value ends**: the flags are not among its parts. -/
def ends : Value → Bool
  | .list items => endsList items
  | .obj fields => endsFields fields
  | .inventory counts => endsFields counts
  | .flags _ => false
  | _ => true

/-- Whether the writing of the elements of a list ends. -/
def endsList : List Value → Bool
  | [] => true
  | v :: vs => ends v && endsList vs

/-- Whether the writing of the fields of an object ends. -/
def endsFields : List (Key × Value) → Bool
  | [] => true
  | (_, v) :: fs => ends v && endsFields fs

end

/-- What has been written, and whether the writing goes on. -/
abbrev Begun := List Char × Bool

/-- The second part is written behind the first one, unless that ended the writing. -/
def Begun.andThen (a b : Begun) : Begun := if a.2 then (a.1 ++ b.1, b.2) else a

/-- Some characters that are written unless an integer with too many digits follows them. -/
def lead (cs : List Char) (follows : Bool) : Begun := if follows then (cs, true) else ([], false)

/-- Whether a value is no integer with too many digits. -/
def isAdmitted (limit : DigitLimit) : Value → Bool
  | .num (.int n) => limit.admitsInt n
  | _ => true

/-- A name behind some characters. -/
def begunKey (limit : DigitLimit) (l : Layout) (cs : List Char) (k : Key) : Begun :=
  lead (cs ++ keyChars k ++ ':' :: l.afterColon) (k.isWritable limit)

mutual

/-- **What is written of a value at a depth** before an integer with too many digits, or the flags
among the flags, end the writing.  What would stand in front of such an integer in a list is not
written either. -/
def begun (limit : DigitLimit) (l : Layout) (depth : Nat) : Value → Begun
  | .list [] => (['[', ']'], true)
  | .list (v :: vs) =>
      (lead ('[' :: l.before (depth + 1)) (isAdmitted limit v)).andThen <|
        (begun limit l (depth + 1) v).andThen <|
        (begunItems limit l (depth + 1) vs).andThen (l.before depth ++ [']'], true)
  | .obj fields => begunObject limit l depth fields
  | .inventory counts => begunObject limit l depth counts
  | .flags _ => ([], false)
  | v => lead (render l depth v) (isAdmitted limit v)

/-- What is written of the elements of a list after the first one. -/
def begunItems (limit : DigitLimit) (l : Layout) (depth : Nat) : List Value → Begun
  | [] => ([], true)
  | v :: vs =>
      (lead (',' :: l.before depth) (isAdmitted limit v)).andThen <|
        (begun limit l depth v).andThen (begunItems limit l depth vs)

/-- What is written of an object. -/
def begunObject (limit : DigitLimit) (l : Layout) (depth : Nat) : List (Key × Value) → Begun
  | [] => (['\x7b', '\x7d'], true)
  | (k, v) :: fs =>
      Begun.andThen ('\x7b' :: l.before (depth + 1), true) <|
        (begunKey limit l [] k).andThen <| (begun limit l (depth + 1) v).andThen <|
        (begunFields limit l (depth + 1) fs).andThen (l.before depth ++ ['\x7d'], true)

/-- What is written of the fields of an object after the first one. -/
def begunFields (limit : DigitLimit) (l : Layout) (depth : Nat) : List (Key × Value) → Begun
  | [] => ([], true)
  | (k, v) :: fs =>
      (begunKey limit l (',' :: l.before depth) k).andThen <|
        (begun limit l depth v).andThen (begunFields limit l depth fs)

end

end Gamebook.Json
