/-
**The save slot.**

A slot is a file that may be missing.  A record is written to it as indented JSON text; reading
takes back an object and reports what is none, and what has an integer beyond the digit limit.  Such
an integer is not written either, nor are flags that hold themselves: the file then ends in front of
them, and that is reported.

Main definitions:

* `SaveSlot` — the text of the file, if there is one;
* `SaveSlot.save` — the slot with a record;
* `SaveSlot.store`, `SaveSlot.load` — writing a record within the digit limit, and reading one.
-/

import Gamebook.Json.Reader
import Gamebook.Json.Writer

set_option autoImplicit false

namespace Gamebook

/-- The text of the save file, if there is one. -/
abbrev SaveSlot := Option String

namespace SaveSlot

/-- What keeps the text of a file from being a saved record. -/
inductive Trouble where
  | unreadable
  | unexpectedFormat
  | unwritable
  deriving DecidableEq

/-- The wording of a trouble. -/
def Trouble.message : Trouble → String
  | unreadable => "[Memory Error] Failed to load"
  | unexpectedFormat => "[Memory Error] Unexpected save format in"
  | unwritable => "[Memory Error] Failed to save to"

/-- The slot with a record. -/
def save (record : Value) : SaveSlot := some (Json.write .indented record)

/-- **Writes a record to the slot**, whatever was there before.  Where an integer has too many
digits, or the flags hold themselves, the slot is left with what stands in front of that. -/
def store (limit : DigitLimit) (record : Value) : Except Trouble Unit × SaveSlot :=
  if record.isWritable limit && Json.ends record then (.ok (), save record)
  else (.error .unwritable, some (String.ofList (Json.begun limit .indented 0 record).1))

/-- **The record in a slot.**  A missing or blank file has none; any other text without an object
is a trouble. -/
def load (limit : DigitLimit) (slot : SaveSlot) : Except Trouble (Option Value) :=
  match slot with
  | none => .ok none
  | some text =>
      let content := Text.strip text
      if content.isEmpty then .ok none
      else
        match Json.read .plain limit content with
        | .error _ => .error .unreadable
        | .ok (.obj fields) => .ok (some (.obj fields))
        | .ok _ => .error .unexpectedFormat

end SaveSlot

end Gamebook
