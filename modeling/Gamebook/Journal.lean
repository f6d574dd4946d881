/-
**The journal of recent events.**

The journal keeps the newest entries up to a limit, newest first.  Each entry is a text and the
time at which it was written.  A negative limit keeps all entries but that many of the oldest.

Main definitions:

* `Journal` — the entries and their limit;
* `Journal.add` — a new entry;
* `Journal.addWithin` — a new entry whose text is written within the digit limit;
* `Journal.toValue`, `Journal.ofValue` — saving and loading;
* `Journal.ofValueWithin` — loading where the texts are written within the digit limit.

Main result: `Journal.length_upTo_le` — a limit that is not negative is kept.
-/

import Gamebook.Value.Access
import Gamebook.Value.Text

set_option autoImplicit false

namespace Gamebook

/-- A text and the time at which it was written. -/
structure JournalEntry where
  text : String
  time : Value

/-- The newest entries, newest first. -/
structure Journal where
  limit : Int
  entries : List JournalEntry := []

namespace Journal

/-- The first elements of a list up to a limit; a negative limit leaves out that many at the
end. -/
def upTo {α : Type} (limit : Int) (l : List α) : List α :=
  if 0 ≤ limit then l.take limit.toNat else l.take (l.length + limit).toNat

/-- **Writes an entry.**  An empty text is not written. -/
def add (j : Journal) (text : Value) (now : Value) : Journal :=
  if text.holds then { j with entries := upTo j.limit (⟨text.plainText, now⟩ :: j.entries) } else j

/-- Writes an entry with the text of any value, which has to be within the digit limit. -/
def addWithin (digits : DigitLimit) (j : Journal) (text : Value) (now : Value) :
    Except Fault Journal :=
  if text.isWritable digits then .ok (j.add text now) else .error .tooManyDigits

/-- The texts, newest first. -/
def texts (j : Journal) : List String := j.entries.map JournalEntry.text

/-- The newest text, or the empty text. -/
def latest (j : Journal) : String := (j.texts.head?).getD ""

/-! ### Saving and loading -/

/-- An entry as an object. -/
def entryValue (e : JournalEntry) : Value := .obj [("text", .str e.text), ("at", e.time)]

/-- The entries as a list. -/
def toValue (j : Journal) : Value := .list (j.entries.map entryValue)

/-- The entry of a saved value: an object with a text, or a text alone, which has the time zero.
Nothing else is an entry. -/
def entryOf? : Value → Option JournalEntry
  | .obj fields =>
      let text := Value.ofOption (Fields.get? fields "text")
      if text.holds then some ⟨text.plainText, (Fields.get? fields "at").getD (.int 0)⟩ else none
  | .str s => if s.isEmpty then none else some ⟨s, .int 0⟩
  | _ => none

/-- The saved values that a journal is loaded from. -/
def savedEntries (v : Value) (limit : Int) : List Value :=
  match v with
  | .list items => upTo limit items
  | _ => []

/-- The journal of a saved value; what is no list has no entries. -/
def ofValue (v : Value) (limit : Int) : Journal :=
  ⟨limit, (savedEntries v limit).filterMap entryOf?⟩

/-- Whether the text of a saved value, where it is an entry, is within the digit limit. -/
def isWritableEntry (digits : DigitLimit) : Value → Bool
  | .obj fields =>
      let text := Value.ofOption (Fields.get? fields "text")
      !text.holds || text.isWritable digits
  | _ => true

/-- Loads a journal whose texts are those of any values, which have to be within the digit limit. -/
def ofValueWithin (digits : DigitLimit) (v : Value) (limit : Int) : Except Fault Journal :=
  if (savedEntries v limit).all (isWritableEntry digits) then .ok (ofValue v limit)
  else .error .tooManyDigits

@[simp] theorem upTo_nil {α : Type} (limit : Int) : upTo limit ([] : List α) = [] := by
  simp [upTo]

theorem upTo_eq_take {α : Type} {limit : Int} (h : 0 ≤ limit) (l : List α) :
    upTo limit l = l.take limit.toNat := if_pos h

theorem length_upTo_le {α : Type} {limit : Int} (h : 0 ≤ limit) (l : List α) :
    ((upTo limit l).length : Int) ≤ limit := by
  rw [upTo_eq_take h, List.length_take]; omega

end Journal

end Gamebook
