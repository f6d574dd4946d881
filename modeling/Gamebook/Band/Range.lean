/-
**Band ranges.**

The range of a band is written `n` or `n-m`, with a sign in front of either number and blanks
around the separating stroke.  The ends may come in either order and are cut to the die.  A number
with too many digits is a fault.

Main definitions:

* `Band.RangeText` — a range as it is written;
* `Band.readRange` — the two ends of a text;
* `Band.parseRange` — the die values that a range covers.
-/

import Gamebook.Band.DieSet
import Gamebook.Dice.Notation
import Gamebook.Value.Text

set_option autoImplicit false

namespace Gamebook.Band

/-- An end of a range as it is written: its sign and its digits. -/
structure EndText where
  negative : Bool
  digits : List Char

/-- A range as it is written; a single number is both ends. -/
structure RangeText where
  first : EndText
  second : Option EndText

/-- A signed number and the characters behind it. -/
def takeEnd (cs : List Char) : Option (EndText × List Char) :=
  match cs with
  | '-' :: rest => (Dice.takeDigits rest).map fun (ds, cs) => (⟨true, ds⟩, cs)
  | cs => (Dice.takeDigits cs).map fun (ds, cs) => (⟨false, ds⟩, cs)

/-- The second end of a range behind the first one: nothing, or a stroke, blanks and a number. -/
def takeSecond : List Char → Option (Option EndText)
  | [] => some none
  | '-' :: cs =>
      match takeEnd (cs.dropWhile Text.isBlank) with
      | some (e, []) => some (some e)
      | _ => none
  | _ => none

/-- The parts of a range. -/
def RangeText.split (cs : List Char) : Option RangeText := do
  let (first, cs) ← takeEnd cs
  return ⟨first, ← takeSecond (cs.dropWhile Text.isBlank)⟩

/-- The number of an end. -/
def EndText.value (limit : DigitLimit) (e : EndText) : Except Fault Int := do
  return Binary64.signed e.negative (← limit.readNat e.digits)

/-- The two ends of a text; none when it is no range. -/
def readRange (limit : DigitLimit) (cs : List Char) : Except Fault (Option (Int × Int)) :=
  match RangeText.split cs with
  | none => .ok none
  | some t => do
      let first ← t.first.value limit
      match t.second with
      | none => return some (first, first)
      | some e => return some (first, ← e.value limit)

/-- The values of a die between two ends. -/
def between (a b : Int) (bounds : Bounds) : DieSet :=
  Bounds.values ⟨max (min a b) bounds.min, min (max a b) bounds.max⟩

/-- **The die values that a range covers**; none for what is no range. -/
def parseRange (limit : DigitLimit) (range : Value) (bounds : Option Bounds) :
    Except Fault DieSet :=
  match range, bounds with
  | .null, _ => .ok []
  | _, none => .ok []
  | range, some bounds => do
      match ← readRange limit (Text.stripChars (← range.plainTextWithin limit).toList) with
      | some (a, b) => return between a b bounds
      | none => return []

end Gamebook.Band
