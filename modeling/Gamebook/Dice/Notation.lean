/-
**Dice notation.**

`3d6 + 2` stands for three dice with six sides each and a modifier of two.  Blanks may stand
between the parts.  Text of any other shape is no dice notation.  Text of this shape is refused with
a fault when a blank other than the space stands between the sign and the digits of the modifier,
or when one of the numbers has too many digits.

Main definitions:

* `Dice` — a number of dice, their sides and a modifier;
* `DiceText` — dice as they are written;
* `Dice.read` — the dice of a text;
* `Dice.bounds` — the least and the greatest total.
-/

import Gamebook.Text.Blank
import Gamebook.Text.DigitLimit
import Gamebook.Value.Basic

set_option autoImplicit false

namespace Gamebook

/-- Some dice with the same number of sides, and a modifier added to their sum. -/
structure Dice where
  count : Nat
  sides : Nat
  modifier : Int
  deriving DecidableEq, Repr

/-- The range of values that dice can show, both ends included. -/
structure Bounds where
  min : Int
  max : Int
  deriving DecidableEq, Repr

/-- The integers from `low` on, as many as there are up to `high`. -/
def Bounds.values (b : Bounds) : List Int :=
  (List.range (b.max + 1 - b.min).toNat).map fun (i : Nat) => b.min + (i : Int)

theorem Bounds.mem_values {b : Bounds} {v : Int} : v ∈ b.values ↔ b.min ≤ v ∧ v ≤ b.max := by
  simp only [Bounds.values, List.mem_map, List.mem_range]
  constructor
  · rintro ⟨i, hi, rfl⟩
    omega
  · rintro ⟨h, h'⟩
    exact ⟨(v - b.min).toNat, by omega, by omega⟩

namespace Dice

/-! ### Reading -/

/-- A row of digits and the characters behind it; there is at least one digit. -/
def takeDigits (cs : List Char) : Option (List Char × List Char) :=
  let ds := cs.takeWhile Text.isDigit
  if ds.isEmpty then none else some (ds, cs.dropWhile Text.isDigit)

/-- The characters behind the letter between the number of dice and their sides. -/
def takeLetter : List Char → Option (List Char)
  | c :: cs => if c = 'd' ∨ c = 'D' then some cs else none
  | [] => none

end Dice

/-- A modifier as it is written: its sign, the blanks behind the sign, and its digits. -/
structure ModifierText where
  negative : Bool
  blanks : List Char
  digits : List Char

/-- Dice as they are written: the digits of their number and of their sides, and the modifier. -/
structure DiceText where
  count : List Char
  sides : List Char
  modifier : Option ModifierText

/-- The parts of a modifier: nothing, or a sign, blanks and digits up to the end. -/
def ModifierText.split : List Char → Option (Option ModifierText)
  | [] => some none
  | c :: cs =>
      if c = '+' ∨ c = '-' then
        match Dice.takeDigits (cs.dropWhile Text.isBlank) with
        | some (digits, []) => some (some ⟨c = '-', cs.takeWhile Text.isBlank, digits⟩)
        | _ => none
      else none

/-- The value of a modifier.  Only spaces may stand behind the sign. -/
def ModifierText.value (limit : DigitLimit) (m : ModifierText) : Except Fault Int := do
  if !m.blanks.all (· = ' ') then throw .malformed
  return Binary64.signed m.negative (← limit.readNat m.digits)

/-- The parts of dice notation. -/
def DiceText.split (cs : List Char) : Option DiceText := do
  let (count, cs) ← Dice.takeDigits cs
  let cs ← Dice.takeLetter (cs.dropWhile Text.isBlank)
  let (sides, cs) ← Dice.takeDigits (cs.dropWhile Text.isBlank)
  return ⟨count, sides, ← ModifierText.split (cs.dropWhile Text.isBlank)⟩

namespace Dice

/-- The dice that are written. -/
def ofText (limit : DigitLimit) (t : DiceText) : Except Fault Dice := do
  let count ← limit.readNat t.count
  let sides ← limit.readNat t.sides
  match t.modifier with
  | none => return ⟨count, sides, 0⟩
  | some m => return ⟨count, sides, ← m.value limit⟩

/-- **The dice of a text**, blanks around it ignored. -/
def read (limit : DigitLimit) (s : String) : Except Fault (Option Dice) :=
  match DiceText.split (Text.stripChars s.toList) with
  | none => .ok none
  | some t => do return some (← ofText limit t)

/-- The dice of a value; only a text can hold any. -/
def ofValue (limit : DigitLimit) : Value → Except Fault (Option Dice)
  | .str s => read limit s
  | _ => .ok none

/-! ### Bounds -/

/-- The totals with every die at one and with every die at its greatest value. -/
def bounds (d : Dice) : Bounds where
  min := d.count + d.modifier
  max := d.count * d.sides + d.modifier

/-- The bounds of the dice of a value. -/
def boundsOf (limit : DigitLimit) (v : Value) : Except Fault (Option Bounds) := do
  return (← ofValue limit v).map bounds

end Dice

end Gamebook
