/-
**Rolling dice.**

Main definitions:

* `Dice.roll` — the total of some dice;
* `Chance.rollFair` — the roll of a value, zero for what is no dice notation;
* `Chance.roll` — the roll of a value by the roller in use.
-/

import Gamebook.Chance
import Gamebook.Dice.Notation

set_option autoImplicit false

namespace Gamebook

/-- The sum of `count` dice added to a total, each die in turn. -/
def Chance.throwDice (sides : Nat) : Nat → Int → Chance → Int × Chance
  | 0, total, c => (total, c)
  | count + 1, total, c =>
      let (face, c) := c.throwDie sides
      throwDice sides count (total + face) c

/-- The total of some dice.  Dice without sides are not thrown. -/
def Dice.roll (d : Dice) (c : Chance) : Int × Chance :=
  if d.sides = 0 then (d.modifier, c) else c.throwDice d.sides d.count d.modifier

namespace Chance

/-- A roll with fair dice; what is no dice notation rolls zero. -/
def rollFair (limit : DigitLimit) (v : Value) : Chancy Value := do
  match ← (Dice.ofValue limit v : Except Fault (Option Dice)) with
  | none => return .int 0
  | some d =>
      let (total, c) := d.roll (← get)
      set c
      return .int total

/-- The roll of a value.  A script is followed to its end; then its fallback is used, or fair dice
when it has none. -/
def roll (limit : DigitLimit) (v : Value) : Chancy Value := do
  let c ← get
  match c.roller with
  | .fair => rollFair limit v
  | .scripted (next :: rest) fallback asked =>
      set { c with roller := .scripted rest fallback (asked ++ [v]) }
      return next
  | .scripted [] fallback asked =>
      set { c with roller := .scripted [] fallback (asked ++ [v]) }
      if fallback.isNull then rollFair limit v else return fallback

end Chance

end Gamebook
