/-
**Chance.**

All that is random in a game comes from one source: a sequence of draws for the dice and a sequence
of fractions.  The source counts how many of each have been used.  Rolls can also be scripted: then
the values of a script are handed out one by one before the dice are thrown.

Main definitions:

* `Chance` — the source and what has been taken from it;
* `Roller` — fair dice or a script;
* `Chance.constant`, `Chance.seeded` — sources;
* `Chancy` — computations that may use chance and may end in a fault;
* `Chance.throwDie`, `Chance.nextFraction` — one die, one fraction.
-/

import Gamebook.Value.Basic
import Gamebook.Fault

set_option autoImplicit false

namespace Gamebook

/-- Where rolls come from: from fair dice, or from a script with an optional value for the time
after its end.  A script remembers what it was asked for. -/
inductive Roller where
  | fair
  | scripted (pending : List Value) (fallback : Value) (asked : List Value)

/-- A source of randomness and how much of it has been used. -/
structure Chance where
  /-- The draw with a number. -/
  draw : Nat → Int
  /-- The fraction with a number. -/
  fraction : Nat → Value
  roller : Roller := .fair
  /-- How many draws have been used. -/
  drawn : Nat := 0
  /-- How many fractions have been used. -/
  fractionsTaken : Nat := 0

/-- A computation that may use chance and may end in a fault; what it used stays used. -/
abbrev Chancy (α : Type) := ExceptT Fault (StateM Chance) α

namespace Chance

/-- A source that always gives the same. -/
def constant (draw : Int) (fraction : Value) : Chance :=
  { draw := fun _ => draw, fraction := fun _ => fraction }

/-- Scrambles 64 bits, so that neighbouring inputs give unrelated outputs. -/
def scramble (x : UInt64) : UInt64 :=
  let x := (x ^^^ (x >>> 30)) * 0xbf58476d1ce4e5b9
  let x := (x ^^^ (x >>> 27)) * 0x94d049bb133111eb
  x ^^^ (x >>> 31)

/-- The bits with a number in the sequence that a seed starts. -/
def seededBits (seed : UInt64) (n : Nat) : Nat :=
  (scramble (seed + 0x9e3779b97f4a7c15 * UInt64.ofNat (n + 1))).toNat

/-- A source that looks random, from a seed: scrambled bits for the draws, and fractions below one
with 53 bits. -/
def seeded (seed : UInt64) : Chance :=
  { draw := fun n => seededBits seed n
    fraction := fun n =>
      .float (Binary64.nearest false (seededBits (scramble seed) n / twoTo 11) (twoTo 53)) }

/-- Throws a die with the given number of sides, at least one: the next draw, wrapped around into
the values `1` to `sides`. -/
def throwDie (sides : Nat) (c : Chance) : Int × Chance :=
  (1 + (c.draw c.drawn).emod sides, { c with drawn := c.drawn + 1 })

/-- Takes the next fraction. -/
def nextFraction (c : Chance) : Value × Chance :=
  (c.fraction c.fractionsTaken, { c with fractionsTaken := c.fractionsTaken + 1 })

end Chance

end Gamebook
