/-
**Books, and the world in which one is played.**

A book is a game document: its items, buffs, shops, events, story nodes and endings.  A world is a
book being played: the book, the settings, the state, the source of chance and the warnings that
the author of the book should see.

Main definitions:

* `Book` — the sections of a game document;
* `Settings` — what is the same for a whole session;
* `World` — everything that play reads and changes;
* `Play` — actions in a world: they may end in a fault, and what they changed before it stays
  changed;
* `Play.keep` — a computed number on its way into the state.
-/

import Gamebook.Chance
import Gamebook.State

set_option autoImplicit false

namespace Gamebook

/-- The sections of a game document.  A missing section is empty. -/
structure Book where
  document : Value := .obj []
  info : Value := .obj []
  items : Value := .obj []
  buffs : Value := .obj []
  shops : Value := .obj []
  nodes : Value := .obj []
  start : Value := .null
  events : Value := .list []
  endings : Value := .list []

/-- What is the same for a whole session. -/
structure Settings where
  /-- How many entries the journal keeps. -/
  logLimit : Int := 12
  /-- The dice of a check whose roll formula is no dice notation. -/
  defaultDice : String := "1d20"
  /-- The difficulty of a check that declares none. -/
  defaultDc : Value := .int 0
  /-- The time that new journal entries are given. -/
  now : Value := .int 0
  /-- How many digits an integer may have in text. -/
  digitLimit : DigitLimit := .standard

/-- Everything that play reads and changes. -/
structure World where
  settings : Settings
  book : Book := {}
  state : State
  chance : Chance
  /-- What the author of the book should know, oldest first. -/
  warnings : List String := []
  /-- How many results that are no numbers have been kept. -/
  keptNaNs : Nat := 0

/-- An action in a world. -/
abbrev Play (α : Type) := ExceptT Fault (StateM World) α

namespace Play

/-- The state of the game. -/
def state : Play State := do return (← get).state

/-- The book being played. -/
def book : Play Book := do return (← get).book

/-- Changes the state. -/
def modifyState (f : State → State) : Play Unit := modify fun w => { w with state := f w.state }

/-- A number to be kept: a result that is not a number becomes one that is like no other. -/
def keep : Number → Play Number
  | .nan .computed => do
      let w ← get
      set { w with keptNaNs := w.keptNaNs + 1 }
      return .nan (.kept w.keptNaNs)
  | n => return n

/-- A value to be kept.  The flags are kept without what they hold, which is what they hold at any
later time. -/
def keepValue : Value → Play Value
  | .num n => do return .num (← keep n)
  | .flags _ => return .flags .null
  | v => return v

/-- The limit on the digits of an integer in text. -/
def digitLimit : Play DigitLimit := do return (← get).settings.digitLimit

/-- Warns the author of the book. -/
def warn (text : String) : Play Unit := modify fun w => { w with warnings := w.warnings ++ [text] }

/-- Writes to the journal. -/
def log (text : Value) : Play Unit :=
  modify fun w =>
    { w with state := { w.state with journal := w.state.journal.add text w.settings.now } }

/-- Runs a computation on the chance of the world. -/
def withChance {α : Type} (m : Chancy α) : Play α := do
  let w ← get
  let (result, chance) := m.run w.chance
  set { w with chance }
  result

end Play

end Gamebook
