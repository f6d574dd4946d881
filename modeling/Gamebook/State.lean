/-
**The state of a game.**

A state has a persistent part, which is saved and restored, and a derived view, which every sync
computes anew from the persistent part and the book.  A restored record may hold anything, so most
persistent fields are plain values; the stats have been read and the items and the journal have
types of their own.  A flag can be the inventory itself; it then follows the inventory until the
game is saved, which keeps the counts of that moment.  A flag can also be the flags themselves, and
stays it.

Main definitions:

* `BuffInstance`, `BuffTotals` — the buffs in effect, and their sums;
* `State` — the whole state;
* `SavedGame` — the persistent part as a record, with `SavedGame.toValue` and `SavedGame.ofValue`;
* `State.save`, `State.ofSaved` — between the two.
-/

import Gamebook.Inventory
import Gamebook.Journal
import Gamebook.Stat

set_option autoImplicit false

namespace Gamebook

/-! ### Buffs in effect -/

/-- One contribution to the value of a buff, and where it comes from. -/
structure BuffInstance where
  id : Value
  value : Value
  source : String

/-- The sum of the contributions to each buff. -/
abbrev BuffTotals := Fields Number

/-- The sums as an object. -/
def BuffTotals.toValue (totals : BuffTotals) : Value :=
  .obj (totals.map fun (id, n) => (id, .num n))

/-! ### The state -/

/-- The state of a game. -/
structure State where
  baseStats : Fields Stat := []
  resources : Value := .obj []
  inventory : Inventory := {}
  /-- The active buffs: records with an `id`, a `value_expr` and a `duration_days`. -/
  buffs : Value := .list []
  flags : Value := .obj []
  day : Value := .int 1
  node : Value := .null
  ending : Value := .null
  journal : Journal
  /-- The derived stats. -/
  stats : Fields Stat := []
  buffInstances : List BuffInstance := []
  buffTotals : BuffTotals := []

/-- The capacity of the inventory; null where there is none. -/
def capacityOf (resources : Value) : Except Fault Value := resources.field "capacity"

/-- The capacity of the inventory; null where there is none. -/
def State.capacity (s : State) : Except Fault Value := capacityOf s.resources

/-- Flags of which those that are the inventory have new counts. -/
def refreshFlags (counts : Fields Value) : Value → Value
  | .obj flags => .obj (flags.map fun (id, v) => (id, v.follow counts))
  | .list flags => .list (flags.map (·.follow counts))
  | v => v

/-- The state with another inventory, which the flags that are the inventory follow. -/
def State.withInventory (s : State) (inventory : Inventory) : State :=
  { s with inventory, flags := refreshFlags inventory.counts s.flags }

/-! ### Saved games -/

/-- The persistent part of a state as it is saved. -/
structure SavedGame where
  baseStats : Value
  resources : Value
  inventory : Inventory
  buffs : Value
  flags : Value
  day : Value
  node : Value
  ending : Value
  journal : Journal

namespace SavedGame

/-- The record of a saved game. -/
def toValue (g : SavedGame) : Value :=
  .obj
    [("base_stats", g.baseStats), ("resources", g.resources), ("items", g.inventory.toValue),
      ("buffs", g.buffs), ("flags", g.flags), ("day", g.day), ("node", g.node),
      ("ending", g.ending), ("log", g.journal.toValue)]

/-- The saved game of a record.  A missing field has its default. -/
def ofValue (digits : DigitLimit) (v : Value) (logLimit : Int) : Except Fault SavedGame := do
  let baseStats := (← v.field "base_stats").orElse (.obj [])
  let resources := (← v.field "resources").orElse (.obj [])
  let inventory ← Inventory.ofValue (← v.field "items")
  let buffs := (← v.field "buffs").orElse (.list [])
  let flags := (← v.field "flags").orElse (.obj [])
  let day := (← v.field? "day").getD (.int 1)
  let node ← v.field "node"
  let ending ← v.field "ending"
  let journal ← Journal.ofValueWithin digits (← v.field "log") logLimit
  return { baseStats, resources, inventory, buffs, flags, day, node, ending, journal }

end SavedGame

/-- The persistent part of a state.  A flag that is the inventory is saved with its counts. -/
def State.save (s : State) : SavedGame where
  baseStats := Stat.allToValue s.baseStats
  resources := s.resources
  inventory := s.inventory
  buffs := s.buffs
  flags := s.flags.detached
  day := s.day
  node := s.node
  ending := s.ending
  journal := s.journal

/-- A state with the persistent part of a saved game and the stats read from it. -/
def State.ofSaved (g : SavedGame) (baseStats : Fields Stat) : State where
  baseStats := baseStats
  resources := g.resources
  inventory := g.inventory
  buffs := g.buffs
  flags := g.flags
  day := g.day
  node := g.node
  ending := g.ending
  journal := g.journal
  stats := baseStats

end Gamebook
