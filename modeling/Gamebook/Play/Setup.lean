/-
**Opening a book, restarting it, and restoring a saved game.**

Main definitions:

* `Play.load`, `Play.reset` — a fresh start;
* `Play.restore` — going on from a saved record;
* `World.closed` — a world before any book has been opened.
-/

import Gamebook.Play.Story

set_option autoImplicit false

namespace Gamebook

/-- A world before any book has been opened. -/
def World.closed (settings : Settings) (chance : Chance) : World where
  settings := settings
  state := { journal := ⟨settings.logLimit, []⟩ }
  chance := chance

namespace Play

/-- A section of the book, or another value where it is empty. -/
def sectionOr (document : Value) (name : String) (default : Value) : Except Fault Value := do
  return (← document.field name).orElse default

/-- Changes the book. -/
def modifyBook (f : Book → Book) : Play Unit := modify fun w => { w with book := f w.book }

/-- Takes a document apart into the sections of the book. -/
def openBook (document : Value) : Play Unit := do
  let document := document.orElse (.obj [])
  modifyBook fun b => { b with document }
  let story ← sectionOr document "story" (.obj [])
  let info ← sectionOr document "meta" (.obj [])
  let items ← sectionOr document "items" (.obj [])
  let buffs ← sectionOr document "buffs" (.obj [])
  let shops ← sectionOr document "shops" (.obj [])
  modifyBook fun b => { b with info, items, buffs, shops }
  let nodes ← sectionOr story "nodes" (.obj [])
  let start ← story.field "start"
  let events ← sectionOr document "events" (.list [])
  let endings ← sectionOr document "endings" (.list [])
  modifyBook fun b => { b with nodes, start, events, endings }

/-- Reads stats and warns about the fields that are none. -/
def readStats (v : Value) : Play (Fields Stat) := do
  let (stats, malformed) ← Stat.readAll v
  malformed.forM fun id => warn ("Ignoring malformed stat " ++ id.shown)
  return stats

/-- The count of an item at the start. -/
def startCount (definition : Value) : Except Fault Value := do
  return (← (definition.orElse (.obj [])).field "start_count").orElse (.int 0)

/-- The state at the start of the book. -/
def initialState : Play State := do
  let w ← get
  let document := w.book.document
  let baseStats ← readStats (← document.field "stats")
  let resources ← sectionOr document "resources" (.obj [])
  let counts ← (← w.book.items.entries).mapM fun (id, definition) => do
    return (id, ← (startCount definition : Play Value))
  return { baseStats, resources, inventory := ⟨counts⟩, node := w.book.start
           journal := ⟨w.settings.logLimit, []⟩ }

/-- **Opens a book** and starts it. -/
def load (document : Value) : Play Unit := do
  openBook document
  let s ← initialState
  modifyState fun _ => s
  sync

/-- **Restarts the book.** -/
def reset : Play Unit := do load (← book).document

/-- **Goes on from a saved record.** -/
def restore (record : Value) : Play Unit := do
  let settings := (← get).settings
  let saved ← SavedGame.ofValue settings.digitLimit (record.orElse (.obj [])) settings.logLimit
  let baseStats ← readStats saved.baseStats
  modifyState fun _ => State.ofSaved saved baseStats
  sync

end Play

end Gamebook
