/-
**The command line.**

`gamebook [FILE]` plays the game document in a file, or the bundled game.  The dashboard is shown
before every line of input; the saved game is kept in a file beside the program.

Main definitions:

* `Main.playLoop` — showing, reading and answering;
* `main` — the program.
-/

import Gamebook.Session.Command
import Gamebook.Session.Library
import Gamebook.Session.Screen

set_option autoImplicit false

namespace Gamebook.Main

/-- The directory and the file of the saved game. -/
def saveDirectory : String := "data"

@[inherit_doc saveDirectory]
def saveFile : String := "data/savegame.json"

/-- The text of a file, if there is one. -/
def readFile? (path : String) : IO (Option String) := do
  try
    return some (← IO.FS.readFile path)
  catch _ =>
    return none

/-- Shows the dashboard of a session. -/
def showDashboard (s : Session) : IO Session := do
  let (result, s) := (Session.play Play.snapshot).run s
  match result.bind (Dashboard.panels s.world.settings.digitLimit) with
  | .ok panels => IO.println (Screen.ofPanels panels)
  | .error _ => IO.println "(The dashboard cannot be shown.)"
  return s

/-- Shows what the player has been told, and forgets it. -/
def showNotices (s : Session) : IO Session := do
  s.notices.forM fun n => IO.println (Screen.ofNotice n)
  return { s with notices := [] }

/-- Writes the save slot to its file when it has changed. -/
def keepSlot (before after : Session) : IO Unit := do
  match after.slot with
  | some text =>
      if before.slot ≠ after.slot then
        IO.FS.createDirAll saveDirectory
        IO.FS.writeFile saveFile text
  | none => return ()

/-- The session at the time of its next turn. -/
def atNow (s : Session) : IO Session := do
  let now ← IO.monoMsNow
  let settings := { s.world.settings with now := .int (now / 1000) }
  return { s with world := { s.world with settings } }

/-- Shows the dashboard, reads a line and answers it, until the session ends. -/
partial def playLoop (input : IO.FS.Stream) (s : Session) : IO Unit := do
  let s ← showDashboard s
  IO.print "> "
  (← IO.getStdout).flush
  let line ← input.getLine
  if line.isEmpty then return ()
  let s ← atNow s
  let (result, next) := (Session.turn line).run s
  keepSlot s next
  let next ← showNotices next
  match result with
  | .ok answer =>
      if answer ≠ "continue" then IO.println answer
  | .error fault => IO.println ((fault.message).getD "Something in this book went wrong.")
  if next.running then playLoop input next

/-- A session with the document in a file, or with the bundled one. -/
def openSession (path : Option String) : IO Session := do
  let (document, notices) ← match path with
    | some path => do pure (Library.loadOrDemo .standard path (← readFile? path))
    | none => pure (Demo.document, [])
  let chance := Chance.seeded (UInt64.ofNat (← IO.rand 0 (twoTo 62)))
  let (_, world) := (Play.load document).run (World.closed {} chance)
  return { world, notices, slot := ← readFile? saveFile }

end Gamebook.Main

/-- Plays the game document in a file, or the bundled game. -/
def main (args : List String) : IO Unit := do
  let s ← Gamebook.Main.openSession args.head?
  let s ← Gamebook.Main.showNotices s
  if s.slot.isSome then IO.println "A saved game exists. Type /load to continue it."
  IO.println "Type a choice number, or /help for commands"
  Gamebook.Main.playLoop (← IO.getStdin) s
  IO.println "Goodbye!"
