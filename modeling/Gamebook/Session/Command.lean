/-
**What players type.**

A line is the number of a choice, a command that starts with a stroke, or a word that ends the
session.  Every other line is refused.  The player is told about refusals and about what was done
outside the story, on a console that may refuse to show it; the answer to a line is a short text.

Main definitions:

* `Session` — a world with a save slot and a console, and what the player has been told;
* `Turn` — what a line does to a session;
* `Session.handle` — the answer to a line;
* `Session.turn` — one turn.
-/

import Gamebook.Play.Setup
import Gamebook.Play.Snapshot
import Gamebook.Session.Console
import Gamebook.Session.SaveSlot
import Gamebook.Text.Lowercase

set_option autoImplicit false

namespace Gamebook

/-- A world being played by somebody. -/
structure Session where
  world : World
  slot : SaveSlot := none
  /-- Whether games can be saved at all. -/
  canSave : Bool := true
  console : Console := .lenient
  /-- What the player has been told, oldest first. -/
  notices : List Notice := []
  running : Bool := true

/-- What a line does to a session. -/
abbrev Turn (α : Type) := ExceptT Fault (StateM Session) α

namespace Session

/-- Runs an action in the world of the session. -/
def play {α : Type} (m : Play α) : Turn α := do
  let s ← get
  let (result, world) := m.run s.world
  set { s with world }
  result

/-- Tells the player something.  What the console does not show is a fault. -/
def tell (kind : NoticeKind) (text : String) : Turn Unit := do
  let s ← get
  let notice : Notice := ⟨kind, text⟩
  if s.console.shows notice.marked then set { s with notices := s.notices ++ [notice] }
  else throw .badMarkup

/-- Tells the player that a line is refused; the answer is a short text. -/
def refuse (text answer : String) : Turn String := do
  tell .error text
  return answer

/-- Tells the player that something was done; the answer is a short text. -/
def confirm (text answer : String) : Turn String := do
  tell .info text
  return answer

/-- The plain text of a value in an answer. -/
def showText (v : Value) : Turn String := do
  v.plainTextWithin (← get).world.settings.digitLimit

/-! ### Choices -/

/-- The refusal of a choice. -/
def choiceRefused (number : Nat) : Turn String :=
  refuse ("❌ Choice " ++ String.ofList (Text.digitsOfNat number) ++ " is not available.")
    "Choice unavailable."

/-- Takes the choice with a number, counted from one. -/
def takeChoice (number : Nat) : Turn String := do
  let choices ← play Play.currentChoices
  if number = 0 then choiceRefused number
  else
    match choices[number - 1]? with
    | none => choiceRefused number
    | some view => do
        if ← play (Play.chooseIndex ((number : Int) - 1)) then
          return "Chose: " ++ (← showText view.text)
        else choiceRefused number

/-! ### Commands -/

/-- The help text. -/
def helpText : String :=
  "Commands:\n"
    ++ "  <n>                  Take the n-th choice\n"
    ++ "  /buy <shop> <item>   Buy an item from a shop at this location\n"
    ++ "  /use <item>          Use an item from your inventory\n"
    ++ "  /rest \\[days]         Let one or more days pass\n"
    ++ "  /save  /load         Save or load the game\n"
    ++ "  /reset               Restart from the beginning\n"
    ++ "  /help                Show this help\n"
    ++ "  quit                 Leave the game"

/-- `/buy`: a shop at the current node and an item. -/
def buyCommand : List String → Turn String
  | shop :: item :: _ => do
      let shops := (← play Play.snapshot).shops
      if !shops.any (·.id.eqv (.str shop)) then
        refuse ("❌ There is no shop '" ++ shop ++ "' here.") "Command error: Shop not here."
      else if ← play (Play.buy (.str shop) (.str item)) then
        return "Bought " ++ item ++ "."
      else refuse ("❌ You can't buy '" ++ item ++ "' right now.") "Purchase refused."
  | _ => refuse "❌ Usage: /buy <shop_id> <item_id>" "Command error: Missing shop or item."

/-- `/use`: an item. -/
def useCommand : List String → Turn String
  | item :: _ => do
      if ← play (Play.useItem (.str item)) then return "Used " ++ item ++ "."
      else refuse ("❌ You can't use '" ++ item ++ "'.") "You can't use that item."
  | [] => refuse "❌ Usage: /use <item_id>" "Command error: Missing item id."

/-- The number of days that a player asks for. -/
def daysAsked : List String → Value
  | days :: _ => .num (Value.str days).toNumber
  | [] => .int 1

/-- `/rest`: a number of days, at least one. -/
def restCommand (arguments : List String) : Turn String := do
  let days := daysAsked arguments
  let finite ← (days.isFiniteNumber : Except Fault Bool)
  if !finite || Number.lt days.toNumber (.int 1) then
    refuse "❌ Days must be a positive number." "Command error: Bad day count."
  else do
    play (Play.advanceDay days)
    return "Rested until day " ++ (← showText (← get).world.state.day) ++ "."

/-- `/save`.  A game with an integer that has too many digits is not saved. -/
def saveCommand : Turn String := do
  let s ← get
  if !s.canSave then refuse "❌ Save failed." "Save failed."
  else do
    let (stored, slot) := SaveSlot.store s.world.settings.digitLimit s.world.state.save.toValue
    set { s with slot }
    match stored with
    | .ok () => confirm "💾 Game saved." "Game saved."
    | .error _ => refuse "❌ Save failed." "Save failed."

/-- The record in the save slot, if there is one. -/
def savedRecord (s : Session) : Option Value :=
  if s.canSave then
    match s.slot.load s.world.settings.digitLimit with
    | .ok record => record
    | .error _ => none
  else none

/-- `/load`. -/
def loadCommand : Turn String := do
  match (← get).savedRecord with
  | none => refuse "❌ No saved game found." "Load failed."
  | some record => do
      play (Play.restore record)
      confirm "💾 Game loaded." "Game loaded."

/-- `/reset`. -/
def resetCommand : Turn String := do
  play Play.reset
  confirm "🔄 Game reset." "Game reset."

/-- A command with its arguments. -/
def runCommand (command : String) (arguments : List String) : Turn String :=
  match command with
  | "/buy" => buyCommand arguments
  | "/use" => useCommand arguments
  | "/rest" => restCommand arguments
  | "/save" => saveCommand
  | "/load" => loadCommand
  | "/reset" => resetCommand
  | "/help" => confirm helpText "Help shown."
  | command => refuse ("❌ Unknown command: " ++ command) "Unknown command."

/-! ### Lines -/

/-- The words that end the session. -/
def quitWords : List String := ["quit", "exit", "q"]

/-- The number of a row of digits.  A character that only looks like a digit makes no number. -/
def readNumber (limit : DigitLimit) (cs : List Char) : Except Fault Nat :=
  if cs.all Text.isDigit then limit.readNat cs else .error .malformed

/-- **The answer to a line**; none to a blank one. -/
def handle (line : String) : Turn (Option String) := do
  let text := Text.strip line
  if text.isEmpty then return none
  if quitWords.contains (Text.lower text) then return some "quit"
  if text.toList.all Text.isDigitLike then
    let limit := (← get).world.settings.digitLimit
    let number ← (readNumber limit text.toList : Except Fault Nat)
    return some (← takeChoice number)
  if text.toList.head? ≠ some '/' then
    return some (← refuse "❌ Type a choice number or /help." "Unknown input.")
  match Text.words text with
  | [] => return none
  | command :: arguments => return some (← runCommand (Text.lower command) arguments)

/-- **One turn.**  A line that is answered with `quit` ends the session. -/
def turn (line : String) : Turn String := do
  match ← handle line with
  | none => return "continue"
  | some answer =>
      if answer = "quit" then modify fun s => { s with running := false }
      return answer

end Session

end Gamebook
