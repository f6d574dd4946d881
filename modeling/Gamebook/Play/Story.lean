/-
**Nodes, events and days.**

Entering a node applies its effects and runs the events that wait for it.  A day syncs the state,
counts, runs the events of its start and the periodic effects of the buffs in effect, and takes a
day off the buffs that last for a time.  Effects can lead to further nodes and days; the depth to
which they may is bounded.

Main definitions:

* `Play.runEvents`, `Play.runPeriodic`, `Play.tickBuffs` — the parts;
* `Play.enterNode`, `Play.passDays` — a node and some days, over deeper nodes and days;
* `Play.onward` — both of them up to a depth;
* `Play.resolveCheck`, `Play.checkEndings` — checks and endings.
-/

import Gamebook.Check.Resolution
import Gamebook.Play.Effect

set_option autoImplicit false

namespace Gamebook.Play

/-! ### Parts of a day -/

/-- Applies the effects of something when its conditions hold. -/
def applyWhen (onward : Onward) (entry : Value) (extra : Fields Value) : Play Unit := do
  if ← checkConditions (← entry.field "conditions") extra false then
    applyEffects onward (← entry.field "effects") extra

/-- Runs an event, when it has the trigger and its conditions hold. -/
def runEvent (onward : Onward) (trigger : Value) (extra : Fields Value) (event : Value) :
    Play Unit := do
  if (← event.field "trigger").eqv trigger then applyWhen onward event extra

/-- Runs the events with a trigger whose conditions hold. -/
def runEvents (onward : Onward) (trigger : Value) (extra : Fields Value) : Play Unit := do
  (← (← book).events.elements).forM (runEvent onward trigger extra)

/-- Applies the periodic effects of a buff in effect, when they have the given period and their
conditions hold. -/
def runPeriodicOf (onward : Onward) (every : Value) (i : BuffInstance) : Play Unit := do
  let definition := (← (← book).buffs.fieldAt i.id).orElse (.obj [])
  let periodic ← definition.field "periodic"
  if periodic.holds then
    if (← periodic.field "every").eqv every then
      applyWhen onward periodic [("$value", i.value)]

/-- Applies the periodic effects with a period, of every buff that is in effect at the start. -/
def runPeriodic (onward : Onward) (every : Value) : Play Unit := do
  (← buffInstances evaluator).forM (runPeriodicOf onward every)

/-- An active buff one day later; none when its time is over.  A buff without a duration stays. -/
def tickBuff (buff : Value) : Except Fault (Option Value) := do
  let duration ← buff.field "duration_days"
  if duration.isNull then return some buff
  let left ← duration.minus (.int 1)
  if Number.lt (.int 0) left then
    return some (.obj (Fields.set (← buff.entries) "duration_days" (.num left)))
  else return none

/-- The active buffs one day later. -/
def tickAll (active : List Value) : Except Fault (List Value) := active.filterMapM tickBuff

/-- Takes a day off the active buffs and drops those whose time is over. -/
def tickBuffs : Play Unit := do
  let active ← tickAll (← (← state).buffs.elements)
  modifyState fun s => { s with buffs := .list active }

/-! ### Nodes and days -/

/-- Moves to a declared node, applies the effects of entering it and runs the events that wait for
it. -/
def enterNode (onward : Onward) (id : Value) : Play Unit := do
  let nodes := (← book).nodes
  if !(← declares nodes id) then return ()
  modifyState fun s => { s with node := id }
  let node := (← nodes.entryAt id).orElse (.obj [])
  let effects ← node.field "on_enter"
  if effects.holds then applyEffects onward effects []
  runEvents onward (.str "on_enter_node") [("$node", id)]

/-- One day. -/
def passDay (onward : Onward) : Play Unit := do
  sync
  let day ← keep (← (← state).day.plus (.int 1))
  modifyState fun s => { s with day := .num day }
  runEvents onward (.str "on_day_start") []
  runPeriodic onward (.str "day")
  tickBuffs

/-- A number of days. -/
def repeatDays (onward : Onward) : Nat → Play Unit
  | 0 => return ()
  | n + 1 => do
      passDay onward
      repeatDays onward n

/-- How many days an amount stands for: rounded up, and at least one. -/
def dayCount (amount : Value) : Except Fault Nat := do
  let n := amount.toNumber
  if !(← inRange n.isFinite?) then return 1
  let n := if Number.lt (.int 1) n then n else .int 1
  match ← inRange n.ceil? with
  | .int k => return k.toNat
  | _ => return 1

/-- Lets days pass, at least one. -/
def passDays (onward : Onward) (amount : Value) : Play Unit := do
  repeatDays onward (← dayCount amount)

/-- **Nodes and days up to a depth**; beyond it they are a fault. -/
def onward : Nat → Onward
  | 0 => ⟨fun _ => throw .tooDeep, fun _ => throw .tooDeep⟩
  | n + 1 => ⟨enterNode (onward n), passDays (onward n)⟩

/-- The depth to which nodes and days may lead to others. -/
def depthLimit : Nat := 1000

/-- Nodes and days as effects lead to them. -/
def onwards : Onward := onward depthLimit

/-! ### Checks and endings -/

/-- Applies the effects of a branch and moves to its node. -/
def followBranch (onward : Onward) (branch : Value) (extra : Fields Value) : Play Unit := do
  applyEffects onward (← branch.field "effects") extra
  let node ← branch.field "goto"
  if node.holds then onward.goto node

/-- Resolves a check, writes it to the journal and follows the branch of its outcome. -/
def resolveCheck (onward : Onward) (check : Value) : Play CheckOutcome := do
  let w ← get
  let outcome ← Check.resolve evaluator w.state.buffTotals.toValue w.settings check
  log (.str (← outcome.logLineWithin w.settings.digitLimit))
  let branch ← Check.selectBranch check outcome.result
  if branch.holds then followBranch onward branch [("$check", outcome.toValue)]
  return outcome

/-- The first of some endings whose conditions hold. -/
def firstEnding (holds : Value → Play Bool) : List Value → Play (Option Value)
  | [] => return none
  | e :: es => do
      if ← holds (← e.field "conditions") then return some e else firstEnding holds es

/-- The ending to enter, if any: none once an ending has been reached. -/
def findEnding (endings current : Value) (holds : Value → Play Bool) :
    Play (Option Value) := do
  if current.holds || !endings.holds then return none
  firstEnding holds (← endings.elements)

/-- **Enters the first ending whose conditions hold**, unless one has been reached. -/
def checkEndings (onward : Onward) : Play Unit := do
  let found ← findEnding (← book).endings (← state).ending fun c => checkConditions c [] false
  match found with
  | none => return ()
  | some ending => do
      let node ← ending.field "node"
      let reached := ((← ending.field "id").orElse node).orElse (.str "ending")
      modifyState fun s => { s with ending := reached }
      if node.holds then
        onward.goto node
        sync

end Gamebook.Play
