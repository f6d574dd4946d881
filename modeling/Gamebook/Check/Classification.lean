/-
**The outcome of a check.**

Main definitions:

* `CheckResult` — the four outcomes, their names and labels;
* `Check.rollExpression`, `Check.bandSetsFor` — how a check rolls, and its bands;
* `Check.classify` — the outcome of a roll and a total;
* `Check.selectBranch` — the branch that an outcome follows.
-/

import Gamebook.Band.Sets

set_option autoImplicit false

namespace Gamebook

/-- The outcomes of a check. -/
inductive CheckResult where
  | success | fail | critSuccess | critFail
  deriving DecidableEq, Repr

namespace CheckResult

/-- The name that content uses for an outcome. -/
def name : CheckResult → String
  | success => "success"
  | fail => "fail"
  | critSuccess => "crit_success"
  | critFail => "crit_fail"

/-- The label that players see. -/
def label : CheckResult → String
  | success => "SUCCESS"
  | fail => "FAIL"
  | critSuccess => "CRIT SUCCESS"
  | critFail => "CRIT FAIL"

/-- All outcomes. -/
def all : List CheckResult := [success, fail, critSuccess, critFail]

end CheckResult

namespace Check

/-- The roll formula of a check: its own, one under an older name, or a roll of the default
dice. -/
def rollExpression (check : Value) (defaultDice : String) : Except Fault Value := do
  let own ← check.field "roll_expr"
  if own.holds then return own
  return (← check.field "expr").orElse (.str ("roll('" ++ defaultDice ++ "')"))

/-- The bounds of a die with twenty sides. -/
def standardBounds : Bounds := ⟨1, 20⟩

/-- The bounds of a check's die: those of its roll formula when that is plain dice notation, of the
default dice otherwise, and of a die with twenty sides when those are none either. -/
def boundsFor (limit : DigitLimit) (check : Value) (defaultDice : String) :
    Except Fault Bounds := do
  match ← Dice.boundsOf limit (← rollExpression check defaultDice) with
  | some bounds => return bounds
  | none => return (← Dice.boundsOf limit (.str defaultDice)).getD standardBounds

/-- The bands of a check, when it declares bands or a critical branch. -/
def bandSetsFor (limit : DigitLimit) (check : Value) (defaultDice : String) :
    Except Fault (Option Band.Sets) := do
  let bands ← check.field "bands"
  let critFail := (← check.field "crit_fail").holds
  let critSuccess := (← check.field "crit_success").holds
  if !bands.holds && !critFail && !critSuccess then return none
  let bounds ← boundsFor limit check defaultDice
  return some (← Band.computeSets limit bands bounds critFail critSuccess)

/-! ### Classification -/

/-- The die value of a roll: the nearest integer, when the roll is a finite number. -/
def dieValue (roll : Value) : Except Fault (Option Int) := do
  let n := roll.toNumber
  if !(← inRange n.isFinite?) then return none
  match ← inRange n.round? with
  | .int v => return some v
  | _ => return none

/-- The outcome that the bands give to a die value, if they give one. -/
def bandResult (sets : Band.Sets) (v : Int) : Option CheckResult :=
  if sets.critFail.contains v then some .critFail
  else if sets.critSuccess.contains v then some .critSuccess
  else if sets.explicit && sets.success.contains v then some .success
  else if sets.explicit && sets.fail.contains v then some .fail
  else none

/-- The outcome by the total alone. -/
def totalResult (total dc : Value) : Except Fault CheckResult := do
  return if ← dc.le total then .success else .fail

/-- **The outcome of a check.**  The bands decide first, then the total against the difficulty. -/
def classify (roll total dc : Value) (sets : Option Band.Sets) : Except Fault CheckResult := do
  match sets with
  | none => totalResult total dc
  | some sets =>
      match (← dieValue roll).bind (bandResult sets) with
      | some result => return result
      | none => totalResult total dc

/-- The branch that an outcome follows: a critical outcome without a branch of its own takes the
plain one on the same side. -/
def selectBranch (check : Value) (result : CheckResult) : Except Fault Value := do
  match result with
  | .critFail =>
      let branch ← check.field "crit_fail"
      if branch.holds then return branch else check.field "fail"
  | .critSuccess =>
      let branch ← check.field "crit_success"
      if branch.holds then return branch else check.field "success"
  | result => check.field result.name

end Check

end Gamebook
