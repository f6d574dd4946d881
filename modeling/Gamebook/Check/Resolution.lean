/-
**Resolving a check.**

The formulas of a check are evaluated one after the other, each seeing the values found before it:
the roll, the base, the sum of the buffs, the total and the difficulty.

Main definitions:

* `CheckOutcome` — the values and the outcome, with `CheckOutcome.logLine`;
* `Check.resolve` — the resolution.
-/

import Gamebook.Check.Classification
import Gamebook.Play.Formula

set_option autoImplicit false

namespace Gamebook

/-- The record of a resolved check. -/
structure CheckOutcome where
  name : Value
  roll : Number
  base : Number
  buff : Number
  total : Number
  dc : Number
  result : CheckResult

namespace CheckOutcome

/-- The record as the formulas of a branch see it. -/
def toValue (o : CheckOutcome) : Value :=
  .obj
    [("name", o.name), ("roll", .num o.roll), ("base", .num o.base), ("buff", .num o.buff),
      ("total", .num o.total), ("dc", .num o.dc), ("result", .str o.result.name)]

/-- The line of a check in the journal. -/
def logLine (o : CheckOutcome) : String :=
  o.name.plainText ++ " | roll " ++ Value.displayNumber o.roll
    ++ " + base " ++ Value.displayNumber o.base ++ " + buff " ++ Value.displayNumber o.buff
    ++ " = " ++ Value.displayNumber o.total ++ " vs DC " ++ Value.displayNumber o.dc
    ++ " -> " ++ o.result.label

/-- The line of a check, when its values can be written. -/
def logLineWithin (limit : DigitLimit) (o : CheckOutcome) : Except Fault String :=
  if o.toValue.isWritable limit then .ok o.logLine else .error .tooManyDigits

end CheckOutcome

namespace Check

/-- The total of a check that does not say how it is computed. -/
def defaultTotal : String := "$roll + $base + $buff_sum"

/-- A formula of a check, or another one where it has none. -/
def formulaOr (check : Value) (name default : String) : Except Fault Value := do
  return (← check.field name).orElse (.str default)

/-- **Resolves a check.** -/
def resolve (evaluate : Evaluator) (buffs : Value) (settings : Settings) (check : Value) :
    Play CheckOutcome := do
  let step (formula : Value) (extra : Fields Value) : Play Number := do
    Play.keep (← evaluate formula extra).toNumber
  let roll ← step (← rollExpression check settings.defaultDice) []
  let base ← step (← formulaOr check "base_expr" "0") [("$roll", .num roll)]
  let buff ← step (← formulaOr check "buff_expr" "0")
    [("$roll", .num roll), ("$base", .num base), ("$buff", buffs)]
  let total ← step (← formulaOr check "total_expr" defaultTotal)
    [("$roll", .num roll), ("$base", .num base), ("$buff_sum", .num buff), ("$buff", buffs)]
  let dc ← step (Value.coalesce [← check.field "dc", settings.defaultDc])
    [("$roll", .num roll), ("$base", .num base), ("$buff_sum", .num buff),
      ("$total", .num total), ("$buff", buffs)]
  let sets ← bandSetsFor settings.digitLimit check settings.defaultDice
  let result ← classify (.num roll) (.num total) (.num dc) sets
  let name := (← check.field "name").orElse (.str "Check")
  return { name, roll, base, buff, total, dc, result }

end Check

end Gamebook
