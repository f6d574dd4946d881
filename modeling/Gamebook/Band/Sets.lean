/-
**The bands of a check.**

A check may divide the values of its die among four outcomes.  Critical failure and critical
success claim their ranges first; where a critical branch is declared without a range it claims the
lowest or the highest value.  Success and failure are only divided when at least one of them is
declared: then they claim their ranges and share what is left.

Main definitions:

* `Band.Sets` — the four sets of die values;
* `Band.computeSets` — the sets of a check's bands.
-/

import Gamebook.Band.Allocation
import Gamebook.Band.Range
import Gamebook.Value.Access

set_option autoImplicit false

namespace Gamebook.Band

/-- The die values of the four outcomes. -/
structure Sets where
  critFail : DieSet := []
  critSuccess : DieSet := []
  success : DieSet := []
  fail : DieSet := []
  /-- Whether success or failure is declared. -/
  explicit : Bool := false

/-- Whether one of the critical outcomes has a value. -/
def Sets.hasCrit (s : Sets) : Bool := !s.critFail.isEmpty || !s.critSuccess.isEmpty

/-- A declared band; null when it is missing. -/
def declared (bands : Value) (name : String) : Except Fault Value := bands.field name

/-- The values of a declared band. -/
def rangeOf (limit : DigitLimit) (band : Value) (bounds : Bounds) : Except Fault DieSet := do
  parseRange limit (← band.field "range") bounds

/-- The values of a critical band: its range, or the natural extreme when only its branch is
declared. -/
def critSet (limit : DigitLimit) (bands : Value) (name : String) (bounds : Bounds) (branch : Bool)
    (extreme : Int) : Except Fault DieSet := do
  let band ← declared bands name
  if band.holds then rangeOf limit band bounds
  else return if branch then [extreme] else []

/-- The values of a success or failure band. -/
def plainSet (limit : DigitLimit) (bands : Value) (name : String) (bounds : Bounds) :
    Except Fault DieSet := do
  let band ← declared bands name
  if band.holds then rangeOf limit band bounds else return []

/-- Whether success or failure is declared. -/
def isExplicit (bands : Value) : Except Fault Bool := do
  if (← declared bands "success").holds then return true
  return (← declared bands "fail").holds

/-- **The four sets of a check.** -/
def computeSets (limit : DigitLimit) (bands : Value) (bounds : Bounds)
    (critFailBranch critSuccessBranch : Bool) : Except Fault Sets := do
  let bands := bands.orElse (.obj [])
  let critFail ← critSet limit bands "crit_fail" bounds critFailBranch bounds.min
  let critSuccess ← critSet limit bands "crit_success" bounds critSuccessBranch bounds.max
  if !(← isExplicit bands) then return { critFail, critSuccess }
  let success ← plainSet limit bands "success" bounds
  let fail ← plainSet limit bands "fail" bounds
  let claimed := fun v =>
    critFail.contains v || critSuccess.contains v || success.contains v || fail.contains v
  let split := allocateRemainder success fail (bounds.values.filter (!claimed ·))
  return { critFail, critSuccess, success := split.success, fail := split.fail, explicit := true }

end Gamebook.Band
