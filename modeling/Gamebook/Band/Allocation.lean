/-
**Handing out the values that no band claims.**

Where neither success nor failure is declared the lower half fails and the upper half succeeds;
where one of them is declared the other one takes everything; where both are, the values are split
in the proportion of the two, the lowest ones going to success.

Main definitions:

* `Band.Split` — two sets that share the values between them;
* `Band.allocateRemainder` — the rule.
-/

import Gamebook.Band.DieSet

set_option autoImplicit false

namespace Gamebook.Band

/-- The values that succeed and those that fail. -/
structure Split where
  success : DieSet
  fail : DieSet
  deriving DecidableEq, Repr

/-- The share of success among `pool` values: `pool * success / (success + fail)` rounded to the
nearest integer, a half upward. -/
def successShare (pool success fail : Nat) : Nat :=
  (2 * (pool * success) + (success + fail)) / (2 * (success + fail))

/-- **Hands out the remaining values.** -/
def allocateRemainder (success fail remaining : List Int) : Split :=
  let s := DieSet.ofList success
  let f := DieSet.ofList fail
  let pool := DieSet.sorted remaining
  if s.isEmpty && f.isEmpty then
    let half := pool.length / 2
    ⟨s.union (pool.drop half), f.union (pool.take half)⟩
  else if s.isEmpty then ⟨s.union pool, f⟩
  else if f.isEmpty then ⟨s, f.union pool⟩
  else
    let share := successShare pool.length s.length f.length
    ⟨s.union (pool.take share), f.union (pool.drop share)⟩

end Gamebook.Band
