/-
**Stats.**

A stat is a record with a current value `cur` and a greatest value `max`.  Content may leave one of
the two out, and may add fields of its own.

Main definitions:

* `Stat` — the record, with `Stat.cur` and `Stat.max` and their setters;
* `Stat.normalize` — the record with both values filled in;
* `Stat.readAll` — the stats of an object.
-/

import Gamebook.Value.Access

set_option autoImplicit false

namespace Gamebook

/-- The record of a stat. -/
abbrev Stat := Fields Value

namespace Stat

/-- The current value. -/
def cur (s : Stat) : Except Fault Value := Value.required (.obj s) "cur"

/-- The greatest value. -/
def max (s : Stat) : Except Fault Value := Value.required (.obj s) "max"

/-- The record with another current value. -/
def setCur (s : Stat) (v : Value) : Stat := Fields.set s "cur" v

/-- The record with another greatest value. -/
def setMax (s : Stat) (v : Value) : Stat := Fields.set s "max" v

/-- Fills in a missing value from the other one, and zero where both are missing. -/
def normalize (s : Stat) : Stat :=
  let given (k : Key) : Value := Value.ofOption (Fields.get? s k)
  let cur := Value.coalesce [given "cur", given "max", .int 0]
  (s.setCur cur).setMax (Value.coalesce [given "max", cur])

/-- The stats of an object, and the names of the fields that are no records. -/
def readAll (v : Value) : Except Fault (Fields Stat × List Key) := do
  let fields ← (v.orElse (.obj [])).entries
  let stats := fields.filterMap fun (id, stat) =>
    match stat with
    | .obj s => some (id, Stat.normalize s)
    | _ => none
  let malformed := fields.filterMap fun (id, stat) =>
    match stat with
    | .obj _ => none
    | _ => some id
  return (stats, malformed)

/-- Stats as an object. -/
def allToValue (stats : Fields Stat) : Value :=
  .obj (stats.map fun (id, stat) => (id, .obj stat))

end Stat

end Gamebook
