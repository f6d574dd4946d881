/-
**Buffs and the derived view.**

Every active buff, and every buff that a held item gives, contributes a value.  The contributions
are summed up for each buff, and the modifiers of the buffs change copies of the base stats, which
are then cut to the range from zero to their greatest value.  A modifier reads the base stats, never
the contribution of another one.

A sync computes this view twice: after the first time every base value is cut down to the greatest
value just found, and the second time starts from the values so cut.

Main definitions:

* `Play.buffInstances` — the contributions;
* `BuffInstance.aggregate` — their sums;
* `Play.derive` — the derived stats;
* `Stat.clampAll` — base values cut to the derived maxima;
* `Play.sync` — the derived view of the state.
-/

import Gamebook.Play.Formula

set_option autoImplicit false

namespace Gamebook

/-! ### Contributions -/

namespace Play

/-- The contribution of an active buff, unless it is not finite. -/
def activeInstance? (evaluate : Evaluator) (buff : Value) : Play (Option BuffInstance) := do
  let formula := Value.coalesce [← buff.field "value_expr", .str "1"]
  let value : Value := .num (← evaluate formula []).toNumber
  if !(← value.isFiniteNumber) then return none
  return some ⟨← buff.field "id", value, "active"⟩

/-- The contribution of a buff that an item gives, unless it is not finite or is zero. -/
def holdInstance? (evaluate : Evaluator) (item : Key) (count : Value) (hold : Value) :
    Play (Option BuffInstance) := do
  let formula := Value.coalesce [← hold.field "value_expr", .str "1"]
  let n := (← evaluate formula [("$count", count)]).toNumber
  if !(← (Value.num n).isFiniteNumber) || n.isZero then return none
  return some ⟨← hold.field "buff", .num n, "hold:" ++ item.plainText⟩

/-- The buffs that an item gives, when a positive count of it is held. -/
def holdsOf (inventory : Inventory) (item : Key) (definition : Value) :
    Except Fault (Value × List Value) := do
  let count ← inventory.quantity item.toValue
  let holds ← (definition.orElse (.obj [])).field "hold_buffs"
  if !holds.holds then return (count, [])
  if !(← count.isFiniteNumber) then return (count, [])
  if !Number.lt (.int 0) count.toNumber then return (count, [])
  return (count, ← holds.elements)

/-- The contributions of an item. -/
def itemInstances (evaluate : Evaluator) (item : Key) (definition : Value) :
    Play (List BuffInstance) := do
  let (count, holds) ← holdsOf (← state).inventory item definition
  holds.filterMapM (holdInstance? evaluate item count)

/-- **The contributions to buffs**: those of the active buffs in the order in which they were added,
then those of the items in the order of the book. -/
def buffInstances (evaluate : Evaluator) : Play (List BuffInstance) := do
  let active ← (← (← state).buffs.elements).filterMapM (activeInstance? evaluate)
  let held ← (← (← book).items.entries).mapM fun (item, definition) =>
    itemInstances evaluate item definition
  return active ++ held.flatten

end Play

/-! ### Sums -/

namespace BuffTotals

/-- Adds a number to the sum of a buff. -/
def add (totals : BuffTotals) (id : Value) (n : Number) : Except Fault BuffTotals := do
  let name ← id.asKey
  let sum ← inRange (((totals.get? name).getD (.int 0)).add? n)
  return totals.set name sum

end BuffTotals

namespace BuffInstance

/-- The sums of some contributions added to others; what is not finite does not count. -/
def aggregateFrom (totals : BuffTotals) : List BuffInstance → Except Fault BuffTotals
  | [] => .ok totals
  | i :: rest => do
      if !(← i.value.isFiniteNumber) then aggregateFrom totals rest
      else aggregateFrom (← totals.add i.id i.value.toNumber) rest

/-- **The sum of the contributions to each buff.** -/
def aggregate (instances : List BuffInstance) : Except Fault BuffTotals :=
  aggregateFrom [] instances

end BuffInstance

/-! ### Derived stats -/

namespace Play

/-- The stats after a modifier of a buff in effect. -/
def applyModifier (evaluate : Evaluator) (base : Fields Stat) (i : BuffInstance)
    (derived : Fields Stat) (modifier : Value) : Play (Fields Stat) := do
  let target ← modifier.field "stat"
  match ← Value.lookup derived target with
  | none => return derived
  | some stat => do
      let formula := Value.coalesce [← modifier.field "value_expr", .str "$value"]
      let n := (← evaluate formula [("$value", i.value), ("$stat", Stat.allToValue base)]).toNumber
      if !(← (Value.num n).isFiniteNumber) then return derived
      let kind ← modifier.field "type"
      let name ← target.asKey
      if kind.eqv (.str "stat_add_max") then
        return derived.set name (stat.setMax (.num (← (← stat.max).plus n)))
      else if kind.eqv (.str "stat_add") then
        return derived.set name (stat.setCur (.num (← (← stat.cur).plus n)))
      else
        warn ("Unknown modifier type " ++ kind.shown ++ " on buff " ++ i.id.shown)
        return derived

/-- The stats after the modifiers of a buff in effect. -/
def applyInstance (evaluate : Evaluator) (buffs : Value) (base : Fields Stat)
    (derived : Fields Stat) (i : BuffInstance) : Play (Fields Stat) := do
  let definition := (← buffs.fieldAt i.id).orElse (.obj [])
  let modifiers ← ((← definition.field "modifiers").orElse (.list [])).elements
  modifiers.foldlM (applyModifier evaluate base i) derived

end Play

namespace Stat

/-- A stat cut to its range: the greatest value at least zero, the current one between. -/
def clamp (s : Stat) : Except Fault Stat := do
  let top ← Value.larger (.int 0) (← s.max)
  let s := s.setMax top
  let cur ← Value.larger (.int 0) (← s.cur)
  return s.setCur (← Value.smaller cur top)

/-- A base stat with its current value cut to the range that the derived stat gives. -/
def clampTo (derived : Fields Stat) (id : Key) (s : Stat) : Except Fault Stat := do
  let s ← match derived.get? id with
    | some limit => do
        let top ← limit.max
        if ← top.lt (← s.cur) then pure (s.setCur top) else pure s
    | none => pure s
  if ← (← s.cur).lt (.int 0) then return s.setCur (.int 0) else return s

/-- **Base stats with their current values cut to the derived maxima.** -/
def clampAll (base derived : Fields Stat) : Except Fault (Fields Stat) :=
  base.mapM fun (id, s) => do return (id, ← clampTo derived id s)

end Stat

namespace Play

/-- **The derived stats** of some base stats under the contributions to buffs. -/
def derive (evaluate : Evaluator) (buffs : Value) (base : Fields Stat)
    (instances : List BuffInstance) : Play (Fields Stat) := do
  let derived ← instances.foldlM (applyInstance evaluate buffs base) base
  derived.mapM fun (id, s) => do return (id, ← s.clamp)

/-- **Computes the derived view of the state**: the stats, the buffs in effect and their sums. -/
def sync : Play Unit := do
  modifyState fun s => { s with stats := s.baseStats }
  let instances ← buffInstances evaluator
  let totals ← BuffInstance.aggregate instances
  let buffs := (← book).buffs
  let first ← derive evaluator buffs (← state).baseStats instances
  let clamped ← Stat.clampAll (← state).baseStats first
  modifyState fun s => { s with baseStats := clamped }
  let second ← derive evaluator buffs clamped instances
  modifyState fun s =>
    { s with stats := second, buffInstances := instances, buffTotals := totals }

end Play

end Gamebook
