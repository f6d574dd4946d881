/-
**Effects.**

An effect is a record whose `type` says what it does: it changes a stat, the money, the capacity,
the items, the buffs or a flag, writes to the journal, moves to another node or lets days pass.
The last two lead to further effects, so a single effect is defined here over the two of them,
`Onward`, and the knot is tied where nodes and days are.

Main definitions:

* `Onward` — moving to a node and letting days pass;
* `Play.addItem`, `Play.removeItem`, `Play.addBuff`, `Play.removeBuff` — changes by id;
* `Play.applyEffect`, `Play.applyEffects` — effects.
-/

import Gamebook.Play.Buff

set_option autoImplicit false

namespace Gamebook

/-- The two effects that lead to further effects. -/
structure Onward where
  /-- Moves to a node. -/
  goto : Value → Play Unit
  /-- Lets days pass. -/
  days : Value → Play Unit

namespace Play

/-! ### Stats -/

/-- A change of a stat as the journal shows it. -/
def changeLine (name before after : String) (rises : Bool) (delta : String) : String :=
  name ++ ": " ++ before ++ " -> " ++ after ++ " (" ++ (if rises then "+" else "") ++ delta ++ ")"

/-- Writes a change to the journal. -/
def writeChange (name : String) (before after : Value) (rises : Bool) (delta : Number) :
    Play Unit := do
  let limit ← digitLimit
  let before ← before.displayWithin limit
  let after ← after.displayWithin limit
  log (.str (changeLine name before after rises (← (Value.num delta).displayWithin limit)))

/-- The base stat that an effect names, when there is one and the amount is finite. -/
def namedStat? (stat : Value) (amount : Number) : Play (Option (Key × Stat)) := do
  if !stat.holds then return none
  match ← Value.lookup (← state).baseStats stat with
  | none => return none
  | some s =>
      if ← (Value.num amount).isFiniteNumber then return some (← stat.asKey, s)
      else return none

/-- Writes a base stat. -/
def setStat (name : Key) (s : Stat) : Play Unit :=
  modifyState fun st => { st with baseStats := st.baseStats.set name s }

/-- Changes the current value of a base stat; the answer is its name, the value before and after,
and the difference. -/
def updateCur (stat : Value) (amount : Number) (update : Value → Except Fault Value) :
    Play (Option (Key × Value × Value × Number)) := do
  match ← namedStat? stat amount with
  | none => return none
  | some (name, s) => do
      let before ← s.cur
      let after ← keepValue (← update before)
      setStat name (s.setCur after)
      return some (name, before, after, ← after.minus before)

/-- Writes a change of a current value to the journal, unless nothing changed. -/
def logChange : Option (Key × Value × Value × Number) → Play Unit
  | none => return ()
  | some (name, before, after, delta) => do
      if delta.isZero then return ()
      writeChange name.plainText before after (Number.lt (.int 0) delta) delta

/-- Adds to the current value of a base stat. -/
def addToCur (stat : Value) (amount : Number) : Play (Option (Key × Value × Value × Number)) :=
  updateCur stat amount fun cur => do return .num (← cur.plus amount)

/-- Adds to the greatest value of a base stat. -/
def addToMax (stat : Value) (amount : Number) : Play Unit := do
  match ← namedStat? stat amount with
  | none => return ()
  | some (name, s) => do
      let before ← s.max
      let after : Value := .num (← keep (← before.plus amount))
      setStat name (s.setMax after)
      if !before.eqv after then
        writeChange (name.plainText ++ ".max") before after (Number.lt (.int 0) amount) amount

/-- Adds to the capacity of the inventory; a missing capacity counts as zero. -/
def addToCapacity (amount : Number) : Play Unit := do
  if !(← (Value.num amount).isFiniteNumber) then return ()
  let sum ← keep (← ((← (← state).capacity).orElse (.int 0)).plus amount)
  let resources ← (← state).resources.entries
  modifyState fun s => { s with resources := .obj (resources.set "capacity" (.num sum)) }

/-! ### Items and buffs -/

/-- Whether a section of the book declares an id; an empty id is never declared. -/
def declares (table id : Value) : Except Fault Bool :=
  if id.holds then table.contains id else .ok false

/-- Adds a count of a declared item; the answer is whether the addition was accepted.  An addition
over the capacity is refused as a whole and leaves a line in the journal. -/
def addItem (item count : Value) : Play Bool := do
  if !(← declares (← book).items item) then return true
  if !(← count.isFiniteNumber) then return true
  let s ← state
  let (accepted, inventory) ← s.inventory.add item count (← s.capacity)
  modifyState (·.withInventory inventory)
  if !accepted then log (.str "Inventory is full.")
  return accepted

/-- Removes a count of a declared item. -/
def removeItem (item count : Value) : Play Unit := do
  if !(← declares (← book).items item) then return ()
  if !(← count.isFiniteNumber) then return ()
  let inventory ← (← state).inventory.remove item count
  modifyState (·.withInventory inventory)

/-- Adds an active buff that the book declares.  Its value is a formula: the given one, that of the
declaration, or one. -/
def addBuff (buff value duration : Value) : Play Unit := do
  let buffs := (← book).buffs
  if !(← declares buffs buff) then return ()
  let definition := (← buffs.entryAt buff).orElse (.obj [])
  let formula := Value.coalesce [value, ← definition.field "value_expr", .str "1"]
  let record : Value :=
    .obj [("id", buff), ("value_expr", formula), ("duration_days", duration)]
  match (← state).buffs with
  | .list active => modifyState fun s => { s with buffs := .list (active ++ [record]) }
  | _ => throw .noFields

/-- An active buff, unless it has an id. -/
def unlessId (id buff : Value) : Except Fault (Option Value) := do
  return if (← buff.field "id").eqv id then none else some buff

/-- The active buffs without those that have an id. -/
def withoutId (id : Value) (active : List Value) : Except Fault (List Value) :=
  active.filterMapM (unlessId id)

/-- Removes the active buffs with an id. -/
def removeBuff (id : Value) : Play Unit := do
  let active ← withoutId id (← (← state).buffs.elements)
  modifyState fun s => { s with buffs := .list active }

/-! ### Flags -/

/-- Sets a flag. -/
def setFlag (flag value : Value) : Play Unit := do
  let value ← keepValue value
  let flags ← (← state).flags.setEntryAt flag value
  modifyState fun s => { s with flags }

/-! ### Effects -/

/-- The amount of an effect: a formula, a plain value, or a default. -/
def amountOf (effect : Value) (extra : Fields Value) (default : Value) : Play Number := do
  let formula := Value.coalesce [← effect.field "value_expr", ← effect.field "value", default]
  return (← evaluator formula extra).toNumber

/-- The count of an item effect: a formula, a plain value, or one. -/
def countOf (effect : Value) (extra : Fields Value) : Play Number := do
  let formula := Value.coalesce
    [← effect.field "count_expr", ← effect.field "value_expr", ← effect.field "count", .int 1]
  return (← evaluator formula extra).toNumber

/-- What the effects that are named by a text do. -/
def applyNamed (onward : Onward) (kind : String) (effect : Value) (extra : Fields Value) :
    Play Unit := do
  match kind with
  | "stat_add" => do
      let amount ← amountOf effect extra (.int 0)
      logChange (← addToCur (← effect.field "stat") amount)
  | "stat_set" => do
      let amount ← amountOf effect extra (.int 0)
      logChange (← updateCur (← effect.field "stat") amount fun _ => .ok (.num amount))
  | "stat_add_max" => do
      let amount ← amountOf effect extra (.int 0)
      addToMax (← effect.field "stat") amount
  | "money_add" => do
      let amount ← amountOf effect extra (.int 0)
      let _ ← addToCur (.str "money") amount
  | "capacity_add" => do addToCapacity (← amountOf effect extra (.int 0))
  | "item_add" => do
      let count ← countOf effect extra
      let _ ← addItem (← effect.field "item") (.num count)
  | "item_remove" => do
      let count ← countOf effect extra
      removeItem (← effect.field "item") (.num count)
  | "buff_add" => do
      let value := Value.coalesce [← effect.field "value_expr", ← effect.field "value"]
      addBuff (← effect.field "buff") value (← effect.field "duration_days")
  | "buff_remove" => do removeBuff (← effect.field "buff")
  | "flag_set" => do
      let flag ← effect.field "flag"
      if flag.holds then
        let formula := Value.coalesce
          [← effect.field "value_expr", ← effect.field "value", .bool true]
        setFlag flag (← evaluator formula extra)
  | "advance_day" => do onward.days (.num (← amountOf effect extra (.int 1)))
  | "goto" => do onward.goto (← effect.field "node")
  | "log" => do
      let formula ← effect.field "text_expr"
      if formula.holds then
        let v ← evaluator formula extra
        log (.str (← v.displayWithin (← digitLimit)))
      else log (← effect.field "text")
  | kind => warn ("Unknown effect: " ++ kind)

/-- **Applies an effect.**  What is no record with a type does nothing; an unknown type is
reported to the author. -/
def applyEffect (onward : Onward) (effect : Value) (extra : Fields Value) : Play Unit := do
  match effect with
  | .obj fields =>
      let kind := Value.ofOption (Fields.get? fields "type")
      if !kind.holds then return ()
      match kind with
      | .str kind => applyNamed onward kind effect extra
      | kind => warn ("Unknown effect: " ++ kind.plainText)
  | _ => return ()

/-- **Applies effects** one after the other. -/
def applyEffects (onward : Onward) (effects : Value) (extra : Fields Value) : Play Unit := do
  (← (effects.orElse (.list [])).elements).forM fun effect => applyEffect onward effect extra

end Play

end Gamebook
