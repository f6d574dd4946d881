/-
**Formulas in a world.**

A formula of the book sees the state: the derived stats, the counts of the items, the flags, the
buffs, the day and the node.  A formula that fails is worth zero and leaves a line in the journal.

Main definitions:

* `World.builtins` — the functions a formula can call;
* `World.scope` — the names a formula can use;
* `Play.evaluate` — the value of a formula;
* `Play.checkConditions` — whether a list of conditions holds.
-/

import Gamebook.Dice.Roll
import Gamebook.Formula.Eval
import Gamebook.World

set_option autoImplicit false

namespace Gamebook

namespace World

/-- Whether the inventory holds at least a count of an item. -/
def hasItem (w : World) (item count : Value) : Except Fault Value := do
  let quantity ← w.state.inventory.quantity item
  return .bool (← (Value.num count.toNumber).le quantity)

/-- Whether a buff is in effect. -/
def hasBuff (w : World) (buff : Value) : Bool := w.state.buffInstances.any (·.id.eqv buff)

/-- The value of a flag; null where it is not set. -/
def flag (w : World) (flag : Value) : Except Fault Value := w.state.flags.fieldAt flag

/-- The functions that read the state. -/
def stateBuiltin? (w : World) (name : String) : Option (List Value → Except Fault Value) :=
  if name = "hasItem" then some fun
    | [item] => w.hasItem item (.int 1)
    | [item, count] => w.hasItem item count
    | _ => .error .wrongKind
  else if name = "itemCount" then some fun
    | [item] => w.state.inventory.quantity item
    | _ => .error .wrongKind
  else if name = "hasBuff" then some fun
    | [buff] => .ok (.bool (w.hasBuff buff))
    | _ => .error .wrongKind
  else if name = "flag" then some fun
    | [flag] => do return .bool (← (← w.flag flag).isTrue)
    | _ => .error .wrongKind
  else none

/-- The functions that use chance. -/
def chanceBuiltin? (limit : DigitLimit) (name : String) : Option Formula.Builtin :=
  if name = "random" then some fun
    | [] => do
        let (x, c) := (← get).nextFraction
        set c
        return x
    | _ => throw .wrongKind
  else if name = "roll" then some fun
    | [dice] => Chance.roll limit dice
    | _ => throw .wrongKind
  else none

/-- **The functions a formula can call.** -/
def builtins (w : World) (name : String) : Option Formula.Builtin :=
  match chanceBuiltin? w.settings.digitLimit name with
  | some f => some f
  | none =>
      match w.stateBuiltin? name with
      | some f => some fun vs => (f vs : Except Fault Value)
      | none => Formula.mathBuiltin? name

/-- **The names a formula can use**, the extra ones over those of the state. -/
def scope (w : World) (extra : Fields Value) : Except Fault Formula.Scope := do
  let s := w.state
  let names : Fields Value :=
    [("$capacity", ← s.capacity), ("$day", s.day), ("$stat", Stat.allToValue s.stats),
      ("$item", s.inventory.view), ("$flag", s.flags.live), ("$buff", s.buffTotals.toValue),
      ("$check", .null), ("$node", s.node)]
  return ⟨extra ++ names, w.builtins, w.settings.digitLimit⟩

end World

/-- A way to evaluate formulas with extra names. -/
abbrev Evaluator := Value → Fields Value → Play Value

namespace Play

/-- A formula as the journal shows it. -/
def sourceText : Value → String
  | .str s => Text.strip s
  | v => v.plainText

/-- **The value of a formula.**  A formula that fails is worth zero; unless asked to be quiet it
leaves a line in the journal. -/
def evaluate (formula : Value) (extra : Fields Value) (quiet : Bool) : Play Value := do
  let scope ← (← get).scope extra
  tryCatch (withChance (Formula.evaluate scope formula)) fun
    | .formula _ => do
        if !quiet then log (.str ("Expr error: " ++ sourceText formula))
        return .int 0
    | fault => throw fault

/-- The evaluator of a world, which is not quiet. -/
def evaluator : Evaluator := fun formula extra => evaluate formula extra false

/-- Whether all of some conditions hold; the first that does not ends the test. -/
def allHold (extra : Fields Value) (quiet : Bool) : List Value → Play Bool
  | [] => return true
  | c :: cs => do
      let v ← evaluate c extra quiet
      if ← v.isTrue then allHold extra quiet cs else return false

/-- **Whether conditions hold.**  No conditions hold, and a single one need not be in a list. -/
def checkConditions (conditions : Value) (extra : Fields Value) (quiet : Bool) : Play Bool :=
  if !conditions.holds then return true
  else
    match conditions with
    | .list cs => allHold extra quiet cs
    | c => allHold extra quiet [c]

end Play

end Gamebook
