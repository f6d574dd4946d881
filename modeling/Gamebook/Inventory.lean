/-
**The inventory.**

An inventory holds a count for each item.  Adding is all or nothing: an addition that would take the
total over the capacity is refused.  Removing never takes a count below zero.

Main definitions:

* `Inventory` — the counts in the order in which the items came;
* `Inventory.add`, `Inventory.remove` — the two changes;
* `Inventory.quantity`, `Inventory.total`, `Inventory.held` — what is there.
-/

import Gamebook.Value.Access
import Gamebook.Value.Text

set_option autoImplicit false

namespace Gamebook

/-- A count for each item, in the order in which the items came. -/
structure Inventory where
  counts : Fields Value := []

/-- A line of an inventory list. -/
structure HeldItem where
  id : Key
  name : Value
  count : Value
  usable : Bool

namespace Inventory

/-! ### Looking -/

/-- The stored count of an item, zero where there is none. -/
def stored (inv : Inventory) (item : Key) : Value := (inv.counts.get? item).getD (.int 0)

/-- The count of an item; an empty count is zero. -/
def quantity (inv : Inventory) (item : Value) : Except Fault Value := do
  return (inv.stored (← item.asKey)).orElse (.int 0)

/-- The sum of some counts added to a number. -/
def sumFrom (n : Number) : List Value → Except Fault Number
  | [] => .ok n
  | v :: vs => do sumFrom (← v.plus n) vs

/-- The total of all counts. -/
def total (inv : Inventory) : Except Fault Number :=
  sumFrom (.int 0) (inv.counts.map Prod.snd)

/-- The line of an item.  Its definition gives a name and says whether it can be used. -/
def heldItem (definitions : Value) (id : Key) (count : Value) : Except Fault HeldItem := do
  let definition := (← definitions.field id).orElse (.obj [])
  let name := (← definition.field? "name").getD id.toValue
  let usable := (← definition.field "use_effects").holds
  return { id, name, count, usable }

/-- The lines of the items whose count is not empty. -/
def held (inv : Inventory) (definitions : Value) : Except Fault (List HeldItem) :=
  let definitions := definitions.orElse (.obj [])
  (inv.counts.filter fun c => c.2.holds).mapM fun (id, count) => heldItem definitions id count

/-! ### Changing -/

/-- A count that does not fall below zero. -/
def atLeastZero (n : Number) : Value := if Number.lt (.int 0) n then .num n else .int 0

/-- Whether an addition would take the total over the capacity.  Only a finite capacity that is not
negative limits anything, and only additions of more than nothing. -/
def overflows (inv : Inventory) (qty : Number) (capacity : Value) : Except Fault Bool := do
  if !Number.lt (.int 0) qty then return false
  if !(← capacity.isFiniteNumber) then return false
  if Number.lt capacity.toNumber (.int 0) then return false
  let after ← inRange ((← inv.total).add? qty)
  return Number.lt capacity.toNumber after

/-- **Adds a quantity of an item.**  The answer is whether the addition was accepted; without an
item or a finite quantity there is nothing to refuse. -/
def add (inv : Inventory) (item qty capacity : Value) : Except Fault (Bool × Inventory) := do
  if !item.holds then return (true, inv)
  if !(← qty.isFiniteNumber) then return (true, inv)
  if ← inv.overflows qty.toNumber capacity then return (false, inv)
  let name ← item.asKey
  let n ← (inv.stored name).plus qty.toNumber
  return (true, ⟨inv.counts.set name (atLeastZero n)⟩)

/-- **Removes a quantity of an item.** -/
def remove (inv : Inventory) (item qty : Value) : Except Fault Inventory := do
  if !item.holds then return inv
  if !(← qty.isFiniteNumber) then return inv
  let name ← item.asKey
  let n ← (inv.stored name).minus qty
  return ⟨inv.counts.set name (atLeastZero n)⟩

/-! ### As a value -/

/-- The counts as an object. -/
def toValue (inv : Inventory) : Value := .obj inv.counts

/-- The inventory as a formula sees it. -/
def view (inv : Inventory) : Value := .inventory inv.counts

/-- One count from a pair of an item and a count. -/
def pair (v : Value) : Except Fault (Key × Value) := do
  match ← v.elements with
  | [item, count] => return (← item.asKey, count)
  | _ => throw .malformed

/-- The counts in a value: an object, or pairs of an item and a count.  An empty value holds
none. -/
def ofValue (v : Value) : Except Fault Inventory :=
  if !v.holds then .ok ⟨[]⟩
  else
    match v.fields? with
    | some fields => .ok ⟨fields⟩
    | none => do
        let pairs ← (← v.elements).mapM pair
        return ⟨Fields.merge [] pairs⟩

end Inventory

end Gamebook
