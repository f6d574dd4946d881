/-
**What there is to see.**

A snapshot holds everything that is displayed between two actions.  Taking one changes nothing but
the source of chance, which the conditions of choices and shops may use.

Main definitions:

* `Snapshot` and its parts;
* `Play.snapshot` — the snapshot of a world;
* `Snapshot.toValue` — the snapshot as a record.
-/

import Gamebook.Play.Action

set_option autoImplicit false

namespace Gamebook

/-- An entry of a shop as players see it. -/
structure ShopEntryView where
  id : Value
  name : Value
  price : Value
  enabled : Bool

/-- A shop as players see it. -/
structure ShopView where
  id : Value
  name : Value
  entries : List ShopEntryView

/-- The current node as players see it. -/
structure NodeView where
  id : Value
  title : Value
  text : Value
  isEnding : Bool
  choices : List ChoiceView

/-- A buff in effect as players see it. -/
structure BuffView where
  id : Value
  description : Value
  value : Value
  source : String

/-- Everything that is displayed between two actions. -/
structure Snapshot where
  title : Value
  day : Value
  node : NodeView
  stats : Fields Stat
  inventory : List HeldItem
  capacity : Value
  inventoryCount : Number
  buffs : List BuffView
  buffTotals : BuffTotals
  shops : List ShopView
  ending : Value
  log : List String

namespace Play

/-! ### Parts -/

/-- The name of a record in a section of the book, or its id. -/
def nameIn (table : Value) (name : Key) (id : Value) : Except Fault Value := do
  return (← ((← table.fieldAt id).orElse (.obj [])).field name).orElse id

/-- An entry of a shop as players see it. -/
def shopEntryView (entry : Value) : Play ShopEntryView := do
  let id ← entry.field "id"
  let name ← nameIn (← book).items "name" id
  let price ← entry.field "price"
  let enabled ← checkConditions (← entry.field "conditions") [] true
  return { id, name, price, enabled }

/-- A shop as players see it; an unknown one is not seen. -/
def shopView? (id : Value) : Play (Option ShopView) := do
  let shop ← (← book).shops.fieldAt id
  if !shop.holds then return none
  let name := (← shop.field "name").orElse id
  let entries ← (← ((← shop.field "items").orElse (.list [])).elements).mapM shopEntryView
  return some { id, name, entries }

/-- The current node as players see it. -/
def nodeView (node : Value) : Play NodeView := do
  let title := (← node.field "title").orElse (.str "Story")
  let text := (← node.field "text").orElse (.str "")
  return { id := (← state).node, title, text, isEnding := ← isEnding node
           choices := ← currentChoices }

/-- A buff in effect as players see it. -/
def buffView (i : BuffInstance) : Play BuffView := do
  let description ← nameIn (← book).buffs "desc" i.id
  return { id := i.id, description, value := i.value, source := i.source }

/-! ### The whole -/

/-- **The snapshot of a world.** -/
def snapshot : Play Snapshot := do
  let node ← currentNode
  let shops ← (← ((← node.field "shops").orElse (.list [])).elements).filterMapM shopView?
  let title := (← (← book).info.field "title").orElse (.str "Untitled")
  let node ← nodeView node
  let s ← state
  let inventory ← s.inventory.held (← book).items
  let capacity ← s.capacity
  let inventoryCount ← s.inventory.total
  let buffs ← s.buffInstances.mapM buffView
  return { title, day := s.day, node, stats := s.stats, inventory, capacity, inventoryCount
           buffs, buffTotals := s.buffTotals, shops, ending := s.ending, log := s.journal.texts }

end Play

/-! ### As records -/

/-- A choice as a record. -/
def ChoiceView.toValue (c : ChoiceView) : Value :=
  .obj [("text", c.text), ("enabled", .bool c.enabled)]

/-- A line of the inventory as a record. -/
def HeldItem.toValue (i : HeldItem) : Value :=
  .obj [("item_id", i.id.toValue), ("name", i.name), ("count", i.count), ("usable", .bool i.usable)]

/-- An entry of a shop as a record. -/
def ShopEntryView.toValue (e : ShopEntryView) : Value :=
  .obj [("id", e.id), ("name", e.name), ("price", e.price), ("enabled", .bool e.enabled)]

/-- A shop as a record. -/
def ShopView.toValue (s : ShopView) : Value :=
  .obj [("id", s.id), ("name", s.name), ("entries", .list (s.entries.map (·.toValue)))]

/-- A node as a record. -/
def NodeView.toValue (n : NodeView) : Value :=
  .obj
    [("id", n.id), ("title", n.title), ("text", n.text), ("is_ending", .bool n.isEnding),
      ("choices", .list (n.choices.map (·.toValue)))]

/-- A buff in effect as a record. -/
def BuffView.toValue (b : BuffView) : Value :=
  .obj [("id", b.id), ("desc", b.description), ("value", b.value), ("source", .str b.source)]

/-- **A snapshot as a record.** -/
def Snapshot.toValue (s : Snapshot) : Value :=
  .obj
    [("title", s.title), ("day", s.day), ("node", s.node.toValue),
      ("stats", Stat.allToValue s.stats), ("inventory", .list (s.inventory.map (·.toValue))),
      ("capacity", s.capacity), ("inventory_count", .num s.inventoryCount),
      ("buffs", .list (s.buffs.map (·.toValue))), ("buff_values", s.buffTotals.toValue),
      ("shops", .list (s.shops.map (·.toValue))), ("ending", s.ending),
      ("log", .list (s.log.map .str))]

end Gamebook
