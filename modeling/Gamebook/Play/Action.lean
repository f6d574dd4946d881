/-
**Player actions.**

An action changes the world by the effects or the check it stands for, then syncs the state and
looks for an ending.  It goes on to nodes and days as play does unless another way is given.

Main definitions:

* `Play.acting` — what an action does and what follows it;
* `Play.choose`, `Play.chooseIndex`, `Play.chooseAt` — taking a choice;
* `Play.buy`, `Play.useItem` — the shop and the inventory;
* `Play.advanceDay` — letting time pass.
-/

import Gamebook.Play.Story

set_option autoImplicit false

namespace Gamebook

/-- A choice as players see it. -/
structure ChoiceView where
  text : Value
  enabled : Bool

namespace Play

/-- The current node; an unknown one is empty. -/
def currentNode : Play Value := do
  return (← (← book).nodes.fieldAt (← state).node).orElse (.obj [])

/-- Whether a node is an ending. -/
def isEnding (node : Value) : Except Fault Bool := do
  return (← node.field "type").eqv (.str "ending")

/-- A choice as players see it.  An ending has no choice that can be taken. -/
def choiceView (ending : Bool) (choice : Value) : Play ChoiceView := do
  let text := (← choice.field "text").orElse (.str "Choice")
  if ending then return ⟨text, false⟩
  return ⟨text, ← checkConditions (← choice.field "conditions") [] true⟩

/-- The choices of the current node. -/
def currentChoices : Play (List ChoiceView) := do
  let node ← currentNode
  let ending ← isEnding node
  (← ((← node.field "choices").orElse (.list [])).elements).mapM (choiceView ending)

/-! ### Actions -/

/-- What follows every action. -/
def afterAction (onward : Onward := onwards) : Play Unit := do
  sync
  checkEndings onward

/-- An action by what it does: when it is carried out, the state is synced and an ending looked
for. -/
def acting (m : Play Bool) (onward : Onward := onwards) : Play Bool := do
  let accepted ← m
  if accepted then afterAction onward
  return accepted

/-- Takes a choice: its check if it has one, its effects and its node otherwise.  The answer is
false when there is no choice or its conditions do not hold. -/
def takeChoice (choice : Value) (onward : Onward := onwards) : Play Bool := do
  if !choice.holds then return false
  if !(← checkConditions (← choice.field "conditions") [] false) then return false
  let check ← choice.field "check"
  if check.holds then
    let _ ← resolveCheck onward check
  else
    followBranch onward choice []
  return true

/-- Takes a choice of the current node by its place, when it is enabled. -/
def takeIndex (index : Int) (onward : Onward := onwards) : Play Bool := do
  let choices ← currentChoices
  if index < 0 then return false
  match choices[index.toNat]? with
  | none => return false
  | some view =>
      if !view.enabled then return false
      let all ← (← (← currentNode).field "choices").elements
      takeChoice ((all[index.toNat]?).getD .null) onward

/-- Takes the choice at a place that a value gives.  A place among the choices has to be an
integer, and what is no number is no place at all. -/
def takeAt (place : Value) (onward : Onward := onwards) : Play Bool := do
  match place.number? with
  | some (.int index) => takeIndex index onward
  | some place => do
      let count : Number := .int (← currentChoices).length
      if Number.le (.int 0) place && place.lt count then throw .wrongKind else return false
  | none => do
      let _ ← currentChoices
      throw .wrongKind

/-- The first of some entries with an id. -/
def entryWithId (id : Value) : List Value → Except Fault (Option Value)
  | [] => .ok none
  | e :: es => do if (← e.field "id").eqv id then return some e else entryWithId id es

/-- Takes an entry of a shop, when its conditions hold. -/
def takeEntry (shop item : Value) (onward : Onward := onwards) : Play Bool := do
  let shop ← (← book).shops.fieldAt shop
  if !shop.holds then return false
  match ← entryWithId item (← ((← shop.field "items").orElse (.list [])).elements) with
  | none => return false
  | some entry =>
      if !(← checkConditions (← entry.field "conditions") [] false) then return false
      applyEffects onward (← entry.field "effects") []
      return true

/-- Applies the effects of an item and consumes one of it. -/
def consume (item : Value) (onward : Onward := onwards) : Play Bool := do
  let items := (← book).items
  if !(← items.contains item) then return false
  if ← ((← (← state).inventory.quantity item).le (.int 0) : Except Fault Bool) then return false
  let definition := (← items.entryAt item).orElse (.obj [])
  applyEffects onward (← definition.field "use_effects") []
  removeItem item (.int 1)
  return true

/-- **Takes a choice.** -/
def choose (choice : Value) (onward : Onward := onwards) : Play Bool :=
  acting (takeChoice choice onward) onward

/-- **Takes a choice of the current node by its place.** -/
def chooseIndex (index : Int) (onward : Onward := onwards) : Play Bool :=
  acting (takeIndex index onward) onward

/-- **Takes the choice at a place that a value gives.** -/
def chooseAt (place : Value) (onward : Onward := onwards) : Play Bool :=
  acting (takeAt place onward) onward

/-- **Buys an entry of a shop.** -/
def buy (shop item : Value) (onward : Onward := onwards) : Play Bool :=
  acting (takeEntry shop item onward) onward

/-- **Uses an item.** -/
def useItem (item : Value) (onward : Onward := onwards) : Play Bool :=
  acting (consume item onward) onward

/-- **Lets time pass.** -/
def advanceDay (days : Value) (onward : Onward := onwards) : Play Unit := do
  passDays onward days
  afterAction onward

end Play

end Gamebook
