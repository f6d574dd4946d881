/-
**What play can change.**

All that effects, days, nodes, checks and actions do to a world is a sequence of a few kinds of
change.  Each kind is written down here once, with what holds when it happens; what is true of every
change is true of every action.

The effects that are applied come from the book.  A property of values that the parts of a value
inherit holds of all of them once it holds of the book, so the changes are stated for the effects
with such a property.

Main definitions:

* `World.Found` — what evaluating has just found;
* `World.Change`, `World.Changes` — one change, and a sequence of them;
* `Value.Hereditary`, `Book.Has` — properties that the parts of values inherit, and books that have
  them;
* `Value.PartOf` — the parts of a value.

Main result: `World.Changes.preserves` — **what every single change preserves is preserved by all of
them**.
-/

import Gamebook.Proofs.Play.Sync
import Mathlib.Logic.Relation

set_option autoImplicit false

namespace Gamebook

/-! ### Changes -/

/-- The second number is the first one as it is kept: a result that is not a number gets a name of
its own. -/
def Number.KeptAs (n n' : Number) : Prop :=
  n' = n ∨ n = .nan .computed ∧ ∃ k, n' = .nan (.kept k)

/-- The second value is the first one as it is kept: a number with its name, and the flags without
what they hold. -/
def Value.KeptAs (v v' : Value) : Prop :=
  v' = v ∨ (∃ n n', v = .num n ∧ v' = .num n' ∧ n.KeptAs n') ∨
    ∃ content, v = .flags content ∧ v' = .flags .null

/-- The effect has the property and is of the given kind. -/
def Value.IsEffect (P : Value → Prop) (kind : String) (effect : Value) : Prop :=
  P effect ∧ effect.field "type" = .ok (.str kind)

/-- The world with another state. -/
def World.withState (w : World) (s : State) : World := { w with state := s }

/-- The world with an ending. -/
def World.withEnding (w : World) (ending : Value) : World :=
  w.withState { w.state with ending }

/-- What the world just became by evaluating something, with names that may be bound; since then a
result that is not a number may have got a name. -/
def World.Found {α : Type} (E : Fields Value → Prop) (w : World) (look : Fields Value → Play α)
    (found : α) : Prop :=
  ∃ (extra : Fields Value) (before after : World), E extra ∧
    (look extra).runFrom before = (.ok found, after) ∧ w = { after with keptNaNs := w.keptNaNs }

/-- The amount of the effect was just found. -/
def World.FoundAmount (E : Fields Value → Prop) (w : World) (effect : Value) (amount : Number) :
    Prop :=
  w.Found E (fun extra => Play.amountOf effect extra (.int 0)) amount

/-- The count of the item effect was just found. -/
def World.FoundCount (E : Fields Value → Prop) (w : World) (effect count : Value) : Prop :=
  ∃ n, w.Found E (Play.countOf effect) n ∧ count = .num n

/-- What an effect makes of the current value of a stat: it adds its amount or puts it there. -/
inductive Value.Updates (P : Value → Prop) (effect stat : Value) (amount : Number)
    (before : Value) : Number → Prop
  | add {after : Number} : effect.IsEffect P "stat_add" → effect.field "stat" = .ok stat →
      before.plus amount = .ok after → Updates P effect stat amount before after
  | set : effect.IsEffect P "stat_set" → effect.field "stat" = .ok stat →
      Updates P effect stat amount before amount
  | money {after : Number} : effect.IsEffect P "money_add" → stat = .str "money" →
      before.plus amount = .ok after → Updates P effect stat amount before after

theorem Value.Updates.after_cases {P : Value → Prop} {effect stat before : Value}
    {amount after : Number} (h : effect.Updates P stat amount before after) :
    after = amount ∨ before.plus amount = .ok after := by
  cases h with
  | add _ _ h => exact .inr h
  | set => exact .inl rfl
  | money _ _ h => exact .inr h

/-- **One change of a world**, by effects that have a property, with names bound for them that have
another one.  The game comes to an ending only if it may. -/
inductive World.Change (P : Value → Prop) (E : Fields Value → Prop) (ends : Prop) (w : World) :
    World → Prop
  /-- Formulas were evaluated, chance was used, the author was warned. -/
  | idle {w' : World} : Idle w w' → Change P E ends w w'
  /-- A sync was made, perhaps not to its end. -/
  | sync : Change P E ends w (Play.sync.runFrom w).2
  /-- A line was written. -/
  | log (text : Value) :
      Change P E ends w (w.withState
        { w.state with journal := w.state.journal.add text w.settings.now })
  /-- A result that is not a number got a name. -/
  | keep : Change P E ends w { w with keptNaNs := w.keptNaNs + 1 }
  /-- The current value of a base stat was added to or set. -/
  | cur {effect stat before : Value} {name : Key} {s : Stat} {amount after kept : Number}
      (hamount : w.FoundAmount E effect amount) (hname : stat.asKey = .ok name)
      (hget : w.state.baseStats.get? name = some s) (hbefore : s.cur = .ok before)
      (hfinite : (Value.num amount).isFiniteNumber = .ok true)
      (hafter : effect.Updates P stat amount before after) (hkept : after.KeptAs kept) :
      Change P E ends w (w.withState
        { w.state with baseStats := w.state.baseStats.set name (s.setCur (.num kept)) })
  /-- The greatest value of a base stat was added to. -/
  | max {effect stat before : Value} {name : Key} {s : Stat} {amount after kept : Number}
      (heffect : effect.IsEffect P "stat_add_max") (hstat : effect.field "stat" = .ok stat)
      (hamount : w.FoundAmount E effect amount) (hname : stat.asKey = .ok name)
      (hget : w.state.baseStats.get? name = some s) (hbefore : s.max = .ok before)
      (hfinite : (Value.num amount).isFiniteNumber = .ok true)
      (hafter : before.plus amount = .ok after) (hkept : after.KeptAs kept) :
      Change P E ends w (w.withState
        { w.state with baseStats := w.state.baseStats.set name (s.setMax (.num kept)) })
  /-- The capacity was added to. -/
  | capacity {effect capacity : Value} {resources : Fields Value} {amount after kept : Number}
      (heffect : effect.IsEffect P "capacity_add") (hamount : w.FoundAmount E effect amount)
      (hcapacity : w.state.capacity = .ok capacity)
      (hresources : w.state.resources.entries = .ok resources)
      (hfinite : (Value.num amount).isFiniteNumber = .ok true)
      (hafter : (capacity.orElse (.int 0)).plus amount = .ok after)
      (hkept : after.KeptAs kept) :
      Change P E ends w (w.withState
        { w.state with resources := .obj (resources.set "capacity" (.num kept)) })
  /-- Some of a declared item was added, or the addition was refused. -/
  | addItem {effect item count capacity : Value} {accepted : Bool} {inventory : Inventory}
      (heffect : effect.IsEffect P "item_add") (hitem : effect.field "item" = .ok item)
      (hcount : w.FoundCount E effect count)
      (hdeclared : Play.declares w.book.items item = .ok true)
      (hfinite : count.isFiniteNumber = .ok true) (hcapacity : w.state.capacity = .ok capacity)
      (hadd : w.state.inventory.add item count capacity = .ok (accepted, inventory)) :
      Change P E ends w (w.withState (w.state.withInventory inventory))
  /-- Some of a declared item was removed, by an effect or by using one. -/
  | removeItem {item count : Value} {inventory : Inventory}
      (hcause : (∃ effect : Value, effect.IsEffect P "item_remove" ∧
        effect.field "item" = .ok item ∧ w.FoundCount E effect count) ∨ count = .int 1)
      (hdeclared : Play.declares w.book.items item = .ok true)
      (hfinite : count.isFiniteNumber = .ok true)
      (hremove : w.state.inventory.remove item count = .ok inventory) :
      Change P E ends w (w.withState (w.state.withInventory inventory))
  /-- A declared buff was added. -/
  | addBuff {effect buff formula duration definition given givenValue declared : Value}
      {active : List Value}
      (heffect : effect.IsEffect P "buff_add") (hbuff : effect.field "buff" = .ok buff)
      (hdeclared : Play.declares w.book.buffs buff = .ok true)
      (hgiven : effect.field "value_expr" = .ok given)
      (hvalue : effect.field "value" = .ok givenValue)
      (hdefinition : w.book.buffs.entryAt buff = .ok definition)
      (hformula : (definition.orElse (.obj [])).field "value_expr" = .ok declared)
      (hchosen : formula =
        Value.coalesce [Value.coalesce [given, givenValue], declared, .str "1"])
      (hduration : effect.field "duration_days" = .ok duration)
      (hactive : w.state.buffs = .list active) :
      Change P E ends w (w.withState
        { w.state with buffs := .list (active ++
          [.obj [("id", buff), ("value_expr", formula), ("duration_days", duration)]]) })
  /-- The buffs with an id were removed. -/
  | removeBuff {effect id : Value} {active rest : List Value}
      (heffect : effect.IsEffect P "buff_remove") (hbuff : effect.field "buff" = .ok id)
      (hactive : w.state.buffs.elements = .ok active)
      (hrest : Play.withoutId id active = .ok rest) :
      Change P E ends w (w.withState { w.state with buffs := .list rest })
  /-- A day was taken off the buffs. -/
  | tick {active rest : List Value} (hactive : w.state.buffs.elements = .ok active)
      (hrest : Play.tickAll active = .ok rest) :
      Change P E ends w (w.withState { w.state with buffs := .list rest })
  /-- A flag was set to the value of a formula. -/
  | flag {effect flag given givenValue value kept flags : Value}
      (heffect : effect.IsEffect P "flag_set") (hflag : effect.field "flag" = .ok flag)
      (hholds : flag.holds = true) (hgiven : effect.field "value_expr" = .ok given)
      (hvalue : effect.field "value" = .ok givenValue)
      (hfound : w.Found E (Play.evaluator (Value.coalesce [given, givenValue, .bool true])) value)
      (hkept : value.KeptAs kept)
      (hflags : w.state.flags.setEntryAt flag kept = .ok flags) :
      Change P E ends w (w.withState { w.state with flags })
  /-- A day was counted. -/
  | day {after kept : Number} (hafter : w.state.day.plus (.int 1) = .ok after)
      (hkept : after.KeptAs kept) :
      Change P E ends w (w.withState { w.state with day := .num kept })
  /-- A declared node was entered. -/
  | node {id : Value} (hdeclared : Play.declares w.book.nodes id = .ok true) :
      Change P E ends w (w.withState { w.state with node := id })
  /-- The game came to an ending. -/
  | ending {ending : Value} (hends : ends) (hnone : w.state.ending.holds = false)
      (hending : ending.holds = true) :
      Change P E ends w (w.withEnding ending)

namespace World

/-- Changes one after the other. -/
def Changes (P : Value → Prop) (E : Fields Value → Prop) (ends : Prop) : World → World → Prop :=
  Relation.ReflTransGen (Change P E ends)

variable {P : Value → Prop} {E : Fields Value → Prop} {ends : Prop} {w w' w'' : World}

instance : Std.Refl (Changes P E ends) := ⟨fun _ => Relation.ReflTransGen.refl⟩

instance : IsTrans World (Changes P E ends) := ⟨fun _ _ _ => Relation.ReflTransGen.trans⟩

theorem Idle.withEnding {w w' : World} (h : Idle w w') (ending : Value) :
    Idle (w.withEnding ending) (w'.withEnding ending) := by
  obtain ⟨failed, c, ws, rfl⟩ := h
  exact ⟨failed, c, ws, rfl⟩

theorem Change.changes (h : Change P E ends w w') : Changes P E ends w w' := .single h

theorem Idle.changes (h : Idle w w') : Changes P E ends w w' := (Change.idle h).changes

/-- What every single change preserves is preserved by all of them. -/
theorem Changes.preserves {I : World → Prop} (hstep : ∀ w w', Change P E ends w w' → I w → I w')
    (h : Changes P E ends w w') (hw : I w) : I w' := by
  induction h with
  | refl => exact hw
  | tail _ hlast ih => exact hstep _ _ hlast ih

theorem Change.book_eq (h : Change P E ends w w') : w'.book = w.book := by
  cases h with
  | idle h => exact h.book_eq
  | sync => exact (Play.sync_leads w).world.book_eq
  | _ => rfl

theorem Change.settings_eq (h : Change P E ends w w') : w'.settings = w.settings := by
  cases h with
  | idle h => exact h.settings_eq
  | sync => exact (Play.sync_leads w).world.settings_eq
  | _ => rfl

theorem Changes.book_eq (h : Changes P E ends w w') : w'.book = w.book :=
  h.preserves (I := fun v => v.book = w.book) (fun _ _ hc hw => hc.book_eq.trans hw) rfl

theorem Changes.settings_eq (h : Changes P E ends w w') : w'.settings = w.settings :=
  h.preserves (I := fun v => v.settings = w.settings) (fun _ _ hc hw => hc.settings_eq.trans hw) rfl

end World

/-! ### Inherited properties -/

/-- The parts of a value that has the property have it, and so do the defaults for what is
missing. -/
structure Value.Hereditary (P : Value → Prop) : Prop where
  null : P .null
  empty : P (.obj [])
  none : P (.list [])
  field {v w : Value} {k : Key} : P v → v.field k = .ok w → P w
  fieldAt {v w k : Value} : P v → v.fieldAt k = .ok w → P w
  entryAt {v w k : Value} : P v → v.entryAt k = .ok w → P w
  element {v : Value} {vs : List Value} : P v → v.elements = .ok vs → ∀ w ∈ vs, P w

theorem Value.orElse_eq (v w : Value) : v.orElse w = v ∨ v.orElse w = w := by
  unfold Value.orElse
  split
  · exact .inl rfl
  · exact .inr rfl

/-- A default that is already there is not put there again. -/
theorem Value.orElse_orElse (v w : Value) : (v.orElse w).orElse w = v.orElse w := by
  rcases v.orElse_eq w with h | h <;> rw [h]
  · exact h
  · unfold Value.orElse
    split <;> rfl

theorem Value.Hereditary.orElse {P : Value → Prop} {v w : Value} (hv : P v) (hw : P w) :
    P (v.orElse w) := by
  rcases v.orElse_eq w with h | h <;> rw [h] <;> assumption

theorem Value.Hereditary.orElse_empty {P : Value → Prop} (hP : Hereditary P) {v : Value}
    (hv : P v) : P (v.orElse (.obj [])) := orElse hv hP.empty

theorem Value.Hereditary.orElse_none {P : Value → Prop} (hP : Hereditary P) {v : Value}
    (hv : P v) : P (v.orElse (.list [])) := orElse hv hP.none

/-- The parts of a value, with the defaults for what is missing. -/
inductive Value.PartOf (v : Value) : Value → Prop
  | whole : PartOf v v
  | null : PartOf v .null
  | empty : PartOf v (.obj [])
  | none : PartOf v (.list [])
  | field {u w : Value} {k : Key} : PartOf v u → u.field k = .ok w → PartOf v w
  | fieldAt {u w k : Value} : PartOf v u → u.fieldAt k = .ok w → PartOf v w
  | entryAt {u w k : Value} : PartOf v u → u.entryAt k = .ok w → PartOf v w
  | element {u w : Value} {vs : List Value} : PartOf v u → u.elements = .ok vs → w ∈ vs →
      PartOf v w

theorem Value.hereditary_partOf (v : Value) : Hereditary v.PartOf where
  null := .null
  empty := .empty
  none := .none
  field := .field
  fieldAt := .fieldAt
  entryAt := .entryAt
  element hu hvs _ hw := .element hu hvs hw

/-- What is inherited by the parts of values, all parts of a value have when the value has it. -/
theorem Value.PartOf.inherits {P : Value → Prop} {v w : Value} (h : v.PartOf w)
    (hP : Hereditary P) (hv : P v) : P w := by
  induction h with
  | whole => exact hv
  | null => exact hP.null
  | empty => exact hP.empty
  | none => exact hP.none
  | field _ hw ih => exact hP.field ih hw
  | fieldAt _ hw ih => exact hP.fieldAt ih hw
  | entryAt _ hw ih => exact hP.entryAt ih hw
  | element _ hvs hw ih => exact hP.element ih hvs _ hw

/-- All sections of the book with effects in them have the property. -/
structure Book.Has (P : Value → Prop) (b : Book) : Prop where
  items : P b.items
  buffs : P b.buffs
  shops : P b.shops
  nodes : P b.nodes
  events : P b.events
  endings : P b.endings

end Gamebook
