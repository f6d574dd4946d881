/-
**Saving a game in play and going on from it.**

The state of a game in play keeps a form in which nothing gets lost when it is saved: every stat has
both its values, empty parts have the form of their defaults, and the journal is within its limit.
So going on from its record restores the state, apart from the derived view, which is not saved, and
from flags that follow the inventory, of which the counts are saved.

Main definitions:

* `Stat.IsNormal` — a stat with both its values;
* `World.Saveable` — worlds whose state is in that form.

Main results:

* `World.Changes.saveable` — **whatever happens keeps the state in that form**;
* `Play.runFrom_restore_save` — **going on from the record of a state is a sync of that state**.
-/

import Gamebook.Proofs.Journal
import Gamebook.Proofs.Play.ActionChanges
import Gamebook.Proofs.Play.Opening
import Gamebook.Proofs.Play.Twins
import Gamebook.Proofs.State

set_option autoImplicit false

namespace Gamebook

/-! ### Stats with both values -/

namespace Stat

/-- Both values are there. -/
def IsNormal (s : Stat) : Prop :=
  ∃ c m, Fields.get? s "cur" = some c ∧ c.isNull = false ∧ Fields.get? s "max" = some m ∧
    m.isNull = false

variable {s : Stat}

theorem not_same_cur_max : (Key.text "cur").same (.text "max") = false := by decide

theorem not_same_max_cur : (Key.text "max").same (.text "cur") = false := by decide

theorem IsNormal.setCur (h : s.IsNormal) {v : Value} (hv : v.isNull = false) :
    (s.setCur v).IsNormal := by
  obtain ⟨c, m, _, _, hm, hmn⟩ := h
  refine ⟨v, m, Fields.get?_set_self _ _ _, hv, ?_, hmn⟩
  rw [Stat.setCur, Fields.get?_set_of_not_same not_same_cur_max]
  exact hm

theorem IsNormal.setMax (h : s.IsNormal) {v : Value} (hv : v.isNull = false) :
    (s.setMax v).IsNormal := by
  obtain ⟨c, m, hc, hcn, _, _⟩ := h
  refine ⟨c, v, ?_, hcn, Fields.get?_set_self _ _ _, hv⟩
  rw [Stat.setMax, Fields.get?_set_of_not_same not_same_max_cur]
  exact hc

/-- Filling in leaves a stat with both values as it is. -/
theorem IsNormal.normalize_eq (h : s.IsNormal) : s.normalize = s := by
  obtain ⟨c, m, hc, hcn, hm, hmn⟩ := h
  simp [normalize, hc, hm, Value.ofOption, Value.coalesce_cons, hcn, hmn, Stat.setCur, Stat.setMax,
    Fields.set_of_get? hc, Fields.set_of_get? hm]

theorem isNormal_setCur_setMax (s : Stat) {c m : Value} (hc : c.isNull = false)
    (hm : m.isNull = false) : ((s.setCur c).setMax m).IsNormal := by
  refine ⟨c, m, ?_, hc, Fields.get?_set_self _ _ _, hm⟩
  rw [Stat.setMax, Fields.get?_set_of_not_same not_same_max_cur]
  exact Fields.get?_set_self _ _ _

/-- Filling in leaves a stat with both values. -/
theorem isNormal_normalize (s : Stat) : s.normalize.IsNormal := by
  have hcur : ∀ v w : Value, (Value.coalesce [v, w, .int 0]).isNull = false := fun v w => by
    rw [Value.coalesce_cons]
    cases hv : v.isNull
    · simpa using hv
    · exact Value.isNull_coalesce rfl
  exact isNormal_setCur_setMax s (hcur _ _) (Value.isNull_coalesce (hcur _ _))

theorem isNull_of_lt {v w : Value} {b : Bool} (h : v.lt w = .ok b) : v.isNull = false := by
  cases v with
  | null => cases h
  | _ => rfl

theorem IsNormal.clampTo {derived : Fields Stat} {id : Key} {s' : Stat} (h : s.IsNormal)
    (hs : Stat.clampTo derived id s = .ok s') : s'.IsNormal := by
  rw [clampTo_eq_bind] at hs
  obtain ⟨s₁, h₁, h₂⟩ := exists_of_bind_eq_ok hs
  have hs₁ : s₁.IsNormal := by
    unfold lowered at h₁
    split at h₁
    · cases h₁
      exact h
    · obtain ⟨top, _, h₁⟩ := exists_of_bind_eq_ok h₁
      obtain ⟨c, _, h₁⟩ := exists_of_bind_eq_ok h₁
      obtain ⟨b, hb, h₁⟩ := exists_of_bind_eq_ok h₁
      cases b
      · cases h₁
        exact h
      · cases h₁
        exact h.setCur (isNull_of_lt hb)
  rcases raised_cases h₂ with rfl | ⟨rfl, _⟩
  · exact hs₁.setCur rfl
  · exact hs₁

end Stat

/-! ### States that can be saved -/

namespace World

open Play

/-- Nothing in the state of the world gets lost when it is saved. -/
structure Saveable (w : World) : Prop where
  stats : ∀ f ∈ w.state.baseStats, f.2.IsNormal
  resources : w.state.resources.orElse (.obj []) = w.state.resources
  buffs : ∃ active, w.state.buffs = .list active
  flags : ∃ flags, w.state.flags = .obj flags
  journal : w.state.journal.WellKept w.settings.logLimit

variable {P : Value → Prop} {E : Fields Value → Prop} {ends : Prop} {w w' : World}

theorem Saveable.idle (hw : w.Saveable) (h : Idle w w') : w'.Saveable := by
  obtain ⟨failed, c, ws, rfl⟩ := h
  have hjournal := Journal.noteFailures_of_add (fun _ text now h => h.add text now) hw.journal
  exact ⟨hw.stats, hw.resources, hw.buffs, hw.flags, hjournal _ _⟩

theorem isNormal_clampAll {base derived clamped : Fields Stat} (hbase : ∀ f ∈ base, f.2.IsNormal)
    (h : Stat.clampAll base derived = .ok clamped) : ∀ f ∈ clamped, f.2.IsNormal := by
  intro g hg
  obtain ⟨f, hf, _, hclamp⟩ := exists_mem_of_forall₂ (Stat.clampAll_eq_ok_iff.1 h) hg
  exact (hbase f hf).clampTo hclamp

theorem Saveable.resynced (hw : w.Saveable) (h : Resynced w w') : w'.Saveable := by
  obtain ⟨base, stats, instances, totals, hcut, hidle⟩ := h
  have hbase : ∀ f ∈ base, f.2.IsNormal := by
    rcases hcut with rfl | ⟨derived, hclamp, _⟩
    · exact hw.stats
    · exact isNormal_clampAll hw.stats hclamp
  have hview : ((w.withBaseStats base).withView stats instances totals).Saveable :=
    ⟨hbase, hw.resources, hw.buffs, hw.flags, hw.journal⟩
  exact hview.idle hidle

theorem set_ne_nil {α : Type} (fs : Fields α) (k : Key) (a : α) : fs.set k a ≠ [] := by
  cases fs with
  | nil => simp [Fields.set]
  | cons f fs =>
      unfold Fields.set
      split <;> simp

theorem Saveable.withInventory (hw : w.Saveable) (inventory : Inventory) :
    (w.withState (w.state.withInventory inventory)).Saveable := by
  refine ⟨hw.stats, hw.resources, hw.buffs, ?_, hw.journal⟩
  obtain ⟨flags, hflags⟩ := hw.flags
  change ∃ flags', refreshFlags inventory.counts w.state.flags = .obj flags'
  rw [hflags]
  exact ⟨_, rfl⟩

/-- **Every change keeps the state in a form that can be saved.** -/
theorem Change.saveable (h : Change P E ends w w') (hw : w.Saveable) : w'.Saveable := by
  cases h with
  | idle h => exact hw.idle h
  | sync => exact hw.resynced (sync_leads w).world
  | log text => exact ⟨hw.stats, hw.resources, hw.buffs, hw.flags, hw.journal.add _ _⟩
  | keep => exact ⟨hw.stats, hw.resources, hw.buffs, hw.flags, hw.journal⟩
  | cur _ _ hget _ _ _ _ =>
      refine ⟨Fields.forall_set hw.stats ?_, hw.resources, hw.buffs, hw.flags, hw.journal⟩
      exact Stat.IsNormal.setCur (Fields.forall_get? hw.stats hget) rfl
  | max _ _ _ _ hget _ _ _ _ =>
      refine ⟨Fields.forall_set hw.stats ?_, hw.resources, hw.buffs, hw.flags, hw.journal⟩
      exact Stat.IsNormal.setMax (Fields.forall_get? hw.stats hget) rfl
  -- empty resources would be replaced by their default, but a capacity was just put there
  | capacity =>
      refine ⟨hw.stats, if_pos ?_, hw.buffs, hw.flags, hw.journal⟩
      simpa [withState, Value.holds] using set_ne_nil _ _ _
  | addItem => exact hw.withInventory _
  | removeItem => exact hw.withInventory _
  | addBuff => exact ⟨hw.stats, hw.resources, ⟨_, rfl⟩, hw.flags, hw.journal⟩
  | removeBuff => exact ⟨hw.stats, hw.resources, ⟨_, rfl⟩, hw.flags, hw.journal⟩
  | tick => exact ⟨hw.stats, hw.resources, ⟨_, rfl⟩, hw.flags, hw.journal⟩
  | flag _ _ _ _ _ _ _ hset =>
      refine ⟨hw.stats, hw.resources, hw.buffs, ?_, hw.journal⟩
      obtain ⟨flags, hflags⟩ := hw.flags
      rw [hflags] at hset
      obtain ⟨name, _, hset⟩ := exists_of_bind_eq_ok hset
      cases hset
      exact ⟨_, rfl⟩
  | day => exact ⟨hw.stats, hw.resources, hw.buffs, hw.flags, hw.journal⟩
  | node => exact ⟨hw.stats, hw.resources, hw.buffs, hw.flags, hw.journal⟩
  | ending => exact ⟨hw.stats, hw.resources, hw.buffs, hw.flags, hw.journal⟩

/-- **Whatever happens keeps the state in a form that can be saved.** -/
theorem Changes.saveable (h : Changes P E ends w w') (hw : w.Saveable) : w'.Saveable :=
  h.preserves (fun _ _ hc => hc.saveable) hw

/-! ### Sources without chance -/

/-- The `value_expr` of an active buff, if it is there, does not use chance. -/
def BuffAvoidsChance (buff : Value) : Prop :=
  ∀ f, buff.field "value_expr" = .ok f → Formula.avoids [] Formula.chanceCalls f = true

theorem ChanceFreeSources.of_list {active : List Value} (hbook : w.book.Has Value.ChanceFree)
    (hbuffs : w.state.buffs = .list active) (hactive : ∀ buff ∈ active, BuffAvoidsChance buff) :
    w.ChanceFreeSources := by
  refine ⟨hbook, fun {buffs buff f} helements hbuff hf => ?_⟩
  rw [hbuffs] at helements
  cases helements
  exact hactive buff hbuff f hf

theorem ChanceFreeSources.of_eq (hw : w.ChanceFreeSources) (hbook : w'.book = w.book)
    (hbuffs : w'.state.buffs = w.state.buffs) : w'.ChanceFreeSources :=
  ⟨hbook ▸ hw.book, fun helements => hw.buffs (hbuffs ▸ helements)⟩

theorem avoidsChance_added {effect given givenValue definition declared buff : Value}
    (heffect : effect.IsEffect Value.ChanceFree "buff_add") (hbuffs : w.book.buffs.ChanceFree)
    (hgiven : effect.field "value_expr" = .ok given)
    (hvalue : effect.field "value" = .ok givenValue)
    (hdefinition : w.book.buffs.entryAt buff = .ok definition)
    (hdeclared : (definition.orElse (.obj [])).field "value_expr" = .ok declared) :
    Formula.avoids [] Formula.chanceCalls
      (Value.coalesce [Value.coalesce [given, givenValue], declared, .str "1"]) = true := by
  have hP := Value.hereditary_chanceFree
  have hdefined : (definition.orElse (.obj [])).ChanceFree :=
    hP.orElse_empty (hP.entryAt hbuffs hdefinition)
  -- the formula is that of the effect, else that of the definition, else one
  refine Formula.avoids_coalesce (List.forall_mem_cons.2 ⟨Formula.avoids_coalesce ?_, ?_⟩)
  · refine List.forall_mem_cons.2 ⟨?_, List.forall_mem_singleton.2 ?_⟩
    · exact Value.avoids_of_everyRecord heffect.1.valueAvoids hgiven
    · exact heffect.1.added heffect.2 hvalue
  · refine List.forall_mem_cons.2 ⟨?_, List.forall_mem_singleton.2 ?_⟩
    · exact Value.avoids_of_everyRecord hdefined.valueAvoids hdeclared
    · exact Formula.avoids_one

/-- **Every change by effects without chance leaves sources without chance.** -/
theorem Change.chanceFreeSources (h : Change Value.ChanceFree E ends w w')
    (hw : w.ChanceFreeSources) :
    w'.ChanceFreeSources := by
  have hbook : w'.book.Has Value.ChanceFree := h.book_eq ▸ hw.book
  cases h with
  | idle h => exact hw.of_eq h.book_eq (by rw [h.state_eq])
  | sync =>
      have h : Resynced w (Play.sync.runFrom w).2 := (sync_leads w).world
      exact hw.of_eq h.book_eq (by rw [h.state_eq])
  | addBuff heffect _ _ hgiven hvalue hdefinition hformula hchosen _ hactive =>
      refine .of_list hbook rfl fun buff hbuff => ?_
      rcases List.mem_append.1 hbuff with hbuff | hbuff
      · exact fun f hf => hw.buffs (by rw [hactive]; rfl) hbuff hf
      · obtain rfl := List.mem_singleton.1 hbuff
        intro f hf
        cases hf
        rw [hchosen]
        exact avoidsChance_added heffect hw.book.buffs hgiven hvalue hdefinition hformula
  | removeBuff _ _ hactive hrest =>
      refine .of_list hbook rfl fun buff hbuff => ?_
      obtain ⟨before, hbefore, hunless⟩ := exists_of_mem_filterMapM hrest hbuff
      rw [eq_of_unlessId hunless]
      exact fun f hf => hw.buffs hactive hbefore hf
  | tick hactive hrest =>
      refine .of_list hbook rfl fun buff hbuff => ?_
      obtain ⟨before, hbefore, htick⟩ := exists_of_mem_filterMapM hrest hbuff
      intro f hf
      rw [field_tickBuff htick (by decide)] at hf
      exact hw.buffs hactive hbefore hf
  | _ => exact ⟨hw.book, hw.buffs⟩

theorem Changes.chanceFreeSources (h : Changes Value.ChanceFree E ends w w')
    (hw : w.ChanceFreeSources) :
    w'.ChanceFreeSources :=
  h.preserves (fun _ _ hc => hc.chanceFreeSources) hw

/-! ### Going on from a record -/

/-- The world without its derived view: the stats are the base stats, and no buff is in effect. -/
def forgetView (w : World) : World := w.withView w.state.baseStats [] []

/-- The world with the state that the record of another one stands for, before it is synced. -/
def resuming (v w : World) : World := v.withState (State.ofSaved w.state.save w.state.baseStats)

/-- Nothing gets lost when the state of the world is saved. -/
theorem Saveable.ofValue_save (hw : w.Saveable) :
    SavedGame.ofValue w.settings.digitLimit w.state.save.toValue w.settings.logLimit =
      .ok w.state.save := by
  obtain ⟨active, hactive⟩ := hw.buffs
  obtain ⟨flags, hflags⟩ := hw.flags
  have hobj : ∀ fields : Fields Value, (Value.obj fields).orElse (.obj []) = .obj fields :=
    fun fields => by cases fields <;> rfl
  have hlist : (Value.list active).orElse (.list []) = .list active := by cases active <;> rfl
  rw [SavedGame.ofValue_toValue]
  simp only [State.save, hw.journal.ofValue_toValue, hw.resources, hactive, hflags, hlist, hobj,
    Value.detached, Stat.allToValue]

theorem readAll_allToValue {stats : Fields Stat} (h : ∀ f ∈ stats, f.2.IsNormal) :
    Stat.readAll (Stat.allToValue stats) = .ok (stats, []) := by
  have horElse : (Stat.allToValue stats).orElse (.obj []) = Stat.allToValue stats := by
    cases stats <;> rfl
  unfold Stat.readAll
  rw [horElse]
  refine congrArg Except.ok (Prod.ext ?_ ?_)
  · -- every record is read as the stat it was written from
    refine List.filterMap_map.trans ?_
    refine (List.filterMap_congr fun f hf => ?_).trans List.filterMap_some
    exact congrArg (fun s => some (f.1, s)) (h f hf).normalize_eq
  · refine List.filterMap_map.trans (List.filterMap_eq_nil_iff.2 ?_)
    exact fun _ _ => rfl

/-- The state resumed is that of a world without its view, apart from flags. -/
theorem twins_resuming {v : World} (hsettings : v.settings = w.settings)
    (hbook : v.book = w.book) : Twins w Eq w.forgetView (v.resuming w) :=
  ⟨⟨rfl, rfl, rfl⟩, hsettings, hbook, .detached _, rfl, rfl⟩

end World

namespace Play

open World

variable {w v : World}

/-- **Going on from the record of a state is a sync of that state.** -/
theorem runFrom_restore_save (hw : w.Saveable) (hsettings : v.settings = w.settings) :
    (restore w.state.save.toValue).runFrom v = sync.runFrom (v.resuming w) := by
  have hread : (readStats (Stat.allToValue w.state.baseStats)).runFrom v =
      (.ok w.state.baseStats, v) := by
    unfold readStats
    rw [runFrom_bind_ok (runFrom_liftM_ok (readAll_allToValue hw.stats) v)]
    rfl
  have hsaved := hw.ofValue_save
  rw [← hsettings, ← SavedGame.toValue_orElse w.state.save (.obj [])] at hsaved
  unfold restore
  refine (runFrom_bind_ok (runFrom_get v)).trans ?_
  refine (runFrom_bind_ok (runFrom_liftM_ok hsaved v)).trans ?_
  exact (runFrom_bind_ok hread).trans (runFrom_bind_ok (runFrom_modifyState _ v))

end Play

end Gamebook
