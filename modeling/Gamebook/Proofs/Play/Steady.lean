/-
**A second sync changes nothing.**

The first sync changes the base stats and the view.  So a second one sees another world, but not as
long as the formulas it evaluates do not look at what the first one has changed.

Main definitions:

* `World.SameButView` — worlds that differ in the stats, the buffs in effect and what records what
  has happened;
* `World.Fixes`, `World.Steady` — formulas whose numbers do not depend on these.

Main result: `Play.sync_again` — **the derived view is a fixed point of syncing**.
-/

import Gamebook.Proofs.Play.Scope
import Gamebook.Proofs.Play.SyncFormulas

set_option autoImplicit false

namespace Gamebook

/-! ### Worlds that differ in the view -/

namespace World

open Play

/-- The two worlds differ at most in the stats, the buffs in effect and their sums, the ending, the
journal, the chance and what the author of the book is told. -/
structure SameButView (w w' : World) : Prop where
  settings : w'.settings = w.settings
  book : w'.book = w.book
  resources : w'.state.resources = w.state.resources
  inventory : w'.state.inventory = w.state.inventory
  buffs : w'.state.buffs = w.state.buffs
  flags : w'.state.flags = w.state.flags
  day : w'.state.day = w.state.day
  node : w'.state.node = w.state.node

/-- The names under which a formula sees the view. -/
def viewNames : List String := ["$stat", "$buff"]

/-- The functions that look at the view, and those that use chance. -/
def viewCalls : List String := ["hasBuff", "roll", "random"]

namespace SameButView

variable {w w' w'' : World}

theorem symm (h : SameButView w w') : SameButView w' w :=
  ⟨h.settings.symm, h.book.symm, h.resources.symm, h.inventory.symm, h.buffs.symm, h.flags.symm,
    h.day.symm, h.node.symm⟩

theorem trans (h : SameButView w w') (h' : SameButView w' w'') : SameButView w w'' :=
  ⟨h'.settings.trans h.settings, h'.book.trans h.book, h'.resources.trans h.resources,
    h'.inventory.trans h.inventory, h'.buffs.trans h.buffs, h'.flags.trans h.flags,
    h'.day.trans h.day, h'.node.trans h.node⟩

/-- Looking changes nothing but what records what has happened. -/
theorem of_idle (h : Idle w w') : SameButView w w' := by
  obtain ⟨failed, c, ws, rfl⟩ := h
  exact ⟨rfl, rfl, rfl, rfl, rfl, rfl, rfl, rfl⟩

theorem withBaseStats (w : World) (base : Fields Stat) : SameButView w (w.withBaseStats base) :=
  ⟨rfl, rfl, rfl, rfl, rfl, rfl, rfl, rfl⟩

theorem withView (w : World) (stats : Fields Stat) (instances : List BuffInstance)
    (totals : BuffTotals) : SameButView w (w.withView stats instances totals) :=
  ⟨rfl, rfl, rfl, rfl, rfl, rfl, rfl, rfl⟩

theorem undressed (w : World) : SameButView w w.undressed :=
  ⟨rfl, rfl, rfl, rfl, rfl, rfl, rfl, rfl⟩

/-- A formula tells such worlds apart by the stats and the buffs in effect only, or by chance. -/
theorem seenAlike (h : SameButView w w') : SeenAlike viewNames viewCalls w w' where
  digitLimit := by rw [h.settings]
  resources := h.resources.symm
  day := h.day.symm
  node := h.node.symm
  inventory := h.inventory.symm
  flags := .of_eq h.flags.symm
  stats := .inl (by simp [viewNames])
  buffTotals := .inl (by simp [viewNames])
  buffInstances := .inl (by simp [viewCalls])
  roll := by simp [viewCalls]
  random := by simp [viewCalls]

end SameButView

/-! ### Formulas of a sync -/

/-- The formula has the same number whatever the view is, also with other extra names. -/
def Fixes (w : World) (formula : Value) (extra extra' : Fields Value) : Prop :=
  ∀ v v', SameButView w v → SameButView w v' →
    ((evaluator formula extra).runFrom v).1.map Value.toNumber =
      ((evaluator formula extra').runFrom v').1.map Value.toNumber

/-- A formula that mentions neither the stats nor the buffs in effect nor chance has the same number
whatever the view is. -/
theorem fixes_of_avoids (w : World) {formula : Value} {extra extra' : Fields Value}
    (hformula : Formula.avoids viewNames viewCalls formula = true)
    (hextra : ∀ n : String, n ∉ viewNames → Fields.get? extra n = Fields.get? extra' n) :
    w.Fixes formula extra extra' := by
  intro v v' hv hv'
  have halike := evaluate_alike (hv.symm.trans hv').seenAlike hextra hformula false
  exact (halike.1.mono fun a b hab => Formula.toNumber_like hab).map_eq

/-- No formula that a sync evaluates with some buffs in effect depends on the view: neither those
that give contributions nor those of the modifiers of the buffs, whatever the base stats are. -/
structure Steady (w : World) (instances : List BuffInstance) : Prop where
  contributions : w.ForContributions fun formula extra => w.Fixes formula extra extra
  modifiers : ForModifiers (fun formula value => ∀ base base',
    w.Fixes formula (modifierNames value base) (modifierNames value base')) w.book.buffs instances

theorem get?_modifierNames (value : Value) (base base' : Fields Stat) {n : String}
    (hn : n ∉ viewNames) :
    Fields.get? (modifierNames value base) n = Fields.get? (modifierNames value base') n := by
  have hstat : (Key.text "$stat").same (.text n) = false := by
    rw [← Bool.not_eq_true, Key.same_text]
    rintro rfl
    simp [viewNames] at hn
  simp [modifierNames, Fields.get?_cons, hstat]

/-- **Formulas that mention neither the stats nor the buffs in effect nor chance are steady.** -/
theorem steady_of_avoids {w : World}
    (hitems : Value.everyRecord (Value.valueAvoids viewNames viewCalls) w.book.items = true)
    (hbuffs : Value.everyRecord (Value.valueAvoids viewNames viewCalls) w.book.buffs = true)
    (hactive : Value.everyRecord (Value.valueAvoids viewNames viewCalls) w.state.buffs = true)
    (instances : List BuffInstance) : w.Steady instances where
  contributions := by
    refine forContributions_of_avoids hitems (fun buffs hbuffs buff hbuff f hf => ?_)
      fun formula extra hformula => w.fixes_of_avoids hformula fun _ _ => rfl
    have hP := Value.hereditary_valueAvoids viewNames viewCalls
    exact Value.avoids_of_everyRecord (hP.element hactive hbuffs buff hbuff) hf
  modifiers := by
    refine forModifiers_of_avoids hbuffs (by simp [viewNames])
      (fun formula value hformula base base' => ?_) instances
    exact w.fixes_of_avoids hformula fun n hn => get?_modifierNames value base base' hn

/-! ### Two worlds and a third one -/

/-- Both worlds differ from the first one at most in the view. -/
def BothButView (w v v' : World) : Prop := SameButView w v ∧ SameButView w v'

variable {w : World}

theorem sameNumber_of_fixes {formula : Value} {extra extra' : Fields Value}
    (h : w.Fixes formula extra extra') (loose : Prop) :
    SameNumber loose (BothButView w) formula extra extra' := by
  intro v v' hv
  rcases hr : (evaluator formula extra).runFrom v with ⟨r, u⟩
  rcases hr' : (evaluator formula extra').runFrom v' with ⟨r', u'⟩
  have hu : SameButView v u := .of_idle ((evaluator_idle formula extra).world_of_run hr)
  have hu' : SameButView v' u' := .of_idle ((evaluator_idle formula extra').world_of_run hr')
  have hmap := h v v' hv.1 hv.2
  rw [hr, hr'] at hmap
  exact .of_outcome hr hr' ⟨hv.1.trans hu, hv.2.trans hu'⟩ (.of_map_eq hmap)

theorem keptByWarnings_bothButView : KeptByWarnings (BothButView w) :=
  fun v v' text h =>
    ⟨h.1.trans (.of_idle (Idle.warn v text)), h.2.trans (.of_idle (Idle.warn v' text))⟩

end World

/-! ### The second sync -/

namespace World.SyncRun

open Play

variable {w w' : World} {p : Passes}

theorem sameButView (h : SyncRun w w' p) : SameButView w w' :=
  ((SameButView.withBaseStats w _).trans (.withView _ _ _ _)).trans (.of_idle h.idle)

/-- With steady formulas both passes find the same greatest values. -/
theorem sameMax (h : SyncRun w w' p) (hsteady : w.Steady p.instances) :
    Fields.Paired Stat.SameMax p.first p.second := by
  obtain ⟨w₁, w₂, w₃, hI, hF, hS, _⟩ := h.runs
  have h₁ : SameButView w w₁ :=
    (SameButView.undressed w).trans (.of_idle (buffInstances_idle.world_of_run hI))
  have h₂ : SameButView w (w₂.withBaseStats p.clamped) :=
    (h₁.trans (.of_idle ((derive_idle _ _ _).world_of_run hF))).trans (.withBaseStats w₂ _)
  have htogether : Together True (BothButView w) w₁ (w₂.withBaseStats p.clamped) _ _ _ :=
    derive_together Stat.pairing_sameMax keptByWarnings_bothButView
      (Stat.sameMax_clampAll h.clamped_eq) (fun i hi ms hms m hm f hf =>
        sameNumber_of_fixes (hsteady.modifiers i hi ms hms m hm f hf _ _) True) ⟨h₁, h₂⟩
  exact (htogether.results hF hS).2

/-- The base stats that a sync with steady formulas leaves are within the derived ones. -/
theorem within (h : SyncRun w w' p) (hbase : Stat.AllProper w.state.baseStats)
    (hsteady : w.Steady p.instances) : Stat.Within p.clamped p.second := by
  intro f hf
  obtain ⟨c, top, hc, htop, h0, hle⟩ := Stat.within_clampAll h.first_spec.1 hbase
    (h.first_spec.2 hbase) h.clamped_eq f hf
  refine ⟨c, top, hc, ?_, h0, hle⟩
  obtain ⟨limit, hlimit, hmax⟩ := Stat.maxIn_eq_some_iff.1 htop
  have hrel := (h.sameMax hsteady).get? f.1
  rw [hlimit] at hrel
  cases hsecond : Fields.get? p.second f.1 with
  | none =>
      rw [hsecond] at hrel
      cases hrel
  | some limit' =>
      rw [hsecond] at hrel
      cases hrel with
      | some hsame => exact Stat.maxIn_eq_some_iff.2 ⟨limit', hsecond, hsame ▸ hmax⟩

/-- **With steady formulas another sync finds what the first one left**, from any world that differs
from it at most in the view and has the base stats it left. -/
theorem again (h : SyncRun w w' p) (hsteady : w.Steady p.instances) {v : World}
    (hv : SameButView w v) (hclamped : v.state.baseStats = p.clamped) :
    ∃ v', SyncRun v v' ⟨p.instances, p.totals, p.second, p.clamped, p.second⟩ := by
  obtain ⟨w₁, w₂, w₃, hI, hF, hS, _⟩ := h.runs
  have h₁ : SameButView w w₁ :=
    (SameButView.undressed w).trans (.of_idle (buffInstances_idle.world_of_run hI))
  have h₂ : SameButView w (w₂.withBaseStats p.clamped) :=
    (h₁.trans (.of_idle ((derive_idle _ _ _).world_of_run hF))).trans (.withBaseStats w₂ _)
  -- a derivation from the cut base stats ends as the second pass did, wherever it starts
  have hderive : ∀ u, SameButView w u → ∃ u',
      (derive evaluator w.book.buffs p.clamped p.instances).runFrom u = (.ok p.second, u') ∧
        SameButView w u' := by
    intro u hu
    have htogether : Together False (BothButView w) (w₂.withBaseStats p.clamped) u _ _ _ :=
      derive_together (Stat.pairing_eq False) keptByWarnings_bothButView
        (.refl (fun _ => rfl) p.clamped) (fun i hi ms hms m hm f hf =>
          sameNumber_of_fixes (hsteady.modifiers i hi ms hms m hm f hf _ _) False) ⟨h₂, hu⟩
    obtain ⟨second, u', hrun, hboth, heq⟩ := htogether.exists_of_ok hS
    exact ⟨u', heq.eq ▸ hrun, hboth.2⟩
  -- the contributions are found again, as they do not look at the view
  have htogether : Together False (BothButView w) w.undressed v.undressed _ _ Eq :=
    buffInstances_together (fun u u' hu => ⟨⟨hu.1.book, hu.1.inventory, hu.1.buffs⟩,
      ⟨hu.2.book, hu.2.inventory, hu.2.buffs⟩⟩)
      { active := fun hbuffs hbuff hf =>
          sameNumber_of_fixes (hsteady.contributions.active hbuffs hbuff hf) False
        held := fun hitems hitem hheld hhold hf =>
          sameNumber_of_fixes (hsteady.contributions.held hitems hitem hheld hhold hf) False }
      ⟨.undressed w, hv.trans (.undressed v)⟩
  obtain ⟨instances, v₁, hI', hboth, rfl⟩ := htogether.exists_of_ok hI
  obtain ⟨v₂, hF', hv₂⟩ := hderive v₁ hboth.2
  obtain ⟨v₃, hS', _⟩ := hderive (v₂.withBaseStats p.clamped) (hv₂.trans (.withBaseStats v₂ _))
  refine ⟨v₃.withView p.second p.instances p.totals,
    ⟨⟨v₁, v₂, v₃, hI', ?_, ?_, rfl⟩, h.totals_eq, ?_⟩⟩
  · rw [hv.book, hclamped]
    exact hF'
  · rw [hv.book]
    exact hS'
  · rw [hclamped]
    exact Stat.clampAll_again h.first_topped (h.sameMax hsteady) h.clamped_eq

end World.SyncRun

namespace Play

open World

variable {w w' : World}

/-- **The derived view is a fixed point of syncing.**  After a sync with steady formulas every base
value lies between zero and the greatest value displayed for it, and another sync leaves the base
stats, the derived stats, the buffs in effect and their sums as they are. -/
theorem sync_again (hbase : Stat.AllProper w.state.baseStats) (h : sync.runFrom w = (.ok (), w'))
    (hsteady : w.Steady w'.state.buffInstances) :
    Stat.Within w'.state.baseStats w'.state.stats ∧
      ∃ w'', sync.runFrom w' = (.ok (), w'') ∧ w''.state.baseStats = w'.state.baseStats ∧
        w''.state.stats = w'.state.stats ∧ w''.state.buffInstances = w'.state.buffInstances ∧
        w''.state.buffTotals = w'.state.buffTotals := by
  obtain ⟨p, hp⟩ := sync_eq_ok_iff.1 h
  have hinstances : w'.state.buffInstances = p.instances := by rw [hp.state_eq]
  have hclamped : w'.state.baseStats = p.clamped := by rw [hp.state_eq]
  rw [hinstances] at hsteady
  obtain ⟨w'', hagain⟩ := hp.again hsteady hp.sameButView hclamped
  refine ⟨?_, w'', sync_eq_ok_iff.2 ⟨_, hagain⟩, ?_⟩
  · rw [hp.state_eq]
    exact hp.within hbase hsteady
  · rw [hagain.state_eq, hp.state_eq]
    exact ⟨rfl, rfl, rfl, rfl⟩

/-- A world in which held rings and an active buff raise the greatest values of two stats; the
current value of `hp` is over what they allow. -/
def charmedWorld : World where
  settings := {}
  book :=
    { items := .obj [("ring", .obj
        [("hold_buffs", .list [.obj [("buff", .str "vigor"), ("value_expr", .str "$count + 1")]])])]
      buffs := .obj
        [("vigor", .obj [("modifiers", .list [.obj
          [("type", .str "stat_add_max"), ("stat", .str "hp"),
            ("value_expr", .str "$value * 5")]])]),
        ("brave", .obj [("modifiers", .list [.obj
          [("type", .str "stat_add"), ("stat", .str "st")]])])] }
  state :=
    { baseStats := [("hp", Stat.ofInts 40 10), ("st", Stat.ofInts 2 5)]
      inventory := ⟨[("ring", .int 2)]⟩
      buffs := .list [.obj [("id", .str "brave"), ("value_expr", .str "2")]]
      journal := ⟨12, []⟩ }
  chance := .constant 1 (.int 0)

theorem allInteger_charmedWorld : Stat.AllInteger charmedWorld.state.baseStats := by
  simp [Stat.AllInteger, charmedWorld, Stat.isInteger_ofInts]

theorem sync_charmedWorld : sync.runFrom charmedWorld = (.ok (), (sync.runFrom charmedWorld).2) :=
  runFrom_eq (by decide +kernel)

theorem steady_charmedWorld (instances : List BuffInstance) : charmedWorld.Steady instances :=
  steady_of_avoids (by decide +kernel) (by decide +kernel) (by decide +kernel) instances

/-- With two rings `hp` is cut down to 25, and stays there. -/
theorem sync_charmedWorld_again :
    (Stat.AllProper charmedWorld.state.baseStats ∧
      charmedWorld.Steady (sync.runFrom charmedWorld).2.state.buffInstances ∧
      Stat.curIn (sync.runFrom charmedWorld).2.state.baseStats "hp" = some (.int 25)) ∧
    Stat.Within (sync.runFrom charmedWorld).2.state.baseStats
        (sync.runFrom charmedWorld).2.state.stats ∧
      ∃ w'', sync.runFrom (sync.runFrom charmedWorld).2 = (.ok (), w'') ∧
        w''.state.baseStats = (sync.runFrom charmedWorld).2.state.baseStats ∧
        w''.state.stats = (sync.runFrom charmedWorld).2.state.stats ∧
        w''.state.buffInstances = (sync.runFrom charmedWorld).2.state.buffInstances ∧
        w''.state.buffTotals = (sync.runFrom charmedWorld).2.state.buffTotals :=
  ⟨⟨allInteger_charmedWorld.allProper, steady_charmedWorld _, by decide +kernel⟩,
    sync_again allInteger_charmedWorld.allProper sync_charmedWorld (steady_charmedWorld _)⟩

end Play

end Gamebook
