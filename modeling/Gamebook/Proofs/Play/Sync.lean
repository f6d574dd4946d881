/-
**The two passes of a sync.**

A sync computes the derived stats twice.  The first pass starts from the base stats as they are, and
every base value is then cut down to the greatest value just found; the second pass starts from the
base stats so cut.

Main definitions:

* `World.SyncRun` — the two passes of a sync that succeeds;
* `Play.firstPass` — the derived stats of the first pass.
-/

import Gamebook.Proofs.Play.Idle

set_option autoImplicit false

namespace Gamebook

namespace Play

open World

variable {w : World}

/-! ### The derived stats -/

theorem applyModifier_idle (base : Fields Stat) (i : BuffInstance) (derived : Fields Stat)
    (modifier : Value) :
    Leads Idle w (applyModifier evaluator base i derived modifier) fun d _ =>
      d.keys = derived.keys ∧ (Stat.AllProper derived → Stat.AllProper d) := by
  unfold applyModifier
  refine .lift_bind fun target _ => .lift_bind fun found hfound => ?_
  cases found with
  | none => exact .pure ⟨rfl, id⟩
  | some stat =>
      refine .lift_bind fun f _ => (evaluator_idle _ _).bind fun v w' _ _ => ?_
      refine .lift_bind fun finite hfinite => ?_
      split
      · exact .pure ⟨rfl, id⟩
      rename_i hf
      have hn : (Value.num v.toNumber).isFiniteNumber = .ok true := by simpa [hfinite] using hf
      refine .lift_bind fun kind _ => .lift_bind fun name hname => ?_
      -- the stat is set under the name it was found under, so no name is added
      obtain ⟨name', hname', hget⟩ := Value.lookup_eq_some hfound
      have hkey : name' = name := by simpa [hname] using hname'.symm
      subst hkey
      have hhas := Fields.has_of_get? hget
      have hproper : Stat.AllProper derived → stat.IsProper := fun hd => by
        obtain ⟨_, hmem⟩ := Fields.exists_mem_of_get? hget
        exact hd _ hmem
      split
      · refine .lift_bind fun m hm => .lift_bind fun sum hsum => .pure ⟨?_, fun hd => ?_⟩
        · exact Fields.keys_set_of_has hhas _
        · obtain ⟨c, m', hc, hm', hcc, hmc⟩ := hproper hd
          have hv : m = .num m' := by simpa [hm] using hm'
          refine Fields.forall_set hd (Stat.IsProper.setMax (hproper hd) ?_)
          exact Stat.IsProper.plus hv hmc hn hsum
      · split
        · refine .lift_bind fun c hc => .lift_bind fun sum hsum => .pure ⟨?_, fun hd => ?_⟩
          · exact Fields.keys_set_of_has hhas _
          · obtain ⟨c', m, hc', hm, hcc, hmc⟩ := hproper hd
            have hv : c = .num c' := by simpa [hc] using hc'
            refine Fields.forall_set hd (Stat.IsProper.setCur (hproper hd) ?_)
            exact Stat.IsProper.plus hv hcc hn hsum
        · have hwarn : Leads Idle w' (warn ("Unknown modifier type " ++ kind.shown ++ " on buff "
              ++ i.id.shown)) fun _ _ => True := .modify (Idle.warn w' _) True.intro
          exact hwarn.bind fun _ _ _ _ => .pure ⟨rfl, id⟩

theorem applyInstance_idle (buffs : Value) (base derived : Fields Stat) (i : BuffInstance) :
    Leads Idle w (applyInstance evaluator buffs base derived i) fun d _ =>
      d.keys = derived.keys ∧ (Stat.AllProper derived → Stat.AllProper d) := by
  unfold applyInstance
  refine .lift_bind fun buff _ => .lift_bind fun field _ => .lift_bind fun modifiers _ => ?_
  refine Leads.foldlM (R := Idle) (P := fun d => d.keys = derived.keys ∧
    (Stat.AllProper derived → Stat.AllProper d)) ⟨rfl, id⟩ fun modifier _ d w' _ hd => ?_
  refine (applyModifier_idle base i d modifier).mono (fun _ h => h) fun d' _ _ hd' => ?_
  exact ⟨hd'.1.trans hd.1, hd'.2 ∘ hd.2⟩

/-- **Computing the derived stats only looks.**  They have the names of the base stats, and are in
range when the base stats are proper. -/
theorem derive_idle (buffs : Value) (base : Fields Stat) (instances : List BuffInstance) :
    Leads Idle w (derive evaluator buffs base instances) fun d _ =>
      d.keys = base.keys ∧ (Stat.AllProper base → Stat.AllInRange d) := by
  unfold derive
  refine (Leads.foldlM (R := Idle) (P := fun d => d.keys = base.keys ∧
    (Stat.AllProper base → Stat.AllProper d)) ⟨rfl, id⟩ fun i _ d w' _ hd => ?_).bind
    fun changed w' _ hchanged => ?_
  · refine (applyInstance_idle buffs base d i).mono (fun _ h => h) fun d' _ _ hd' => ?_
    exact ⟨hd'.1.trans hd.1, hd'.2 ∘ hd.2⟩
  · refine (Leads.mapM (P := fun f g => g.1 = f.1 ∧ f.2.clamp = .ok g.2) fun f _ w'' _ => ?_).mono
      (fun _ h => h) fun d _ _ hd => ⟨?_, fun hbase => ?_⟩
    · exact .lift_bind fun s hs => .pure ⟨rfl, hs⟩
    · exact (Fields.keys_eq_of_forall₂ (hd.imp fun _ _ h => h.1)).trans hchanged.1
    · intro g hg
      obtain ⟨f, hf, hgf⟩ := exists_mem_of_forall₂ hd hg
      obtain ⟨s', hs', hr⟩ := (hchanged.2 hbase f hf).clamp
      rw [hgf.2] at hs'
      cases hs'
      exact hr

/-- No derived stat has a greatest value below zero. -/
theorem derive_topped (buffs : Value) (base : Fields Stat) (instances : List BuffInstance) :
    Leads Idle w (derive evaluator buffs base instances) fun d _ => ∀ f ∈ d, f.2.Topped := by
  unfold derive
  refine (Leads.foldlM (R := Idle) (P := fun _ => True) trivial fun i _ d w' _ _ => ?_).bind
    fun changed w' _ _ => ?_
  · exact (applyInstance_idle buffs base d i).trivial
  · refine (Leads.mapM (P := fun f g => f.2.clamp = .ok g.2) fun f _ w'' _ => ?_).mono
      (fun _ h => h) fun d _ _ hd g hg => ?_
    · exact .lift_bind fun s hs => .pure hs
    · obtain ⟨f, _, hf⟩ := exists_mem_of_forall₂ hd hg
      exact Stat.topped_clamp hf

end Play

/-! ### The passes of a sync -/

/-- The world with the base stats in place of the derived ones. -/
def World.undressed (w : World) : World :=
  { w with state := { w.state with stats := w.state.baseStats } }

/-- The world with other base stats. -/
def World.withBaseStats (w : World) (base : Fields Stat) : World :=
  { w with state := { w.state with baseStats := base } }

/-- The world with a new derived view. -/
def World.withView (w : World) (stats : Fields Stat) (instances : List BuffInstance)
    (totals : BuffTotals) : World :=
  { w with state := { w.state with stats, buffInstances := instances, buffTotals := totals } }

/-- What the passes of a sync find. -/
structure Passes where
  instances : List BuffInstance
  totals : BuffTotals
  /-- The derived stats of the first pass. -/
  first : Fields Stat
  /-- The base stats cut down to the maxima of the first pass. -/
  clamped : Fields Stat
  /-- The derived stats of the second pass. -/
  second : Fields Stat

namespace World

open Play

/-- A sync from the first world to the second one, with its two passes. -/
structure SyncRun (w w' : World) (p : Passes) : Prop where
  runs : ∃ w₁ w₂ w₃,
    (buffInstances evaluator).runFrom w.undressed = (.ok p.instances, w₁) ∧
    (derive evaluator w.book.buffs w.state.baseStats p.instances).runFrom w₁ = (.ok p.first, w₂) ∧
    (derive evaluator w.book.buffs p.clamped p.instances).runFrom (w₂.withBaseStats p.clamped) =
      (.ok p.second, w₃) ∧
    w' = w₃.withView p.second p.instances p.totals
  totals_eq : BuffInstance.aggregate p.instances = .ok p.totals
  clamped_eq : Stat.clampAll w.state.baseStats p.first = .ok p.clamped

/-- The base stats as a sync leaves them: as they were, or cut down to derived stats that have the
same names and are in range when the base stats are proper. -/
def CutStats (base base' : Fields Stat) : Prop :=
  base' = base ∨ ∃ derived, Stat.clampAll base derived = .ok base' ∧ derived.keys = base.keys ∧
    (Stat.AllProper base → Stat.AllInRange derived)

/-- The second world is the first one after a sync, which may have ended early. -/
def Resynced (w w' : World) : Prop :=
  ∃ base stats instances totals, CutStats w.state.baseStats base ∧
    Idle ((w.withBaseStats base).withView stats instances totals) w'

theorem Idle.withBaseStats {w w' : World} (h : Idle w w') (base : Fields Stat) :
    Idle (w.withBaseStats base) (w'.withBaseStats base) := by
  obtain ⟨failed, c, ws, rfl⟩ := h
  exact ⟨failed, c, ws, rfl⟩

theorem Idle.withView {w w' : World} (h : Idle w w') (stats : Fields Stat)
    (instances : List BuffInstance) (totals : BuffTotals) :
    Idle (w.withView stats instances totals) (w'.withView stats instances totals) := by
  obtain ⟨failed, c, ws, rfl⟩ := h
  exact ⟨failed, c, ws, rfl⟩

theorem Resynced.of_undressed {w w' : World} (h : Idle w.undressed w') : Resynced w w' :=
  ⟨w.state.baseStats, w.state.baseStats, w.state.buffInstances, w.state.buffTotals, .inl rfl, h⟩

theorem Resynced.book_eq {w w' : World} (h : Resynced w w') : w'.book = w.book := by
  obtain ⟨base, stats, instances, totals, -, hidle⟩ := h
  exact hidle.book_eq

theorem Resynced.settings_eq {w w' : World} (h : Resynced w w') : w'.settings = w.settings := by
  obtain ⟨base, stats, instances, totals, -, hidle⟩ := h
  exact hidle.settings_eq

/-- A sync changes the base stats, the derived view and the journal only. -/
theorem Resynced.state_eq {w w' : World} (h : Resynced w w') :
    w'.state = { w.state with
      baseStats := w'.state.baseStats, stats := w'.state.stats
      buffInstances := w'.state.buffInstances, buffTotals := w'.state.buffTotals
      journal := w'.state.journal } := by
  obtain ⟨base, stats, instances, totals, -, failed, c, ws, rfl⟩ := h
  rfl

end World

namespace Play

open World

variable {w w' : World}

/-- **What a sync changes**, whether or not it ends early, and its two passes when it does not. -/
theorem sync_leads (w : World) : Leads Resynced w sync fun _ w' => ∃ p, SyncRun w w' p := by
  refine .of_to ?_
  unfold sync
  refine .modifyState_bind ?_
  -- until the base stats are cut down, an early end leaves a world that was only looked at
  change Leads _ w.undressed _ _
  refine buffInstances_idle.with_run.bind_to (fun _ => .of_undressed) fun instances w₁ h₁ hI => ?_
  refine .lift_bind_of (.of_undressed h₁) fun totals hT => .book_bind <| .state_bind ?_
  have hbase : w₁.state.baseStats = w.state.baseStats := by rw [h₁.state_eq]; rfl
  have hbook : w₁.book.buffs = w.book.buffs := by rw [h₁.book_eq]; rfl
  rw [hbase, hbook]
  refine (derive_idle _ _ _).with_run.bind_to (fun _ h => .of_undressed (h₁.trans h))
    fun first w₂ h₂ hF => .state_bind ?_
  have hbase : w₂.state.baseStats = w.state.baseStats := by
    rw [h₂.state_eq]
    exact hbase
  rw [hbase]
  refine .lift_bind_of (.of_undressed (h₁.trans h₂)) fun clamped hC => .modifyState_bind ?_
  -- from here on it leaves the base stats cut down under the old view
  change Leads _ (w₂.withBaseStats clamped) _ _
  have hcut : ∀ w', Idle (w₂.withBaseStats clamped) w' → Resynced w w' := fun w' h => by
    refine ⟨clamped, w.state.baseStats, w.state.buffInstances, w.state.buffTotals, ?_, ?_⟩
    · exact .inr ⟨first, hC, hF.2⟩
    · exact .trans ((h₁.trans h₂).withBaseStats clamped) h
  refine (derive_idle _ _ _).with_run.bind_to hcut fun second w₃ h₃ hS => ?_
  refine .modifyState ?_ ⟨⟨instances, totals, first, clamped, second⟩, ⟨w₁, w₂, w₃, ?_⟩, hT, hC⟩
  · refine ⟨clamped, second, instances, totals, .inr ⟨first, hC, hF.2⟩, ?_⟩
    exact (((h₁.trans h₂).withBaseStats clamped).trans h₃).withView second instances totals
  · exact ⟨hI.1, hF.1, hS.1, rfl⟩

/-- A sync that succeeds makes its two passes. -/
theorem sync_eq_ok_iff : sync.runFrom w = (.ok (), w') ↔ ∃ p, SyncRun w w' p := by
  refine ⟨fun h => ?_, fun ⟨p, ⟨w₁, w₂, w₃, hI, hF, hS, hw⟩, hT, hC⟩ => ?_⟩
  · have hw : w' = (sync.runFrom w).2 := by rw [h]
    rw [hw]
    exact (sync_leads w).result () (by rw [h])
  · have h₁ : Idle w.undressed w₁ := buffInstances_idle.world_of_run hI
    have h₂ : Idle w₁ w₂ := (derive_idle _ _ _).world_of_run hF
    have hbase₁ : w₁.state.baseStats = w.state.baseStats := by rw [h₁.state_eq]; rfl
    have hbase₂ : w₂.state.baseStats = w.state.baseStats := by rw [h₂.state_eq]; exact hbase₁
    have hbook : w₁.book.buffs = w.book.buffs := by rw [h₁.book_eq]; rfl
    rw [← hbook] at hF hS
    rw [← hbase₁] at hF
    rw [← hbase₂] at hC
    subst hw
    refine (runFrom_bind_ok (runFrom_modifyState _ w)).trans ?_
    refine (runFrom_bind_ok hI).trans ?_
    refine (runFrom_bind_ok (runFrom_liftM_ok hT w₁)).trans ?_
    refine (runFrom_bind_ok (runFrom_book w₁)).trans ?_
    refine (runFrom_bind_ok (runFrom_state w₁)).trans ?_
    refine (runFrom_bind_ok hF).trans <| (runFrom_bind_ok (runFrom_state w₂)).trans ?_
    refine (runFrom_bind_ok (runFrom_liftM_ok hC w₂)).trans ?_
    refine (runFrom_bind_ok (runFrom_modifyState _ w₂)).trans ?_
    exact (runFrom_bind_ok hS).trans (runFrom_modifyState _ w₃)

end Play

/-! ### What the passes find -/

namespace World.SyncRun

open Play

variable {w w' : World} {p : Passes}

theorem idle (h : SyncRun w w' p) :
    Idle ((w.withBaseStats p.clamped).withView p.second p.instances p.totals) w' := by
  obtain ⟨⟨w₁, w₂, w₃, hI, hF, hS, rfl⟩, _, _⟩ := h
  have h₁ : Idle w.undressed w₁ := buffInstances_idle.world_of_run hI
  have h₂ : Idle w₁ w₂ := (derive_idle _ _ _).world_of_run hF
  have h₃ : Idle (w₂.withBaseStats p.clamped) w₃ := (derive_idle _ _ _).world_of_run hS
  exact (((h₁.trans h₂).withBaseStats p.clamped).trans h₃).withView p.second p.instances p.totals

/-- A sync leaves what its passes found. -/
theorem state_eq (h : SyncRun w w' p) :
    w'.state = { w.state with
      baseStats := p.clamped, stats := p.second, buffInstances := p.instances
      buffTotals := p.totals, journal := w'.state.journal } :=
  h.idle.state_eq

theorem finite (h : SyncRun w w' p) : ∀ i ∈ p.instances, IsFiniteInstance i := by
  obtain ⟨⟨w₁, _, _, hI, _⟩, _, _⟩ := h
  exact buffInstances_idle.result_of_run hI

theorem first_spec (h : SyncRun w w' p) : p.first.keys = w.state.baseStats.keys ∧
    (Stat.AllProper w.state.baseStats → Stat.AllInRange p.first) := by
  obtain ⟨⟨w₁, _, _, _, hF, _⟩, _, _⟩ := h
  exact (derive_idle _ _ _).result_of_run hF

theorem first_topped (h : SyncRun w w' p) : ∀ f ∈ p.first, f.2.Topped := by
  obtain ⟨⟨w₁, _, _, _, hF, _⟩, _, _⟩ := h
  exact (derive_topped _ _ _).result_of_run hF

theorem second_spec (h : SyncRun w w' p) : p.second.keys = p.clamped.keys ∧
    (Stat.AllProper p.clamped → Stat.AllInRange p.second) := by
  obtain ⟨⟨_, w₂, _, _, _, hS, _⟩, _, _⟩ := h
  exact (derive_idle _ _ _).result_of_run hS

theorem cutBy (h : SyncRun w w' p) (hbase : Stat.AllProper w.state.baseStats) :
    List.Forall₂ (fun f g => g.1 = f.1 ∧ Stat.CutBy p.first f.1 f.2 g.2) w.state.baseStats
      p.clamped :=
  Stat.clampAll_cutBy h.first_spec.1 hbase (h.first_spec.2 hbase) h.clamped_eq

theorem allProper (h : SyncRun w w' p) (hbase : Stat.AllProper w.state.baseStats) :
    Stat.AllProper p.clamped :=
  Stat.allProper_clampAll h.first_spec.1 hbase (h.first_spec.2 hbase) h.clamped_eq

end World.SyncRun

/-! ### Base values and displayed maxima -/

namespace Play

open World

variable {w w' : World}

/-- The derived stats of the first of the two passes. -/
def firstPass : Play (Fields Stat) := do
  modifyState fun s => { s with stats := s.baseStats }
  let instances ← buffInstances evaluator
  derive evaluator (← book).buffs (← state).baseStats instances

/-- **How base values and displayed maxima compare.**  A sync leaves every base value between zero
and the greatest value `top` that its first pass found.  It is at most the greatest value `shown`
that is displayed afterwards exactly when the base value was so before the sync or `top` is. -/
theorem sync_base_le_displayed_iff (hbase : Stat.AllProper w.state.baseStats)
    (h : sync.runFrom w = (.ok (), w')) :
    ∃ first, (firstPass.runFrom w).1 = .ok first ∧
      ∀ id c, Stat.curIn w.state.baseStats id = some c →
        ∃ c' top shown, Stat.curIn w'.state.baseStats id = some c' ∧
          Stat.maxIn first id = some top ∧ Stat.maxIn w'.state.stats id = some shown ∧
          Number.le (.int 0) c' = true ∧ c'.le top = true ∧
          (c'.le shown = true ↔ c.le shown = true ∨ top.le shown = true) := by
  obtain ⟨p, hp⟩ := sync_eq_ok_iff.1 h
  refine ⟨p.first, ?_, fun id c hc => ?_⟩
  · obtain ⟨⟨w₁, w₂, _, hI, hF, _⟩, _, _⟩ := hp
    have h₁ : Idle w.undressed w₁ := buffInstances_idle.world_of_run hI
    have hbase₁ : w₁.state.baseStats = w.state.baseStats := by rw [h₁.state_eq]; rfl
    have hbook : w₁.book.buffs = w.book.buffs := by rw [h₁.book_eq]; rfl
    rw [← hbase₁, ← hbook] at hF
    have hrun : firstPass.runFrom w = (.ok p.first, w₂) :=
      (runFrom_bind_ok (runFrom_modifyState _ w)).trans <| (runFrom_bind_ok hI).trans <|
        (runFrom_bind_ok (runFrom_book w₁)).trans <| (runFrom_bind_ok (runFrom_state w₁)).trans hF
    rw [hrun]
  · obtain ⟨s, hs, hsc⟩ := Stat.curIn_eq_some_iff.1 hc
    obtain ⟨id', s', hid, hs', c₀, top, hc₀, hcc, htop, h0, rfl⟩ :=
      Fields.get?_of_forall₂ (hp.cutBy hbase) hs
    have hceq : c₀ = c := by simpa [hsc] using hc₀.symm
    subst hceq
    obtain ⟨c', hc', h0', hle, hiff⟩ := Stat.cur_cutTo hsc hcc h0
    obtain ⟨d, hd⟩ := Fields.exists_get?_of_keys_eq hp.second_spec.1 hs'
    obtain ⟨n, shown, hn, hshown, hn0, hnle⟩ :=
      Fields.forall_get? (hp.second_spec.2 (hp.allProper hbase)) hd
    rw [hp.state_eq]
    refine ⟨c', top, shown, Stat.curIn_eq_some_iff.2 ⟨_, hs', hc'⟩, ?_,
      Stat.maxIn_eq_some_iff.2 ⟨d, hd, hshown⟩, h0', hle, hiff shown (Number.le_trans hn0 hnle)⟩
    rwa [Stat.maxIn, ← Fields.get?_congr hid]

/-- A world in which a held ring raises the greatest value of `hp` by the current value of `st`,
which is over its own greatest value. -/
def ringWorld : World where
  settings := {}
  book :=
    { items := .obj [("ring", .obj
        [("hold_buffs", .list [.obj [("buff", .str "vigor"), ("value_expr", .str "1")]])])]
      buffs := .obj [("vigor", .obj [("modifiers", .list [.obj
        [("type", .str "stat_add_max"), ("stat", .str "hp"),
          ("value_expr", .str "$stat.st.cur")]])])] }
  state :=
    { baseStats := [("hp", Stat.ofInts 16 10), ("st", Stat.ofInts 8 5)]
      inventory := ⟨[("ring", .int 1)]⟩, journal := ⟨12, []⟩ }
  chance := .constant 1 (.int 0)

theorem allInteger_ringWorld : Stat.AllInteger ringWorld.state.baseStats := by
  simp [Stat.AllInteger, ringWorld, Stat.isInteger_ofInts]

theorem sync_ringWorld : sync.runFrom ringWorld = (.ok (), (sync.runFrom ringWorld).2) :=
  runFrom_eq (by decide +kernel)

/-- With the ring the base value of `hp` stays at 16, which the first pass allows, and 15 is
displayed as its greatest value. -/
theorem sync_ringWorld_base_le_displayed_iff :
    Stat.AllProper ringWorld.state.baseStats ∧
      ∃ first, (firstPass.runFrom ringWorld).1 = .ok first ∧
      ∀ id c, Stat.curIn ringWorld.state.baseStats id = some c →
        ∃ c' top shown, Stat.curIn (sync.runFrom ringWorld).2.state.baseStats id = some c' ∧
          Stat.maxIn first id = some top ∧
          Stat.maxIn (sync.runFrom ringWorld).2.state.stats id = some shown ∧
          Number.le (.int 0) c' = true ∧ c'.le top = true ∧
          (c'.le shown = true ↔ c.le shown = true ∨ top.le shown = true) :=
  ⟨allInteger_ringWorld.allProper,
    sync_base_le_displayed_iff allInteger_ringWorld.allProper sync_ringWorld⟩

/-- A base value may be over the greatest value that is displayed. -/
theorem sync_base_above_displayed :
    ¬ ∀ w w' : World, Stat.AllInteger w.state.baseStats → sync.runFrom w = (.ok (), w') →
      ∀ id c shown, Stat.curIn w'.state.baseStats id = some c →
        Stat.maxIn w'.state.stats id = some shown → c.le shown = true := by
  intro h
  have hle := h ringWorld _ allInteger_ringWorld sync_ringWorld "hp" (.int 16) (.int 15)
    (by decide +kernel) (by decide +kernel)
  simp at hle

end Play

end Gamebook
