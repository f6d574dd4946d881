/-
**Going on from a saved game shows what was there.**

The derived view is not saved.  Going on computes it anew, by one more sync that starts with no buff
in effect; so what is shown is what one more sync of the first game shows.  That is what the first
game showed before, when the formulas of the sync do not depend on the view.

Main definitions:

* `Course.PlayedFrom` — the courses that the actions of a player give a game;
* `Course.shown`, `Course.shownResumed`, `Course.shownResynced` — what the game shows, what another
  one shows that goes on from its record, and what it would show after one more sync;
* `World.Quiet` — worlds in which one more sync writes nothing to the journal.

Main results:

* `Course.PlayedFrom.kept` — **nothing in the course of a game without chance gets lost** when it is
  saved;
* `Course.PlayedFrom.shownResumed_eq` — **what is shown after going on from a saved game**.
-/

import Gamebook.Proofs.Play.Course
import Gamebook.Proofs.Play.Saving
import Gamebook.Proofs.Play.Steady

set_option autoImplicit false

namespace Gamebook

open Play World

/-! ### Opening a book -/

namespace Play

variable {v v' w : World}

theorem Together.modifyBook_bind {α β : Type} {loose : Prop} {R : World → World → Prop}
    {g g' : Book → Book} {f : Unit → Play α} {f' : Unit → Play β} {Q : α → β → Prop}
    (h : Together loose R { v with book := g v.book } { v' with book := g' v'.book } (f ())
      (f' ()) Q) :
    Together loose R v v' (modifyBook g >>= f) (modifyBook g' >>= f') Q := by
  unfold Together
  rwa [outcomeFrom_bind, outcomeFrom_bind]

/-- A document opens as the same book again. -/
theorem openBook_together (document : Value) (h : v'.book = v.book) :
    Together False (fun w w' => w'.book = w.book) v v' (openBook document) (openBook document)
      Eq := by
  unfold openBook
  refine .modifyBook_bind <| .same_bind fun story _ => .same_bind fun info _ => ?_
  refine .same_bind fun items _ => .same_bind fun buffs _ => .same_bind fun shops _ => ?_
  refine .modifyBook_bind <| .same_bind fun nodes _ => .same_bind fun start _ => ?_
  refine .same_bind fun events _ => .same_bind fun endings _ => .of_outcome rfl rfl ?_ (.ok rfl)
  rw [h]

theorem isNormal_readAll {v : Value} {stats : Fields Stat} {malformed : List Key}
    (h : Stat.readAll v = .ok (stats, malformed)) : ∀ f ∈ stats, f.2.IsNormal := by
  obtain ⟨fields, _, h⟩ := exists_of_bind_eq_ok h
  cases h
  intro f hf
  obtain ⟨⟨id, stat⟩, _, hstat⟩ := List.mem_filterMap.1 hf
  dsimp only at hstat
  split at hstat
  · cases hstat
    exact Stat.isNormal_normalize _
  · cases hstat

/-- A state at the start can be saved. -/
theorem IsInitial.saveable {s : State} (h : IsInitial v s) (hw : w.settings = v.settings) :
    (w.withState s).Saveable := by
  obtain ⟨u, stats, malformed, resources, counts, _, hread, rfl⟩ := h
  refine ⟨isNormal_readAll hread, Value.orElse_orElse resources _, ⟨[], rfl⟩, ⟨[], rfl⟩, ?_⟩
  change Journal.WellKept w.settings.logLimit ⟨v.settings.logLimit, []⟩
  rw [hw]
  exact Journal.wellKept_nil _

/-- A state at the start has no active buffs. -/
theorem IsInitial.buffs_eq {s : State} (h : IsInitial v s) : s.buffs = .list [] := by
  obtain ⟨u, stats, malformed, resources, counts, _, _, rfl⟩ := h
  rfl

/-- **Opening a book without chance** ends with a sync of a state that can be saved. -/
theorem exists_of_load {document : Value} (hdocument : document.ChanceFree)
    (h : (load document).runFrom v = (.ok (), w)) :
    ∃ b w₁ : World, (openBook document).runFrom v = (.ok (), b) ∧ w₁.settings = v.settings ∧
      w₁.book = b.book ∧ w₁.Saveable ∧ w₁.ChanceFreeSources ∧ sync.runFrom w₁ = (.ok (), w) := by
  unfold load at h
  obtain ⟨_, b, hopen, h⟩ := runFrom_bind_eq_ok h
  obtain ⟨s, b₁, hstart, h⟩ := runFrom_bind_eq_ok h
  have hidle : Idle b b₁ := initialState_idle.world_of_run hstart
  have hinitial : IsInitial b s := initialState_idle.result_of_run hstart
  obtain ⟨book, hb, _⟩ := (openBook_leads document).world_of_run hopen
  have hbook : b.book.Has Value.ChanceFree :=
    (openBook_leads document).result_of_run hopen _ Value.hereditary_chanceFree hdocument
  refine ⟨b, b₁.withState s, hopen, ?_, hidle.book_eq, hinitial.saveable hidle.settings_eq, ?_, h⟩
  · exact hidle.settings_eq.trans (by rw [hb])
  · exact .of_list (hidle.book_eq ▸ hbook) hinitial.buffs_eq nofun

end Play

namespace Play

/-- Worlds in which the same document was opened have the same book. -/
theorem load_again {document : Value} {u v u' v' : World} (hdocument : document.ChanceFree)
    (h : (load document).runFrom u = (.ok (), v)) (h' : (load document).runFrom u' = (.ok (), v'))
    (hsettings : u'.settings = u.settings) (hbook : u'.book = u.book) :
    v'.settings = v.settings ∧ v'.book = v.book := by
  obtain ⟨b, w, hopen, hw, hb, _, _, hsync⟩ := exists_of_load hdocument h
  obtain ⟨b', w', hopen', hw', hb', _, _, hsync'⟩ := exists_of_load hdocument h'
  have hchanges : Changes Value.ChanceFree (fun _ => True) True w v :=
    sync_changes.world_of_run hsync
  have hchanges' : Changes Value.ChanceFree (fun _ => True) True w' v' :=
    sync_changes.world_of_run hsync'
  have hbooks : b'.book = b.book := ((openBook_together document hbook).results hopen hopen').1
  constructor
  · rw [hchanges'.settings_eq, hchanges.settings_eq, hw', hw, hsettings]
  · rw [hchanges'.book_eq, hchanges.book_eq, hb', hb, hbooks]

end Play

/-! ### Courses of a game -/

/-- Whether the operation is one that players have. -/
def Operation.IsPlayers (op : Operation) : Prop := op.IsAction ∧ ∀ choice, op ≠ .choose choice

/-- Since it was synced, the world has only been looked at, and perhaps come to an ending. -/
def World.Synced (w : World) : Prop :=
  ∃ w₁ w₂ ending, sync.runFrom w₁ = (.ok (), w₂) ∧ Idle (w₂.withEnding ending) w

theorem World.Synced.idle {w w' : World} (h : w.Synced) (h' : Idle w w') : w'.Synced := by
  obtain ⟨w₁, w₂, ending, hsync, hidle⟩ := h
  exact ⟨w₁, w₂, ending, hsync, hidle.trans h'⟩

namespace Course

/-- **The courses that the actions of a player give a game**, starting with an opened book. -/
inductive PlayedFrom (w : World) : Course → Prop
  | start : PlayedFrom w ⟨w, true⟩
  | act {c : Course} {op : Operation} : op.IsPlayers → PlayedFrom w c → PlayedFrom w (c.next op)

/-- What is true in the course of a game without chance that started from a world. -/
structure Kept (w : World) (c : Course) : Prop where
  settings : c.world.settings = w.settings
  book : c.world.book = w.book
  saveable : c.world.Saveable
  sources : c.world.ChanceFreeSources
  synced : c.settled = true → c.world.Synced

theorem Kept.next {w : World} {c : Course} {op : Operation} (hc : c.Kept w) (hop : op.IsPlayers) :
    (c.next op).Kept w := by
  have hact := Operation.act_changes (.of_hereditary Value.hereditary_chanceFree) hop.1
    (fun choice h => (hop.2 choice h).elim) hc.sources.book
  obtain ⟨hchanges, hends⟩ := next_spec hact
  refine ⟨hchanges.settings_eq.trans hc.settings, hchanges.book_eq.trans hc.book,
    hchanges.saveable hc.saveable, hchanges.chanceFreeSources hc.sources, fun hsettled => ?_⟩
  rcases hends hsettled with ⟨hc', hrefused⟩ | hdone
  · exact (hc.synced hc').idle (hrefused.1 rfl)
  · obtain ⟨w₁, w₂, ending, _, hsync, hidle⟩ := hdone.2 rfl
    exact ⟨w₁, w₂, ending, hsync, hidle⟩

/-- **Nothing in the course of a game without chance gets lost when it is saved.** -/
theorem PlayedFrom.kept {document : Value} {v w : World} {c : Course} (h : c.PlayedFrom w)
    (hdocument : document.ChanceFree) (hload : (load document).runFrom v = (.ok (), w)) :
    c.Kept w := by
  induction h with
  | start =>
      obtain ⟨_, w₁, _, _, _, hsaveable, hsources, hsync⟩ := exists_of_load hdocument hload
      have hchanges : Changes Value.ChanceFree (fun _ => True) True w₁ w :=
        sync_changes.world_of_run hsync
      exact ⟨rfl, rfl, hchanges.saveable hsaveable, hchanges.chanceFreeSources hsources,
        fun _ => ⟨w₁, w, w.state.ending, hsync, .refl w⟩⟩
  | act hop _ ih => exact ih.next hop

end Course

/-! ### Syncing once more -/

namespace World

variable {w w' : World}

theorem SameButView.withEnding (w : World) (ending : Value) : SameButView w (w.withEnding ending) :=
  ⟨rfl, rfl, rfl, rfl, rfl, rfl, rfl, rfl⟩

theorem Fixes.of_sameButView {formula : Value} {extra extra' : Fields Value}
    (h : w.Fixes formula extra extra') (hw : SameButView w w') : w'.Fixes formula extra extra' :=
  fun v v' hv hv' => h v v' (hw.trans hv) (hw.trans hv')

/-- Formulas that are steady in a world are so in one that differs in the view. -/
theorem Steady.of_sameButView {instances : List BuffInstance} (h : w.Steady instances)
    (hw : SameButView w w') : w'.Steady instances where
  contributions :=
    { active := fun hbuffs hbuff hf =>
        (h.contributions.active (hw.buffs ▸ hbuffs) hbuff hf).of_sameButView hw
      held := fun hitems hitem hheld hhold hf => (h.contributions.held (hw.book ▸ hitems) hitem
        (hw.inventory ▸ hheld) hhold hf).of_sameButView hw }
  modifiers := fun i hi modifiers hmodifiers modifier hmodifier f hf base base' =>
    (h.modifiers i hi modifiers (hw.book ▸ hmodifiers) modifier hmodifier f hf base
      base').of_sameButView hw

/-- From a world that was synced with steady formulas another sync, which starts with no buff in
effect, leads back to the same state, apart from the journal. -/
theorem Synced.again (h : w.Synced) (hsteady : w.Steady w.state.buffInstances) :
    ∃ v, sync.runFrom w.forgetView = (.ok (), v) ∧ v.settings = w.settings ∧ v.book = w.book ∧
      v.state = { w.state with journal := v.state.journal } := by
  obtain ⟨w₁, w₂, ending, hsync, hidle⟩ := h
  obtain ⟨p, hp⟩ := sync_eq_ok_iff.1 hsync
  have hstate : w.state = { w₁.state with
      baseStats := p.clamped, stats := p.second, buffInstances := p.instances
      buffTotals := p.totals, ending := ending, journal := w.state.journal } := by
    refine hidle.state_eq.trans ?_
    dsimp only [World.withEnding, World.withState]
    rw [hp.state_eq]
  -- the formulas are steady in the world before the sync, too
  have hview : SameButView w₁ w :=
    (hp.sameButView.trans (.withEnding w₂ ending)).trans (.of_idle hidle)
  have hinstances : w.state.buffInstances = p.instances := by rw [hstate]
  have hclamped : w.state.baseStats = p.clamped := by rw [hstate]
  rw [hinstances] at hsteady
  obtain ⟨v, hrun⟩ := hp.again (v := w.forgetView) (hsteady.of_sameButView hview.symm)
    (hview.trans (.withView w _ _ _)) hclamped
  refine ⟨v, sync_eq_ok_iff.2 ⟨_, hrun⟩, hrun.sameButView.settings, hrun.sameButView.book, ?_⟩
  refine hrun.state_eq.trans ?_
  dsimp only [World.forgetView, World.withView]
  rw [hstate]

/-- Another sync writes nothing to the journal: no formula fails in it. -/
def Quiet (w : World) : Prop :=
  (sync.runFrom w.forgetView).2.state.journal = w.state.journal

end World

/-! ### What is shown -/

/-- The snapshot with an empty log. -/
def Snapshot.withoutLog (s : Snapshot) : Snapshot := { s with log := [] }

namespace Play.SameButLog

variable {J : Journal → Journal → Prop} {s s' : Snapshot}

theorem eq (h : SameButLog Eq s s') : s = s' := by
  obtain ⟨j, _, rfl, hlog, rfl⟩ := h
  rw [← hlog]

theorem withoutLog_eq (h : SameButLog J s s') : s.withoutLog = s'.withoutLog := by
  obtain ⟨j, j', _, _, rfl⟩ := h
  rfl

end Play.SameButLog

namespace Course

/-- What the game shows. -/
def shown (c : Course) : Except Fault Snapshot := (snapshot.runFrom c.world).1

/-- What a game in another world shows that goes on from the record of this one. -/
def shownResumed (c : Course) (v : World) : Except Fault Snapshot :=
  ((do restore c.world.state.save.toValue; snapshot).runFrom v).1

/-- What the game would show after another sync that starts with no buff in effect. -/
def shownResynced (c : Course) : Except Fault Snapshot :=
  ((do sync; snapshot).runFrom c.world.forgetView).1

variable {c : Course} {v w : World}

/-- **Going on from the record of a game shows what one more sync of the game shows.** -/
theorem Kept.shownResumed_eq_shownResynced (hc : c.Kept w) (hsettings : v.settings = w.settings)
    (hbook : v.book = w.book) : c.shownResumed v = c.shownResynced := by
  have hsettings : v.settings = c.world.settings := hsettings.trans hc.settings.symm
  have hbook : v.book = c.world.book := hbook.trans hc.book.symm
  have hsources : c.world.forgetView.ChanceFreeSources := hc.sources.of_eq rfl rfl
  have htogether : Together False (Twins c.world.forgetView Eq) c.world.forgetView
      (v.resuming c.world) (do sync; snapshot) (do sync; snapshot) Eq :=
    (sync_twins Journal.keptByLines_eq hsources (twins_resuming hsettings hbook)).bind
      fun _ _ u u' hu _ => (snapshot_twins Journal.keptByLines_eq hsources hu).mono
        (fun _ _ h => h) fun _ _ h => h.eq
  have hrun : (do restore c.world.state.save.toValue; snapshot : Play Snapshot).runFrom v =
      (do sync; snapshot : Play Snapshot).runFrom (v.resuming c.world) := by
    rw [runFrom_bind, runFrom_bind, runFrom_restore_save hc.saveable hsettings]
  rw [shownResumed, hrun, shownResynced]
  exact htogether.paired.eq.symm

/-- **One more sync with steady formulas shows what was there**, apart from the log. -/
theorem Kept.shownResynced_paired {J : Journal → Journal → Prop} (hc : c.Kept w)
    (hsettled : c.settled = true) (hsteady : c.world.Steady c.world.state.buffInstances)
    (hJ : Journal.KeptByLines J)
    (hjournal : J c.world.state.journal (sync.runFrom c.world.forgetView).2.state.journal) :
    Paired False (SameButLog J) c.shown c.shownResynced := by
  obtain ⟨v, hsync, hsettings, hbook, hstate⟩ := (hc.synced hsettled).again hsteady
  rw [hsync] at hjournal
  have htwins : Twins c.world J c.world v :=
    ⟨⟨rfl, rfl, rfl⟩, hsettings, hbook, .of_eq (by rw [hstate]), hjournal,
      hstate.trans (by rw [hstate])⟩
  have hshown := (snapshot_twins hJ hc.sources htwins).paired
  rwa [shownResynced, runFrom_bind_ok hsync]

/-- **What is shown after going on from a saved game**: what one more sync of the game shows.  If no
operation has failed since the last one that was carried out and the formulas of the sync are
steady, then that is what the game shows, apart from the log; if no formula fails in that sync the
logs are the same, too. -/
theorem PlayedFrom.shownResumed_eq {document : Value} {settings : Settings}
    {chance chance' : Chance} (h : c.PlayedFrom w) (hdocument : document.ChanceFree)
    (hw : (load document).runFrom (World.closed settings chance) = (.ok (), w))
    (hv : (load document).runFrom (World.closed settings chance') = (.ok (), v)) :
    c.shownResumed v = c.shownResynced ∧
      (c.settled = true → c.world.Steady c.world.state.buffInstances →
        (c.shownResumed v).map Snapshot.withoutLog = c.shown.map Snapshot.withoutLog ∧
          (c.world.Quiet → c.shownResumed v = c.shown)) := by
  have hc : c.Kept w := h.kept hdocument hw
  obtain ⟨hsettings, hbook⟩ := load_again hdocument hw hv rfl rfl
  have hresumed : c.shownResumed v = c.shownResynced :=
    hc.shownResumed_eq_shownResynced hsettings hbook
  refine ⟨hresumed, fun hsettled hsteady => ?_⟩
  rw [hresumed]
  constructor
  · have h := hc.shownResynced_paired hsettled hsteady Journal.keptByLines_true trivial
    exact (h.mono fun _ _ h => h.withoutLog_eq).map_eq.symm
  · intro hquiet
    have h := hc.shownResynced_paired hsettled hsteady Journal.keptByLines_eq hquiet.symm
    exact (h.mono fun _ _ h => h.eq).eq.symm

/-! ### Two games -/

/-- The world in which a document was opened, with dice that always fall the same way. -/
def opened (document : Value) (draw : Int) : World :=
  ((load document).runFrom (World.closed {} (.constant draw (.int 0)))).2

theorem load_opened (document : Value) (draw : Int)
    (h : ((load document).runFrom (World.closed {} (.constant draw (.int 0)))).1 = .ok ()) :
    (load document).runFrom (World.closed {} (.constant draw (.int 0))) =
      (.ok (), opened document draw) :=
  runFrom_eq h

/-- A document with two rings that raise the greatest value of `hp`, and with a choice that adds a
buff for three days. -/
def charmedDocument : Value :=
  .obj
    [("stats", .obj [("hp", .obj (Stat.ofInts 40 10)), ("st", .obj (Stat.ofInts 2 9))]),
      ("items", .obj [("ring", .obj
        [("start_count", .int 2), ("hold_buffs", .list
          [.obj [("buff", .str "vigor"), ("value_expr", .str "$count + 1")]])])]),
      ("buffs", .obj
        [("vigor", .obj [("modifiers", .list [.obj
          [("type", .str "stat_add_max"), ("stat", .str "hp"),
            ("value_expr", .str "$value * 5")]])]),
        ("brave", .obj [("modifiers", .list [.obj
          [("type", .str "stat_add"), ("stat", .str "st")]])])]),
      ("story", .obj
        [("start", .str "a"),
          ("nodes", .obj [("a", .obj [("choices", .list
            [.obj [("effects", .list
              [.obj [("type", .str "buff_add"), ("buff", .str "brave"), ("value_expr", .str "2"),
                ("duration_days", .int 3)]])]])])])])]

/-- The first choice is taken and a day passes. -/
def charmed : Course :=
  (Course.next ⟨opened charmedDocument 1, true⟩ (.chooseAt (.int 0))).next (.advanceDay (.int 1))

theorem playedFrom_charmed : charmed.PlayedFrom (opened charmedDocument 1) :=
  .act ⟨trivial, nofun⟩ (.act ⟨trivial, nofun⟩ .start)

theorem steady_charmed : charmed.world.Steady charmed.world.state.buffInstances :=
  steady_of_avoids (by decide +kernel) (by decide +kernel) (by decide +kernel) _

theorem eq_of_isEmpty {j j' : Journal} (h : j.limit = j'.limit) (hj : j.entries.isEmpty = true)
    (hj' : j'.entries.isEmpty = true) : j = j' := by
  obtain ⟨limit, entries⟩ := j
  obtain ⟨limit', entries'⟩ := j'
  rw [List.isEmpty_iff] at hj hj'
  subst h hj hj'
  rfl

theorem quiet_charmed : charmed.world.Quiet :=
  eq_of_isEmpty (by decide +kernel) (by decide +kernel) (by decide +kernel)

/-- With two rings and the buff `hp` is 25 of 25 and `st` is 4, and so it is after going on. -/
theorem shownResumed_charmed :
    (charmed.PlayedFrom (opened charmedDocument 1) ∧ charmedDocument.ChanceFree ∧
      charmed.settled = true ∧ charmed.world.Steady charmed.world.state.buffInstances ∧
      charmed.world.Quiet ∧
      (charmed.shown.toOption.bind fun s => Stat.curIn s.stats "hp") = some (.int 25) ∧
      (charmed.shown.toOption.bind fun s => Stat.curIn s.stats "st") = some (.int 4)) ∧
    charmed.shownResumed (opened charmedDocument 6) = charmed.shownResynced ∧
      charmed.shownResumed (opened charmedDocument 6) = charmed.shown := by
  have h := playedFrom_charmed.shownResumed_eq (by decide +kernel)
    (load_opened charmedDocument 1 (by decide +kernel))
    (load_opened charmedDocument 6 (by decide +kernel))
  have hsettled : charmed.settled = true := by decide +kernel
  exact ⟨⟨playedFrom_charmed, by decide +kernel, hsettled, steady_charmed, quiet_charmed,
    by decide +kernel, by decide +kernel⟩, h.1, (h.2 hsettled steady_charmed).2 quiet_charmed⟩

/-- A document with an item that gives a buff one more than what it had. -/
def growingDocument : Value :=
  .obj
    [("items", .obj [("seed", .obj
        [("start_count", .int 1), ("hold_buffs", .list
          [.obj [("buff", .str "growth"), ("value_expr", .str "($buff.growth ?? 0) + 1")]])])]),
      ("buffs", .obj [("growth", .obj [("name", .str "Growth")])])]

/-- A day passes. -/
def growing : Course := Course.next ⟨opened growingDocument 1, true⟩ (.advanceDay (.int 1))

/-- After a day the buff is worth 3, and after going on it is worth 1. -/
theorem not_shownResumed_eq_shown :
    ¬ ∀ (document : Value) (settings : Settings) (chance chance' : Chance) (v w : World)
        (c : Course), document.ChanceFree →
      (load document).runFrom (World.closed settings chance) = (.ok (), w) →
      (load document).runFrom (World.closed settings chance') = (.ok (), v) → c.PlayedFrom w →
      c.shownResumed v = c.shown := by
  intro h
  have hresumed := h growingDocument {} (.constant 1 (.int 0)) (.constant 6 (.int 0))
    (opened growingDocument 6) (opened growingDocument 1) growing (by decide +kernel)
    (load_opened growingDocument 1 (by decide +kernel))
    (load_opened growingDocument 6 (by decide +kernel)) (.act ⟨trivial, nofun⟩ .start)
  have hshown : (growing.shown.toOption.bind fun s => Fields.get? s.buffTotals "growth") =
      some (.int 3) := by decide +kernel
  have hafter : ((growing.shownResumed (opened growingDocument 6)).toOption.bind
      fun s => Fields.get? s.buffTotals "growth") = some (.int 1) := by decide +kernel
  rw [hresumed, hshown] at hafter
  cases hafter

end Course

end Gamebook
