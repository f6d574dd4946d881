/-
**Worlds with the same state.**

Two worlds in the same book and the same state may still differ: in chance, in what the author of
the book was told, in whether a flag is the inventory or a record with its counts, and in their
journals.  A sync and a snapshot that do not use chance end alike in both of them.

Main definitions:

* `Value.ChanceFree` — content in which no formula uses chance;
* `World.Twins` — worlds with the same state.

Main results:

* `Play.sync_twins` — **a sync ends alike in twins**, and leaves twins;
* `Play.snapshot_twins` — **so does a snapshot**, apart from the log.
-/

import Gamebook.Play.Snapshot
import Gamebook.Proofs.Play.Scope
import Gamebook.Proofs.Play.SyncFormulas

set_option autoImplicit false

namespace Gamebook

open Formula

/-! ### Content without chance -/

/-- The functions that use chance. -/
def Formula.chanceCalls : List String := ["roll", "random"]

namespace Value

/-- Whether conditions do not use chance. -/
def conditionsAvoidChance : Value → Bool
  | .list cs => cs.all (avoids [] chanceCalls)
  | c => avoids [] chanceCalls c

/-- Whether the value of a buff that an effect adds does not use chance. -/
def addedAvoidsChance (fields : Fields Value) : Bool :=
  match ofOption (fields.get? "type") with
  | .str "buff_add" => avoids [] chanceCalls (ofOption (fields.get? "value"))
  | _ => true

/-- Whether no formula of a record for a value, a condition or a buff to add uses chance. -/
def recordAvoidsChance (fields : Fields Value) : Bool :=
  valueAvoids [] chanceCalls fields &&
    conditionsAvoidChance (ofOption (fields.get? "conditions")) && addedAvoidsChance fields

/-- No formula in the value uses chance. -/
def ChanceFree (v : Value) : Prop := everyRecord recordAvoidsChance v = true

instance : DecidablePred ChanceFree := fun v =>
  inferInstanceAs (Decidable (everyRecord recordAvoidsChance v = true))

theorem hereditary_chanceFree : Hereditary ChanceFree :=
  hereditary_everyRecord recordAvoidsChance rfl

variable {v w : Value}

theorem ChanceFree.valueAvoids (h : v.ChanceFree) :
    everyRecord (valueAvoids [] chanceCalls) v = true := by
  refine everyRecord_mono (fun fs hfs => ?_) v h
  rw [recordAvoidsChance, Bool.and_eq_true, Bool.and_eq_true] at hfs
  exact hfs.1.1

theorem ChanceFree.conditions (h : v.ChanceFree) (hw : v.field "conditions" = .ok w) :
    w.conditionsAvoidChance = true := by
  obtain ⟨fields, hfields, rfl⟩ := exists_of_field_eq hw
  have hrecord := (everyRecord_fields h hfields).1
  rw [recordAvoidsChance, Bool.and_eq_true, Bool.and_eq_true] at hrecord
  exact hrecord.1.2

theorem ChanceFree.added (h : v.ChanceFree) (htype : v.field "type" = .ok (.str "buff_add"))
    (hw : v.field "value" = .ok w) : avoids [] chanceCalls w = true := by
  obtain ⟨fields, hfields, rfl⟩ := exists_of_field_eq hw
  have hrecord := (everyRecord_fields h hfields).1
  obtain ⟨fields', hfields', htype⟩ := exists_of_field_eq htype
  rw [hfields] at hfields'
  cases hfields'
  rw [recordAvoidsChance, Bool.and_eq_true, Bool.and_eq_true, addedAvoidsChance, ← htype] at hrecord
  exact hrecord.2

end Value

/-! ### Twins -/

/-- The relation between journals is kept when both get the same line. -/
def Journal.KeptByLines (J : Journal → Journal → Prop) : Prop :=
  ∀ j j' text now, J j j' → J (j.add text now) (j'.add text now)

theorem Journal.keptByLines_eq : KeptByLines Eq := fun _ _ text now h =>
  congrArg (fun j => j.add text now) h

theorem Journal.keptByLines_true : KeptByLines fun _ _ => True := fun _ _ _ _ _ => trivial

theorem Journal.KeptByLines.noteFailures {J : Journal → Journal → Prop} (hJ : KeptByLines J)
    {j j' : Journal} (h : J j j') (now : Value) (failed : List Value) :
    J (j.noteFailures now failed) (j'.noteFailures now failed) := by
  induction failed generalizing j j' with
  | nil => exact h
  | cons formula failed ih => exact ih (hJ j j' _ now h)

namespace World

open Play

/-- The two worlds have the same state, apart from flags that follow the inventory and from their
journals, which are related; their sources are those of a third world. -/
structure Twins (w₀ : World) (J : Journal → Journal → Prop) (w w' : World) : Prop where
  sources : SameSources w₀ w
  settings : w'.settings = w.settings
  book : w'.book = w.book
  flags : Value.Like w.state.flags w'.state.flags
  journal : J w.state.journal w'.state.journal
  state : w'.state = { w.state with flags := w'.state.flags, journal := w'.state.journal }

variable {w₀ w w' : World} {J : Journal → Journal → Prop}

theorem Twins.seenAlike (h : Twins w₀ J w w') : SeenAlike [] chanceCalls w w' where
  digitLimit := by rw [h.settings]
  resources := by rw [h.state]
  day := by rw [h.state]
  node := by rw [h.state]
  inventory := by rw [h.state]
  flags := h.flags
  stats := .inr (by rw [h.state])
  buffTotals := .inr (by rw [h.state])
  buffInstances := .inr (by rw [h.state])
  roll := by simp [chanceCalls]
  random := by simp [chanceCalls]

theorem Twins.afterIdling (hJ : Journal.KeptByLines J) (h : Twins w₀ J w w') (failed : List Value)
    (c c' : Chance) (ws ws' : List String) :
    Twins w₀ J (w.afterIdling failed c ws) (w'.afterIdling failed c' ws') where
  sources := h.sources
  settings := h.settings
  book := h.book
  flags := h.flags
  journal := by
    change J (w.state.journal.noteFailures w.settings.now failed)
      (w'.state.journal.noteFailures w'.settings.now failed)
    rw [h.settings]
    exact hJ.noteFailures h.journal _ _
  state := by
    dsimp only [World.afterIdling]
    rw [h.state]

theorem Twins.withBaseStats (h : Twins w₀ J w w') (base : Fields Stat) :
    Twins w₀ J (w.withBaseStats base) (w'.withBaseStats base) := by
  refine ⟨h.sources, h.settings, h.book, h.flags, h.journal, ?_⟩
  dsimp only [World.withBaseStats]
  rw [h.state]

theorem Twins.withView (h : Twins w₀ J w w') (stats : Fields Stat) (instances : List BuffInstance)
    (totals : BuffTotals) :
    Twins w₀ J (w.withView stats instances totals) (w'.withView stats instances totals) := by
  refine ⟨h.sources, h.settings, h.book, h.flags, h.journal, ?_⟩
  dsimp only [World.withView]
  rw [h.state]

theorem Twins.undressed (h : Twins w₀ J w w') : Twins w₀ J w.undressed w'.undressed := by
  refine ⟨h.sources, h.settings, h.book, h.flags, h.journal, ?_⟩
  dsimp only [World.undressed]
  rw [h.state]

theorem Twins.sources' (h : Twins w₀ J w w') : SameSources w₀ w' := by
  refine ⟨h.book.trans h.sources.1, ?_, ?_⟩
  · rw [h.state]
    exact h.sources.2.1
  · rw [h.state]
    exact h.sources.2.2

/-- The book and the active buffs of the world do not use chance. -/
structure ChanceFreeSources (w : World) : Prop where
  book : w.book.Has Value.ChanceFree
  buffs {buffs : List Value} {buff f : Value} : w.state.buffs.elements = .ok buffs → buff ∈ buffs →
    buff.field "value_expr" = .ok f → avoids [] chanceCalls f = true

end World

namespace Play

open World Value

variable {w₀ w w' : World} {J : Journal → Journal → Prop}

/-! ### Formulas -/

/-- A formula without chance has the same value in twins. -/
theorem evaluate_twins (hJ : Journal.KeptByLines J) (h : Twins w₀ J w w') {formula : Value}
    (hformula : avoids [] chanceCalls formula = true) (extra : Fields Value) (quiet : Bool) :
    Together False (Twins w₀ J) w w' (evaluate formula extra quiet) (evaluate formula extra quiet)
      Like := by
  obtain ⟨hr, failed, c, c', hw, hw'⟩ :=
    evaluate_alike h.seenAlike (fun n _ => Eq.refl (Fields.get? extra n)) hformula quiet
  rcases hrun : (evaluate formula extra quiet).runFrom w with ⟨r, v⟩
  rcases hrun' : (evaluate formula extra quiet).runFrom w' with ⟨r', v'⟩
  rw [hrun] at hr hw
  rw [hrun'] at hr hw'
  dsimp only at hr hw hw'
  refine .of_outcome hrun hrun' ?_ hr
  rw [hw, hw']
  exact h.afterIdling hJ failed c c' [] []

theorem sameNumber_twins (hJ : Journal.KeptByLines J) {formula : Value}
    (hformula : avoids [] chanceCalls formula = true) (extra : Fields Value) :
    SameNumber False (Twins w₀ J) formula extra extra := fun _ _ h =>
  (evaluate_twins hJ h hformula extra false).mono (fun _ _ h => h) fun _ _ hab => toNumber_like hab

theorem allHold_twins (hJ : Journal.KeptByLines J) (h : Twins w₀ J w w') (extra : Fields Value)
    (quiet : Bool) {cs : List Value} (hcs : ∀ c ∈ cs, avoids [] chanceCalls c = true) :
    Together False (Twins w₀ J) w w' (allHold extra quiet cs) (allHold extra quiet cs) Eq := by
  induction cs generalizing w w' with
  | nil => exact .pure h rfl
  | cons c cs ih =>
      have ⟨hc, hcs⟩ := List.forall_mem_cons.1 hcs
      refine (evaluate_twins hJ h hc extra quiet).bind fun a b v v' hv hab => ?_
      rw [isTrue_like hab]
      refine .same_bind fun holds _ => ?_
      split
      · exact ih hv hcs
      · exact .pure hv rfl

/-- Conditions without chance hold alike in twins. -/
theorem checkConditions_twins (hJ : Journal.KeptByLines J) (h : Twins w₀ J w w')
    {conditions : Value} (hconditions : conditions.conditionsAvoidChance = true)
    (extra : Fields Value) (quiet : Bool) :
    Together False (Twins w₀ J) w w' (checkConditions conditions extra quiet)
      (checkConditions conditions extra quiet) Eq := by
  unfold checkConditions
  split
  · exact .pure h rfl
  · cases conditions with
    | list cs => exact allHold_twins hJ h extra quiet (List.all_eq_true.1 hconditions)
    | _ => exact allHold_twins hJ h extra quiet (List.forall_mem_singleton.2 hconditions)

/-! ### Syncs -/

theorem keptByWarnings_twins : KeptByWarnings (Twins w₀ J) := fun _ _ _ h =>
  ⟨h.sources, h.settings, h.book, h.flags, h.journal, h.state⟩

/-- **A sync ends alike in twins**, and leaves twins. -/
theorem sync_twins (hJ : Journal.KeptByLines J) (hw₀ : ChanceFreeSources w₀) (h : Twins w₀ J w w') :
    Together False (Twins w₀ J) w w' sync sync Eq := by
  have hbase : ∀ {v v'}, Twins w₀ J v v' → v'.state.baseStats = v.state.baseStats :=
    fun hv => by rw [hv.state]
  have hbuffs : ∀ {v v'}, Twins w₀ J v v' →
      v.book.buffs = w₀.book.buffs ∧ v'.book.buffs = w₀.book.buffs :=
    fun hv => ⟨by rw [hv.sources.1], by rw [hv.book, hv.sources.1]⟩
  have hderive : ∀ base instances v v', Twins w₀ J v v' →
      Together False (Twins w₀ J) v v' (derive evaluator w₀.book.buffs base instances)
        (derive evaluator w₀.book.buffs base instances) Eq := by
    intro base instances v v' hv
    refine (derive_together (Stat.pairing_eq False) keptByWarnings_twins (.refl (fun _ => rfl) base)
      (forModifiers_of_avoids hw₀.book.buffs.valueAvoids (by simp) ?_ instances) hv).mono
      (fun _ _ h => h) fun _ _ h => h.eq
    exact fun formula value hformula => sameNumber_twins hJ hformula _
  unfold sync
  -- the contributions, in worlds that show no buff
  refine .modifyState_bind <| Together.bind (Q := Eq) ?_
    fun instances instances' v v' hv hinstances => ?_
  · refine buffInstances_together (fun v v' hv => ⟨hv.sources, hv.sources'⟩)
      (forContributions_of_avoids hw₀.book.items.valueAvoids
        (fun buffs hbuffs buff hbuff f hf => hw₀.buffs hbuffs hbuff hf)
        fun formula extra hformula => sameNumber_twins hJ hformula extra)
      h.undressed
  subst hinstances
  -- then both passes over the same base stats
  refine .same_bind fun totals _ => .book_bind <| .state_bind ?_
  rw [(hbuffs hv).1, (hbuffs hv).2, hbase hv]
  refine (hderive _ _ _ _ hv).bind fun first first' v v' hv hfirst => ?_
  subst hfirst
  refine .state_bind ?_
  rw [hbase hv]
  refine .same_bind fun clamped _ => .modifyState_bind ?_
  refine (hderive _ _ _ _ (hv.withBaseStats clamped)).bind fun second second' v v' hv hsecond => ?_
  subst hsecond
  exact .modifyState (hv.withView second instances totals) rfl

/-! ### Snapshots -/

theorem currentNode_twins (hw₀ : ChanceFreeSources w₀) (h : Twins w₀ J w w') :
    Together False (Twins w₀ J) w w' currentNode currentNode fun a b => a = b ∧ a.ChanceFree := by
  unfold currentNode
  refine .book_bind <| .state_bind ?_
  rw [h.book, h.sources.1, show w'.state.node = w.state.node by rw [h.state]]
  refine .same_bind fun node hnode => .pure h ⟨rfl, ?_⟩
  exact hereditary_chanceFree.orElse_empty (hereditary_chanceFree.fieldAt hw₀.book.nodes hnode)

theorem choiceView_twins (hJ : Journal.KeptByLines J) (h : Twins w₀ J w w') (ending : Bool)
    {choice : Value} (hchoice : choice.ChanceFree) :
    Together False (Twins w₀ J) w w' (choiceView ending choice) (choiceView ending choice) Eq := by
  unfold choiceView
  refine .same_bind fun text _ => ?_
  split
  · exact .pure h rfl
  · refine .same_bind fun conditions hconditions => ?_
    refine (checkConditions_twins hJ h (hchoice.conditions hconditions) [] true).bind
      fun a b v v' hv hab => ?_
    subst hab
    exact .pure hv rfl

theorem currentChoices_twins (hJ : Journal.KeptByLines J) (hw₀ : ChanceFreeSources w₀)
    (h : Twins w₀ J w w') :
    Together False (Twins w₀ J) w w' currentChoices currentChoices Eq := by
  unfold currentChoices
  refine (currentNode_twins hw₀ h).bind fun node node' v v' hv hnode => ?_
  obtain ⟨rfl, hnode⟩ := hnode
  refine .same_bind fun ending _ => .same_bind fun field hfield => ?_
  refine .same_bind fun choices hchoices => ?_
  have hP := hereditary_chanceFree
  refine Together.mapM_same hv fun choice hmem u u' hu => choiceView_twins hJ hu ending ?_
  exact hP.element (hP.orElse_none (hP.field hnode hfield)) hchoices choice hmem

theorem shopView_twins (hJ : Journal.KeptByLines J) (hw₀ : ChanceFreeSources w₀)
    (h : Twins w₀ J w w') (id : Value) :
    Together False (Twins w₀ J) w w' (shopView? id) (shopView? id) Eq := by
  unfold shopView?
  refine .book_bind ?_
  rw [h.book, h.sources.1]
  refine .same_bind fun shop hshop => ?_
  split
  · exact .pure h rfl
  refine .same_bind fun name _ => .same_bind fun field hfield => .same_bind fun items hitems => ?_
  have hP := hereditary_chanceFree
  refine (Together.mapM_same h fun entry hmem v v' hv => ?_).bind
    fun entries entries' v v' hv he => ?_
  · have hentry : entry.ChanceFree :=
      hP.element (hP.orElse_none (hP.field (hP.fieldAt hw₀.book.shops hshop) hfield)) hitems entry
        hmem
    unfold shopEntryView
    refine .same_bind fun id _ => .book_bind ?_
    rw [hv.book]
    refine .same_bind fun name _ => .same_bind fun price _ => ?_
    refine .same_bind fun conditions hconditions => ?_
    refine (checkConditions_twins hJ hv (hentry.conditions hconditions) [] true).bind
      fun a b v v' hv hab => ?_
    subst hab
    exact .pure hv rfl
  · subst he
    exact .pure hv rfl

theorem nodeView_twins (hJ : Journal.KeptByLines J) (hw₀ : ChanceFreeSources w₀)
    (h : Twins w₀ J w w') (node : Value) :
    Together False (Twins w₀ J) w w' (nodeView node) (nodeView node) Eq := by
  unfold nodeView
  refine .same_bind fun title _ => .same_bind fun text _ => .state_bind ?_
  rw [show w'.state.node = w.state.node by rw [h.state]]
  refine .same_bind fun ending _ => ?_
  refine (currentChoices_twins hJ hw₀ h).bind fun choices choices' v v' hv hchoices => ?_
  subst hchoices
  exact .pure hv rfl

/-- The two snapshots are the same apart from the logs, which come from related journals. -/
def SameButLog (J : Journal → Journal → Prop) (s s' : Snapshot) : Prop :=
  ∃ j j', J j j' ∧ s.log = j.texts ∧ s' = { s with log := j'.texts }

/-- **A snapshot ends alike in twins**, apart from the log. -/
theorem snapshot_twins (hJ : Journal.KeptByLines J) (hw₀ : ChanceFreeSources w₀)
    (h : Twins w₀ J w w') :
    Together False (Twins w₀ J) w w' snapshot snapshot (SameButLog J) := by
  unfold snapshot
  refine (currentNode_twins hw₀ h).bind fun node node' v v' hv hnode => ?_
  obtain ⟨rfl, -⟩ := hnode
  refine .same_bind fun field _ => .same_bind fun ids _ => ?_
  refine (Together.filterMapM hv fun id _ v v' hv => shopView_twins hJ hw₀ hv id).bind
    fun shops shops' v v' hv hshops => ?_
  subst hshops
  refine .book_bind ?_
  rw [hv.book]
  refine .same_bind fun title _ => ?_
  refine (nodeView_twins hJ hw₀ hv node).bind fun node node' v v' hv hnode => ?_
  subst hnode
  refine .state_bind <| .book_bind ?_
  rw [hv.book, hv.state]
  dsimp only
  refine .same_bind fun inventory _ => .same_bind fun capacity _ => .same_bind fun count _ => ?_
  refine (Together.mapM_same hv fun i _ u u' hu => ?_).bind fun buffs buffs' u u' hu hbuffs => ?_
  · unfold buffView
    refine .book_bind ?_
    rw [hu.book]
    exact .same_bind fun description _ => .pure hu rfl
  · subst hbuffs
    exact .pure hu ⟨v.state.journal, v'.state.journal, hv.journal, rfl, rfl⟩

end Play

end Gamebook
