/-
**Nodes, days, checks and actions make changes only.**

The knot between effects and the nodes and days they lead to is tied by depth: what is true of the
nodes and days one level deeper is true of those on a level.  From there on every action of the
player makes changes only, and a refused one only looks.

Main definitions:

* `Play.Admits` — what may be applied and bound in play;
* `World.SettledFrom` — worlds as an action that is carried out leaves them.

Main results:

* `Play.onward_changes` — **nodes and days make changes only**, at every depth;
* `Play.acting_changes` — an action that is carried out settles the world;
* `Play.choose_changes`, `Play.chooseIndex_changes`, `Play.buy_changes`, `Play.useItem_changes`,
  `Play.advanceDay_changes` — so do the actions of the player.
-/

import Gamebook.Proofs.Play.EffectChanges

set_option autoImplicit false

namespace Gamebook

namespace Play

open World Value

variable {P : Value → Prop} {E : Fields Value → Prop} {ends : Prop} {w : World}

/-- What play admits: the parts of content that it admits, and the names that it binds itself. -/
structure Admits (P : Value → Prop) (E : Fields Value → Prop) : Prop extends Hereditary P where
  plain : E []
  entered (id : Value) : E [("$node", id)]
  summed {value : Value} : value.isFiniteNumber = .ok true → E [("$value", value)]
  checked (outcome : CheckOutcome) : E [("$check", outcome.toValue)]

/-- Names of any kind may be bound. -/
theorem Admits.of_hereditary (hP : Hereditary P) : Admits P fun _ => True :=
  ⟨hP, trivial, fun _ => trivial, fun _ => trivial, fun _ => trivial⟩

/-! ### Nodes and days -/

theorem applyWhen_changes (hP : Admits P E) {onward : Onward}
    (honward : MakesChanges P E ends onward) {entry : Value} (hentry : P entry)
    {extra : Fields Value} (hextra : E extra) (hbook : w.book.Has P) :
    Leads (Changes P E ends) w (applyWhen onward entry extra) fun _ _ => True := by
  unfold applyWhen
  refine .lift_bind fun conditions _ => ?_
  refine (checkConditions_idle conditions extra false).changes.bind fun holds w' hw _ => ?_
  split
  · refine .lift_bind fun effects heffects => ?_
    exact applyEffects_changes hP.toHereditary honward (hP.field hentry heffects) hextra
      (hw.book_eq ▸ hbook)
  · exact .pure True.intro

theorem runEvents_changes (hP : Admits P E) {onward : Onward}
    (honward : MakesChanges P E ends onward) (trigger : Value) {extra : Fields Value}
    (hextra : E extra) (hbook : w.book.Has P) :
    Leads (Changes P E ends) w (runEvents onward trigger extra) fun _ _ => True := by
  unfold runEvents
  refine .book_bind <| .lift_bind fun events hevents => .forM fun event hmem w' hw => ?_
  unfold runEvent
  refine .lift_bind fun t _ => ?_
  split
  · exact applyWhen_changes hP honward (hP.element hbook.events hevents event hmem) hextra
      (hw.book_eq ▸ hbook)
  · exact .pure True.intro

theorem runPeriodic_changes (hP : Admits P E) {onward : Onward}
    (honward : MakesChanges P E ends onward) (every : Value) (hbook : w.book.Has P) :
    Leads (Changes P E ends) w (runPeriodic onward every) fun _ _ => True := by
  unfold runPeriodic
  refine buffInstances_idle.changes.bind fun instances w' hw hfinite => ?_
  refine .forM fun i hi w'' hw' => ?_
  have hbook' : w''.book.Has P := by
    rw [hw'.book_eq, hw.book_eq]
    exact hbook
  unfold runPeriodicOf
  refine .book_bind <| .lift_bind fun definition hdefinition => ?_
  refine .lift_bind fun periodic hperiodic => ?_
  have hpart : P periodic :=
    hP.field (hP.orElse_empty (hP.fieldAt hbook'.buffs hdefinition)) hperiodic
  split
  · refine .lift_bind fun e _ => ?_
    split
    · exact applyWhen_changes hP honward hpart (hP.summed (hfinite i hi)) hbook'
    · exact .pure True.intro
  · exact .pure True.intro

theorem tickBuffs_changes : Leads (Changes P E ends) w tickBuffs fun _ _ => True := by
  unfold tickBuffs
  refine .state_bind <| .lift_bind fun active hactive => .lift_bind fun rest hrest => ?_
  exact .modifyState (Change.tick hactive hrest).changes True.intro

/-- A day changes nothing of an active buff but its duration. -/
theorem field_tickBuff {buff buff' : Value} (h : tickBuff buff = .ok (some buff')) {k : Key}
    (hk : (Key.text "duration_days").same k = false) : buff'.field k = buff.field k := by
  obtain ⟨duration, _, h⟩ := exists_of_bind_eq_ok h
  split at h
  · cases h
    rfl
  obtain ⟨left, _, h⟩ := exists_of_bind_eq_ok h
  split at h
  · obtain ⟨fields, hfields, h⟩ := exists_of_bind_eq_ok h
    cases h
    rw [field_obj, Fields.get?_set_of_not_same hk]
    simp only [field, field?, hfields, bind, Except.bind, pure, Except.pure]
  · cases h

/-- An active buff that is not removed is as it was. -/
theorem eq_of_unlessId {id buff buff' : Value} (h : unlessId id buff = .ok (some buff')) :
    buff' = buff := by
  obtain ⟨field, _, h⟩ := exists_of_bind_eq_ok h
  cases hid : field.eqv id with
  | true =>
      rw [if_pos hid] at h
      cases h
  | false =>
      rw [if_neg (by simp [hid])] at h
      cases h
      rfl

theorem enterNode_changes (hP : Admits P E) {onward : Onward}
    (honward : MakesChanges P E ends onward) (id : Value) (hbook : w.book.Has P) :
    Leads (Changes P E ends) w (enterNode onward id) fun _ _ => True := by
  unfold enterNode
  refine .book_bind <| .lift_bind fun declared hdeclared => ?_
  refine .ite_not (fun _ => .pure True.intro) fun hd => ?_
  subst hd
  have hnode : Leads (Changes P E ends) w (modifyState fun s => { s with node := id })
      fun _ _ => True :=
    .modifyState (Change.node hdeclared).changes True.intro
  refine hnode.bind fun _ w' hw _ => .lift_bind fun node hentry => ?_
  refine .lift_bind fun effects heffects => ?_
  have hbook' : w'.book.Has P := hw.book_eq ▸ hbook
  have hpart : P effects :=
    hP.field (hP.orElse_empty (hP.entryAt hbook.nodes hentry)) heffects
  have hevents : ∀ w'', Changes P E ends w' w'' →
      Leads (Changes P E ends) w'' (runEvents onward (.str "on_enter_node") [("$node", id)])
        fun _ _ => True :=
    fun w'' hw' => runEvents_changes hP honward _ (hP.entered id) (hw'.book_eq ▸ hbook')
  split
  · exact (applyEffects_changes hP.toHereditary honward hpart hP.plain hbook').bind
      fun _ w'' hw' _ => hevents w'' hw'
  · exact hevents w' (Std.Refl.refl _)

theorem passDay_changes (hP : Admits P E) {onward : Onward} (honward : MakesChanges P E ends onward)
    (hbook : w.book.Has P) : Leads (Changes P E ends) w (passDay onward) fun _ _ => True := by
  unfold passDay
  refine sync_changes.bind fun _ w₁ h₁ _ => .state_bind <| .lift_bind fun after hafter => ?_
  refine (keep_changes after).bind fun kept w₂ h₂ hkept => ?_
  have hday : Leads (Changes P E ends) w₂ (modifyState fun s => { s with day := .num kept })
      fun _ _ => True :=
    .modifyState (Change.day (by rw [hkept.2]; exact hafter) hkept.1).changes True.intro
  refine hday.bind fun _ w₃ h₃ _ => ?_
  have hbook₃ : w₃.book.Has P := by
    rw [h₃.book_eq, h₂.book_eq, h₁.book_eq]
    exact hbook
  refine (runEvents_changes hP honward _ hP.plain hbook₃).bind fun _ w₄ h₄ _ => ?_
  refine (runPeriodic_changes hP honward _ (h₄.book_eq ▸ hbook₃)).bind fun _ _ _ _ => ?_
  exact tickBuffs_changes

theorem repeatDays_changes (hP : Admits P E) {onward : Onward}
    (honward : MakesChanges P E ends onward) (n : Nat) (hbook : w.book.Has P) :
    Leads (Changes P E ends) w (repeatDays onward n) fun _ _ => True := by
  induction n generalizing w with
  | zero => exact .pure True.intro
  | succ n ih => exact (passDay_changes hP honward hbook).bind fun _ _ h _ => ih (h.book_eq ▸ hbook)

theorem passDays_changes (hP : Admits P E) {onward : Onward}
    (honward : MakesChanges P E ends onward) (amount : Value) (hbook : w.book.Has P) :
    Leads (Changes P E ends) w (passDays onward amount) fun _ _ => True :=
  .lift_bind fun n _ => repeatDays_changes hP honward n hbook

/-- **Nodes and days make changes only**, at every depth. -/
theorem onward_changes (hP : Admits P E) (depth : Nat) : MakesChanges P E ends (onward depth) := by
  induction depth with
  | zero => exact ⟨fun _ _ _ => .throw, fun _ _ _ => .throw⟩
  | succ n ih =>
      exact ⟨fun _ id hbook => enterNode_changes hP ih id hbook,
        fun _ amount hbook => passDays_changes hP ih amount hbook⟩

/-! ### Checks and endings -/

theorem followBranch_changes (hP : Admits P E) {onward : Onward}
    (honward : MakesChanges P E ends onward) {branch : Value} (hbranch : P branch)
    {extra : Fields Value} (hextra : E extra) (hbook : w.book.Has P) :
    Leads (Changes P E ends) w (followBranch onward branch extra) fun _ _ => True := by
  unfold followBranch
  refine .lift_bind fun effects heffects => ?_
  have hpart : P effects := hP.field hbranch heffects
  refine (applyEffects_changes hP.toHereditary honward hpart hextra hbook).bind
    fun _ w' hw _ => .lift_bind fun node _ => ?_
  split
  · exact honward.goto w' node (hw.book_eq ▸ hbook)
  · exact .pure True.intro

theorem keepEvaluated_changes (formula : Value) (extra : Fields Value) :
    Leads (Changes P E ends) w (do keep (← evaluator formula extra).toNumber) fun _ _ => True :=
  (evaluator_idle formula extra).changes.bind fun _ _ _ _ => (keep_changes _).trivial

theorem resolve_changes (buffs : Value) (settings : Settings) (check : Value) :
    Leads (Changes P E ends) w (Check.resolve evaluator buffs settings check) fun _ _ => True := by
  unfold Check.resolve
  refine .lift_bind fun _ _ => (keepEvaluated_changes _ _).bind fun roll _ _ _ => ?_
  refine .lift_bind fun _ _ => (keepEvaluated_changes _ _).bind fun base _ _ _ => ?_
  refine .lift_bind fun _ _ => (keepEvaluated_changes _ _).bind fun buff _ _ _ => ?_
  refine .lift_bind fun _ _ => (keepEvaluated_changes _ _).bind fun total _ _ _ => ?_
  refine .lift_bind fun _ _ => (keepEvaluated_changes _ _).bind fun dc _ _ _ => ?_
  exact .lift_bind fun _ _ => .lift_bind fun _ _ => .lift_bind fun _ _ => .pure True.intro

theorem selectBranch_part (hP : Hereditary P) {check branch : Value} {result : CheckResult}
    (hcheck : P check) (h : Check.selectBranch check result = .ok branch) : P branch := by
  unfold Check.selectBranch at h
  split at h
  · cases hb : check.field "crit_fail" with
    | error e => simp [hb, bind, Except.bind] at h
    | ok b =>
        simp only [hb, bind, Except.bind, pure, Except.pure] at h
        split at h
        · cases h
          exact hP.field hcheck hb
        · exact hP.field hcheck h
  · cases hb : check.field "crit_success" with
    | error e => simp [hb, bind, Except.bind] at h
    | ok b =>
        simp only [hb, bind, Except.bind, pure, Except.pure] at h
        split at h
        · cases h
          exact hP.field hcheck hb
        · exact hP.field hcheck h
  · exact hP.field hcheck h

theorem resolveCheck_changes (hP : Admits P E) {onward : Onward}
    (honward : MakesChanges P E ends onward) {check : Value} (hcheck : P check)
    (hbook : w.book.Has P) :
    Leads (Changes P E ends) w (resolveCheck onward check) fun _ _ => True := by
  unfold resolveCheck
  refine .get_bind <| (resolve_changes _ _ check).bind fun outcome w₁ h₁ _ => ?_
  refine .lift_bind fun line _ => (log_changes _).bind fun _ w₂ h₂ _ => ?_
  refine .lift_bind fun branch hbranch => ?_
  have hbook₂ : w₂.book.Has P := by
    rw [h₂.book_eq, h₁.book_eq]
    exact hbook
  split
  · have hpart := selectBranch_part hP.toHereditary hcheck hbranch
    exact (followBranch_changes hP honward hpart (hP.checked outcome) hbook₂).bind
      fun _ _ _ _ => .pure True.intro
  · exact .pure True.intro

theorem firstEnding_idle (holds : Value → Play Bool)
    (hholds : ∀ c v, Leads Idle v (holds c) fun _ _ => True) (endings : List Value) :
    Leads Idle w (firstEnding holds endings) fun found _ => ∀ e, found = some e → e ∈ endings := by
  induction endings generalizing w with
  | nil => exact .pure (by simp)
  | cons e es ih =>
      refine .lift_bind fun conditions _ => (hholds conditions w).bind fun b w' _ _ => ?_
      split
      · exact .pure (by simp)
      · exact ih.mono (fun _ h => h) fun found _ _ h e' he' => List.mem_cons_of_mem _ (h e' he')

theorem findEnding_idle (endings current : Value) (holds : Value → Play Bool)
    (hholds : ∀ c v, Leads Idle v (holds c) fun _ _ => True) :
    Leads Idle w (findEnding endings current holds) fun found _ =>
      ∀ e, found = some e → current.holds = false := by
  unfold findEnding
  split
  · exact .pure (by simp)
  · rename_i h
    simp only [Bool.or_eq_true, not_or, Bool.not_eq_true] at h
    refine .lift_bind fun es _ => ?_
    exact (firstEnding_idle holds hholds es).mono (fun _ h => h) fun _ _ _ _ _ _ => h.1

theorem orElse_holds (v : Value) {w : Value} (h : w.holds = true) : (v.orElse w).holds = true := by
  unfold orElse
  split <;> assumption

end Play

/-! ### Settled worlds -/

/-- The second world was made from the first one by changes and then a sync; since then it has only
been looked at, and perhaps come to an ending. -/
def World.SettledFrom (P : Value → Prop) (E : Fields Value → Prop) (w w' : World) : Prop :=
  ∃ w₁ w₂ ending, Changes P E True w w₁ ∧ Play.sync.runFrom w₁ = (.ok (), w₂) ∧
    Idle (w₂.withEnding ending) w'

theorem World.SettledFrom.of_changes {P : Value → Prop} {E : Fields Value → Prop}
    {w₀ w w' : World} (h : Changes P E True w₀ w) (h' : SettledFrom P E w w') :
    SettledFrom P E w₀ w' := by
  obtain ⟨w₁, w₂, ending, hw, hsync, hidle⟩ := h'
  exact ⟨w₁, w₂, ending, Relation.ReflTransGen.trans h hw, hsync, hidle⟩

namespace Play

open World Value

variable {P : Value → Prop} {E : Fields Value → Prop} {w : World}

/-- Looking for an ending right after a sync leaves a settled world. -/
theorem checkEndings_changes {onward : Onward} (honward : MakesChanges P E True onward)
    (hbook : w.book.Has P) :
    Leads (Changes P E True) w (checkEndings onward) fun _ w' =>
      (∃ ending, Idle (w.withEnding ending) w') ∨ SettledFrom P E w w' := by
  unfold checkEndings
  refine .book_bind <| .state_bind ?_
  refine (findEnding_idle _ _ _ fun c v => checkConditions_idle c [] false).idle_changes.bind
    fun found w₁ _ hfound => ?_
  obtain ⟨h₁, hfound⟩ := hfound
  cases found with
  | none => exact .pure (.inl ⟨w.state.ending, h₁⟩)
  | some ending =>
      refine .lift_bind fun node _ => .lift_bind fun id _ => ?_
      have hheld : w₁.state.ending.holds = false := by
        rw [h₁.state_eq]
        exact hfound ending rfl
      have hreached : ((id.orElse node).orElse (.str "ending")).holds = true :=
        orElse_holds _ rfl
      generalize (id.orElse node).orElse (.str "ending") = reached at hreached ⊢
      have hend : Leads (Changes P E True) w₁ (modifyState fun s => { s with ending := reached })
          fun _ w₂ => w₂ = w₁.withEnding reached :=
        .modifyState (Change.ending trivial hheld hreached).changes rfl
      refine hend.bind fun _ w₂ h₂ hw₂ => ?_
      have hbook₂ : w₂.book.Has P := by
        rw [h₂.book_eq, h₁.book_eq]
        exact hbook
      -- the node of the ending is entered after the sync, so entering it syncs once more
      split
      · refine (honward.goto w₂ node hbook₂).bind fun _ w₃ h₃ _ => ?_
        refine sync_changes.with_run.mono (fun _ h => h) fun _ w₄ _ h => .inr ?_
        have hw : Changes P E True w w₃ := h₁.changes.trans (.trans h₂ h₃)
        exact ⟨w₃, w₄, w₄.state.ending, hw, h.1, .refl w₄⟩
      · subst hw₂
        exact .pure (.inl ⟨reached, h₁.withEnding reached⟩)

theorem onwards_changes {ends : Prop} (hP : Admits P E) : MakesChanges P E ends onwards :=
  onward_changes hP depthLimit

/-- **What follows every action settles the world.** -/
theorem afterAction_changes (hP : Admits P E) (hbook : w.book.Has P) :
    Leads (Changes P E True) w afterAction fun _ w' => SettledFrom P E w w' := by
  unfold afterAction
  refine sync_changes.with_run.bind fun _ w₁ h₁ hsync => ?_
  refine (checkEndings_changes (onwards_changes hP) (h₁.book_eq ▸ hbook)).mono (fun _ h => h)
    fun _ w' _ h => ?_
  rcases h with ⟨ending, h⟩ | h
  · exact ⟨w, w₁, ending, .refl, hsync.1, h⟩
  · exact h.of_changes h₁

/-! ### Actions -/

/-- What the body of an action leads to: a refused one only looks. -/
def BodyEnds (w : World) (accepted : Bool) (w' : World) : Prop := accepted = false → Idle w w'

/-- What an action of the player leads to: a refused one only looks, and one that is carried out
leaves a settled world. -/
def ActionEnds (P : Value → Prop) (E : Fields Value → Prop) (w : World) (accepted : Bool)
    (w' : World) : Prop :=
  (accepted = false → Idle w w') ∧ (accepted = true → SettledFrom P E w w')

/-- **An action settles the world when it is carried out.** -/
theorem acting_changes (hP : Admits P E) {m : Play Bool} (hbook : w.book.Has P)
    (hm : Leads (Changes P E True) w m (BodyEnds w)) :
    Leads (Changes P E True) w (acting m) (ActionEnds P E w) := by
  refine hm.bind fun accepted w₁ h₁ hidle => ?_
  cases accepted with
  | false => exact .pure ⟨hidle, nofun⟩
  | true =>
      refine (afterAction_changes hP (h₁.book_eq ▸ hbook)).bind fun _ w₂ _ hsettled => .pure ?_
      exact ⟨nofun, fun _ => hsettled.of_changes h₁⟩

section

variable {ends : Prop}

theorem refused_changes {w₀ : World} (h : Idle w₀ w) :
    Leads (Changes P E ends) w (pure false : Play Bool) (BodyEnds w₀) :=
  .pure fun _ => h

theorem accepted_changes {w₀ : World} :
    Leads (Changes P E ends) w (pure true : Play Bool) (BodyEnds w₀) :=
  .pure nofun

theorem takeChoice_changes (hP : Admits P E) {choice : Value} (hchoice : P choice) {w₀ : World}
    (h₀ : Idle w₀ w) (hbook : w.book.Has P) :
    Leads (Changes P E ends) w (takeChoice choice) (BodyEnds w₀) := by
  unfold takeChoice
  split
  · exact refused_changes h₀
  refine .lift_bind fun conditions _ => ?_
  refine (checkConditions_idle conditions [] false).idle_changes.bind fun holds w₁ h₁ hidle => ?_
  have hbook₁ : w₁.book.Has P := h₁.book_eq ▸ hbook
  split
  · exact refused_changes (h₀.trans hidle.1)
  refine .lift_bind fun check hcheck => ?_
  split
  · refine (resolveCheck_changes hP (onwards_changes hP) (hP.field hchoice hcheck) hbook₁).bind
      fun _ w₂ h₂ _ => ?_
    exact accepted_changes
  · refine (followBranch_changes hP (onwards_changes hP) hchoice hP.plain hbook₁).bind
      fun _ w₂ h₂ _ => ?_
    exact accepted_changes

theorem takeIndex_changes (hP : Admits P E) (index : Int) (hbook : w.book.Has P) :
    Leads (Changes P E ends) w (takeIndex index) (BodyEnds w) := by
  unfold takeIndex
  refine currentChoices_idle.idle_changes.bind fun choices w₁ h₁ hidle => ?_
  obtain ⟨hidle, -⟩ := hidle
  split
  · exact refused_changes hidle
  split
  · exact refused_changes hidle
  split
  · exact refused_changes hidle
  have hbook₁ : w₁.book.Has P := h₁.book_eq ▸ hbook
  have hnode : Leads (Changes P E ends) w₁ currentNode fun node w₂ => w₂ = w₁ ∧ P node := by
    unfold currentNode
    refine .book_bind <| .state_bind <| .lift_bind fun node hn => .pure ⟨rfl, ?_⟩
    exact hP.orElse_empty (hP.fieldAt hbook₁.nodes hn)
  -- the choice taken is read from the node once more
  refine hnode.bind fun node w₂ _ hw₂ => ?_
  obtain ⟨rfl, hpart⟩ := hw₂
  refine .lift_bind fun field hfield => .lift_bind fun all hall => ?_
  refine takeChoice_changes hP ?_ hidle hbook₁
  cases hget : all[index.toNat]? with
  | none => exact hP.null
  | some choice =>
      exact hP.element (hP.field hpart hfield) hall choice (List.mem_of_getElem? hget)

theorem takeAt_changes (hP : Admits P E) (place : Value) (hbook : w.book.Has P) :
    Leads (Changes P E ends) w (takeAt place) (BodyEnds w) := by
  unfold takeAt
  split
  · exact takeIndex_changes hP _ hbook
  · refine currentChoices_idle.idle_changes.bind fun choices w₁ _ hidle => ?_
    dsimp only
    split
    · exact .throw
    · exact refused_changes hidle.1
  · exact currentChoices_idle.changes.bind fun _ _ _ _ => .throw

theorem entryWithId_mem {id : Value} {entries : List Value} {entry : Value}
    (h : entryWithId id entries = .ok (some entry)) : entry ∈ entries := by
  induction entries with
  | nil => cases h
  | cons e es ih =>
      unfold entryWithId at h
      cases he : e.field "id" with
      | error f => simp [he, bind, Except.bind] at h
      | ok v =>
          simp only [he, bind, Except.bind, pure, Except.pure] at h
          split at h
          · cases h
            exact List.mem_cons_self ..
          · exact List.mem_cons_of_mem _ (ih h)

theorem takeEntry_changes (hP : Admits P E) (shop item : Value) (hbook : w.book.Has P) :
    Leads (Changes P E ends) w (takeEntry shop item) (BodyEnds w) := by
  unfold takeEntry
  refine .book_bind <| .lift_bind fun shop hshop => ?_
  split
  · exact refused_changes (.refl w)
  refine .lift_bind fun field hfield => .lift_bind fun entries hentries => ?_
  refine .lift_bind fun found hfound => ?_
  cases found with
  | none => exact refused_changes (.refl w)
  | some entry =>
      have hpart : P entry :=
        hP.element (hP.orElse_none (hP.field (hP.fieldAt hbook.shops hshop) hfield))
          hentries entry (entryWithId_mem hfound)
      refine .lift_bind fun conditions _ => ?_
      refine (checkConditions_idle conditions [] false).idle_changes.bind fun b w₁ h₁ hidle => ?_
      have hbook₁ : w₁.book.Has P := h₁.book_eq ▸ hbook
      split
      · exact refused_changes hidle.1
      refine .lift_bind fun effects heffects => ?_
      refine (applyEffects_changes hP.toHereditary (onwards_changes hP)
        (hP.field hpart heffects) hP.plain hbook₁).bind fun _ w₂ h₂ _ => ?_
      exact accepted_changes

theorem consume_changes (hP : Admits P E) (item : Value) (hbook : w.book.Has P) :
    Leads (Changes P E ends) w (consume item) (BodyEnds w) := by
  unfold consume
  refine .book_bind <| .lift_bind fun known _ => ?_
  split
  · exact refused_changes (.refl w)
  refine .state_bind <| .lift_bind fun quantity _ => .lift_bind fun empty _ => ?_
  split
  · exact refused_changes (.refl w)
  refine .lift_bind fun definition hdefinition => .lift_bind fun effects heffects => ?_
  have hpart : P effects :=
    hP.field (hP.orElse_empty (hP.entryAt hbook.items hdefinition)) heffects
  refine (applyEffects_changes hP.toHereditary (onwards_changes hP) hpart hP.plain hbook).bind
    fun _ w₁ h₁ _ => ?_
  refine (removeItem_changes (.inr rfl)).bind fun _ w₂ h₂ _ => ?_
  exact accepted_changes

end

theorem choose_changes (hP : Admits P E) {choice : Value} (hchoice : P choice)
    (hbook : w.book.Has P) : Leads (Changes P E True) w (choose choice) (ActionEnds P E w) :=
  acting_changes hP hbook (takeChoice_changes hP hchoice (.refl w) hbook)

theorem chooseIndex_changes (hP : Admits P E) (index : Int) (hbook : w.book.Has P) :
    Leads (Changes P E True) w (chooseIndex index) (ActionEnds P E w) :=
  acting_changes hP hbook (takeIndex_changes hP index hbook)

theorem chooseAt_changes (hP : Admits P E) (place : Value) (hbook : w.book.Has P) :
    Leads (Changes P E True) w (chooseAt place) (ActionEnds P E w) :=
  acting_changes hP hbook (takeAt_changes hP place hbook)

theorem buy_changes (hP : Admits P E) (shop item : Value) (hbook : w.book.Has P) :
    Leads (Changes P E True) w (buy shop item) (ActionEnds P E w) :=
  acting_changes hP hbook (takeEntry_changes hP shop item hbook)

theorem useItem_changes (hP : Admits P E) (item : Value) (hbook : w.book.Has P) :
    Leads (Changes P E True) w (useItem item) (ActionEnds P E w) :=
  acting_changes hP hbook (consume_changes hP item hbook)

theorem advanceDay_changes (hP : Admits P E) (days : Value) (hbook : w.book.Has P) :
    Leads (Changes P E True) w (advanceDay days) fun _ w' => SettledFrom P E w w' := by
  unfold advanceDay
  refine (passDays_changes hP (onwards_changes hP) days hbook).bind fun _ w₁ h₁ _ => ?_
  refine (afterAction_changes hP (h₁.book_eq ▸ hbook)).mono (fun _ h => h) fun _ _ _ h => ?_
  exact h.of_changes h₁

end Play

end Gamebook
