/-
**Days and endings.**

Days are counted and never taken back, and the game comes to an ending once.  An ending is looked
for only after an action has been carried out, right after its sync, and the endings are tried in
the order in which they are declared.  Trying one only looks, so as long as the conditions of the
endings do not use chance, all of them are tried on what is the same to them: the state that the
sync has left.

Main definitions:

* `World.Finds` — whether conditions hold in a world;
* `World.Reaches` — the ending that is the first one whose conditions hold;
* `Operation.body` — what an action does before the sync and the endings that follow it.

Main results:

* `World.Changes.day_le` — days are never taken back;
* `World.Changes.ending_kept` — an ending stays;
* `Play.acting_reaches` — an action comes to the first ending after its sync;
* `GameOf.plays` — **all three in every run of actions**, wherever in a game it starts.
-/

import Gamebook.Proofs.Play.Game
import Gamebook.Proofs.Play.Twins

set_option autoImplicit false

namespace Gamebook

open Play World Value

variable {P : Value → Prop} {E : Fields Value → Prop} {ends : Prop} {s w w' : World}

/-! ### Days -/

namespace World

/-- A change leaves the day or counts it up. -/
theorem Change.day_le (h : Change P E ends w w') {k : Int} (hk : w.state.day = .int k) :
    ∃ k' : Int, w'.state.day = .int k' ∧ k ≤ k' := by
  cases h with
  | idle h =>
      rw [h.state_eq]
      exact ⟨k, hk, le_refl k⟩
  | sync =>
      rw [(sync_leads w).world.state_eq]
      exact ⟨k, hk, le_refl k⟩
  | @day after kept hafter hkept =>
      have hsum : after = .int (k + 1) := by
        rw [hk] at hafter
        cases hafter
        rfl
      have hday : kept = .int (k + 1) := by
        rcases hkept with rfl | ⟨hnan, -⟩
        · exact hsum
        · rw [hsum] at hnan
          cases hnan
      exact ⟨k + 1, congrArg Value.num hday, by omega⟩
  | _ => exact ⟨k, hk, le_refl k⟩

/-- **Days are never taken back.** -/
theorem Changes.day_le (h : Changes P E ends w w') {k : Int} (hk : w.state.day = .int k) :
    ∃ k' : Int, w'.state.day = .int k' ∧ k ≤ k' :=
  h.preserves (I := fun v => ∃ k' : Int, v.state.day = .int k' ∧ k ≤ k')
    (fun _ _ hc ⟨_, hj, hkj⟩ =>
      let ⟨k', hk', hle⟩ := hc.day_le hj
      ⟨k', hk', hkj.trans hle⟩) ⟨k, hk, le_refl k⟩

/-! ### Endings stay -/

/-- A change leaves the ending as it is, unless the game comes to one. -/
theorem Change.ending_cases (h : Change P E ends w w') :
    w'.state.ending = w.state.ending ∨ ends ∧ w.state.ending.holds = false ∧
      w'.state.ending.holds = true := by
  cases h with
  | idle h =>
      rw [h.state_eq]
      exact .inl rfl
  | sync =>
      rw [(sync_leads w).world.state_eq]
      exact .inl rfl
  | ending hends hnone hending => exact .inr ⟨hends, hnone, hending⟩
  | _ => exact .inl rfl

/-- **An ending stays.** -/
theorem Changes.ending_kept (h : Changes P E ends w w') (hw : w.state.ending.holds = true) :
    w'.state.ending = w.state.ending := by
  refine h.preserves (I := fun v => v.state.ending = w.state.ending) (fun v v' hc hv => ?_) rfl
  rcases hc.ending_cases with h | ⟨-, hnone, -⟩
  · exact h.trans hv
  · rw [hv, hw] at hnone
    cases hnone

/-- Where the game cannot come to an ending, it does not. -/
theorem Changes.ending_eq (h : Changes P E False w w') : w'.state.ending = w.state.ending := by
  refine h.preserves (I := fun v => v.state.ending = w.state.ending) (fun v v' hc hv => ?_) rfl
  rcases hc.ending_cases with h | ⟨hends, -⟩
  · exact h.trans hv
  · exact hends.elim

/-! ### The first ending -/

/-- In the world the conditions are found to hold, or not to hold. -/
def Finds (w : World) (conditions : Value) (holds : Bool) : Prop :=
  ((checkConditions conditions [] false).runFrom w).1 = .ok holds

/-- Of some endings this is the first one whose conditions hold in the world. -/
def FirstEnding (w : World) (endings : List Value) (e : Value) : Prop :=
  ∃ before after, endings = before ++ e :: after ∧
    (∀ e' ∈ before, ∃ c, e'.field "conditions" = .ok c ∧ w.Finds c false) ∧
    ∃ c, e.field "conditions" = .ok c ∧ w.Finds c true

/-- The ending is that of the first declared one whose conditions hold in the world: its id, or else
its node. -/
def Reaches (w : World) (ending : Value) : Prop :=
  ∃ endings e id node, w.book.endings.elements = .ok endings ∧ w.FirstEnding endings e ∧
    e.field "id" = .ok id ∧ e.field "node" = .ok node ∧
    ending = (id.orElse node).orElse (.str "ending")

end World

/-- The conditions of no ending of the book use chance. -/
def Book.EndingsAvoidChance (book : Book) : Prop :=
  ∀ endings, book.endings.elements = .ok endings → ∀ e ∈ endings, ∀ c,
    e.field "conditions" = .ok c → c.conditionsAvoidChance = true

namespace Play

/-- What conditions without chance are found to be after looking, they were before. -/
theorem finds_of_idle (h : Idle s w) {c : Value} (hc : c.conditionsAvoidChance = true)
    {holds : Bool} (hrun : (checkConditions c [] false).runFrom w = (.ok holds, w')) :
    s.Finds c holds := by
  have hstate : w.state = { s.state with flags := w.state.flags, journal := w.state.journal } := by
    rw [h.state_eq]
  have hflags : Like s.state.flags w.state.flags := .of_eq (by rw [h.state_eq])
  have htwins : Twins s (fun _ _ => True) s w :=
    ⟨⟨rfl, rfl, rfl⟩, h.settings_eq, h.book_eq, hflags, trivial, hstate⟩
  have hpaired := (checkConditions_twins Journal.keptByLines_true htwins hc [] false).paired
  rw [hrun] at hpaired
  unfold Finds
  cases hr : ((checkConditions c [] false).runFrom s).1 with
  | ok holds' =>
      rw [hr] at hpaired
      cases hpaired with
      | ok h => rw [h]
  | error e =>
      rw [hr] at hpaired
      cases hpaired with
      | left h => exact h.elim

/-- The ending that is found is the first one whose conditions hold in the world before looking. -/
theorem firstEnding_first {endings : List Value}
    (havoid : ∀ e ∈ endings, ∀ c, e.field "conditions" = .ok c → c.conditionsAvoidChance = true)
    (h : Idle s w) :
    Leads Idle w (firstEnding (fun c => checkConditions c [] false) endings) fun found _ =>
      ∀ e, found = some e → s.FirstEnding endings e := by
  -- the worlds in which the endings are tried differ from the first one by looking only
  induction endings generalizing w with
  | nil => exact .pure (by simp)
  | cons e₀ endings ih =>
      have ⟨hfirst, hrest⟩ := List.forall_mem_cons.1 havoid
      refine .lift_bind fun c hc => (checkConditions_idle c [] false).with_run.bind ?_
      intro holds w₁ h₁ hrun
      have hfinds : s.Finds c holds := finds_of_idle h (hfirst c hc) hrun.1
      cases holds with
      | true =>
          refine .pure fun e he => ?_
          cases he
          exact ⟨[], endings, rfl, by simp, c, hc, hfinds⟩
      | false =>
          refine (ih hrest (h.trans h₁)).mono (fun _ h => h) fun found _ _ hfound e he => ?_
          obtain ⟨before, after, rfl, hbefore, hthis⟩ := hfound e he
          exact ⟨e₀ :: before, after, rfl, List.forall_mem_cons.2 ⟨⟨c, hc, hfinds⟩, hbefore⟩, hthis⟩

/-- Looking for an ending comes to the first one, or to none. -/
theorem checkEndings_reaches (havoid : s.book.EndingsAvoidChance) :
    Leads (fun s w' => w'.state.ending = s.state.ending ∨ s.Reaches w'.state.ending) s
      (checkEndings onwards) fun _ _ => True := by
  have hfind : Leads Idle s (findEnding s.book.endings s.state.ending
      fun c => checkConditions c [] false) fun found _ => ∀ e, found = some e →
        ∃ endings, s.book.endings.elements = .ok endings ∧ s.FirstEnding endings e := by
    unfold findEnding
    split
    · exact .pure (by simp)
    · refine .lift_bind fun endings hendings => ?_
      refine (firstEnding_first (havoid endings hendings) (.refl s)).mono (fun _ h => h) ?_
      exact fun found _ _ hfound e he => ⟨endings, hendings, hfound e he⟩
  unfold checkEndings
  refine .of_to <| .book_bind <| .state_bind <| hfind.bind_to (fun w₁ h₁ => ?_) ?_
  · exact .inl (by rw [h₁.state_eq])
  intro found w₁ h₁ hfound
  have hnone : w₁.state.ending = s.state.ending ∨ s.Reaches w₁.state.ending :=
    .inl (by rw [h₁.state_eq])
  cases found with
  | none => exact .of_runFrom (runFrom_pure () w₁) hnone fun _ _ => trivial
  | some e =>
      obtain ⟨endings, hendings, hfirst⟩ := hfound e rfl
      refine .lift_bind_of hnone fun node hnode => .lift_bind_of hnone fun id hid => ?_
      refine .modifyState_bind ?_
      have hreached : s.Reaches ((id.orElse node).orElse (.str "ending")) :=
        ⟨endings, e, id, node, hendings, hfirst, hid, hnode, rfl⟩
      generalize (id.orElse node).orElse (.str "ending") = reached at hreached ⊢
      -- entering the node of the ending leaves the ending as it is
      split
      · have hgoto : Leads (Changes (fun _ => True) (fun _ => True) False) (w₁.withEnding reached)
            (do onwards.goto node; sync) fun _ _ => True :=
          ((onwards_changes Operation.admits_true).goto _ node
            (Operation.book_has_true _)).bind fun _ _ _ _ => sync_changes
        refine hgoto.mono (fun w' h => .inr ?_) fun _ _ _ _ => trivial
        rw [h.ending_eq]
        exact hreached
      · exact .of_runFrom (runFrom_pure () _) (.inr hreached) fun _ _ => trivial

/-- **What an action comes to is the first ending after its sync.**  It comes to none when it is
refused or fails before. -/
theorem acting_reaches {m : Play Bool} (havoid : w.book.EndingsAvoidChance)
    (hm : Leads (Changes (fun _ => True) (fun _ => True) False) w m fun _ _ => True) :
    Leads (fun w w' => w'.state.ending = w.state.ending ∨ ∃ v s, m.runFrom w = (.ok true, v) ∧
      sync.runFrom v = (.ok (), s) ∧ s.Reaches w'.state.ending) w (acting m) fun _ _ => True := by
  refine .of_to <| hm.with_run.bind_to (fun v hv => .inl hv.ending_eq) fun accepted v hv hrun => ?_
  have hnone : v.state.ending = w.state.ending := hv.ending_eq
  cases accepted with
  | false => exact .of_runFrom (runFrom_pure false v) (.inl hnone) fun _ _ => trivial
  | true =>
      have hsync : Leads (Changes (fun _ => True) (fun _ => True) False) v sync fun _ s =>
          sync.runFrom v = (.ok (), s) ∧ True := sync_changes.with_run
      have hafter : Leads (fun _ w' => w'.state.ending = w.state.ending ∨ ∃ v s,
          m.runFrom w = (.ok true, v) ∧ sync.runFrom v = (.ok (), s) ∧ s.Reaches w'.state.ending)
          v afterAction fun _ _ => True := by
        refine hsync.bind_to (fun s hs => .inl (hs.ending_eq.trans hnone)) fun _ s hs hrun' => ?_
        have hbook : s.book = w.book := hs.book_eq.trans hv.book_eq
        refine (checkEndings_reaches (hbook ▸ havoid)).mono (fun w' h => ?_) fun _ _ _ _ => trivial
        rcases h with h | h
        · exact .inl (h.trans (hs.ending_eq.trans hnone))
        · exact .inr ⟨v, s, hrun.1, hrun'.1, h⟩
      refine hafter.bind_to (fun w' h => h) fun _ w' h _ => ?_
      exact .of_runFrom (runFrom_pure true w') h fun _ _ => trivial

end Play

/-! ### Runs of actions -/

namespace Operation

/-- What an action does before what follows every action. -/
def body : Operation → Play Bool
  | choose choice => takeChoice choice
  | chooseAt place => takeAt place
  | buy shop item => takeEntry shop item
  | useItem item => consume item
  | advanceDay days => do passDays onwards days; return true
  | op => op.run

variable {op : Operation}

/-- An action is its body and what follows every action. -/
theorem run_eq_acting (hop : op.IsAction) : op.run = acting op.body := by
  cases op with
  | load _ => exact hop.elim
  | reset => exact hop.elim
  | restore _ => exact hop.elim
  | advanceDay days => simp [run, body, acting, Play.advanceDay]
  | _ => rfl

/-- The body of an action makes changes only, and comes to no ending. -/
theorem body_changes (hop : op.IsAction) :
    Leads (Changes (fun _ => True) (fun _ => True) ends) w op.body fun _ _ => True := by
  have hP := admits_true
  have hbook := book_has_true w.book
  cases op with
  | load _ => exact hop.elim
  | reset => exact hop.elim
  | restore _ => exact hop.elim
  | choose choice => exact (takeChoice_changes hP trivial (.refl w) hbook).trivial
  | chooseAt place => exact (takeAt_changes hP place hbook).trivial
  | buy shop item => exact (takeEntry_changes hP shop item hbook).trivial
  | useItem item => exact (consume_changes hP item hbook).trivial
  | advanceDay days =>
      refine (passDays_changes hP (onwards_changes hP) days hbook).bind fun _ _ _ _ => ?_
      exact .pure trivial

end Operation

namespace World

/-- The day is an integer, and what stands for an ending is one or null. -/
def IsDated (w : World) : Prop :=
  (∃ k : Int, w.state.day = .int k) ∧ (w.state.ending = .null ∨ w.state.ending.holds = true)

theorem Change.isDated (h : Change P E ends w w') (hw : w.IsDated) : w'.IsDated := by
  obtain ⟨⟨k, hk⟩, hending⟩ := hw
  obtain ⟨k', hk', -⟩ := h.day_le hk
  refine ⟨⟨k', hk'⟩, ?_⟩
  rcases h.ending_cases with h | ⟨-, -, hends⟩
  · rw [h]
    exact hending
  · exact .inr hends

theorem invariant_isDated (book : Book) : Invariant book IsDated where
  start _ hs := ⟨⟨1, hs.day⟩, .inl hs.ending⟩
  change _ h hw := h.isDated hw
  resume {v w s} _ _ _ hv hs := by
    change (∃ k : Int, s.day = .int k) ∧ (s.ending = .null ∨ s.ending.holds = true)
    rw [hs.day, hs.ending]
    exact hv

end World

/-- **Days, endings and the first ending in every run of actions**, wherever in a game it starts.
Days are never taken back, an ending stays, and when an action comes to an ending then it is the
first one whose conditions hold in the world that its closing sync has left. -/
theorem GameOf.plays {document : Value} (h : GameOf document w)
    (hplays : w.Plays (fun _ => True) w') :
    (∃ k k' : Int, w.state.day = .int k ∧ w'.state.day = .int k' ∧ k ≤ k') ∧
      (w.state.ending ≠ .null → w'.state.ending = w.state.ending) ∧
      ∀ op : Operation, op.IsAction → w'.book.EndingsAvoidChance → w'.state.ending = .null →
        (op.run.runFrom w').2.state.ending ≠ .null →
          ∃ v s, op.body.runFrom w' = (.ok true, v) ∧ sync.runFrom v = (.ok (), s) ∧
            s.Reaches (op.run.runFrom w').2.state.ending := by
  obtain ⟨book, hbook⟩ := h.exists_book
  obtain ⟨-, ⟨k, hk⟩, hending⟩ := h.holds (invariant_isDated book) hbook
  have hchanges := hplays.changes Operation.admits_true (Operation.book_has_true _)
  refine ⟨?_, fun hset => ?_, fun op hop havoid hnone hset => ?_⟩
  · obtain ⟨k', hk', hle⟩ := hchanges.day_le hk
    exact ⟨k, k', hk, hk', hle⟩
  · exact hchanges.ending_kept (hending.resolve_left hset)
  · have hreaches := (acting_reaches havoid (Operation.body_changes hop)).world
    rw [← Operation.run_eq_acting hop] at hreaches
    rcases hreaches with hkept | hreaches
    · exact absurd (hkept.trans hnone) hset
    · exact hreaches

/-! ### Endings without chance -/

/-- Endings without chance have conditions without chance. -/
theorem Book.Has.endingsAvoidChance {book : Book} (h : book.Has ChanceFree) :
    book.EndingsAvoidChance := fun _ hendings e he _ hc =>
  (hereditary_chanceFree.element h.endings hendings e he).conditions hc

/-- The quest after a day. -/
def questNextDay : World := ((Operation.advanceDay (.int 1)).run.runFrom quest).2

/-- The quest after the gem at the gate was taken, too. -/
def questWithThree : World := ((Operation.chooseAt (.int 0)).run.runFrom questAtGate).2

/-- On its second day the quest comes home: there are two gems, and not three.  A third one does not
change that any more. -/
theorem plays_questNextDay :
    ((GameOf questDocument quest ∧ quest.Plays (fun _ => True) questNextDay ∧
        questNextDay.state.day.eqv (.int 2) = true ∧
        ((Operation.chooseAt (.int 0)).run.runFrom questNextDay).2.state.ending.eqv
          (.str "home") = true) ∧
      (∃ k k' : Int, quest.state.day = .int k ∧ questNextDay.state.day = .int k' ∧ k ≤ k') ∧
      ∃ v s, (Operation.chooseAt (.int 0)).body.runFrom questNextDay = (.ok true, v) ∧
        sync.runFrom v = (.ok (), s) ∧
        s.Reaches ((Operation.chooseAt (.int 0)).run.runFrom questNextDay).2.state.ending) ∧
    (GameOf questDocument questAtGate ∧ questAtGate.Plays (fun _ => True) questWithThree ∧
        questAtGate.state.ending.eqv (.str "home") = true ∧
        questWithThree.Finds (.list [.str "$item.gem > 2"]) true) ∧
      questWithThree.state.ending = questAtGate.state.ending := by
  have hplays : quest.Plays (fun _ => True) questNextDay :=
    .single ⟨.advanceDay (.int 1), trivial, nofun, rfl⟩
  have hgame : GameOf questDocument questNextDay := .act trivial gameOf_quest
  have havoid : questNextDay.book.EndingsAvoidChance := by
    obtain ⟨book, hbook⟩ := hgame.exists_book
    rw [hgame.book_eq hbook]
    exact (Book.has_ofDocument hbook hereditary_chanceFree (by decide +kernel)).endingsAvoidChance
  have hhome : ((Operation.chooseAt (.int 0)).run.runFrom questNextDay).2.state.ending.eqv
      (.str "home") = true := by decide +kernel
  have hplays' : questAtGate.Plays (fun _ => True) questWithThree :=
    .single ⟨.chooseAt (.int 0), trivial, nofun, rfl⟩
  have hhome' : questAtGate.state.ending.eqv (.str "home") = true := by decide +kernel
  obtain ⟨hday, -, hreaches⟩ := gameOf_quest.plays hplays
  obtain ⟨-, hkept, -⟩ := gameOf_questAtGate.plays hplays'
  refine ⟨⟨⟨gameOf_quest, hplays, by decide +kernel, hhome⟩, hday, ?_⟩,
    ⟨gameOf_questAtGate, hplays', hhome', by unfold Finds; decide +kernel⟩, hkept ?_⟩
  · refine hreaches (.chooseAt (.int 0)) trivial havoid (eq_null_of_isNull (by decide +kernel)) ?_
    intro hnull
    rw [hnull] at hhome
    cases hhome
  · intro hnull
    rw [hnull] at hhome'
    cases hhome'

end Gamebook
