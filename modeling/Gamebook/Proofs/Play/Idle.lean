/-
**What looking leaves behind.**

Evaluating a formula uses chance and may leave a line in the journal, and computing the buffs in
effect and the derived stats may warn the author of the book.  Nothing else changes: such an action
only looks at the world.  So does everything that tests conditions or shows choices.

Main definitions:

* `World.afterIdling`, `World.Idle` — the worlds after actions that only look.

Main results:

* `Play.evaluate_idle` — **evaluating a formula only looks**;
* `Play.buffInstances_idle` — so does computing the buffs in effect, and every contribution is a
  finite number;
* `Play.derive_idle`, `Play.currentChoices_idle` — so do the derived stats and the choices.
-/

import Gamebook.Play.Action
import Gamebook.Proofs.Play.Run
import Gamebook.Proofs.Stat

set_option autoImplicit false

namespace Gamebook

/-! ### Worlds after looking -/

/-- The line that a failed formula leaves. -/
def Play.failureLine (formula : Value) : Value := .str ("Expr error: " ++ Play.sourceText formula)

/-- The journal after some formulas have failed, the first of them first. -/
def Journal.noteFailures (j : Journal) (now : Value) (failed : List Value) : Journal :=
  failed.foldl (fun j formula => j.add (Play.failureLine formula) now) j

/-- What lines keep is kept by the lines of failed formulas. -/
theorem Journal.noteFailures_of_add {Q : Journal → Prop}
    (hadd : ∀ j text now, Q j → Q (j.add text now)) {j : Journal} (h : Q j) (now : Value)
    (failed : List Value) : Q (j.noteFailures now failed) := by
  induction failed generalizing j with
  | nil => exact h
  | cons formula failed ih => exact ih (hadd j _ now h)

namespace World

/-- The world after some formulas have failed, chance has been used and warnings were given. -/
def afterIdling (w : World) (failed : List Value) (chance : Chance) (warnings : List String) :
    World :=
  { w with
    state := { w.state with journal := w.state.journal.noteFailures w.settings.now failed }
    chance
    warnings := w.warnings ++ warnings }

/-- The second world is the first one after looking only. -/
def Idle (w w' : World) : Prop :=
  ∃ (failed : List Value) (chance : Chance) (warnings : List String),
    w' = w.afterIdling failed chance warnings

theorem Idle.refl (w : World) : Idle w w :=
  ⟨[], w.chance, [], by simp [afterIdling, Journal.noteFailures]⟩

theorem Idle.trans {w w' w'' : World} (h : Idle w w') (h' : Idle w' w'') : Idle w w'' := by
  obtain ⟨failed, c, ws, rfl⟩ := h
  obtain ⟨failed', c', ws', rfl⟩ := h'
  exact ⟨failed ++ failed', c', ws ++ ws', by simp [afterIdling, Journal.noteFailures]⟩

instance : Std.Refl Idle := ⟨Idle.refl⟩

instance : IsTrans World Idle := ⟨fun _ _ _ => Idle.trans⟩

theorem Idle.withChance (w : World) (c : Chance) : Idle w { w with chance := c } :=
  ⟨[], c, [], by simp [afterIdling, Journal.noteFailures]⟩

theorem Idle.warn (w : World) (text : String) :
    Idle w { w with warnings := w.warnings ++ [text] } :=
  ⟨[], w.chance, [text], rfl⟩

theorem Idle.failure (w : World) (formula : Value) :
    Idle w { w with state := { w.state with
      journal := w.state.journal.add (Play.failureLine formula) w.settings.now } } :=
  ⟨[formula], w.chance, [], by simp [afterIdling, Journal.noteFailures]⟩

/-- Looking changes the journal of the state at most. -/
theorem Idle.state_eq {w w' : World} (h : Idle w w') :
    w'.state = { w.state with journal := w'.state.journal } := by
  obtain ⟨failed, c, ws, rfl⟩ := h
  rfl

theorem Idle.book_eq {w w' : World} (h : Idle w w') : w'.book = w.book := by
  obtain ⟨failed, c, ws, rfl⟩ := h
  rfl

theorem Idle.settings_eq {w w' : World} (h : Idle w w') : w'.settings = w.settings := by
  obtain ⟨failed, c, ws, rfl⟩ := h
  rfl

end World

namespace Play

open World

variable {w : World}

/-! ### Formulas -/

theorem runFrom_evaluate (formula : Value) (extra : Fields Value) (quiet : Bool) (w : World) :
    (evaluate formula extra quiet).runFrom w =
      match w.scope extra with
      | .error e => (.error e, w)
      | .ok scope =>
          let r := (Formula.evaluate scope formula).run.run w.chance
          let w' := { w with chance := r.2 }
          match r.1 with
          | .ok v => (.ok v, w')
          | .error (.formula _) =>
              (.ok (.int 0),
                if quiet then w' else
                  { w' with state := { w'.state with
                    journal := w'.state.journal.add (failureLine formula) w'.settings.now } })
          | .error e => (.error e, w') := by
  unfold evaluate
  rw [runFrom_bind_ok (runFrom_get w)]
  rw [runFrom_bind, runFrom_liftM]
  cases w.scope extra with
  | error e => rfl
  | ok scope =>
      dsimp only
      rw [runFrom_tryCatch, runFrom_withChance]
      rcases (Formula.evaluate scope formula).run.run w.chance with ⟨r, c⟩
      dsimp only
      cases r with
      | ok v => rfl
      | error e => cases e <;> first | rfl | (cases quiet <;> rfl)

/-- A formula that fails is worth zero. -/
theorem evaluate_of_failure {formula : Value} {extra : Fields Value} {scope : Formula.Scope}
    {e : FormulaError} (hscope : w.scope extra = .ok scope)
    (h : ((Formula.evaluate scope formula).run.run w.chance).1 = .error (.formula e))
    (quiet : Bool) : ((evaluate formula extra quiet).runFrom w).1 = .ok (.int 0) := by
  rw [runFrom_evaluate, hscope]
  dsimp only
  rw [h]

/-- **Evaluating a formula only looks.** -/
theorem evaluate_idle (formula : Value) (extra : Fields Value) (quiet : Bool) :
    Leads Idle w (evaluate formula extra quiet) fun _ _ => True := by
  refine ⟨?_, fun _ _ => True.intro⟩
  rw [runFrom_evaluate]
  cases w.scope extra with
  | error e => exact .refl w
  | ok scope =>
      dsimp only
      have hc := Idle.withChance w ((Formula.evaluate scope formula).run.run w.chance).2
      split
      · exact hc
      · split
        · exact hc
        · exact hc.trans (Idle.failure _ formula)
      · exact hc

theorem evaluator_idle (formula : Value) (extra : Fields Value) :
    Leads Idle w (evaluator formula extra) fun _ _ => True :=
  evaluate_idle formula extra false

theorem allHold_idle (extra : Fields Value) (quiet : Bool) (cs : List Value) :
    Leads Idle w (allHold extra quiet cs) fun _ _ => True := by
  induction cs generalizing w with
  | nil => exact .pure True.intro
  | cons c cs ih =>
      refine (evaluate_idle c extra quiet).bind fun v w' _ _ => ?_
      refine .lift_bind fun b _ => ?_
      split
      · exact ih
      · exact .pure True.intro

theorem checkConditions_idle (conditions : Value) (extra : Fields Value) (quiet : Bool) :
    Leads Idle w (checkConditions conditions extra quiet) fun _ _ => True := by
  unfold checkConditions
  split
  · exact .pure True.intro
  · split
    · exact allHold_idle extra quiet _
    · exact allHold_idle extra quiet _

/-! ### Buffs in effect -/

/-- The contribution is a finite number. -/
def IsFiniteInstance (i : BuffInstance) : Prop := i.value.isFiniteNumber = .ok true

theorem activeInstance_idle (buff : Value) :
    Leads Idle w (activeInstance? evaluator buff) fun i? _ =>
      ∀ i, i? = some i → IsFiniteInstance i := by
  unfold activeInstance?
  refine .lift_bind fun f _ => ?_
  refine (evaluator_idle _ _).bind fun v w' _ _ => ?_
  refine .lift_bind fun b hb => ?_
  split
  · exact .pure (by simp)
  · rename_i h
    refine .lift_bind fun id _ => .pure fun i hi => ?_
    cases hi
    rw [IsFiniteInstance, hb]
    simpa using h

theorem holdInstance_idle (item : Key) (count hold : Value) :
    Leads Idle w (holdInstance? evaluator item count hold) fun i? _ =>
      ∀ i, i? = some i → IsFiniteInstance i := by
  unfold holdInstance?
  refine .lift_bind fun f _ => ?_
  refine (evaluator_idle _ _).bind fun v w' _ _ => ?_
  refine .lift_bind fun b hb => ?_
  split
  · exact .pure (by simp)
  · rename_i h
    refine .lift_bind fun id _ => .pure fun i hi => ?_
    cases hi
    rw [IsFiniteInstance, hb]
    simp only [Bool.or_eq_true, Bool.not_eq_true', not_or, Bool.not_eq_false] at h
    rw [h.1]

theorem itemInstances_idle (item : Key) (definition : Value) :
    Leads Idle w (itemInstances evaluator item definition) fun is _ =>
      ∀ i ∈ is, IsFiniteInstance i := by
  unfold itemInstances
  refine .state_bind ?_
  refine .lift_bind fun held _ => ?_
  exact .filterMapM fun hold _ w' _ => holdInstance_idle item held.1 hold

/-- **Computing the buffs in effect only looks**, and every contribution is a finite number. -/
theorem buffInstances_idle :
    Leads Idle w (buffInstances evaluator) fun is _ => ∀ i ∈ is, IsFiniteInstance i := by
  unfold buffInstances
  refine .state_bind <| .lift_bind fun buffs _ => ?_
  refine (Leads.filterMapM fun buff _ w' _ => activeInstance_idle buff).bind
    fun active w' _ hactive => ?_
  refine .book_bind <| .lift_bind fun items _ => ?_
  refine (Leads.mapM (P := fun _ is => ∀ i ∈ is, IsFiniteInstance i)
    fun item _ w'' _ => itemInstances_idle item.1 item.2).bind fun held w'' _ hheld => .pure ?_
  intro i hi
  rcases List.mem_append.1 hi with hi | hi
  · exact hactive i hi
  · obtain ⟨is, his, hi⟩ := List.mem_flatten.1 hi
    obtain ⟨_, _, h⟩ := exists_mem_of_forall₂ hheld his
    exact h i hi

/-! ### Choices -/

theorem currentNode_idle : Leads Idle w currentNode fun _ w' => w' = w := by
  unfold currentNode
  refine .book_bind <| .state_bind <| .lift_bind fun node _ => .pure rfl

theorem choiceView_idle (ending : Bool) (choice : Value) :
    Leads Idle w (choiceView ending choice) fun _ _ => True := by
  unfold choiceView
  refine .lift_bind fun text _ => ?_
  split
  · exact .pure True.intro
  · refine .lift_bind fun conditions _ => ?_
    exact (checkConditions_idle conditions [] true).bind fun _ _ _ _ => .pure True.intro

/-- **Showing the choices of the current node only looks.** -/
theorem currentChoices_idle : Leads Idle w currentChoices fun _ _ => True := by
  unfold currentChoices
  refine currentNode_idle.bind fun node w' _ _ => ?_
  refine .lift_bind fun ending _ => .lift_bind fun field _ => .lift_bind fun choices _ => ?_
  exact (Leads.mapM (P := fun _ _ => True) fun choice _ w'' _ =>
    choiceView_idle ending choice).trivial

end Play

end Gamebook
