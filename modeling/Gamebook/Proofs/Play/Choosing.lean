/-
**Choices that are shown as available can be taken.**

Whether a choice is available is found out more than once: quietly when it is shown, quietly again
when its place is looked up, and aloud when it is taken.  Where the conditions of the choices do not
use chance, all of these find the same, and finding it leaves the world as it is.  So the choices
that are shown as available are those that can be taken.

Main definitions:

* `Book.ChoicesAreFilled` — books in which all choices are objects with fields;
* `Play.followChoice`, `Play.carryOut` — carrying a choice out without testing its conditions.

Main results:

* `Play.exists_carryOut` — **the place of an available choice takes that choice**;
* `Play.chooseIndex_refused` — any other place is refused, and the world stays as it is;
* `Play.result_carryOut` — carrying out a choice is not refused.
-/

import Gamebook.Proofs.Play.Looking

set_option autoImplicit false

namespace Gamebook

open Play World Value

/-- The choices of the nodes are objects with fields. -/
def Book.ChoicesAreFilled (book : Book) : Prop :=
  ∀ id node field choices choice, book.nodes.fieldAt id = .ok node →
    node.field "choices" = .ok field → field.elements = .ok choices → choice ∈ choices →
    ∃ part fields, choice = .obj (part :: fields)

/-- Whether the choices of a record are objects with fields. -/
def Value.choicesAreFilled (fields : Fields Value) : Bool :=
  match (ofOption (fields.get? "choices")).elements with
  | .ok choices => choices.all fun | .obj (_ :: _) => true | _ => false
  | .error _ => true

/-- The choices of a document are filled when those of all its records are. -/
theorem Book.choicesAreFilled_ofDocument {document : Value} {book : Book}
    (h : ofDocument document = .ok book)
    (hdocument : everyRecord Value.choicesAreFilled document = true) : book.ChoicesAreFilled := by
  have hinherit := hereditary_everyRecord Value.choicesAreFilled rfl
  have hbook := has_ofDocument h hinherit hdocument
  intro id node field choices choice hnode hfield hchoices hmem
  obtain ⟨fields, hfields, rfl⟩ := exists_of_field_eq hfield
  have htest := (everyRecord_fields (hinherit.fieldAt hbook.nodes hnode) hfields).1
  simp only [Value.choicesAreFilled, hchoices, List.all_eq_true] at htest
  have hfilled := htest choice hmem
  split at hfilled
  · exact ⟨_, _, rfl⟩
  · cases hfilled

namespace Play

variable {w w' : World} {views : List ChoiceView} {choices : List Value} {view : ChoiceView}
  {choice conditions : Value}

/-! ### Testing aloud -/

/-- Conditions without chance that hold quietly hold aloud, too, and leave the world as it is. -/
theorem allHold_aloud {cs : List Value}
    (hcs : ∀ c ∈ cs, Formula.avoids [] Formula.chanceCalls c = true) {extra : Fields Value}
    (h : (allHold extra true cs).runFrom w = (.ok true, w')) (quiet : Bool) :
    (allHold extra quiet cs).runFrom w = (.ok true, w) := by
  induction cs with
  | nil => rfl
  | cons c cs ih =>
      obtain ⟨hc, hrest⟩ := List.forall_mem_cons.1 hcs
      obtain ⟨v, w₁, hv, h⟩ := runFrom_bind_eq_ok h
      obtain ⟨b, hb, h⟩ := runFrom_lift_bind_eq_ok h
      have hholds : b = true := by
        cases b with
        | true => rfl
        | false => cases h
      subst hholds
      rcases evaluate_chanceless hc extra w with ⟨r, hr⟩ | hzero
      · -- the formula is worth the same, whether it is evaluated quietly or not
        obtain ⟨rfl, rfl⟩ := Prod.mk.inj ((hr true).symm.trans hv)
        refine (runFrom_bind_ok (hr quiet)).trans ?_
        exact (runFrom_bind_ok (runFrom_liftM_ok hb w)).trans (ih hrest h)
      · -- a formula that fails is worth zero, so the condition does not hold
        cases hzero.symm.trans hv
        cases hb

theorem checkConditions_aloud (hconditions : conditions.conditionsAvoidChance = true)
    {extra : Fields Value}
    (h : (checkConditions conditions extra true).runFrom w = (.ok true, w')) (quiet : Bool) :
    (checkConditions conditions extra quiet).runFrom w = (.ok true, w) := by
  unfold checkConditions at h ⊢
  split
  · rfl
  · rename_i hholds
    rw [if_neg hholds] at h
    cases conditions with
    | list cs => exact allHold_aloud (List.all_eq_true.1 hconditions) h quiet
    | _ =>
        refine allHold_aloud ?_ h quiet
        exact List.forall_mem_singleton.2 hconditions

/-! ### What is shown -/

/-- The choices are shown as they are in the world. -/
theorem exists_choices (h : w.book.OffersAvoidChance)
    (hshown : currentChoices.runFrom w = (.ok views, w')) :
    w' = w ∧ ∃ ending choices, w.choices = .ok choices ∧
      List.Forall₂ (fun choice view => ∃ v', (choiceView ending choice).runFrom w = (.ok view, v'))
        choices views := by
  have hleads := currentChoices_leads (tests_same h)
  refine ⟨(hleads.world_of_run hshown).symm, ?_⟩
  obtain ⟨ending, choices, hchoices, hviews⟩ := hleads.result_of_run hshown
  refine ⟨ending, choices, hchoices, hviews.imp fun _ _ hview => ?_⟩
  obtain ⟨v, v', rfl, hrun⟩ := hview
  exact ⟨v', hrun⟩

/-- A snapshot shows the choices as they are in the world. -/
theorem choices_of_snapshot (h : w.book.OffersAvoidChance) {shown : Snapshot}
    (hshown : snapshot.runFrom w = (.ok shown, w')) :
    currentChoices.runFrom w = (.ok shown.node.choices, w) := by
  obtain ⟨v, v', rfl, hrun⟩ := (snapshot_leads (tests_same h)).result_of_run hshown
  obtain ⟨rfl, -⟩ := exists_choices h hrun
  exact hrun

/-- The conditions of a choice that is shown as available hold. -/
theorem exists_conditions_of_enabled {ending : Bool}
    (hview : (choiceView ending choice).runFrom w = (.ok view, w'))
    (henabled : view.enabled = true) : ∃ conditions, choice.field "conditions" = .ok conditions ∧
      (checkConditions conditions [] true).runFrom w = (.ok true, w') := by
  unfold choiceView at hview
  obtain ⟨text, -, hview⟩ := runFrom_lift_bind_eq_ok hview
  cases ending with
  | true =>
      cases hview
      cases henabled
  | false =>
      obtain ⟨conditions, hconditions, hview⟩ := runFrom_lift_bind_eq_ok hview
      obtain ⟨holds, w₃, hholds, hview⟩ := runFrom_bind_eq_ok hview
      cases hview
      cases henabled
      exact ⟨conditions, hconditions, hholds⟩

/-! ### Carrying a choice out -/

/-- What a choice does: its check if it has one, its effects and its node otherwise. -/
def followChoice (choice : Value) : Play Unit := do
  let check ← choice.field "check"
  if check.holds then
    let _ ← resolveCheck onwards check
  else
    followBranch onwards choice []

/-- **Carries a choice out**, without a look at its conditions. -/
def carryOut (choice : Value) : Play Bool := acting do
  followChoice choice
  return true

/-- Carrying out a choice is not refused: it ends with the answer that it was carried out, or with a
fault. -/
theorem result_carryOut {accepted : Bool}
    (h : (carryOut choice).runFrom w = (.ok accepted, w')) : accepted = true := by
  obtain ⟨a, w₁, ha, h⟩ := runFrom_bind_eq_ok h
  obtain ⟨_, w₂, _, ha⟩ := runFrom_bind_eq_ok ha
  cases ha
  obtain ⟨_, w₃, _, h⟩ := runFrom_bind_eq_ok h
  cases h
  rfl

/-- A choice whose conditions hold is carried out when it is taken. -/
theorem runFrom_choose (hfilled : choice.holds = true)
    (hconditions : choice.field "conditions" = .ok conditions)
    (hholds : (checkConditions conditions [] false).runFrom w = (.ok true, w)) :
    (choose choice).runFrom w = (carryOut choice).runFrom w := by
  have htake : (takeChoice choice).runFrom w =
      (do followChoice choice; return true : Play Bool).runFrom w := by
    unfold takeChoice
    simp only [hfilled, Bool.not_true, Bool.false_eq_true, if_false]
    refine (runFrom_bind_ok (runFrom_liftM_ok hconditions w)).trans ?_
    refine (runFrom_bind_ok hholds).trans ?_
    unfold followChoice
    simp only [runFrom_bind, runFrom_liftM, Bool.not_true, Bool.false_eq_true, if_false]
    cases choice.field "check" with
    | error e => rfl
    | ok check =>
        dsimp only
        split
        · simp only [runFrom_bind]
          rcases (resolveCheck onwards check).runFrom w with ⟨_ | _, _⟩ <;> rfl
        · simp only [runFrom_bind]
  unfold choose carryOut acting
  rw [runFrom_bind, htake, ← runFrom_bind]

/-! ### Places -/

/-- The place of an available choice takes that choice. -/
theorem runFrom_takeIndex (hshown : currentChoices.runFrom w = (.ok views, w))
    (hchoices : w.choices = .ok choices) {place : Nat} (hview : views[place]? = some view)
    (henabled : view.enabled = true) (hchoice : choices[place]? = some choice) :
    (takeIndex place).runFrom w = (takeChoice choice).runFrom w := by
  obtain ⟨node, field, _, hnode, hfield, _, helements⟩ :=
    exists_node_of_choice hchoices (List.mem_of_getElem? hchoice)
  have hcurrent : currentNode.runFrom w = (.ok (node.orElse (.obj [])), w) := by
    rw [runFrom_currentNode, hnode]
  unfold takeIndex
  refine (runFrom_bind_ok hshown).trans ?_
  rw [if_neg (by omega), Int.toNat_natCast, hview]
  simp only [henabled, Bool.not_true, Bool.false_eq_true, if_false]
  refine (runFrom_bind_ok hcurrent).trans ?_
  refine (runFrom_bind_ok (runFrom_liftM_ok hfield w)).trans ?_
  refine (runFrom_bind_ok (runFrom_liftM_ok helements w)).trans ?_
  rw [hchoice]
  rfl

/-- **The place of an available choice takes that choice**: it is carried out. -/
theorem exists_carryOut (h : w.book.OffersAvoidChance) (hfilled : w.book.ChoicesAreFilled)
    (hshown : currentChoices.runFrom w = (.ok views, w)) {place : Nat}
    (hview : views[place]? = some view) (henabled : view.enabled = true) :
    ∃ choices choice, w.choices = .ok choices ∧ choices[place]? = some choice ∧
      (chooseIndex place).runFrom w = (carryOut choice).runFrom w := by
  obtain ⟨-, ending, choices, hchoices, hviews⟩ := exists_choices h hshown
  obtain ⟨hplace, hat⟩ := List.getElem?_eq_some_iff.1 hview
  have hlength : choices.length = views.length := hviews.length_eq
  have hchoice : choices[place]? = some choices[place] := List.getElem?_eq_getElem (by omega)
  refine ⟨choices, choices[place], hchoices, hchoice, ?_⟩
  have hmem : choices[place] ∈ choices := List.getElem_mem _
  obtain ⟨v', hrun⟩ := hviews.get (by omega) hplace
  rw [List.get_eq_getElem, List.get_eq_getElem, hat] at hrun
  obtain ⟨conditions, hconditions, hholds⟩ := exists_conditions_of_enabled hrun henabled
  have havoids := h conditions (offers_of_choice hchoices hmem hconditions)
  obtain ⟨node, field, hnode, _, _, hfield, helements⟩ := exists_node_of_choice hchoices hmem
  obtain ⟨part, fields, hobj⟩ := hfilled _ _ _ _ _ hnode hfield helements hmem
  have hsome : choices[place].holds = true := by rw [hobj]; rfl
  rw [← runFrom_choose hsome hconditions (checkConditions_aloud havoids hholds false)]
  unfold chooseIndex choose acting
  rw [runFrom_bind, runFrom_takeIndex hshown hchoices hview henabled hchoice, ← runFrom_bind]

/-- Any other place is refused, and the world stays as it is. -/
theorem chooseIndex_refused (hshown : currentChoices.runFrom w = (.ok views, w)) {place : Nat}
    (h : ∀ view, views[place]? = some view → view.enabled = false) :
    (chooseIndex place).runFrom w = (.ok false, w) := by
  have htake : (takeIndex place).runFrom w = (.ok false, w) := by
    unfold takeIndex
    refine (runFrom_bind_ok hshown).trans ?_
    rw [if_neg (by omega), Int.toNat_natCast]
    cases hview : views[place]? with
    | none => rfl
    | some view =>
        simp only [h view hview]
        rfl
  exact runFrom_bind_ok htake

end Play

end Gamebook
