/-
**Looking at the offers of a book.**

What a player sees between two actions are the choices of the current node and the entries of its
shops.  Whether they can be taken is a matter of their conditions, which are tested quietly.  So
looking does what testing such conditions does and nothing else: it only looks, and it leaves the
world as it is where these conditions do not use chance.

Main definitions:

* `Book.Offers` — the conditions of choices and of entries of shops;
* `Book.OffersAvoidChance` — books in which these conditions do not use chance;
* `Play.Tests` — what testing these conditions leads to.

Main results:

* `Play.snapshot_leads` — taking a snapshot leads to what testing the offers leads to;
* `Play.snapshot_idle` — **taking a snapshot only looks**;
* `Play.snapshot_same` — **it leaves the world as it is** where the offers do not use chance.
-/

import Gamebook.Play.Snapshot
import Gamebook.Proofs.Formula.Chanceless
import Gamebook.Proofs.Play.Game

set_option autoImplicit false

namespace Gamebook

open Play World Value

/-! ### What a book offers -/

/-- The value is the condition of a choice of a node or of an entry of a shop. -/
inductive Book.Offers (book : Book) : Value → Prop
  | choice {id node field choice conditions : Value} {choices : List Value} :
      book.nodes.fieldAt id = .ok node → node.field "choices" = .ok field →
      field.elements = .ok choices → choice ∈ choices →
      choice.field "conditions" = .ok conditions → Offers book conditions
  | entry {id shop field entry conditions : Value} {entries : List Value} :
      book.shops.fieldAt id = .ok shop → shop.field "items" = .ok field →
      field.elements = .ok entries → entry ∈ entries →
      entry.field "conditions" = .ok conditions → Offers book conditions

/-- The conditions of no choice and of no entry of a shop use chance. -/
def Book.OffersAvoidChance (book : Book) : Prop :=
  ∀ conditions, book.Offers conditions → conditions.conditionsAvoidChance = true

/-- Whether the conditions of a record do not use chance. -/
def Value.conditionAvoidsChance (fields : Fields Value) : Bool :=
  conditionsAvoidChance (ofOption (fields.get? "conditions"))

/-- The conditions of no record in the value use chance. -/
def Value.ConditionsWithoutChance (v : Value) : Prop := everyRecord conditionAvoidsChance v = true

instance : DecidablePred Value.ConditionsWithoutChance := fun v =>
  inferInstanceAs (Decidable (everyRecord conditionAvoidsChance v = true))

/-- The offers of a document without chance in its conditions do not use chance. -/
theorem Book.offersAvoidChance_ofDocument {document : Value} {book : Book}
    (h : ofDocument document = .ok book) (hdocument : document.ConditionsWithoutChance) :
    book.OffersAvoidChance := by
  have hinherit : Hereditary ConditionsWithoutChance := hereditary_everyRecord _ rfl
  have hbook : book.Has ConditionsWithoutChance := has_ofDocument h hinherit hdocument
  have hfound : ∀ {v w : Value}, v.ConditionsWithoutChance → v.field "conditions" = .ok w →
      w.conditionsAvoidChance = true := by
    intro v w hv hw
    obtain ⟨fields, hfields, rfl⟩ := exists_of_field_eq hw
    exact (everyRecord_fields hv hfields).1
  rintro conditions (⟨hnode, hfield, hchoices, hmem, hconditions⟩ |
    ⟨hshop, hfield, hentries, hmem, hconditions⟩)
  · have hfield := hinherit.field (hinherit.fieldAt hbook.nodes hnode) hfield
    exact hfound (hinherit.element hfield hchoices _ hmem) hconditions
  · have hfield := hinherit.field (hinherit.fieldAt hbook.shops hshop) hfield
    exact hfound (hinherit.element hfield hentries _ hmem) hconditions

/-! ### Parts that may be missing -/

/-- What a record or its default has is in the record, or missing. -/
theorem Value.field_orElse_cases {v w : Value} {k : Key}
    (h : (v.orElse (.obj [])).field k = .ok w) : v.field k = .ok w ∨ w = .null := by
  rcases v.orElse_eq (.obj []) with hv | hv
  · exact .inl (hv ▸ h)
  · rw [hv] at h
    cases h
    exact .inr rfl

/-- An element of a list or its default is in the list. -/
theorem Value.elements_orElse {v w : Value} {vs : List Value}
    (h : (v.orElse (.list [])).elements = .ok vs) (hw : w ∈ vs) : v.elements = .ok vs := by
  rcases v.orElse_eq (.list []) with hv | hv
  · exact hv ▸ h
  · rw [hv] at h
    cases h
    cases hw

/-- An element of a part of a record, or of the defaults for both, is in that part. -/
theorem Value.exists_part {v part w : Value} {k : Key} {vs : List Value}
    (hpart : (v.orElse (.obj [])).field k = .ok part)
    (hvs : (part.orElse (.list [])).elements = .ok vs) (hw : w ∈ vs) :
    v.field k = .ok part ∧ part.elements = .ok vs := by
  have helements := elements_orElse hvs hw
  refine ⟨(field_orElse_cases hpart).resolve_right ?_, helements⟩
  rintro rfl
  cases helements

namespace World

variable {w : World}

/-- The current node; an unknown one is empty. -/
def currentNode (w : World) : Except Fault Value := do
  return (← w.book.nodes.fieldAt w.state.node).orElse (.obj [])

/-- The choices of the current node. -/
def choices (w : World) : Except Fault (List Value) := do
  ((← (← w.currentNode).field "choices").orElse (.list [])).elements

/-- A choice of the current node is one of a node of the book. -/
theorem exists_node_of_choice {choices : List Value} {choice : Value}
    (hchoices : w.choices = .ok choices) (hmem : choice ∈ choices) :
    ∃ node field, w.book.nodes.fieldAt w.state.node = .ok node ∧
      w.currentNode = .ok (node.orElse (.obj [])) ∧
      (node.orElse (.obj [])).field "choices" = .ok field ∧
      node.field "choices" = .ok field ∧ field.elements = .ok choices := by
  obtain ⟨node, hnode, hchoices⟩ := exists_of_bind_eq_ok hchoices
  obtain ⟨field, hfield, helements⟩ := exists_of_bind_eq_ok hchoices
  obtain ⟨stored, hstored, hstands⟩ := exists_of_bind_eq_ok hnode
  cases hstands
  obtain ⟨hpart, helements⟩ := exists_part hfield helements hmem
  exact ⟨stored, field, hstored, hnode, hfield, hpart, helements⟩

/-- The conditions of the choices of the current node are among the offers. -/
theorem offers_of_choice {choices : List Value} {choice conditions : Value}
    (hchoices : w.choices = .ok choices) (hmem : choice ∈ choices)
    (hconditions : choice.field "conditions" = .ok conditions) : w.book.Offers conditions := by
  obtain ⟨node, field, hnode, _, _, hpart, helements⟩ := exists_node_of_choice hchoices hmem
  exact .choice hnode hpart helements hmem hconditions

end World

namespace Play

variable {R : World → World → Prop} {w w' : World}

theorem runFrom_currentNode (w : World) : currentNode.runFrom w = (w.currentNode, w) := by
  have hrun : currentNode.runFrom w = (liftM (w.book.nodes.fieldAt w.state.node) >>= fun node =>
      (pure (node.orElse (.obj [])) : Play Value)).runFrom w := rfl
  rw [hrun, runFrom_bind, runFrom_liftM, World.currentNode]
  cases w.book.nodes.fieldAt w.state.node <;> rfl

/-! ### What looking leads to -/

/-- Testing the offers of the book leads along the relation, and leaves the book as it is. -/
structure Tests (R : World → World → Prop) (book : Book) : Prop where
  book_eq : ∀ w w', R w w' → w'.book = w.book
  conditions : ∀ w, w.book = book → ∀ conditions, book.Offers conditions →
    Leads R w (checkConditions conditions [] true) fun _ _ => True

section

variable [Std.Refl R] [IsTrans World R]

/-- Showing the choices of the current node leads to what testing the offers leads to, and each of
them is shown as it was in between. -/
theorem currentChoices_leads (h : Tests R w.book) : Leads R w currentChoices fun views _ =>
    ∃ ending choices, w.choices = .ok choices ∧
      List.Forall₂ (fun choice view => ∃ v v', R w v ∧
        (choiceView ending choice).runFrom v = (.ok view, v')) choices views := by
  unfold currentChoices
  refine (Leads.of_runFrom (Q := fun node w' => w.currentNode = .ok node ∧ w' = w)
    (runFrom_currentNode w) (Std.Refl.refl w) fun node hnode => ⟨hnode, rfl⟩).bind
      fun node w₁ _ hnode => ?_
  obtain ⟨hnode, rfl⟩ := hnode
  refine .lift_bind fun ending _ => .lift_bind fun field hfield => ?_
  refine .lift_bind fun choices helements => ?_
  have hchoices : w₁.choices = .ok choices := by
    rw [World.choices, hnode]
    change (node.field "choices" >>= fun field => (field.orElse (.list [])).elements) = _
    rw [hfield]
    exact helements
  refine (Leads.mapM fun choice hmem w₂ hw₂ => ?_).mono (fun _ h => h)
    fun views _ _ hviews => ⟨ending, choices, hchoices, hviews⟩
  have hview : Leads R w₂ (choiceView ending choice) fun _ _ => True := by
    unfold choiceView
    refine .lift_bind fun text _ => ?_
    split
    · exact .pure trivial
    refine .lift_bind fun conditions hconditions => ?_
    exact (h.conditions w₂ (h.book_eq _ _ hw₂) conditions
      (offers_of_choice hchoices hmem hconditions)).bind fun _ _ _ _ => .pure trivial
  exact hview.with_run.mono (fun _ h => h) fun view w₃ _ hrun => ⟨w₂, w₃, hw₂, hrun.1⟩

/-- So does showing a shop. -/
theorem shopView_leads (h : Tests R w.book) (id : Value) :
    Leads R w (shopView? id) fun _ _ => True := by
  unfold shopView?
  refine .book_bind <| .lift_bind fun shop hshop => ?_
  split
  · exact .pure trivial
  refine .lift_bind fun name _ => .lift_bind fun field hfield => ?_
  refine .lift_bind fun entries hentries => ?_
  refine (Leads.mapM (P := fun _ _ => True) fun entry hmem w₁ hw₁ => ?_).bind
    fun views w₁ _ _ => .pure trivial
  unfold shopEntryView
  refine .lift_bind fun entryId _ => .book_bind <| .lift_bind fun entryName _ => ?_
  refine .lift_bind fun price _ => .lift_bind fun conditions hconditions => ?_
  have hoffers : w.book.Offers conditions :=
    .entry hshop hfield (elements_orElse hentries hmem) hmem hconditions
  exact (h.conditions w₁ (h.book_eq _ _ hw₁) conditions hoffers).bind fun _ _ _ _ => .pure trivial

/-- **Taking a snapshot leads to what testing the offers leads to**, and it shows the choices as
they were in between. -/
theorem snapshot_leads (h : Tests R w.book) : Leads R w snapshot fun view _ =>
    ∃ v v', R w v ∧ currentChoices.runFrom v = (.ok view.node.choices, v') := by
  have hagain : ∀ {w'}, R w w' → Tests R w'.book := fun hR => h.book_eq _ _ hR ▸ h
  unfold snapshot
  refine (Leads.of_runFrom (Q := fun _ _ => True) (runFrom_currentNode w) (Std.Refl.refl w)
    fun _ _ => trivial).bind fun node w₁ h₁ _ => ?_
  refine .lift_bind fun field _ => .lift_bind fun ids _ => ?_
  refine (Leads.filterMapM (P := fun _ => True) fun id _ w₂ h₂ => ?_).bind fun shops w₂ h₂ _ => ?_
  · exact (shopView_leads (hagain (IsTrans.trans _ _ _ h₁ h₂)) id).mono (fun _ h => h) (by simp)
  have hw₂ : R w w₂ := IsTrans.trans _ _ _ h₁ h₂
  have hnode : Leads R w₂ (nodeView node) fun view _ =>
      ∃ v', currentChoices.runFrom w₂ = (.ok view.choices, v') := by
    unfold nodeView
    refine .lift_bind fun title _ => .lift_bind fun text _ => .state_bind ?_
    refine .lift_bind fun ending _ => ?_
    exact (currentChoices_leads (hagain hw₂)).with_run.bind fun _ v' _ hrun => .pure ⟨v', hrun.1⟩
  refine .book_bind <| .lift_bind fun title _ => hnode.bind fun view w₃ _ hview => .state_bind ?_
  obtain ⟨v', hrun⟩ := hview
  refine .book_bind <| .lift_bind fun held _ => .lift_bind fun capacity _ => ?_
  refine .lift_bind fun count _ => ?_
  refine (Leads.mapM (P := fun _ _ => True) fun i _ w₄ _ => ?_).bind
    fun _ _ _ _ => .pure ⟨w₂, v', hw₂, hrun⟩
  unfold buffView
  exact .book_bind <| .lift_bind fun description _ => .pure trivial

end

/-! ### Looking only looks -/

theorem tests_idle (book : Book) : Tests Idle book where
  book_eq _ _ h := h.book_eq
  conditions _ _ conditions _ := checkConditions_idle conditions [] true

/-- **Taking a snapshot only looks.** -/
theorem snapshot_idle : Leads Idle w snapshot fun _ _ => True :=
  (snapshot_leads (tests_idle w.book)).trivial

/-! ### Looking without chance -/

/-- Quietly tested, conditions that do not use chance leave the world as it is. -/
theorem allHold_quiet {cs : List Value}
    (hcs : ∀ c ∈ cs, Formula.avoids [] Formula.chanceCalls c = true) (extra : Fields Value)
    (w : World) : Leads Eq w (allHold extra true cs) fun _ _ => True := by
  induction cs with
  | nil => exact .pure trivial
  | cons c cs ih =>
      obtain ⟨hc, hrest⟩ := List.forall_mem_cons.1 hcs
      have hevaluate : Leads Eq w (evaluate c extra true) fun _ _ => True :=
        ⟨(evaluate_quiet hc extra w).symm, fun _ _ => trivial⟩
      refine hevaluate.bind fun v w' hw' _ => .lift_bind fun b _ => ?_
      subst hw'
      split
      · exact ih hrest
      · exact .pure trivial

theorem checkConditions_quiet {conditions : Value}
    (hconditions : conditions.conditionsAvoidChance = true) (extra : Fields Value) (w : World) :
    Leads Eq w (checkConditions conditions extra true) fun _ _ => True := by
  unfold checkConditions
  split
  · exact .pure trivial
  · cases conditions with
    | list cs => exact allHold_quiet (List.all_eq_true.1 hconditions) extra w
    | _ =>
        refine allHold_quiet ?_ extra w
        exact List.forall_mem_singleton.2 hconditions

theorem tests_same {book : Book} (h : book.OffersAvoidChance) : Tests Eq book where
  book_eq _ _ h := h ▸ rfl
  conditions w _ conditions hconditions := checkConditions_quiet (h conditions hconditions) [] w

/-- **Taking a snapshot leaves the world as it is** where the offers do not use chance. -/
theorem snapshot_same (h : w.book.OffersAvoidChance) : (snapshot.runFrom w).2 = w :=
  (snapshot_leads (tests_same h)).world.symm

end Play

end Gamebook
