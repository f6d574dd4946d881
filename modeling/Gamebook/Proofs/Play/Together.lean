/-
**Two actions side by side.**

Where the first of two worlds is related to the second one, an action from the first and an action
from the second may end together: both with results, which are related as the worlds after them
are, or both with the same fault.

Main definitions:

* `Play.outcomeFrom` — the outcome of an action together with the world after it;
* `Play.Together` — two actions from two worlds that end together, strictly or loosely.

Main results:

* `Play.Together.bind` — **two actions, each followed by another one**;
* `Play.Together.foldlM`, `Play.Together.mapM`, `Play.Together.filterMapM` — the same for the
  elements of lists.
-/

import Gamebook.Proofs.Outcome
import Gamebook.Proofs.Play.Run

set_option autoImplicit false

namespace Gamebook

namespace Play

variable {α β γ δ : Type}

/-! ### Outcomes with worlds -/

/-- The outcome of an action: the result and the world after it, or the fault. -/
def outcomeFrom (m : Play α) (w : World) : Except Fault (α × World) :=
  match m.runFrom w with
  | (.ok a, w') => .ok (a, w')
  | (.error e, _) => .error e

theorem outcomeFrom_eq_ok_iff {m : Play α} {w w' : World} {a : α} :
    outcomeFrom m w = .ok (a, w') ↔ m.runFrom w = (.ok a, w') := by
  unfold outcomeFrom
  rcases m.runFrom w with ⟨_ | a', w''⟩ <;> simp

theorem outcomeFrom_bind (m : Play α) (f : α → Play β) (w : World) :
    outcomeFrom (m >>= f) w = (outcomeFrom m w >>= fun x => outcomeFrom (f x.1) x.2) := by
  unfold outcomeFrom
  rw [runFrom_bind]
  rcases m.runFrom w with ⟨_ | a, w'⟩ <;> rfl

theorem map_fst_outcomeFrom (m : Play α) (w : World) :
    (outcomeFrom m w).map Prod.fst = (m.runFrom w).1 := by
  unfold outcomeFrom
  rcases m.runFrom w with ⟨_ | a, w'⟩ <;> rfl

theorem outcomeFrom_liftM (e : Except Fault α) (w : World) :
    outcomeFrom (liftM e) w = e.map fun a => (a, w) := by
  unfold outcomeFrom
  rw [runFrom_liftM]
  cases e <;> rfl

/-! ### Ending together -/

/-- From the two worlds the two actions end together. -/
def Together (loose : Prop) (R : World → World → Prop) (w w' : World) (m : Play α) (m' : Play β)
    (Q : α → β → Prop) : Prop :=
  Paired loose (fun x y => R x.2 y.2 ∧ Q x.1 y.1) (outcomeFrom m w) (outcomeFrom m' w')

namespace Together

variable {loose : Prop} {R : World → World → Prop} {w w' : World} {m : Play α} {m' : Play β}
  {Q : α → β → Prop}

theorem of_outcome {r : Except Fault α} {r' : Except Fault β} {w₁ w₁' : World}
    (h : m.runFrom w = (r, w₁)) (h' : m'.runFrom w' = (r', w₁')) (hR : R w₁ w₁')
    (hQ : Paired loose Q r r') : Together loose R w w' m m' Q := by
  unfold Together outcomeFrom
  rw [h, h']
  cases hQ with
  | ok hQ => exact .ok ⟨hR, hQ⟩
  | error e => exact .error e
  | left hloose e r' =>
      cases r' <;> exact .left hloose e _
  | right hloose r e =>
      cases r <;> exact .right hloose _ e

theorem pure {a : α} {b : β} (hR : R w w') (h : Q a b) :
    Together loose R w w' (pure a) (pure b) Q :=
  .ok ⟨hR, h⟩

theorem modifyState {f f' : State → State} {P : Unit → Unit → Prop}
    (hR : R { w with state := f w.state } { w' with state := f' w'.state }) (h : P () ()) :
    Together loose R w w' (modifyState f) (modifyState f') P :=
  .ok ⟨hR, h⟩

theorem mono {S : World → World → Prop} {P : α → β → Prop} (h : Together loose R w w' m m' Q)
    (hRS : ∀ w w', R w w' → S w w') (hQP : ∀ a b, Q a b → P a b) :
    Together loose S w w' m m' P :=
  Paired.mono h fun _ _ h => ⟨hRS _ _ h.1, hQP _ _ h.2⟩

/-- **Two actions, each followed by another one.** -/
theorem bind {f : α → Play γ} {f' : β → Play δ} {P : γ → δ → Prop}
    (hm : Together loose R w w' m m' Q)
    (hf : ∀ a b v v', R v v' → Q a b → Together loose R v v' (f a) (f' b) P) :
    Together loose R w w' (m >>= f) (m' >>= f') P := by
  unfold Together
  rw [outcomeFrom_bind, outcomeFrom_bind]
  exact Paired.bind hm fun x y h => hf x.1 y.1 x.2 y.2 h.1 h.2

theorem lift_bind {r : Except Fault α} {r' : Except Fault β} {f : α → Play γ} {f' : β → Play δ}
    {P : γ → δ → Prop} (h : Paired loose Q r r')
    (hf : ∀ a b, r = .ok a → r' = .ok b → Q a b → Together loose R w w' (f a) (f' b) P) :
    Together loose R w w' (liftM r >>= f) (liftM r' >>= f') P := by
  unfold Together
  rw [outcomeFrom_bind, outcomeFrom_bind, outcomeFrom_liftM, outcomeFrom_liftM]
  cases h with
  | ok h => exact hf _ _ rfl rfl h
  | error e => exact .error e
  | left hloose e r' => exact .left hloose e _
  | right hloose r e => exact .right hloose _ e

/-- Both actions go on with the result of the same computation. -/
theorem same_bind {r : Except Fault α} {f : α → Play γ} {f' : α → Play δ} {P : γ → δ → Prop}
    (hf : ∀ a, r = .ok a → Together loose R w w' (f a) (f' a) P) :
    Together loose R w w' (liftM r >>= f) (liftM r >>= f') P :=
  lift_bind (.of_eq rfl) fun a b ha _ hab => by
    subst hab
    exact hf a ha

theorem state_bind {f : State → Play γ} {f' : State → Play δ} {P : γ → δ → Prop}
    (h : Together loose R w w' (f w.state) (f' w'.state) P) :
    Together loose R w w' (state >>= f) (state >>= f') P := by
  unfold Together
  rwa [outcomeFrom_bind, outcomeFrom_bind]

theorem book_bind {f : Book → Play γ} {f' : Book → Play δ} {P : γ → δ → Prop}
    (h : Together loose R w w' (f w.book) (f' w'.book) P) :
    Together loose R w w' (book >>= f) (book >>= f') P := by
  unfold Together
  rwa [outcomeFrom_bind, outcomeFrom_bind]

theorem modifyState_bind {g g' : State → State} {f : Unit → Play γ} {f' : Unit → Play δ}
    {P : γ → δ → Prop}
    (h : Together loose R { w with state := g w.state } { w' with state := g' w'.state } (f ())
      (f' ()) P) :
    Together loose R w w' (Play.modifyState g >>= f) (Play.modifyState g' >>= f') P := by
  unfold Together
  rwa [outcomeFrom_bind, outcomeFrom_bind]

/-! ### Ends -/

/-- Strictly, where the first action has a result the second one has, too. -/
theorem exists_of_ok (h : Together False R w w' m m' Q) {a : α} {w₁ : World}
    (hm : m.runFrom w = (.ok a, w₁)) :
    ∃ b w₁', m'.runFrom w' = (.ok b, w₁') ∧ R w₁ w₁' ∧ Q a b := by
  unfold Together at h
  rw [outcomeFrom_eq_ok_iff.2 hm] at h
  obtain ⟨⟨b, w₁'⟩, hb, hR, hQ⟩ := h.exists_of_ok
  exact ⟨b, w₁', outcomeFrom_eq_ok_iff.1 hb, hR, hQ⟩

/-- Results of actions that end together are related. -/
theorem results (h : Together loose R w w' m m' Q) {a : α} {b : β} {w₁ w₁' : World}
    (hm : m.runFrom w = (.ok a, w₁)) (hm' : m'.runFrom w' = (.ok b, w₁')) : R w₁ w₁' ∧ Q a b := by
  unfold Together at h
  rw [outcomeFrom_eq_ok_iff.2 hm, outcomeFrom_eq_ok_iff.2 hm'] at h
  exact h.results

/-- What actions that end together end with goes together. -/
theorem paired (h : Together loose R w w' m m' Q) :
    Paired loose Q (m.runFrom w).1 (m'.runFrom w').1 := by
  rw [← map_fst_outcomeFrom, ← map_fst_outcomeFrom]
  exact Paired.map h fun _ _ h => h.2

/-! ### Lists -/

theorem foldlM {f : γ → α → Play γ} {f' : δ → α → Play δ} {l : List α} {c : γ} {d : δ}
    {P : γ → δ → Prop} (hR : R w w') (hcd : P c d)
    (h : ∀ a ∈ l, ∀ c d v v', R v v' → P c d → Together loose R v v' (f c a) (f' d a) P) :
    Together loose R w w' (l.foldlM f c) (l.foldlM f' d) P := by
  induction l generalizing w w' c d with
  | nil => exact pure hR hcd
  | cons a l ih =>
      rw [List.foldlM_cons, List.foldlM_cons]
      refine (h a (List.mem_cons_self ..) c d w w' hR hcd).bind fun c' d' v v' hv hcd' => ?_
      exact ih hv hcd' fun b hb => h b (List.mem_cons_of_mem a hb)

theorem mapM {f : α → Play γ} {f' : β → Play δ} {l : List α} {l' : List β} {P : γ → δ → Prop}
    (hR : R w w') (hl : List.Forall₂ Q l l')
    (h : ∀ a ∈ l, ∀ b v v', R v v' → Q a b → Together loose R v v' (f a) (f' b) P) :
    Together loose R w w' (l.mapM f) (l'.mapM f') (List.Forall₂ P) := by
  induction hl generalizing w w' with
  | nil => exact pure hR .nil
  | @cons a b l l' hab _ ih =>
      rw [List.mapM_cons, List.mapM_cons]
      refine (h a (List.mem_cons_self ..) b w w' hR hab).bind fun c d v v' hv hcd => ?_
      refine (ih hv fun a' ha' => h a' (List.mem_cons_of_mem a ha')).bind
        fun cs ds v v' hv hcds => ?_
      exact pure hv (.cons hcd hcds)

/-- The same computation on the elements of one list, with equal results. -/
theorem mapM_same {f f' : α → Play γ} {l : List α} (hR : R w w')
    (h : ∀ a ∈ l, ∀ v v', R v v' → Together loose R v v' (f a) (f' a) Eq) :
    Together loose R w w' (l.mapM f) (l.mapM f') Eq := by
  refine (mapM (Q := Eq) (P := Eq) hR (List.forall₂_same.2 fun _ _ => rfl)
    fun a ha b v v' hv hab => ?_).mono (fun _ _ h => h) fun cs ds h => by
      rwa [List.forall₂_eq_eq_eq] at h
  subst hab
  exact h a ha v v' hv

theorem filterMapM {f f' : α → Play (Option γ)} {l : List α} (hR : R w w')
    (h : ∀ a ∈ l, ∀ v v', R v v' → Together loose R v v' (f a) (f' a) Eq) :
    Together loose R w w' (l.filterMapM f) (l.filterMapM f') Eq := by
  induction l generalizing w w' with
  | nil =>
      rw [List.filterMapM_nil, List.filterMapM_nil]
      exact pure hR rfl
  | cons a l ih =>
      rw [List.filterMapM_cons, List.filterMapM_cons]
      refine (h a (List.mem_cons_self ..) w w' hR).bind fun c d v v' hv hcd => ?_
      subst hcd
      have hrest : Together loose R v v' (l.filterMapM f) (l.filterMapM f') Eq :=
        ih hv fun b hb => h b (List.mem_cons_of_mem a hb)
      cases c with
      | none => exact hrest
      | some c =>
          refine hrest.bind fun cs ds v v' hv hcds => ?_
          subst hcds
          exact pure hv rfl

end Together

end Play

end Gamebook
