/-
**The outcomes of two computations.**

Two computations on related data should end alike: both with results, which are related again, or
both with the same fault.  Where the data differ in what may cause a fault, a weaker statement
remains: if both have results, these are related.

Main definition: `Paired` — two outcomes that go together, strictly or loosely.

Main results:

* `Paired.bind` — **outcomes that go together** when computations are put together from others;
* `mapM_perm` — a list of computations in another order.
-/

import Gamebook.Fault
import Mathlib.Data.List.Forall2
import Mathlib.Data.List.Perm.Basic

set_option autoImplicit false

namespace Gamebook

/-- A result of two computations, one after the other, comes from a result of the first. -/
theorem exists_of_bind_eq_ok {α β : Type} {r : Except Fault α} {f : α → Except Fault β} {b : β}
    (h : (r >>= f) = .ok b) : ∃ a, r = .ok a ∧ f a = .ok b := by
  cases r with
  | error e => cases h
  | ok a => exact ⟨a, rfl, h⟩

theorem inRange_eq_ok {α : Type} {o : Option α} {a : α} (h : inRange o = .ok a) : o = some a := by
  cases o <;> cases h
  rfl

/-- The results of a list of computations, one for each element. -/
theorem mapM_eq_ok_iff {α β ε : Type} {f : α → Except ε β} {l : List α} {bs : List β} :
    l.mapM f = .ok bs ↔ List.Forall₂ (fun a b => f a = .ok b) l bs := by
  induction l generalizing bs with
  | nil => cases bs <;> simp [pure, Except.pure]
  | cons a l ih =>
      rw [List.mapM_cons]
      cases ha : f a with
      | error e => cases bs <;> simp [bind, Except.bind, ha]
      | ok b =>
          cases hl : l.mapM f with
          | error e =>
              rw [hl] at ih
              cases bs with
              | nil => simp [bind, Except.bind]
              | cons b' bs =>
                  have hnone : ¬ List.Forall₂ (fun a b => f a = .ok b) l bs := ih.not.1 (by simp)
                  simpa [bind, Except.bind] using fun _ => hnone
          | ok bs' =>
              rw [hl] at ih
              cases bs with
              | nil => simp [bind, Except.bind, pure, Except.pure]
              | cons b' bs => simp [bind, Except.bind, pure, Except.pure, ha, ← ih]

theorem exists_mapM {α β ε : Type} {f : α → Except ε β} {l : List α}
    (h : ∀ a ∈ l, ∃ b, f a = .ok b) : ∃ bs, l.mapM f = .ok bs := by
  induction l with
  | nil => exact ⟨[], rfl⟩
  | cons a l ih =>
      obtain ⟨⟨b, hb⟩, hl⟩ := List.forall_mem_cons.1 h
      obtain ⟨bs, hbs⟩ := ih hl
      refine ⟨b :: bs, ?_⟩
      rw [List.mapM_cons, hb, hbs]
      rfl

/-- In another order the computations have the same results in another order. -/
theorem mapM_perm {α β ε : Type} {f : α → Except ε β} {l l' : List α} (h : l.Perm l')
    {bs : List β} (hbs : l.mapM f = .ok bs) : ∃ bs', l'.mapM f = .ok bs' ∧ bs.Perm bs' := by
  obtain ⟨bs', hbs', hperm⟩ := List.perm_comp_forall₂ h.symm (mapM_eq_ok_iff.1 hbs)
  exact ⟨bs', mapM_eq_ok_iff.2 hbs', hperm.symm⟩

/-- What a list of computations keeps comes from one of its elements. -/
theorem exists_of_mem_filterMapM {α β : Type} {f : α → Except Fault (Option β)} {l : List α}
    {bs : List β} (h : l.filterMapM f = .ok bs) {b : β} (hb : b ∈ bs) :
    ∃ a ∈ l, f a = .ok (some b) := by
  induction l generalizing bs with
  | nil =>
      rw [List.filterMapM_nil] at h
      cases h
      cases hb
  | cons a l ih =>
      rw [List.filterMapM_cons] at h
      obtain ⟨o, ho, h⟩ := exists_of_bind_eq_ok h
      cases o with
      | none =>
          obtain ⟨a', ha', hf⟩ := ih h hb
          exact ⟨a', List.mem_cons_of_mem a ha', hf⟩
      | some b' =>
          obtain ⟨rest, hrest, h⟩ := exists_of_bind_eq_ok h
          cases h
          rcases List.mem_cons.1 hb with rfl | hb
          · exact ⟨a, List.mem_cons_self .., ho⟩
          · obtain ⟨a', ha', hf⟩ := ih hrest hb
            exact ⟨a', List.mem_cons_of_mem a ha', hf⟩

/-- The two outcomes go together: both are results that are related, or both are the same fault.
Loosely, nothing is said where one of them is a fault. -/
inductive Paired (loose : Prop) {α β : Type} (Q : α → β → Prop) :
    Except Fault α → Except Fault β → Prop
  | ok {a : α} {b : β} (h : Q a b) : Paired loose Q (.ok a) (.ok b)
  | error (e : Fault) : Paired loose Q (.error e) (.error e)
  | left (h : loose) (e : Fault) (r : Except Fault β) : Paired loose Q (.error e) r
  | right (h : loose) (r : Except Fault α) (e : Fault) : Paired loose Q r (.error e)

namespace Paired

variable {loose : Prop} {α β γ δ : Type} {Q : α → β → Prop} {r : Except Fault α}
  {r' : Except Fault β}

theorem refl {R : α → α → Prop} (hR : ∀ a, R a a) (r : Except Fault α) : Paired loose R r r := by
  cases r with
  | ok a => exact .ok (hR a)
  | error e => exact .error e

theorem of_eq {r r' : Except Fault α} (h : r = r') : Paired loose Eq r r' :=
  h ▸ refl (fun _ => rfl) r

/-- Outcomes that have the same image are the same apart from what the image leaves out. -/
theorem of_map_eq {f : α → γ} {r r' : Except Fault α} (h : r.map f = r'.map f) :
    Paired loose (fun a b => f a = f b) r r' := by
  cases r with
  | ok a =>
      cases r' with
      | ok b => exact .ok (Except.ok.inj h)
      | error e => cases h
  | error e =>
      cases r' with
      | ok b => cases h
      | error e' =>
          cases h
          exact .error e

/-- Loosely, only results have to be related. -/
theorem of_results (hloose : loose) (h : ∀ a b, r = .ok a → r' = .ok b → Q a b) :
    Paired loose Q r r' := by
  cases r with
  | error e => exact .left hloose e _
  | ok a =>
      cases r' with
      | error e => exact .right hloose _ e
      | ok b => exact .ok (h a b rfl rfl)

theorem mono {P : α → β → Prop} (h : Paired loose Q r r') (hQ : ∀ a b, Q a b → P a b) :
    Paired loose P r r' := by
  cases h with
  | ok h => exact .ok (hQ _ _ h)
  | error e => exact .error e
  | left hloose e r' => exact .left hloose e r'
  | right hloose r e => exact .right hloose r e

theorem symm (h : Paired loose Q r r') : Paired loose (fun b a => Q a b) r' r := by
  cases h with
  | ok h => exact .ok h
  | error e => exact .error e
  | left hloose e r' => exact .right hloose r' e
  | right hloose r e => exact .left hloose e r

/-- Results that go together are related. -/
theorem results {a : α} {b : β} (h : Paired loose Q (.ok a) (.ok b)) : Q a b := by
  cases h with
  | ok h => exact h

/-- Strictly, where the first outcome is a result so is the second. -/
theorem exists_of_ok {a : α} (h : Paired False Q (.ok a) r') : ∃ b, r' = .ok b ∧ Q a b := by
  cases h with
  | ok h => exact ⟨_, rfl, h⟩
  | right hloose r e => exact hloose.elim

/-- Strictly, outcomes with the same results are the same. -/
theorem eq {r r' : Except Fault α} (h : Paired False Eq r r') : r = r' := by
  cases h with
  | ok h => rw [h]
  | error e => rfl
  | left hloose e r => exact hloose.elim
  | right hloose r e => exact hloose.elim

/-- The images of outcomes that go together go together. -/
theorem map {P : γ → δ → Prop} {f : α → γ} {g : β → δ} (h : Paired loose Q r r')
    (hQ : ∀ a b, Q a b → P (f a) (g b)) : Paired loose P (r.map f) (r'.map g) := by
  cases h with
  | ok h => exact .ok (hQ _ _ h)
  | error e => exact .error e
  | left hloose e r' => exact .left hloose e _
  | right hloose r e => exact .right hloose _ e

theorem map_eq {f : α → γ} {g : β → γ} (h : Paired False (fun a b => f a = g b) r r') :
    r.map f = r'.map g :=
  (h.map (P := Eq) fun _ _ h => h).eq

/-- **Outcomes that go together** when each of two computations is followed by another one. -/
theorem bind {P : γ → δ → Prop} {f : α → Except Fault γ} {f' : β → Except Fault δ}
    (h : Paired loose Q r r') (hf : ∀ a b, Q a b → Paired loose P (f a) (f' b)) :
    Paired loose P (r >>= f) (r' >>= f') := by
  cases h with
  | ok h => exact hf _ _ h
  | error e => exact .error e
  | left hloose e r' => exact .left hloose e _
  | right hloose r e => exact .right hloose _ e

end Paired

end Gamebook
