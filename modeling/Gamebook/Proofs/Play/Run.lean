/-
**Running an action, and what a run leads to.**

An action starts in a world and ends in another one, with a result or with a fault.  What it did
before a fault stays done, so a statement about runs has two parts: the world at the end, whether
or not there is a result, and the result where there is one.

Main definitions:

* `Play.runFrom` — what an action ends with, and the world after it;
* `Play.Leads` — the world after an action is related to the one before, and a result has a
  property there.

Main results:

* `Play.runFrom_bind` — a run of two actions is a run of the first and then one of the second;
* `Play.Leads.bind` — **what two actions lead to**, for a relation that is reflexive and
  transitive;
* `Play.Leads.forM`, `Play.Leads.foldlM`, `Play.Leads.mapM`, `Play.Leads.filterMapM` — the same for
  the elements of a list.
-/

import Gamebook.World
import Mathlib.Data.List.Forall2

set_option autoImplicit false

namespace Gamebook

namespace Play

variable {α β : Type}

/-! ### Runs -/

/-- What an action ends with, and the world after it. -/
def runFrom (m : Play α) (w : World) : Except Fault α × World := m.run.run w

@[simp] theorem runFrom_pure (a : α) (w : World) : (pure a : Play α).runFrom w = (.ok a, w) := rfl

@[simp] theorem runFrom_throw (e : Fault) (w : World) :
    (throw e : Play α).runFrom w = (.error e, w) := rfl

@[simp] theorem runFrom_get (w : World) : (get : Play World).runFrom w = (.ok w, w) := rfl

@[simp] theorem runFrom_set (w w' : World) : (set w' : Play PUnit).runFrom w = (.ok ⟨⟩, w') := rfl

@[simp] theorem runFrom_modify (f : World → World) (w : World) :
    (modify f : Play PUnit).runFrom w = (.ok ⟨⟩, f w) := rfl

@[simp] theorem runFrom_state (w : World) : state.runFrom w = (.ok w.state, w) := rfl

@[simp] theorem runFrom_book (w : World) : book.runFrom w = (.ok w.book, w) := rfl

@[simp] theorem runFrom_digitLimit (w : World) :
    digitLimit.runFrom w = (.ok w.settings.digitLimit, w) := rfl

@[simp] theorem runFrom_modifyState (f : State → State) (w : World) :
    (modifyState f).runFrom w = (.ok (), { w with state := f w.state }) := rfl

@[simp] theorem runFrom_liftM (e : Except Fault α) (w : World) :
    (liftM e : Play α).runFrom w = (e, w) := by
  cases e <;> rfl

theorem runFrom_eq {m : Play α} {w : World} {r : Except Fault α} (h : (m.runFrom w).1 = r) :
    m.runFrom w = (r, (m.runFrom w).2) :=
  Prod.ext h rfl

theorem runFrom_liftM_ok {e : Except Fault α} {a : α} (h : e = .ok a) (w : World) :
    (liftM e : Play α).runFrom w = (.ok a, w) := by
  rw [runFrom_liftM, h]

/-- **Running two actions**: the second one starts where the first one ended, and not at all after
a fault. -/
theorem runFrom_bind (m : Play α) (f : α → Play β) (w : World) :
    (m >>= f).runFrom w = match m.runFrom w with
      | (.ok a, w') => (f a).runFrom w'
      | (.error e, w') => (.error e, w') := by
  change (ExceptT.run (m >>= f)).run w = _
  rw [ExceptT.run_bind, StateT.run_bind]
  rcases h : m.runFrom w with ⟨r, w'⟩
  have h' : StateT.run (ExceptT.run m) w = (r, w') := h
  rw [h']
  cases r <;> rfl

theorem runFrom_bind_ok {m : Play α} {f : α → Play β} {w w' : World} {a : α}
    (h : m.runFrom w = (.ok a, w')) : (m >>= f).runFrom w = (f a).runFrom w' := by
  rw [runFrom_bind, h]

theorem runFrom_bind_error {m : Play α} {f : α → Play β} {w w' : World} {e : Fault}
    (h : m.runFrom w = (.error e, w')) : (m >>= f).runFrom w = (.error e, w') := by
  rw [runFrom_bind, h]

/-- A run of two actions that has a result went through a result of the first. -/
theorem runFrom_bind_eq_ok {m : Play α} {f : α → Play β} {w w' : World} {b : β}
    (h : (m >>= f).runFrom w = (.ok b, w')) :
    ∃ a w₁, m.runFrom w = (.ok a, w₁) ∧ (f a).runFrom w₁ = (.ok b, w') := by
  rw [runFrom_bind] at h
  rcases hm : m.runFrom w with ⟨r, w₁⟩
  rw [hm] at h
  cases r with
  | error e => cases h
  | ok a => exact ⟨a, w₁, rfl, h⟩

/-- A run that has a result after a computation that leaves the world alone. -/
theorem runFrom_lift_bind_eq_ok {e : Except Fault α} {f : α → Play β} {w w' : World} {b : β}
    (h : (liftM e >>= f).runFrom w = (.ok b, w')) :
    ∃ a, e = .ok a ∧ (f a).runFrom w = (.ok b, w') := by
  rw [runFrom_bind, runFrom_liftM] at h
  cases e with
  | error e => cases h
  | ok a => exact ⟨a, rfl, h⟩

theorem runFrom_withChance (m : Chancy α) (w : World) :
    (withChance m).runFrom w =
      ((m.run.run w.chance).1, { w with chance := (m.run.run w.chance).2 }) := by
  unfold withChance
  rw [runFrom_bind_ok (runFrom_get w)]
  rcases h : m.run.run w.chance with ⟨r, c⟩
  have h' : ExceptT.run m w.chance = (r, c) := h
  simp only [h']
  rw [runFrom_bind_ok (runFrom_set _ _)]
  cases r <;> rfl

theorem runFrom_tryCatch (m : Play α) (handle : Fault → Play α) (w : World) :
    (tryCatch m handle).runFrom w = match m.runFrom w with
      | (.ok a, w') => (.ok a, w')
      | (.error e, w') => (handle e).runFrom w' := by
  change (ExceptT.run (tryCatch m handle)).run w = _
  rw [ExceptT.run_tryCatch, StateT.run_bind]
  rcases h : m.runFrom w with ⟨r, w'⟩
  have h' : StateT.run (ExceptT.run m) w = (r, w') := h
  rw [h']
  cases r <;> rfl

/-! ### What a run leads to -/

/-- From a world, an action leads to a world that is related to it, and its result, if it has one,
has a property there. -/
structure Leads (R : World → World → Prop) (w : World) (m : Play α) (Q : α → World → Prop) :
    Prop where
  world : R w (m.runFrom w).2
  result : ∀ a, (m.runFrom w).1 = .ok a → Q a (m.runFrom w).2

namespace Leads

variable {R : World → World → Prop} {w : World} {m : Play α}

theorem of_runFrom {r : Except Fault α} {w' : World} {Q : α → World → Prop}
    (h : m.runFrom w = (r, w')) (hR : R w w') (hQ : ∀ a, r = .ok a → Q a w') :
    Leads R w m Q := by
  refine ⟨?_, fun a ha => ?_⟩
  · rw [h]
    exact hR
  · rw [h] at ha ⊢
    exact hQ a ha

theorem world_of_run {Q : α → World → Prop} {r : Except Fault α} {w' : World}
    (h : Leads R w m Q) (hr : m.runFrom w = (r, w')) : R w w' := by
  simpa [hr] using h.world

theorem result_of_run {Q : α → World → Prop} {a : α} {w' : World} (h : Leads R w m Q)
    (hr : m.runFrom w = (.ok a, w')) : Q a w' := by
  simpa [hr] using h.result a

theorem mono {S : World → World → Prop} {P Q : α → World → Prop} (h : Leads R w m P)
    (hRS : ∀ w', R w w' → S w w') (hPQ : ∀ a w', R w w' → P a w' → Q a w') : Leads S w m Q :=
  ⟨hRS _ h.world, fun a ha => hPQ a _ h.world (h.result a ha)⟩

/-- A result may be taken together with the run that gave it. -/
theorem with_run {P : α → World → Prop} (h : Leads R w m P) :
    Leads R w m fun a w' => m.runFrom w = (.ok a, w') ∧ P a w' :=
  ⟨h.world, fun a ha => ⟨Prod.ext ha rfl, h.result a ha⟩⟩

theorem of_to {Q : α → World → Prop} (h : Leads (fun _ => R w) w m Q) : Leads R w m Q :=
  ⟨h.world, h.result⟩

theorem trivial {P : α → World → Prop} (h : Leads R w m P) : Leads R w m fun _ _ => True :=
  h.mono (fun _ h => h) fun _ _ _ _ => True.intro

theorem modify {f : World → World} {Q : PUnit → World → Prop} (hR : R w (f w))
    (hQ : Q ⟨⟩ (f w)) : Leads R w (modify f : Play PUnit) Q :=
  of_runFrom (runFrom_modify f w) hR fun _ _ => hQ

theorem modifyState {f : State → State} {Q : Unit → World → Prop}
    (hR : R w { w with state := f w.state }) (hQ : Q () { w with state := f w.state }) :
    Leads R w (modifyState f) Q :=
  of_runFrom (runFrom_modifyState f w) hR fun _ _ => hQ

theorem state_bind {f : State → Play β} {Q : β → World → Prop} (h : Leads R w (f w.state) Q) :
    Leads R w (state >>= f) Q := by
  have heq : (Play.state >>= f).runFrom w = (f w.state).runFrom w :=
    runFrom_bind_ok (runFrom_state w)
  exact of_runFrom heq h.world h.result

theorem book_bind {f : Book → Play β} {Q : β → World → Prop} (h : Leads R w (f w.book) Q) :
    Leads R w (book >>= f) Q := by
  have heq : (book >>= f).runFrom w = (f w.book).runFrom w := runFrom_bind_ok (runFrom_book w)
  exact of_runFrom heq h.world h.result

theorem get_bind {f : World → Play β} {Q : β → World → Prop} (h : Leads R w (f w) Q) :
    Leads R w (get >>= f) Q := by
  have heq : ((get : Play World) >>= f).runFrom w = (f w).runFrom w :=
    runFrom_bind_ok (runFrom_get w)
  exact of_runFrom heq h.world h.result

theorem digitLimit_bind {f : DigitLimit → Play β} {Q : β → World → Prop}
    (h : Leads R w (f w.settings.digitLimit) Q) : Leads R w (digitLimit >>= f) Q := by
  have heq : (digitLimit >>= f).runFrom w = (f w.settings.digitLimit).runFrom w :=
    runFrom_bind_ok (runFrom_digitLimit w)
  exact of_runFrom heq h.world h.result

theorem modifyState_bind {g : State → State} {f : Unit → Play β} {Q : β → World → Prop}
    {S : World → Prop} (h : Leads (fun _ => S) { w with state := g w.state } (f ()) Q) :
    Leads (fun _ => S) w (Play.modifyState g >>= f) Q := by
  have heq : (Play.modifyState g >>= f).runFrom w = (f ()).runFrom { w with state := g w.state } :=
    runFrom_bind_ok (runFrom_modifyState g w)
  exact of_runFrom heq h.world h.result

theorem lift_bind_of {e : Except Fault α} {f : α → Play β} {Q : β → World → Prop} (hR : R w w)
    (h : ∀ a, e = .ok a → Leads R w (f a) Q) : Leads R w (liftM e >>= f) Q := by
  cases e with
  | error e =>
      exact of_runFrom (runFrom_bind_error (runFrom_liftM (.error e) w)) hR fun _ h => by cases h
  | ok a =>
      exact of_runFrom (runFrom_bind_ok (runFrom_liftM (.ok a) w)) (h a rfl).world (h a rfl).result

/-- What is done unless a test holds, and what is done when it does. -/
theorem ite_not {b : Bool} {m m' : Play α} {Q : α → World → Prop}
    (h : b = false → Leads R w m Q) (h' : b = true → Leads R w m' Q) :
    Leads R w (if !b then m else m') Q := by
  cases b with
  | false => exact h rfl
  | true => exact h' rfl

/-- What two actions lead to when the worlds at the end have a property that those between them
have, too. -/
theorem bind_to {S : World → Prop} {f : α → Play β} {P : α → World → Prop} {Q : β → World → Prop}
    (hm : Leads R w m P) (hS : ∀ w', R w w' → S w')
    (hf : ∀ a w', R w w' → P a w' → Leads (fun _ => S) w' (f a) Q) :
    Leads (fun _ => S) w (m >>= f) Q := by
  rcases hr : m.runFrom w with ⟨r, w'⟩
  have hR : R w w' := hm.world_of_run hr
  cases r with
  | error e => exact of_runFrom (runFrom_bind_error hr) (hS w' hR) fun _ h => by cases h
  | ok a =>
      have h := hf a w' hR (hm.result_of_run hr)
      exact of_runFrom (runFrom_bind_ok hr) h.world h.result

section

variable [Std.Refl R]

theorem pure {a : α} {Q : α → World → Prop} (h : Q a w) : Leads R w (pure a) Q :=
  of_runFrom (runFrom_pure a w) (Std.Refl.refl w) fun _ h' => by
    cases h'
    exact h

theorem throw {e : Fault} {Q : α → World → Prop} : Leads R w (throw e : Play α) Q :=
  of_runFrom (runFrom_throw e w) (Std.Refl.refl w) fun _ h => by cases h

/-- After a computation that leaves the world alone the action goes on with its result. -/
theorem lift_bind {e : Except Fault α} {f : α → Play β} {Q : β → World → Prop}
    (h : ∀ a, e = .ok a → Leads R w (f a) Q) : Leads R w (liftM e >>= f) Q :=
  lift_bind_of (Std.Refl.refl w) h

end

section

variable [IsTrans World R]

/-- **What two actions lead to.**  The second one may use what the first one led to. -/
theorem bind {f : α → Play β} {P : α → World → Prop} {Q : β → World → Prop} (hm : Leads R w m P)
    (hf : ∀ a w', R w w' → P a w' → Leads R w' (f a) Q) : Leads R w (m >>= f) Q := by
  refine (hm.bind_to (S := R w) (fun _ h => h) fun a w' hR hP => ?_).of_to
  exact (hf a w' hR hP).mono (fun _ h => IsTrans.trans _ _ _ hR h) fun _ _ _ h => h

variable [Std.Refl R]

/-! ### Lists -/

theorem forM {f : α → Play PUnit} {l : List α}
    (h : ∀ a ∈ l, ∀ w', R w w' → Leads R w' (f a) fun _ _ => True) :
    Leads R w (l.forM f) fun _ _ => True := by
  induction l generalizing w with
  | nil => exact pure True.intro
  | cons a l ih =>
      refine (h a (List.mem_cons_self ..) w (Std.Refl.refl w)).bind fun _ w' hR _ => ?_
      exact ih fun b hb w'' hR' => h b (List.mem_cons_of_mem a hb) w'' (IsTrans.trans _ _ _ hR hR')

theorem foldlM {f : β → α → Play β} {l : List α} {b : β} {P : β → Prop} (hb : P b)
    (h : ∀ a ∈ l, ∀ b w', R w w' → P b → Leads R w' (f b a) fun b' _ => P b') :
    Leads R w (l.foldlM f b) fun b' _ => P b' := by
  induction l generalizing w b with
  | nil => exact pure hb
  | cons a l ih =>
      rw [List.foldlM_cons]
      refine (h a (List.mem_cons_self ..) b w (Std.Refl.refl w) hb).bind fun b' w' hR hb' => ?_
      exact ih hb' fun a' ha' b'' w'' hR' =>
        h a' (List.mem_cons_of_mem a ha') b'' w'' (IsTrans.trans _ _ _ hR hR')

theorem mapM {f : α → Play β} {l : List α} {P : α → β → Prop}
    (h : ∀ a ∈ l, ∀ w', R w w' → Leads R w' (f a) fun b _ => P a b) :
    Leads R w (l.mapM f) fun bs _ => List.Forall₂ P l bs := by
  induction l generalizing w with
  | nil =>
      rw [List.mapM_nil]
      exact pure .nil
  | cons a l ih =>
      rw [List.mapM_cons]
      refine (h a (List.mem_cons_self ..) w (Std.Refl.refl w)).bind fun b w' hR hb => ?_
      refine (ih fun a' ha' w'' hR' =>
        h a' (List.mem_cons_of_mem a ha') w'' (IsTrans.trans _ _ _ hR hR')).bind
          fun bs w'' _ hbs => ?_
      exact pure (.cons hb hbs)

theorem filterMapM {f : α → Play (Option β)} {l : List α} {P : β → Prop}
    (h : ∀ a ∈ l, ∀ w', R w w' → Leads R w' (f a) fun b? _ => ∀ b, b? = some b → P b) :
    Leads R w (l.filterMapM f) fun bs _ => ∀ b ∈ bs, P b := by
  induction l generalizing w with
  | nil =>
      rw [List.filterMapM_nil]
      exact pure (by simp)
  | cons a l ih =>
      rw [List.filterMapM_cons]
      refine (h a (List.mem_cons_self ..) w (Std.Refl.refl w)).bind fun b? w' hR hb => ?_
      have hrest := ih (w := w') fun a' ha' w'' hR' =>
        h a' (List.mem_cons_of_mem a ha') w'' (IsTrans.trans _ _ _ hR hR')
      cases b? with
      | none => exact hrest
      | some b =>
          refine hrest.bind fun bs w'' _ hbs => ?_
          exact pure (List.forall_mem_cons.2 ⟨hb b rfl, hbs⟩)

end

end Leads

end Play

end Gamebook
