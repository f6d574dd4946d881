/-
**Running a turn, and what a turn ends with.**

What a line does starts in a session and ends in another one, with an answer or with a fault.  It
runs actions in the world of the session and tells the player something, which is a fault where the
console does not show it; nothing else of a session changes on the way.

Main definitions:

* `Turn.runFrom` — what a turn ends with, and the session after it;
* `Turn.Fails` — turns that end in a fault;
* `Turn.Ends` — the faults that a turn can end in, and what is true when it has a result.

Main results:

* `Turn.runFrom_play` — an action runs in the world of the session;
* `Turn.runFrom_tell` — what is told is shown, or it is a fault;
* `Turn.Ends.bind`, `Turn.Ends.play_bind` — **what comes after a part of a turn, or after an action
  in the world**.
-/

import Gamebook.Proofs.Play.Run
import Gamebook.Session.Command

set_option autoImplicit false

namespace Gamebook

namespace Turn

variable {α β : Type}

/-! ### Runs -/

/-- What a turn ends with, and the session after it. -/
def runFrom (m : Turn α) (s : Session) : Except Fault α × Session := m.run.run s

@[simp] theorem runFrom_pure (a : α) (s : Session) : (pure a : Turn α).runFrom s = (.ok a, s) := rfl

@[simp] theorem runFrom_get (s : Session) : (get : Turn Session).runFrom s = (.ok s, s) := rfl

@[simp] theorem runFrom_set (s s' : Session) :
    (set s' : Turn PUnit).runFrom s = (.ok ⟨⟩, s') := rfl

@[simp] theorem runFrom_modify (f : Session → Session) (s : Session) :
    (modify f : Turn PUnit).runFrom s = (.ok ⟨⟩, f s) := rfl

@[simp] theorem runFrom_liftM (e : Except Fault α) (s : Session) :
    (liftM e : Turn α).runFrom s = (e, s) := by
  cases e <;> rfl

theorem runFrom_eq {m : Turn α} {s : Session} {r : Except Fault α} (h : (m.runFrom s).1 = r) :
    m.runFrom s = (r, (m.runFrom s).2) :=
  Prod.ext h rfl

/-- **Running two parts of a turn**: the second one starts where the first one ended, and not at all
after a fault. -/
theorem runFrom_bind (m : Turn α) (f : α → Turn β) (s : Session) :
    (m >>= f).runFrom s = match m.runFrom s with
      | (.ok a, s') => (f a).runFrom s'
      | (.error e, s') => (.error e, s') := by
  change (ExceptT.run (m >>= f)).run s = _
  rw [ExceptT.run_bind, StateT.run_bind]
  rcases h : m.runFrom s with ⟨r, s'⟩
  have h' : StateT.run (ExceptT.run m) s = (r, s') := h
  rw [h']
  cases r <;> rfl

theorem runFrom_bind_ok {m : Turn α} {f : α → Turn β} {s s' : Session} {a : α}
    (h : m.runFrom s = (.ok a, s')) : (m >>= f).runFrom s = (f a).runFrom s' := by
  rw [runFrom_bind, h]

theorem runFrom_bind_error {m : Turn α} {f : α → Turn β} {s s' : Session} {e : Fault}
    (h : m.runFrom s = (.error e, s')) : (m >>= f).runFrom s = (.error e, s') := by
  rw [runFrom_bind, h]

/-- **An action runs in the world of the session.** -/
theorem runFrom_play (m : Play α) (s : Session) : (Session.play m).runFrom s =
    ((m.runFrom s.world).1, { s with world := (m.runFrom s.world).2 }) := by
  unfold Session.play
  rw [runFrom_bind_ok (runFrom_get s)]
  have hrun : ExceptT.run m s.world = m.runFrom s.world := rfl
  simp only [hrun]
  rcases m.runFrom s.world with ⟨r, w⟩
  rw [runFrom_bind_ok (runFrom_set _ _)]
  exact runFrom_liftM r _

/-- **Telling the player something**: either the console shows it, or that is a fault. -/
theorem runFrom_tell (kind : NoticeKind) (text : String) (s : Session) :
    (Session.tell kind text).runFrom s =
      if s.console.shows (Notice.marked ⟨kind, text⟩) then
        (.ok (), { s with notices := s.notices ++ [⟨kind, text⟩] })
      else (.error .badMarkup, s) := by
  unfold Session.tell
  rw [runFrom_bind_ok (runFrom_get s)]
  dsimp only
  split <;> rfl

theorem runFrom_refuse {text : String} {s : Session}
    (h : s.console.shows (Notice.marked ⟨.error, text⟩) = true) (answer : String) :
    (Session.refuse text answer).runFrom s =
      (.ok answer, { s with notices := s.notices ++ [⟨.error, text⟩] }) := by
  unfold Session.refuse
  rw [runFrom_bind, runFrom_tell, if_pos h]
  rfl

theorem runFrom_showText (v : Value) (s : Session) : (Session.showText v).runFrom s =
    (v.plainTextWithin s.world.settings.digitLimit, s) := by
  unfold Session.showText
  rw [runFrom_bind_ok (runFrom_get s), runFrom_liftM]

/-! ### Turns that fail -/

/-- From a session, a turn ends in a fault. -/
def Fails (s : Session) (m : Turn α) : Prop := ∃ e s', m.runFrom s = (.error e, s')

namespace Fails

variable {s s' : Session} {m : Turn α}

theorem congr {m' : Turn α} (h : m.runFrom s = m'.runFrom s) (h' : Fails s m') : Fails s m := by
  rwa [Fails, h]

theorem bind {f : α → Turn β} (h : Fails s m) : Fails s (m >>= f) := by
  obtain ⟨e, s', hrun⟩ := h
  exact ⟨e, s', runFrom_bind_error hrun⟩

theorem of_bind {f : α → Turn β} {a : α} (h : m.runFrom s = (.ok a, s')) (hf : Fails s' (f a)) :
    Fails s (m >>= f) := by
  rwa [Fails, runFrom_bind_ok h]

theorem of_play {m : Play α} {f : α → Turn β} {a : α} {w : World}
    (h : m.runFrom s.world = (.ok a, w)) (hf : Fails { s with world := w } (f a)) :
    Fails s (Session.play m >>= f) :=
  of_bind (by rw [runFrom_play, h]) hf

/-- What the console does not show makes a refusal a fault. -/
theorem refuse {text : String} (h : s.console.shows (Notice.marked ⟨.error, text⟩) = false)
    (answer : String) : Fails s (Session.refuse text answer) := by
  refine bind (m := Session.tell .error text) ⟨.badMarkup, s, ?_⟩
  rw [runFrom_tell, if_neg (by simp [h])]

end Fails

/-! ### What a turn ends with -/

/-- From a session, a turn ends in certain faults only, and its result, if it has one, has a
property in the session after it. -/
structure Ends (s : Session) (m : Turn α) (E : Fault → Prop) (Q : α → Session → Prop) : Prop where
  fault : ∀ e, (m.runFrom s).1 = .error e → E e
  result : ∀ a, (m.runFrom s).1 = .ok a → Q a (m.runFrom s).2

namespace Ends

variable {s s' : Session} {m : Turn α} {E : Fault → Prop} {Q : α → Session → Prop}

theorem of_runFrom {r : Except Fault α} (h : m.runFrom s = (r, s')) (hE : ∀ e, r = .error e → E e)
    (hQ : ∀ a, r = .ok a → Q a s') : Ends s m E Q := by
  refine ⟨fun e he => ?_, fun a ha => ?_⟩
  · rw [h] at he
    exact hE e he
  · rw [h] at ha ⊢
    exact hQ a ha

theorem result_of_run {a : α} (h : Ends s m E Q) (hr : m.runFrom s = (.ok a, s')) : Q a s' := by
  simpa [hr] using h.result a

theorem pure {a : α} (h : Q a s) : Ends s (pure a) E Q :=
  of_runFrom (runFrom_pure a s) nofun fun _ h' => by
    cases h'
    exact h

theorem mono {E' : Fault → Prop} (h : Ends s m E Q) (hE : ∀ e, E e → E' e) : Ends s m E' Q :=
  ⟨fun e he => hE e (h.fault e he), h.result⟩

/-- **What comes after a part of a turn.** -/
theorem bind {f : α → Turn β} {P : α → Session → Prop} {Q : β → Session → Prop}
    (hm : Ends s m E P) (hf : ∀ a s', P a s' → Ends s' (f a) E Q) : Ends s (m >>= f) E Q := by
  rcases hr : m.runFrom s with ⟨r, s'⟩
  cases r with
  | error e =>
      refine of_runFrom (runFrom_bind_error hr) (fun _ he => ?_) fun _ h => by cases h
      cases he
      exact hm.fault e (by rw [hr])
  | ok a =>
      have h := hf a s' (hm.result_of_run hr)
      exact ⟨by rw [runFrom_bind_ok hr]; exact h.fault, by rw [runFrom_bind_ok hr]; exact h.result⟩

theorem lift_bind {e : Except Fault α} {f : α → Turn β} {Q : β → Session → Prop}
    (hE : ∀ x, e = .error x → E x) (hf : ∀ a, e = .ok a → Ends s (f a) E Q) :
    Ends s (liftM e >>= f) E Q :=
  (of_runFrom (Q := fun a s' => e = .ok a ∧ s' = s) (runFrom_liftM e s) hE fun _ h => ⟨h, rfl⟩).bind
    fun a _ h => h.2 ▸ hf a h.1

theorem get_bind {f : Session → Turn β} {Q : β → Session → Prop} (h : Ends s (f s) E Q) :
    Ends s (get >>= f) E Q := by
  have heq := runFrom_bind_ok (f := f) (runFrom_get s)
  exact ⟨by rw [heq]; exact h.fault, by rw [heq]; exact h.result⟩

theorem set_bind (s' : Session) {f : PUnit → Turn β} {Q : β → Session → Prop}
    (h : Ends s' (f ⟨⟩) E Q) :
    Ends s (set s' >>= f) E Q := by
  have heq := runFrom_bind_ok (f := f) (runFrom_set s s')
  exact ⟨by rw [heq]; exact h.fault, by rw [heq]; exact h.result⟩

/-- **What comes after an action in the world.** -/
theorem play_bind {m : Play α} {f : α → Turn β} {Q : β → Session → Prop}
    (hE : ∀ e w, m.runFrom s.world = (.error e, w) → E e)
    (hf : ∀ a w, m.runFrom s.world = (.ok a, w) → Ends { s with world := w } (f a) E Q) :
    Ends s (Session.play m >>= f) E Q := by
  refine (of_runFrom (Q := fun a s' => m.runFrom s.world = (.ok a, s'.world) ∧
    s' = { s with world := s'.world }) (runFrom_play m s) (fun e he => ?_) fun a ha => ?_).bind
      fun a s' h => ?_
  · exact hE e _ (Play.runFrom_eq he)
  · exact ⟨Play.runFrom_eq ha, rfl⟩
  · obtain ⟨hrun, hs'⟩ := h
    rw [hs']
    exact hf a _ hrun

/-- **What comes of telling the player something**: it is a fault where the console does not show
it. -/
theorem tell {kind : NoticeKind} {text : String} {Q : Unit → Session → Prop}
    (hE : s.console.shows (Notice.marked ⟨kind, text⟩) = false → E .badMarkup)
    (h : Q () { s with notices := s.notices ++ [⟨kind, text⟩] }) :
    Ends s (Session.tell kind text) E Q := by
  have hrun := runFrom_tell kind text s
  cases hshows : s.console.shows (Notice.marked ⟨kind, text⟩) with
  | true =>
      rw [hshows, if_pos rfl] at hrun
      exact of_runFrom hrun nofun fun _ _ => h
  | false =>
      rw [hshows, if_neg Bool.false_ne_true] at hrun
      refine of_runFrom hrun (fun _ h' => ?_) nofun
      cases h'
      exact hE hshows

theorem refuse {text answer : String} {Q : String → Session → Prop}
    (hE : s.console.shows (Notice.marked ⟨.error, text⟩) = false → E .badMarkup)
    (h : Q answer { s with notices := s.notices ++ [⟨.error, text⟩] }) :
    Ends s (Session.refuse text answer) E Q :=
  (tell (Q := fun _ s' => Q answer s') hE h).bind fun _ _ h => .pure h

theorem confirm {text answer : String} {Q : String → Session → Prop}
    (hE : s.console.shows (Notice.marked ⟨.info, text⟩) = false → E .badMarkup)
    (h : Q answer { s with notices := s.notices ++ [⟨.info, text⟩] }) :
    Ends s (Session.confirm text answer) E Q :=
  (tell (Q := fun _ s' => Q answer s') hE h).bind fun _ _ h => .pure h

/-- A refusal in which no mark opens is shown on every console. -/
theorem refuse_plain {text answer : String} {Q : String → Session → Prop}
    (hplain : opensMark text.toList = false)
    (h : Q answer { s with notices := s.notices ++ [⟨.error, text⟩] }) :
    Ends s (Session.refuse text answer) E Q :=
  refuse (fun hno => absurd ((s.console.shows_plain ⟨.error, text⟩ hplain).symm.trans hno) nofun) h

theorem confirm_plain {text answer : String} {Q : String → Session → Prop}
    (hplain : opensMark text.toList = false)
    (h : Q answer { s with notices := s.notices ++ [⟨.info, text⟩] }) :
    Ends s (Session.confirm text answer) E Q :=
  confirm (fun hno => absurd ((s.console.shows_plain ⟨.info, text⟩ hplain).symm.trans hno) nofun) h

end Ends

end Turn

end Gamebook
