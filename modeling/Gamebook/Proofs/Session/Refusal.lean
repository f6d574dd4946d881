/-
**Refused lines change nothing.**

A line is refused in many places: some refusals come before the game is looked at, others after a
snapshot was taken, the choices were listed, conditions were tested or an action was tried.  All
that comes before a refusal only looks at the world, and an action that is refused only looked, too.
So a refused line leaves everything as it was, but for the lines that failed formulas leave in the
journal.

Main definitions:

* `Session.refusals`, `Session.isRefusal` — the answers to lines that are refused;
* `Session.acceptances` — how the answers start to lines that are carried out;
* `Session.RefusedOnlyLooked` — after a refusal the world was only looked at.

Main results:

* `Session.isRefusal_acceptance` — an answer that starts as an acceptance does is no refusal;
* `Session.handle_onlyLooks` — a line that is refused only looks at the world;
* `Session.handle_refused` — **a refused line changes nothing** but the journal, and there it leaves
  the lines of failed formulas only.
-/

import Gamebook.Proofs.Play.Course
import Gamebook.Proofs.Play.Rendering
import Gamebook.Proofs.Session.Run

set_option autoImplicit false

namespace Gamebook

open Play World

namespace Session

/-! ### Refusals -/

/-- The answers that refuse a line, but for those that name a mistake in a command. -/
def refusals : List String :=
  ["Unknown input.", "Unknown command.", "Choice unavailable.", "Purchase refused.",
    "You can't use that item.", "Load failed.", "Save failed."]

/-- How the answers start that name a mistake in a command. -/
def commandError : String := "Command error"

/-- Whether an answer refuses a line. -/
def isRefusal (answer : String) : Bool :=
  refusals.contains answer || commandError.toList.isPrefixOf answer.toList

/-- Whether two rows of characters differ at a place that both have. -/
def differ : List Char → List Char → Bool
  | a :: as, b :: bs => a != b || differ as bs
  | _, _ => false

/-- What starts with one of two rows that differ does not start with the other. -/
theorem not_isPrefix_append {as bs : List Char} (h : differ as bs = true) (cs : List Char) :
    ¬ bs <+: as ++ cs := by
  fun_induction differ as bs with
  | case1 a as b bs ih =>
      rw [List.cons_append, List.cons_prefix_cons]
      rintro ⟨rfl, hprefix⟩
      exact ih (by simpa using h) hprefix
  | case2 => cases h

/-- An answer that starts in another way than all refusals is none. -/
theorem isRefusal_append {start : String}
    (h : (commandError :: refusals).all (fun r => differ start.toList r.toList) = true)
    (rest : String) : isRefusal (start ++ rest) = false := by
  rw [List.all_eq_true] at h
  rw [isRefusal, Bool.or_eq_false_iff]
  constructor
  · rw [Bool.eq_false_iff]
    intro hmem
    have hmem := List.contains_iff_mem.1 hmem
    refine not_isPrefix_append (h _ (List.mem_cons_of_mem _ hmem)) rest.toList ?_
    rw [String.toList_append]
  · rw [Bool.eq_false_iff]
    intro hprefix
    refine not_isPrefix_append (h _ (List.mem_cons_self ..)) rest.toList ?_
    rw [← String.toList_append]
    exact List.isPrefixOf_iff_prefix.1 hprefix

/-- How the answers start that refuse no line. -/
def acceptances : List String :=
  ["Chose: ", "Bought ", "Used ", "Rested until day ", "Game saved.", "Game loaded.", "Game reset.",
    "Help shown."]

/-- An answer that starts as an acceptance does is no refusal. -/
theorem isRefusal_acceptance {start : String} (h : start ∈ acceptances) (rest : String) :
    isRefusal (start ++ rest) = false := by
  have hdiffer : acceptances.all (fun start =>
      (commandError :: refusals).all fun r => differ start.toList r.toList) = true := by
    decide +kernel
  exact isRefusal_append (List.all_eq_true.1 hdiffer start h) rest

/-! ### Lines that are refused -/

variable {s s' : Session} {line : String}

/-- When the answer refuses a line, the world was only looked at. -/
def RefusedOnlyLooked (s : Session) (answer : String) (s' : Session) : Prop :=
  isRefusal answer = true → Idle s.world s'.world

/-- A part of a turn that only looks when it refuses. -/
abbrev OnlyLooks (s : Session) (m : Turn String) : Prop :=
  m.Ends s (fun _ => True) (RefusedOnlyLooked s)

theorem OnlyLooks.after {w : World} {m : Turn String} (hidle : Idle s.world w)
    (h : OnlyLooks { s with world := w } m) :
    m.Ends { s with world := w } (fun _ => True) (RefusedOnlyLooked s) :=
  ⟨fun _ _ => trivial, fun answer ha hrefused => hidle.trans (h.result answer ha hrefused)⟩

theorem refuse_onlyLooks (text answer : String) : OnlyLooks s (refuse text answer) :=
  .refuse (fun _ => trivial) fun _ => .refl _

/-- An answer that is no refusal promises nothing about the world. -/
theorem accepted_ends {answer : String} (h : isRefusal answer = false) :
    (pure answer : Turn String).Ends s' (fun _ => True) (RefusedOnlyLooked s) :=
  .pure fun hrefused => by rw [h] at hrefused; cases hrefused

theorem confirmed_ends {text answer : String} (h : answer ∈ acceptances) :
    (confirm text answer).Ends s' (fun _ => True) (RefusedOnlyLooked s) := by
  have haccepted := isRefusal_acceptance h ""
  rw [String.append_empty] at haccepted
  exact .confirm (fun _ => trivial) fun hrefused => by rw [haccepted] at hrefused; cases hrefused

theorem shown_ends {v : Value} {f : String → String} (h : ∀ text, isRefusal (f text) = false) :
    (showText v >>= fun text => pure (f text)).Ends s' (fun _ => True) (RefusedOnlyLooked s) :=
  .bind (P := fun _ _ => True) ⟨fun _ _ => trivial, fun _ _ => trivial⟩
    fun text _ _ => accepted_ends (h text)

/-- An action that is refused only looked. -/
theorem action_onlyLooks (op : Operation) (player : op.IsAction) {f : Bool → Turn String}
    (hrefused : ∀ w, OnlyLooks { s with world := w } (f false))
    (haccepted : ∀ w, (f true).Ends { s with world := w } (fun _ => True) (RefusedOnlyLooked s)) :
    OnlyLooks s (play op.run >>= f) := by
  refine .play_bind (fun _ _ _ => trivial) fun accepted w hrun => ?_
  have hends := (op.act_changes Operation.admits_true player (fun _ _ => trivial)
    (Operation.book_has_true _)).result_of_run hrun
  cases accepted with
  | true => exact haccepted w
  | false => exact OnlyLooks.after (hends.1 rfl) (hrefused w)

/-- What only looks at the world may come first. -/
theorem look_onlyLooks {α : Type} {m : Play α} {f : α → Turn String} {Q : α → World → Prop}
    (hlook : Leads Idle s.world m Q) (h : ∀ a w, OnlyLooks { s with world := w } (f a)) :
    OnlyLooks s (play m >>= f) :=
  .play_bind (fun _ _ _ => trivial) fun a w hrun =>
    OnlyLooks.after (hlook.world_of_run hrun) (h a w)

theorem takeChoice_onlyLooks (number : Nat) : OnlyLooks s (takeChoice number) := by
  unfold takeChoice
  refine look_onlyLooks currentChoices_idle fun choices w => ?_
  split
  · exact refuse_onlyLooks _ _
  split
  · exact refuse_onlyLooks _ _
  · exact action_onlyLooks (.chooseAt (.int ((number : Int) - 1))) trivial
      (fun _ => refuse_onlyLooks _ _) fun _ => shown_ends (isRefusal_acceptance (by decide))

theorem buyCommand_onlyLooks (arguments : List String) : OnlyLooks s (buyCommand arguments) := by
  match arguments with
  | [] => exact refuse_onlyLooks _ _
  | [_] => exact refuse_onlyLooks _ _
  | shop :: item :: _ =>
      refine look_onlyLooks snapshot_idle fun view w => ?_
      dsimp only
      split
      · exact refuse_onlyLooks _ _
      refine action_onlyLooks (.buy (.str shop) (.str item)) trivial
        (fun _ => refuse_onlyLooks _ _) fun _ => accepted_ends ?_
      rw [String.append_assoc]
      exact isRefusal_acceptance (by decide) _

theorem useCommand_onlyLooks (arguments : List String) : OnlyLooks s (useCommand arguments) := by
  match arguments with
  | [] => exact refuse_onlyLooks _ _
  | item :: _ =>
      refine action_onlyLooks (.useItem (.str item)) trivial
        (fun _ => refuse_onlyLooks _ _) fun _ => accepted_ends ?_
      rw [String.append_assoc]
      exact isRefusal_acceptance (by decide) _

theorem restCommand_onlyLooks (arguments : List String) : OnlyLooks s (restCommand arguments) := by
  unfold restCommand
  refine .lift_bind (fun _ _ => trivial) fun finite _ => ?_
  split
  · exact refuse_onlyLooks _ _
  refine .play_bind (fun _ _ _ => trivial) fun _ w _ => .get_bind <| shown_ends fun text => ?_
  rw [String.append_assoc]
  exact isRefusal_acceptance (by decide) _

theorem saveCommand_onlyLooks : OnlyLooks s saveCommand := by
  unfold saveCommand
  refine .get_bind ?_
  split
  · exact refuse_onlyLooks _ _
  refine .set_bind _ ?_
  split
  · exact confirmed_ends (by decide)
  · exact refuse_onlyLooks _ _

theorem loadCommand_onlyLooks : OnlyLooks s loadCommand := by
  unfold loadCommand
  refine .get_bind ?_
  split
  · exact refuse_onlyLooks _ _
  · exact .play_bind (fun _ _ _ => trivial) fun _ _ _ => confirmed_ends (by decide)

theorem resetCommand_onlyLooks : OnlyLooks s resetCommand :=
  .play_bind (fun _ _ _ => trivial) fun _ _ _ => confirmed_ends (by decide)

theorem runCommand_onlyLooks (command : String) (arguments : List String) :
    OnlyLooks s (runCommand command arguments) := by
  unfold runCommand
  split
  · exact buyCommand_onlyLooks arguments
  · exact useCommand_onlyLooks arguments
  · exact restCommand_onlyLooks arguments
  · exact saveCommand_onlyLooks
  · exact loadCommand_onlyLooks
  · exact resetCommand_onlyLooks
  · exact confirmed_ends (by decide)
  · exact refuse_onlyLooks _ _

/-- A line that is refused only looks at the world. -/
theorem handle_onlyLooks (line : String) :
    (handle line).Ends s (fun _ => True) fun answer? s' =>
      ∀ answer, answer? = some answer → RefusedOnlyLooked s answer s' := by
  have hanswer : ∀ {m : Turn String}, OnlyLooks s m →
      (m >>= fun answer => pure (some answer)).Ends s (fun _ => True) fun answer? s' =>
        ∀ answer, answer? = some answer → RefusedOnlyLooked s answer s' := fun h =>
    h.bind fun answer s' hlooked => .pure fun _ h => by cases h; exact hlooked
  unfold handle
  dsimp only
  split
  · exact .pure nofun
  split
  · refine .pure fun answer h => ?_
    cases h
    exact nofun
  split
  · refine .get_bind <| .lift_bind (fun _ _ => trivial) fun number _ => ?_
    exact hanswer (takeChoice_onlyLooks number)
  split
  · exact hanswer (refuse_onlyLooks _ _)
  split
  · exact .pure nofun
  · exact hanswer (runCommand_onlyLooks _ _)

/-- **A refused line changes nothing**: the state stays as it was, but for the lines of failed
formulas in the journal.  A journal that is full drops its oldest lines for them. -/
theorem handle_refused {answer : String} (h : (handle line).runFrom s = (.ok (some answer), s'))
    (hrefused : isRefusal answer = true) :
    s'.world.book = s.world.book ∧ s'.world.settings = s.world.settings ∧
      ∃ failed : List Value, s'.world.state = { s.world.state with
        journal := s.world.state.journal.noteFailures s.world.settings.now failed } := by
  have hidle := (handle_onlyLooks line).result_of_run h answer rfl hrefused
  refine ⟨hidle.book_eq, hidle.settings_eq, ?_⟩
  obtain ⟨failed, chance, warnings, hw⟩ := hidle
  exact ⟨failed, by rw [hw]; rfl⟩

/-- Somebody in the bazaar. -/
def visitor : Session := { world := bazaar }

/-- The visitor after asking for the rug. -/
def askedForRug : Session := ((handle "/buy stall rug").runFrom visitor).2

theorem handle_rug :
    (handle "/buy stall rug").runFrom visitor = (.ok (some "Purchase refused."), askedForRug) :=
  Turn.runFrom_eq (by decide +kernel)

/-- The rug is refused after its condition has failed, and the bazaar stays as it was but for the
line of that formula. -/
theorem handle_refused_rug :
    ((handle "/buy stall rug").runFrom visitor = (.ok (some "Purchase refused."), askedForRug) ∧
        isRefusal "Purchase refused." = true ∧
        askedForRug.world.state.journal.texts = ["Expr error: $stat.gold.cur >="]) ∧
      askedForRug.world.book = visitor.world.book ∧
      askedForRug.world.settings = visitor.world.settings ∧
      ∃ failed : List Value, askedForRug.world.state = { visitor.world.state with
        journal := visitor.world.state.journal.noteFailures visitor.world.settings.now failed } :=
  ⟨⟨handle_rug, by decide, by decide +kernel⟩, handle_refused handle_rug (by decide)⟩

end Session

end Gamebook
