/-
**What players type makes few turns fail.**

Take a world from which no operation of a player fails, whatever has been reached by typing.  Then a
turn has an answer for every line but for a few, and the session goes on in a world that can be
reached, with a slot that is missing or holds what saving such a world leaves in it.  The exceptions
are a line that looks like a number and cannot be read as one, a snapshot that fails when something
is bought, an answer with an integer that has too many digits, and a refusal that repeats what was
typed where the console does not show it.

Main definitions:

* `Session.InPlay` — sessions in a world that can be reached;
* `Session.Echoes` — refusals that repeat a word of the line;
* `Session.Trips` — the lines that make a turn fail.

Main results:

* `Session.turn_returns` — **a turn has an answer** for exactly the lines that do not trip;
* `Session.Echoes.trips_of_unmatched` — a closing mark in a refusal that repeats it makes a turn
  fail, where the console refuses it.
-/

import Gamebook.Proofs.Number.Largest
import Gamebook.Proofs.Session.Choice
import Gamebook.Proofs.Session.Reach

set_option autoImplicit false

namespace Gamebook

open Play World Value

namespace Session

/-- The session is in a world that can be reached, and its slot is missing or holds what saving such
a world leaves in it. -/
structure InPlay (start : World) (s : Session) : Prop where
  world : start.Reached s.world
  slot : s.slot = none ∨ ∃ v, start.Reached v ∧ s.slot = v.savedSlot

/-! ### Lines that trip -/

/-- The line looks like a number and cannot be read as one: it has a character that only looks like
a digit, or too many digits. -/
structure Unreadable (limit : DigitLimit) (line : String) : Prop where
  isEmpty : (Text.strip line).isEmpty = false
  noWord : quitWords.contains (Text.lower (Text.strip line)) = false
  looks : (Text.strip line).toList.all Text.isDigitLike = true
  unread : ∃ e, readNumber limit (Text.strip line).toList = .error e

/-- The command in a line that starts with a stroke, with its arguments. -/
def commandIn (line : String) : Option (String × List String) :=
  if (Text.strip line).toList.head? = some '/' then
    match Text.words (Text.strip line) with
    | [] => none
    | command :: arguments => some (Text.lower command, arguments)
  else none

/-- The commands that there are. -/
def commandNames : List String := ["/buy", "/use", "/rest", "/save", "/load", "/reset", "/help"]

/-- **A command is refused with a text that repeats what was typed.** -/
inductive Echoes (s : Session) : String → List String → String → Prop
  | noShop {shop item : String} {rest : List String} {view : Snapshot} {w : World} :
      snapshot.runFrom s.world = (.ok view, w) →
      view.shops.any (·.id.eqv (.str shop)) = false →
      Echoes s "/buy" (shop :: item :: rest) ("❌ There is no shop '" ++ shop ++ "' here.")
  | notBought {shop item : String} {rest : List String} {view : Snapshot} {w : World} :
      snapshot.runFrom s.world = (.ok view, w) →
      view.shops.any (·.id.eqv (.str shop)) = true →
      ((buy (.str shop) (.str item)).runFrom w).1 = .ok false →
      Echoes s "/buy" (shop :: item :: rest) ("❌ You can't buy '" ++ item ++ "' right now.")
  | notUsed {item : String} {rest : List String} :
      ((useItem (.str item)).runFrom s.world).1 = .ok false →
      Echoes s "/use" (item :: rest) ("❌ You can't use '" ++ item ++ "'.")
  | unknown {command : String} {arguments : List String} :
      command ∉ commandNames → Echoes s command arguments ("❌ Unknown command: " ++ command)

/-- The commands that make a turn fail. -/
inductive CommandTrips (s : Session) : String → List String → Prop
  /-- The console does not show a refusal that repeats what was typed. -/
  | unshown {command text : String} {arguments : List String} :
      Echoes s command arguments text →
      s.console.shows (Notice.marked ⟨.error, text⟩) = false → CommandTrips s command arguments
  /-- Something is bought where no snapshot can be taken. -/
  | shop {shop item : String} {rest : List String} {e : Fault} :
      (snapshot.runFrom s.world).1 = .error e → CommandTrips s "/buy" (shop :: item :: rest)
  /-- The day after a rest has too many digits. -/
  | day {arguments : List String} {days : Number} {w : World} :
      daysAsked arguments = .num days → (Value.num days).isFiniteNumber = .ok true →
      days.lt (.int 1) = false → (advanceDay (.num days)).runFrom s.world = (.ok (), w) →
      w.state.day.isWritable s.world.settings.digitLimit = false →
      CommandTrips s "/rest" arguments

/-- **The lines that make a turn fail.** -/
inductive Trips (s : Session) (line : String) : Prop
  /-- The line looks like a number and is none. -/
  | number : Unreadable s.world.settings.digitLimit line → Trips s line
  /-- The text of the choice that is taken has an integer with too many digits. -/
  | text {n : Nat} {views : List ChoiceView} {view : ChoiceView} {w : World} :
      Types s.world.settings.digitLimit line n → 1 ≤ n →
      currentChoices.runFrom s.world = (.ok views, w) → views[n - 1]? = some view →
      ((chooseIndex (n - 1 : Nat)).runFrom w).1 = .ok true →
      view.text.isWritable s.world.settings.digitLimit = false → Trips s line
  | command {command : String} {arguments : List String} :
      commandIn line = some (command, arguments) → CommandTrips s command arguments → Trips s line

variable {start : World} {s s' : Session} {line command : String} {arguments : List String}
  {n : Nat}

/-- A look at the world leaves a session in play. -/
theorem InPlay.look {α : Type} {m : Play α} {f : α → Shown} {w : World} {r : Except Fault α}
    (hs : s.InPlay start) (reading : Reading) (hreading : reading.run = (do return f (← m)))
    (hrun : m.runFrom s.world = (r, w)) : InPlay start { s with world := w } := by
  refine ⟨?_, hs.slot⟩
  have hsame : (reading.run.runFrom s.world).2 = w := by
    rw [hreading, runFrom_bind, hrun]
    cases r <;> rfl
  exact hsame ▸ hs.world.read reading

/-- All worlds that can be reached have the digit limit of the session. -/
theorem InPlay.digitLimit_eq (hs : s.InPlay start) {w : World} (hw : start.Reached w) :
    w.settings.digitLimit = s.world.settings.digitLimit := by
  rw [hw.digitLimit_eq, hs.world.digitLimit_eq]

/-! ### Lines that trip make a turn fail -/

/-- A line that looks like a number and is none makes every turn fail. -/
theorem Unreadable.turn_fails (h : Unreadable s.world.settings.digitLimit line) :
    (turn line).Fails s := by
  obtain ⟨e, hunread⟩ := h.unread
  refine ⟨e, s, runFrom_turn_error ?_⟩
  unfold handle
  simp only [h.isEmpty, h.noWord, h.looks, Bool.false_eq_true, if_false, if_true]
  rw [Turn.runFrom_bind_ok (Turn.runFrom_get s), hunread]
  rfl

/-- A line that starts with a stroke is no word that ends the session. -/
theorem quitWords_stroke {cs : List Char} :
    quitWords.contains (Text.lower (String.ofList ('/' :: cs))) = false := by
  have hwords : ∀ word ∈ quitWords, word.toList.head? ≠ some '/' := by decide +kernel
  rw [Bool.eq_false_iff]
  intro hmem
  refine hwords _ (List.contains_iff_mem.1 hmem) ?_
  rw [Text.lower, String.toList_ofList, String.toList_ofList]
  rfl

/-- A line with a command runs the command. -/
theorem runFrom_handle_command (h : commandIn line = some (command, arguments)) (s : Session) :
    (handle line).runFrom s =
      (do return some (← runCommand command arguments) : Turn (Option String)).runFrom s := by
  unfold commandIn at h
  split at h
  case isFalse => cases h
  rename_i hstroke
  obtain ⟨cs, hcs⟩ := List.head?_eq_some_iff.1 hstroke
  have htext : Text.strip line = String.ofList ('/' :: cs) := by rw [← hcs, String.ofList_toList]
  have hempty : (Text.strip line).isEmpty = false := by simp [htext]
  have hquit : quitWords.contains (Text.lower (Text.strip line)) = false := by
    rw [htext, quitWords_stroke]
  have hlike : (Text.strip line).toList.all Text.isDigitLike = false := by
    have hslash : Text.isDigitLike '/' = false := by decide +kernel
    rw [hcs, List.all_cons, hslash, Bool.false_and]
  split at h
  · cases h
  rename_i hwords
  cases h
  unfold handle
  simp only [hempty, hquit, hlike, hstroke, hwords, Bool.false_eq_true, if_false, ne_eq,
    not_true_eq_false]

theorem runCommand_unknown (h : command ∉ commandNames) : runCommand command arguments =
    refuse ("❌ Unknown command: " ++ command) "Unknown command." := by
  unfold runCommand
  split <;> first | rfl | simp [commandNames] at h

/-- A refusal that repeats what was typed fails where the console does not show it. -/
theorem Echoes.fails {text : String} (h : s.Echoes command arguments text)
    (hshows : s.console.shows (Notice.marked ⟨.error, text⟩) = false) :
    (runCommand command arguments).Fails s := by
  cases h with
  | noShop hview hshop =>
      refine .of_play hview ?_
      simp only [hshop, Bool.not_false, if_true]
      refine .refuse ?_ _
      exact hshows
  | notBought hview hshop hbuy =>
      refine .of_play hview ?_
      simp only [hshop, Bool.not_true, Bool.false_eq_true, if_false]
      refine .of_play (runFrom_eq hbuy) ?_
      rw [if_neg Bool.false_ne_true]
      refine .refuse ?_ _
      exact hshows
  | notUsed huse =>
      refine .of_play (runFrom_eq huse) ?_
      rw [if_neg Bool.false_ne_true]
      refine .refuse ?_ _
      exact hshows
  | unknown hunknown =>
      rw [runCommand_unknown hunknown]
      exact .refuse hshows _

/-- A value with an integer that has too many digits is not shown. -/
theorem showText_fails {v : Value} (h : v.isWritable s.world.settings.digitLimit = false) :
    (showText v).Fails s := by
  refine ⟨.tooManyDigits, s, ?_⟩
  rw [Turn.runFrom_showText, plainTextWithin, if_neg (by simp [h])]

theorem CommandTrips.fails (hs : s.InPlay start) (h : s.CommandTrips command arguments) :
    (runCommand command arguments).Fails s := by
  cases h with
  | unshown hechoes hshows => exact hechoes.fails hshows
  | shop hsnapshot => exact .bind ⟨_, _, by rw [Turn.runFrom_play, hsnapshot]⟩
  | @day _ days w hdays hfinite hone hrun hwritable =>
      have hreached := hs.world.operation (.rest hfinite hone)
      rw [Operation.run, runFrom_andTrue, hrun] at hreached
      have hasked : (liftM (daysAsked arguments).isFiniteNumber : Turn Bool).runFrom s =
          (.ok true, s) := by rw [Turn.runFrom_liftM, hdays, hfinite]
      have hfailed : ((!true || days.lt (.int 1)) = true) = False := by simp [hone]
      refine .of_bind hasked ?_
      rw [hdays]
      simp only [toNumber, hfailed, if_false]
      refine .of_play hrun (.of_bind (Turn.runFrom_get _) (.bind (showText_fails ?_)))
      exact hs.digitLimit_eq hreached ▸ hwritable

theorem takeChoice_fails (hs : s.InPlay start) (hn : 1 ≤ n) {views : List ChoiceView}
    {view : ChoiceView} {w : World} (hshown : currentChoices.runFrom s.world = (.ok views, w))
    (hview : views[n - 1]? = some view)
    (htaken : ((chooseIndex (n - 1 : Nat)).runFrom w).1 = .ok true)
    (hwritable : view.text.isWritable s.world.settings.digitLimit = false) :
    (takeChoice n).Fails s := by
  have hs₁ : InPlay start { s with world := w } := hs.look .choices rfl hshown
  have hreached : start.Reached ((chooseIndex (n - 1 : Nat)).runFrom w).2 :=
    hs₁.world.operation (.choose (n - 1))
  unfold takeChoice
  refine .of_play hshown ?_
  rw [if_neg (by omega), hview]
  have hplace : (n : Int) - 1 = (n - 1 : Nat) := by omega
  rw [hplace]
  refine .of_play (runFrom_eq htaken) (.bind (showText_fails ?_))
  exact hs.digitLimit_eq hreached ▸ hwritable

/-- **Lines that trip make a turn fail.** -/
theorem Trips.fails (hs : s.InPlay start) (h : s.Trips line) : (turn line).Fails s := by
  cases h with
  | number hunreadable => exact hunreadable.turn_fails
  | text htypes hn hshown hview htaken hwritable =>
      refine .bind (.congr (runFrom_handle_number htypes) (.bind ?_))
      exact takeChoice_fails hs hn hshown hview htaken hwritable
  | command hcommand htrips =>
      exact .bind (.congr (runFrom_handle_command hcommand s) (.bind (htrips.fails hs)))

/-! ### Turns that do not fail -/

/-- What a player is told does not matter. -/
theorem InPlay.notices (hs : s.InPlay start) (notices : List Notice) :
    InPlay start { s with notices } :=
  ⟨hs.world, hs.slot⟩

section

variable {β : Type} {E : Fault → Prop} {Q : β → Session → Prop}

/-- What comes after an operation of a player. -/
theorem operation_bind (h : start.Sturdy) (hs : s.InPlay start) {op : Operation}
    (htyped : op.Typed) {f : Bool → Turn β}
    (hf : ∀ accepted w, op.run.runFrom s.world = (.ok accepted, w) →
      InPlay start { s with world := w } → (f accepted).Ends { s with world := w } E Q) :
    (play op.run >>= f).Ends s E Q := by
  obtain ⟨accepted, hreturns⟩ := h.operation hs.world htyped
  refine .play_bind (fun e w hrun => ?_) fun accepted w hrun => hf accepted w hrun ⟨?_, hs.slot⟩
  · rw [hrun] at hreturns
    cases hreturns
  · have := hs.world.operation htyped
    rwa [hrun] at this

/-- What comes after an operation that is always carried out. -/
theorem done_bind (hs : s.InPlay start) {m : Play Unit} {f : Unit → Turn β}
    (hreturns : ∃ accepted, ((do m; return true : Play Bool).runFrom s.world).1 = .ok accepted)
    (hreached : start.Reached ((do m; return true : Play Bool).runFrom s.world).2)
    (hf : ∀ w, m.runFrom s.world = (.ok (), w) → InPlay start { s with world := w } →
      (f ()).Ends { s with world := w } E Q) : (play m >>= f).Ends s E Q := by
  rw [runFrom_andTrue] at hreturns hreached
  obtain ⟨accepted, hreturns⟩ := hreturns
  refine .play_bind (fun e w hrun => ?_) fun _ w hrun => hf w hrun ⟨?_, hs.slot⟩
  · rw [hrun] at hreturns
    cases hreturns
  · rwa [hrun] at hreached

end

/-! ### Commands that do not fail -/

/-- Choices can be shown where they can be taken. -/
theorem exists_views (h : start.Sturdy) (hs : s.InPlay start) :
    ∃ views, (currentChoices.runFrom s.world).1 = .ok views := by
  obtain ⟨accepted, hreturns⟩ := h.operation hs.world (.choose 0)
  rcases hrun : currentChoices.runFrom s.world with ⟨_ | views, w⟩
  · have htake : (takeIndex 0).runFrom s.world = (.error _, w) := runFrom_bind_error hrun
    have hchoose : ((Operation.chooseAt (.int (0 : Nat))).run).runFrom s.world = (.error _, w) :=
      runFrom_bind_error htake
    rw [hchoose] at hreturns
    cases hreturns
  · exact ⟨views, rfl⟩

/-- A text is shown when it can be written. -/
theorem showText_ends {v : Value} {f : String → String} {E : Fault → Prop}
    {Q : Session → Prop} (hE : v.isWritable s.world.settings.digitLimit = false → ∀ e, E e)
    (hQ : Q s) : (showText v >>= fun text => pure (f text)).Ends s E fun _ s' => Q s' := by
  have hshow := Turn.runFrom_showText v s
  cases hwritable : v.isWritable s.world.settings.digitLimit with
  | true =>
      rw [plainTextWithin, if_pos hwritable] at hshow
      exact .of_runFrom (Turn.runFrom_bind_ok hshow) nofun fun _ _ => hQ
  | false =>
      rw [plainTextWithin, if_neg (by simp [hwritable])] at hshow
      exact .of_runFrom (Turn.runFrom_bind_error hshow) (fun e _ => hE hwritable e) nofun

/-- The refusal of a choice has no marks. -/
theorem choiceRefused_ends {E : Fault → Prop} (hs : s.InPlay start) (n : Nat) :
    (choiceRefused n).Ends s E fun _ s' => s'.InPlay start := by
  obtain ⟨text, hrun⟩ := runFrom_choiceRefused n s
  exact .of_runFrom hrun nofun fun _ _ => hs.notices _

theorem takeChoice_ends (h : start.Sturdy) (hs : s.InPlay start) (n : Nat) :
    (takeChoice n).Ends s (fun _ => ∃ views view w, 1 ≤ n ∧
        currentChoices.runFrom s.world = (.ok views, w) ∧ views[n - 1]? = some view ∧
          ((chooseIndex (n - 1 : Nat)).runFrom w).1 = .ok true ∧
          view.text.isWritable s.world.settings.digitLimit = false)
      fun _ s' => s'.InPlay start := by
  obtain ⟨views, hviews⟩ := exists_views h hs
  unfold takeChoice
  refine .play_bind (fun e w hrun => ?_) fun views w hshown => ?_
  · rw [hrun] at hviews
    cases hviews
  have hs₁ : InPlay start { s with world := w } := hs.look .choices rfl hshown
  split
  · exact choiceRefused_ends hs₁ n
  rename_i hn
  split
  · exact choiceRefused_ends hs₁ n
  rename_i view hview
  rw [show (n : Int) - 1 = (n - 1 : Nat) by omega]
  refine operation_bind h hs₁ (.choose (n - 1)) fun accepted w' hchosen hs₂ => ?_
  cases accepted with
  | false => exact choiceRefused_ends hs₂ n
  | true =>
      refine showText_ends (fun hwritable _ => ?_) hs₂
      rw [hs.digitLimit_eq hs₂.world] at hwritable
      exact ⟨views, view, w, by omega, hshown, hview, congrArg Prod.fst hchosen, hwritable⟩

theorem buyCommand_ends (h : start.Sturdy) (hs : s.InPlay start) (arguments : List String) :
    (buyCommand arguments).Ends s (fun _ => s.CommandTrips "/buy" arguments)
      fun _ s' => s'.InPlay start := by
  match arguments with
  | [] => exact .refuse_plain (by decide) (hs.notices _)
  | [_] => exact .refuse_plain (by decide) (hs.notices _)
  | shop :: item :: rest =>
      refine .play_bind (fun e w hrun => .shop (by rw [hrun])) fun view w hrun => ?_
      have hs₁ : InPlay start { s with world := w } := hs.look .snapshot rfl hrun
      dsimp only
      split
      · rename_i hshop
        rw [Bool.not_eq_true'] at hshop
        exact .refuse (.unshown (.noShop hrun hshop)) (hs₁.notices _)
      rename_i hshop
      rw [Bool.not_eq_true', Bool.not_eq_false] at hshop
      refine operation_bind h hs₁ (.buy shop item) fun accepted w' hbuy hs₂ => ?_
      cases accepted with
      | false =>
          exact .refuse (.unshown (.notBought hrun hshop (congrArg Prod.fst hbuy))) (hs₂.notices _)
      | true => exact .pure hs₂

theorem useCommand_ends (h : start.Sturdy) (hs : s.InPlay start) (arguments : List String) :
    (useCommand arguments).Ends s (fun _ => s.CommandTrips "/use" arguments)
      fun _ s' => s'.InPlay start := by
  match arguments with
  | [] => exact .refuse_plain (by decide) (hs.notices _)
  | item :: _ =>
      refine operation_bind h hs (.use item) fun accepted w huse hs₁ => ?_
      cases accepted with
      | false => exact .refuse (.unshown (.notUsed (congrArg Prod.fst huse))) (hs₁.notices _)
      | true => exact .pure hs₁

/-- It can always be told whether the days that a player asks for are a finite number. -/
theorem exists_isFiniteNumber_daysAsked (arguments : List String) :
    ∃ days finite, daysAsked arguments = .num days ∧
      (Value.num days).isFiniteNumber = .ok finite := by
  have hnumber : ∀ days : Number, days.InRange →
      ∃ finite, (Value.num days).isFiniteNumber = .ok finite := fun days hdays => by
    obtain ⟨finite, hfinite⟩ := Option.isSome_iff_exists.1 hdays.isSome_isFinite
    exact ⟨finite, by rw [isFiniteNumber, hfinite]; rfl⟩
  cases arguments with
  | nil =>
      have hsize : 1 < twoTo 1023 := Nat.lt_of_lt_of_le (by decide : 1 < twoTo 1)
        (twoTo_le (by omega))
      obtain ⟨finite, hfinite⟩ := hnumber (.int 1) (.of_size_lt hsize)
      exact ⟨_, finite, rfl, hfinite⟩
  | cons days _ =>
      obtain ⟨finite, hfinite⟩ := hnumber _ (inRange_numberOfText days)
      exact ⟨_, finite, rfl, hfinite⟩

theorem restCommand_ends (h : start.Sturdy) (hs : s.InPlay start) (arguments : List String) :
    (restCommand arguments).Ends s (fun _ => s.CommandTrips "/rest" arguments)
      fun _ s' => s'.InPlay start := by
  obtain ⟨days, finite, hdays, hfinite⟩ := exists_isFiniteNumber_daysAsked arguments
  unfold restCommand
  rw [hdays]
  refine .lift_bind (fun e he => ?_) fun finite' hfinite' => ?_
  · rw [hfinite] at he
    cases he
  rw [hfinite] at hfinite'
  cases hfinite'
  split
  · exact .refuse_plain (by decide) (hs.notices _)
  rename_i hasked
  rw [Bool.or_eq_true, not_or, Bool.not_eq_true', Bool.not_eq_false, Bool.not_eq_true] at hasked
  obtain ⟨rfl, hone⟩ := hasked
  have htyped : (Operation.advanceDay (.num days)).Typed := .rest hfinite hone
  refine done_bind hs (h.operation hs.world htyped) (hs.world.operation htyped)
    fun w hrun hs₁ => .get_bind <| showText_ends (fun hwritable _ => ?_) hs₁
  rw [hs.digitLimit_eq hs₁.world] at hwritable
  exact .day hdays hfinite hone hrun hwritable

theorem saveCommand_ends {E : Fault → Prop} (hs : s.InPlay start) :
    saveCommand.Ends s E fun _ s' => s'.InPlay start := by
  have hsaved : InPlay start { s with slot := s.world.savedSlot } :=
    ⟨hs.world, .inr ⟨s.world, hs.world, rfl⟩⟩
  unfold saveCommand
  refine .get_bind ?_
  split
  · exact .refuse_plain (by decide) (hs.notices _)
  refine .set_bind { s with slot := s.world.savedSlot } ?_
  split
  · exact .confirm_plain (by decide) (hsaved.notices _)
  · exact .refuse_plain (by decide) (hsaved.notices _)

/-- A record in the slot is what saving a world that can be reached has left there. -/
theorem exists_of_savedRecord (hs : s.InPlay start) {record : Value}
    (h : s.savedRecord = some record) : ∃ v, start.Reached v ∧
      SaveSlot.load v.settings.digitLimit v.savedSlot = .ok (some record) := by
  unfold savedRecord at h
  split at h
  · split at h
    · rename_i hload
      subst h
      rcases hs.slot with hnone | ⟨v, hv, hslot⟩
      · rw [hnone] at hload
        cases hload
      · rw [hslot, ← hs.digitLimit_eq hv] at hload
        exact ⟨v, hv, hload⟩
    · cases h
  · cases h

theorem loadCommand_ends {E : Fault → Prop} (h : start.Sturdy) (hs : s.InPlay start) :
    loadCommand.Ends s E fun _ s' => s'.InPlay start := by
  unfold loadCommand
  refine .get_bind ?_
  split
  · exact .refuse_plain (by decide) (hs.notices _)
  rename_i record hrecord
  obtain ⟨v, hv, hsaved⟩ := exists_of_savedRecord hs hrecord
  exact done_bind hs (h.restore hv hs.world hsaved) (.restore hv hs.world hsaved)
    fun _ _ hs₁ => .confirm_plain (by decide) (hs₁.notices _)

theorem resetCommand_ends {E : Fault → Prop} (h : start.Sturdy) (hs : s.InPlay start) :
    resetCommand.Ends s E fun _ s' => s'.InPlay start :=
  done_bind hs (h.operation hs.world .reset) (hs.world.operation .reset)
    fun _ _ hs₁ => .confirm_plain (by decide) (hs₁.notices _)

/-! ### Lines that do not trip -/

/-- A line that is read as a number types it. -/
theorem types_of_readNumber {limit : DigitLimit} (hne : (Text.strip line).isEmpty = false)
    (h : readNumber limit (Text.strip line).toList = .ok n) : Types limit line n := by
  rw [Text.strip, String.toList_ofList, readNumber] at h
  split at h
  · rename_i hdigits
    rw [DigitLimit.readNat] at h
    split at h
    · rename_i hadmits
      refine ⟨fun hnil => ?_, List.all_eq_true.1 hdigits, hadmits, Except.ok.inj h⟩
      rw [Text.strip, hnil] at hne
      cases hne
    · cases h
  · cases h

/-- The one bracket in the help text is escaped. -/
theorem opensMark_helpText : opensMark helpText.toList = false := by
  unfold helpText
  -- line by line: the characters of the whole text take long to read
  simp only [String.toList_append]
  decide +kernel

theorem runCommand_ends (h : start.Sturdy) (hs : s.InPlay start) (command : String)
    (arguments : List String) :
    (runCommand command arguments).Ends s (fun _ => s.CommandTrips command arguments)
      fun _ s' => s'.InPlay start := by
  unfold runCommand
  split
  · exact buyCommand_ends h hs arguments
  · exact useCommand_ends h hs arguments
  · exact restCommand_ends h hs arguments
  · exact saveCommand_ends hs
  · exact loadCommand_ends h hs
  · exact resetCommand_ends h hs
  · exact .confirm_plain opensMark_helpText (hs.notices _)
  · exact .refuse (.unshown (.unknown (by simp_all [commandNames]))) (hs.notices _)

/-- A turn fails for lines that trip only, and otherwise the session stays in play. -/
theorem handle_ends (h : start.Sturdy) (hs : s.InPlay start) (line : String) :
    (handle line).Ends s (fun _ => s.Trips line) fun _ s' => s'.InPlay start := by
  have hanswer : ∀ {m : Turn String},
      m.Ends s (fun _ => s.Trips line) (fun _ s' => s'.InPlay start) →
      (m >>= fun answer => pure (some answer)).Ends s (fun _ => s.Trips line)
        fun _ s' => s'.InPlay start := fun hm => hm.bind fun _ _ hs' => .pure hs'
  unfold handle
  dsimp only
  split
  · exact .pure hs
  rename_i hempty
  rw [Bool.not_eq_true] at hempty
  split
  · exact .pure hs
  rename_i hquit
  rw [Bool.not_eq_true] at hquit
  split
  · rename_i hlooks
    refine .get_bind <| .lift_bind (fun e he => .number ⟨hempty, hquit, hlooks, e, he⟩) ?_
    intro number hnumber
    refine hanswer ((takeChoice_ends h hs number).mono fun e htrips => ?_)
    obtain ⟨views, view, w, hn, hshown, hview, htaken, hwritable⟩ := htrips
    exact .text (types_of_readNumber hempty hnumber) hn hshown hview htaken hwritable
  split
  · exact hanswer (.refuse_plain (by decide) (hs.notices _))
  rename_i hstroke
  rw [ne_eq, not_not] at hstroke
  split
  · exact .pure hs
  rename_i command arguments hwords
  have hcommand : commandIn line = some (Text.lower command, arguments) := by
    rw [commandIn, if_pos hstroke, hwords]
  exact hanswer ((runCommand_ends h hs _ _).mono fun _ => .command hcommand)

/-- **A turn has an answer** for exactly the lines that do not trip, and the session stays in
play. -/
theorem turn_returns (h : start.Sturdy) (hs : s.InPlay start) :
    (∃ answer s', (turn line).runFrom s = (.ok answer, s') ∧ s'.InPlay start) ↔ ¬ s.Trips line := by
  constructor
  · rintro ⟨answer, s', hrun, -⟩ htrips
    obtain ⟨e, s'', hfails⟩ := htrips.fails hs
    rw [hrun] at hfails
    cases hfails
  · intro hline
    have hends : (turn line).Ends s (fun _ => s.Trips line) fun _ s' => s'.InPlay start := by
      unfold turn
      refine (handle_ends h hs line).bind fun answer? s' hs' => ?_
      cases answer? with
      | none => exact .pure hs'
      | some answer =>
          dsimp only
          split
          · exact .of_runFrom (Turn.runFrom_bind_ok (Turn.runFrom_modify _ s')) nofun
              fun _ _ => ⟨hs'.world, hs'.slot⟩
          · exact .pure hs'
    rcases hrun : (turn line).runFrom s with ⟨e | answer, s'⟩
    · exact absurd (hends.fault e (by rw [hrun])) hline
    · exact ⟨answer, s', rfl, hends.result_of_run hrun⟩

/-! ### On the road -/

/-- A session at the start of the road. -/
def traveller : Session := { world := onTheRoad 1 (.int 0), console := .strict }

theorem inPlay_traveller : traveller.InPlay (onTheRoad 1 (.int 0)) := ⟨.start, .inl rfl⟩

/-- Taking the choice does not trip. -/
theorem not_trips_traveller : ¬ traveller.Trips "1" := by
  have hnoCommand : commandIn "1" = none := by decide +kernel
  have hviews : (currentChoices.runFrom traveller.world).1.toOption.all fun views =>
      views.all (·.text.isWritable .standard) := by decide +kernel
  rintro (h | ⟨-, -, hshown, hview, -, hwritable⟩ | ⟨hcommand, -⟩)
  · obtain ⟨e, he⟩ := h.unread
    cases he
  · rw [hshown] at hviews
    have htext := List.all_eq_true.1 hviews _ (List.mem_of_getElem? hview)
    exact absurd (htext.symm.trans hwritable) (by decide)
  · rw [hnoCommand] at hcommand
    cases hcommand

/-- The traveller goes on. -/
theorem turn_returns_traveller :
    (onTheRoad 1 (.int 0)).Sturdy ∧ traveller.InPlay (onTheRoad 1 (.int 0)) ∧
      ¬ traveller.Trips "1" ∧
      ∃ answer s', (turn "1").runFrom traveller = (.ok answer, s') ∧
        s'.InPlay (onTheRoad 1 (.int 0)) :=
  ⟨sturdy_road, inPlay_traveller, not_trips_traveller,
    (turn_returns sturdy_road inPlay_traveller).2 not_trips_traveller⟩

/-- A superscript looks like a digit and is none: whoever types it makes the turn fail. -/
theorem not_turn_returns :
    ¬ ∀ (start : World) (s : Session) (line : String), start.Sturdy → s.InPlay start →
      ∃ answer s', (turn line).runFrom s = (.ok answer, s') := by
  intro h
  obtain ⟨answer, s', hturn⟩ := h _ traveller "²" sturdy_road inPlay_traveller
  have hunreadable : Unreadable traveller.world.settings.digitLimit "²" :=
    ⟨by decide +kernel, by decide +kernel, by decide +kernel, .malformed, by decide +kernel⟩
  obtain ⟨e, s'', hfails⟩ := hunreadable.turn_fails
  rw [hfails] at hturn
  cases hturn

/-! ### Marks in a refusal -/

/-- **A closing mark in what is repeated makes the turn fail** on a console that refuses it. -/
theorem Echoes.trips_of_unmatched {text : String} (hechoes : s.Echoes command arguments text)
    (hconsole : s.console.RefusesUnmatched) (hcommand : commandIn line = some (command, arguments))
    {before name after : List Char}
    (hmark : text.toList = before ++ '[' :: '/' :: name ++ ']' :: after)
    (hbracket : '[' ∉ before) (hslash : '\\' ∉ before) (hname : Console.IsStyleName name)
    (hne : name ≠ NoticeKind.error.name.toList) : s.Trips line := by
  have hrefused := hconsole .error before name after hbracket hslash hname hne
  rw [← hmark, String.ofList_toList] at hrefused
  exact .command hcommand (.unshown hechoes hrefused)

example : traveller.Trips "/[/b]" := by
  have hcommand : commandIn "/[/b]" = some ("/[/b]", []) := by decide +kernel
  have hechoes : traveller.Echoes "/[/b]" [] ("❌ Unknown command: " ++ "/[/b]") :=
    .unknown (by decide)
  have hmark : ("❌ Unknown command: " ++ "/[/b]").toList =
      "❌ Unknown command: /".toList ++ '[' :: '/' :: ['b'] ++ ']' :: [] := rfl
  exact hechoes.trips_of_unmatched Console.strict_refusesUnmatched hcommand hmark (by decide)
    (by decide) ⟨nofun, by simp⟩ (by decide)

end Session

end Gamebook
