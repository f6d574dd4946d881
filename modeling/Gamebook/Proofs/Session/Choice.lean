/-
**Typing the number of a choice.**

The choices of a node are numbered from one where they are shown and where they are typed, and from
zero where they are taken.  A number that is typed stands for the choice that is shown with it: that
choice is carried out when it is shown as available.  Any other number is refused, and the world
stays as it was.

Main definition:

* `Session.Types` — lines that type a number.

Main results:

* `Session.types_digits` — the digits of a number type that number;
* `Session.runFrom_handle_number` — a line that types a number takes the choice with that number;
* `Session.typed_choice` — **what is shown as available is what can be taken by typing**.
-/

import Gamebook.Proofs.Play.Choosing
import Gamebook.Proofs.Session.Console
import Gamebook.Proofs.Session.Refusal
import Gamebook.Proofs.Text

set_option autoImplicit false

namespace Gamebook

open Play World Value

namespace Session

variable {s s' : Session} {limit : DigitLimit} {line : String} {n : Nat}

/-! ### Numbers that are typed -/

/-- The line types a number: it is a row of digits, with blanks around it or without, and there are
not too many. -/
structure Types (limit : DigitLimit) (line : String) (n : Nat) : Prop where
  ne_nil : Text.stripChars line.toList ≠ []
  isDigit : ∀ c ∈ Text.stripChars line.toList, Text.isDigit c
  admits : limit.admits (Text.stripChars line.toList).length = true
  value : Text.natOfDigits (Text.stripChars line.toList) = n

/-- The digits of a number type that number. -/
theorem types_digits (h : limit.admits (Text.digitsOfNat n).length = true) :
    Types limit (String.ofList (Text.digitsOfNat n)) n := by
  have hdigits : ∀ c ∈ Text.digitsOfNat n, Text.isDigit c := fun c hc =>
    Text.isDigit_of_isDigit (Text.isDigit_digitsOfNat c hc)
  have hstrip : Text.stripChars (String.ofList (Text.digitsOfNat n)).toList =
      Text.digitsOfNat n := by rw [String.toList_ofList, Text.stripChars_digits hdigits]
  constructor <;> rw [hstrip]
  · exact Text.digitsOfNat_ne_nil n
  · exact hdigits
  · exact h
  · exact Text.natOfDigits_digitsOfNat n

/-- A row of digits is no word that ends the session. -/
theorem quitWords_digits {cs : List Char} (hne : cs ≠ []) (h : ∀ c ∈ cs, Text.isDigit c) :
    quitWords.contains (Text.lower (String.ofList cs)) = false := by
  obtain ⟨c, cs, rfl⟩ := List.exists_cons_of_ne_nil hne
  have hc : Text.isDigit c := h c (List.mem_cons_self ..)
  have hhead : (Text.lower (String.ofList (c :: cs))).toList.head? = some c := by
    rw [Text.lower, String.toList_ofList, String.toList_ofList, Text.head?_lowerFrom hc]
  have hwords : ∀ word ∈ quitWords, word.toList.head?.any Text.isDigit = false := by decide +kernel
  rw [Bool.eq_false_iff]
  intro hmem
  have hword := hwords _ (List.contains_iff_mem.1 hmem)
  rw [hhead, Option.any_some, hc] at hword
  cases hword

/-- A line that types a number takes the choice with that number. -/
theorem runFrom_handle_number (h : Types s.world.settings.digitLimit line n) :
    (handle line).runFrom s =
      (do return some (← takeChoice n) : Turn (Option String)).runFrom s := by
  have hne : (Text.strip line).isEmpty = false := by
    rw [Text.strip, Bool.eq_false_iff]
    intro hempty
    exact h.ne_nil (by simpa using hempty)
  have hquit : quitWords.contains (Text.lower (Text.strip line)) = false :=
    quitWords_digits h.ne_nil h.isDigit
  have hlike : (Text.strip line).toList.all Text.isDigitLike = true := by
    rw [Text.strip, String.toList_ofList, List.all_eq_true]
    exact fun c hc => by rw [Text.isDigitLike, h.isDigit c hc, Bool.true_or]
  have hread : readNumber s.world.settings.digitLimit (Text.strip line).toList = .ok n := by
    rw [Text.strip, String.toList_ofList, readNumber, if_pos (List.all_eq_true.2 h.isDigit),
      DigitLimit.readNat, if_pos h.admits, h.value]
  unfold handle
  simp only [hne, hquit, hlike, Bool.false_eq_true, if_false, if_true]
  rw [Turn.runFrom_bind_ok (Turn.runFrom_get s), hread]
  rfl

/-- An answer that starts in another way than the word `quit` does not end the session. -/
theorem runFrom_turn {answer : String}
    (h : (handle line).runFrom s = (.ok (some answer), s')) (hquit : answer ≠ "quit") :
    (turn line).runFrom s = (.ok answer, s') := by
  unfold turn
  rw [Turn.runFrom_bind_ok h]
  simp only [hquit, if_false]
  rfl

theorem runFrom_turn_error {e : Fault} (h : (handle line).runFrom s = (.error e, s')) :
    (turn line).runFrom s = (.error e, s') :=
  Turn.runFrom_bind_error h

/-! ### What is shown and what is taken -/

/-- The session with another notice of a refusal. -/
def refused (s : Session) (text : String) : Session :=
  { s with notices := s.notices ++ [⟨.error, text⟩] }

/-- The refusal of a choice has no marks: it is shown on every console. -/
theorem runFrom_choiceRefused (number : Nat) (s : Session) : ∃ text,
    (choiceRefused number).runFrom s = (.ok "Choice unavailable.", s.refused text) := by
  refine ⟨_, Turn.runFrom_refuse (s.console.shows_of_notMem fun hmem => ?_) _⟩
  have hdigit : '[' ∉ Text.digitsOfNat number := fun hmem =>
    absurd (Text.isDigit_digitsOfNat _ hmem) (by decide)
  simp [String.toList_append, hdigit] at hmem

section

variable {views : List ChoiceView} {view : ChoiceView}

/-- The place of a shown choice is tried. -/
theorem runFrom_takeChoice (hn : 1 ≤ n)
    (hshown : currentChoices.runFrom s.world = (.ok views, s.world))
    (hview : views[n - 1]? = some view) :
    (takeChoice n).runFrom s = (do
      if ← play (chooseIndex (n - 1 : Nat)) then return "Chose: " ++ (← showText view.text)
      else choiceRefused n : Turn String).runFrom s := by
  have hplay : (play currentChoices).runFrom s = (.ok views, s) := by
    rw [Turn.runFrom_play, hshown]
  unfold takeChoice
  rw [Turn.runFrom_bind_ok hplay, if_neg (by omega), hview, Nat.cast_sub hn]
  rfl

/-- A number without an available choice is refused. -/
theorem takeChoice_refused (hn : 1 ≤ n)
    (hshown : currentChoices.runFrom s.world = (.ok views, s.world))
    (h : ∀ view, views[n - 1]? = some view → view.enabled = false) :
    ∃ text, (takeChoice n).runFrom s = (.ok "Choice unavailable.", s.refused text) := by
  cases hview : views[n - 1]? with
  | none =>
      have hplay : (play currentChoices).runFrom s = (.ok views, s) := by
        rw [Turn.runFrom_play, hshown]
      unfold takeChoice
      rw [Turn.runFrom_bind_ok hplay, if_neg (by omega), hview]
      exact runFrom_choiceRefused n s
  | some view =>
      have hplay : (play (chooseIndex (n - 1 : Nat))).runFrom s = (.ok false, s) := by
        rw [Turn.runFrom_play, chooseIndex_refused hshown h]
      rw [runFrom_takeChoice hn hshown hview, Turn.runFrom_bind_ok hplay]
      exact runFrom_choiceRefused n s

end

/-- A line whose number carries a choice out leaves the world that carrying it out leaves, and the
answer tells the text of the choice where that can be written. -/
theorem turn_of_carryOut {m : Play Bool} {v : Value} {w : World} {r : Except Fault Bool}
    (hline : Types s.world.settings.digitLimit line n)
    (htake : (takeChoice n).runFrom s = (do
      if ← play m then return "Chose: " ++ (← showText v)
      else choiceRefused n : Turn String).runFrom s)
    (hrun : m.runFrom s.world = (r, w)) (hr : ∀ accepted, r = .ok accepted → accepted = true) :
    ((turn line).runFrom s).2 = { s with world := w } ∧
      ∀ text, r = .ok true → v.plainTextWithin w.settings.digitLimit = .ok text →
        ((turn line).runFrom s).1 = .ok ("Chose: " ++ text) := by
  have hplay : (play m).runFrom s = (r, { s with world := w }) := by rw [Turn.runFrom_play, hrun]
  have hhandle := runFrom_handle_number hline
  cases r with
  | error e =>
      rw [Turn.runFrom_bind_error (htake.trans (Turn.runFrom_bind_error hplay))] at hhandle
      rw [runFrom_turn_error hhandle]
      exact ⟨rfl, nofun⟩
  | ok accepted =>
      cases hr accepted rfl
      rw [Turn.runFrom_bind_ok hplay] at htake
      cases htext : v.plainTextWithin w.settings.digitLimit with
      | error e =>
          have hshow := Turn.runFrom_showText v { s with world := w }
          rw [htext] at hshow
          rw [Turn.runFrom_bind_error (htake.trans (Turn.runFrom_bind_error hshow))] at hhandle
          rw [runFrom_turn_error hhandle]
          exact ⟨rfl, nofun⟩
      | ok text =>
          have hshow := Turn.runFrom_showText v { s with world := w }
          rw [htext] at hshow
          rw [Turn.runFrom_bind_ok (htake.trans (Turn.runFrom_bind_ok hshow))] at hhandle
          have hquit : "Chose: " ++ text ≠ "quit" := fun h => by
            have := congrArg (fun t => t.toList.head?) h
            rw [String.toList_append] at this
            cases this
          rw [runFrom_turn hhandle hquit]
          exact ⟨rfl, fun _ _ htext' => by rw [Except.ok.inj htext']⟩

/-- What a line leads to that types a number from one on, after a snapshot has been shown. -/
structure FollowsShown (s : Session) (line : String) (n : Nat) (shown : Snapshot) : Prop where
  /-- A number that is shown with an available choice carries that choice out, which is not refused.
  The answer tells the text of the choice where that can be written. -/
  taken : ∀ view, shown.node.choices[n - 1]? = some view → view.enabled = true →
    ∃ choices choice, s.world.choices = .ok choices ∧ choices[n - 1]? = some choice ∧
      (chooseIndex (n - 1 : Nat)).runFrom s.world = (carryOut choice).runFrom s.world ∧
      (∀ r, ((carryOut choice).runFrom s.world).1 = .ok r → r = true) ∧
      ((turn line).runFrom s).2 = { s with world := ((carryOut choice).runFrom s.world).2 } ∧
      ∀ text, ((carryOut choice).runFrom s.world).1 = .ok true →
        view.text.plainTextWithin s.world.settings.digitLimit = .ok text →
        ((turn line).runFrom s).1 = .ok ("Chose: " ++ text)
  /-- Any other number is refused, and the world stays exactly as it was. -/
  refused : (∀ view, shown.node.choices[n - 1]? = some view → view.enabled = false) →
    ∃ text, (turn line).runFrom s = (.ok "Choice unavailable.", s.refused text)

/-- **What is shown as available is what can be taken by typing**, where the offers do not use
chance and the choices are filled. -/
theorem typed_choice (hoffers : s.world.book.OffersAvoidChance)
    (hfilled : s.world.book.ChoicesAreFilled) {shown : Snapshot} {w : World}
    (hshown : snapshot.runFrom s.world = (.ok shown, w))
    (hline : Types s.world.settings.digitLimit line n) (hn : 1 ≤ n) :
    s.FollowsShown line n shown := by
  have hviews : currentChoices.runFrom s.world = (.ok shown.node.choices, s.world) :=
    choices_of_snapshot hoffers hshown
  have hhandle := runFrom_handle_number hline
  constructor
  · intro view hview henabled
    obtain ⟨choices, choice, hchoices, hchoice, hcarry⟩ :=
      exists_carryOut hoffers hfilled hviews hview henabled
    have htake : (takeChoice n).runFrom s = (do
        if ← play (carryOut choice) then return "Chose: " ++ (← showText view.text)
        else choiceRefused n : Turn String).runFrom s := by
      rw [runFrom_takeChoice hn hviews hview, Turn.runFrom_bind, Turn.runFrom_bind,
        Turn.runFrom_play, Turn.runFrom_play, hcarry]
    have hchanges := chooseIndex_changes Operation.admits_true (n - 1 : Nat)
      (Operation.book_has_true s.world.book)
    rw [hcarry]
    rcases hrun : (carryOut choice).runFrom s.world with ⟨r, w'⟩
    have haccepted : ∀ accepted, r = .ok accepted → accepted = true := by
      rintro accepted rfl
      exact result_carryOut hrun
    have hsettings : w'.settings = s.world.settings :=
      (hchanges.world_of_run (hcarry.trans hrun)).settings_eq
    obtain ⟨hworld, hanswer⟩ := turn_of_carryOut hline htake hrun haccepted
    rw [hsettings] at hanswer
    exact ⟨choices, choice, hchoices, hchoice, hrun.symm ▸ ⟨rfl, haccepted, hworld, hanswer⟩⟩
  · intro hnone
    obtain ⟨text, htake⟩ := takeChoice_refused hn hviews hnone
    refine ⟨text, runFrom_turn ?_ (by decide)⟩
    rw [hhandle, Turn.runFrom_bind_ok htake]
    rfl

theorem choicesAreFilled_bazaar : bazaar.book.ChoicesAreFilled := by
  obtain ⟨book, hbook⟩ := gameOf_bazaar.exists_book
  rw [gameOf_bazaar.book_eq hbook]
  exact Book.choicesAreFilled_ofDocument hbook (by decide +kernel)

/-- The visitor of the bazaar types the number of a choice that is shown as available, and that of
one that is not. -/
theorem typed_choice_bazaar :
    (visitor.world.book.OffersAvoidChance ∧ visitor.world.book.ChoicesAreFilled) ∧
    (Types visitor.world.settings.digitLimit " 1" 1 ∧
      ((turn " 1").runFrom visitor).1 = .ok "Chose: Choice") ∧
    (Types visitor.world.settings.digitLimit "2" 2 ∧
      ((turn "2").runFrom visitor).1 = .ok "Choice unavailable.") ∧
    ∃ shown, snapshot.runFrom visitor.world = (.ok shown, visitor.world) ∧
      shown.node.choices.map (·.enabled) = [true, false] ∧
      visitor.FollowsShown " 1" 1 shown ∧ visitor.FollowsShown "2" 2 shown := by
  have hfirst : Types visitor.world.settings.digitLimit " 1" 1 :=
    ⟨by decide +kernel, List.all_eq_true.1 (by decide +kernel), by decide +kernel,
      by decide +kernel⟩
  have hsecond : Types visitor.world.settings.digitLimit "2" 2 :=
    ⟨by decide +kernel, List.all_eq_true.1 (by decide +kernel), by decide +kernel,
      by decide +kernel⟩
  have hshows : ((snapshot.runFrom visitor.world).1.toOption.map
      fun shown => shown.node.choices.map (·.enabled)) = some [true, false] := by decide +kernel
  have hsame := snapshot_same (w := visitor.world) offersAvoidChance_bazaar
  rcases hrun : snapshot.runFrom visitor.world with ⟨r, w⟩
  rw [hrun] at hshows hsame
  cases r with
  | error e => cases hshows
  | ok shown =>
      cases hsame
      refine ⟨⟨offersAvoidChance_bazaar, choicesAreFilled_bazaar⟩, ⟨hfirst, by decide +kernel⟩,
        ⟨hsecond, by decide +kernel⟩, shown, rfl, Option.some.inj hshows, ?_, ?_⟩
      · exact typed_choice offersAvoidChance_bazaar choicesAreFilled_bazaar hrun hfirst (by omega)
      · exact typed_choice offersAvoidChance_bazaar choicesAreFilled_bazaar hrun hsecond (by omega)

/-! ### What follows a choice can fail -/

/-- A document with a choice without effects, and with an ending that is a text. -/
def homelessDocument : Value :=
  .obj
    [("endings", .list [.str "home"]),
      ("story", .obj
        [("start", .str "a"),
          ("nodes", .obj
            [("a", .obj [("choices", .list [.obj [("text", .str "Go")]])])])])]

/-- The document when it has been opened. -/
def homeless : World := Course.opened homelessDocument 1

theorem gameOf_homeless : GameOf homelessDocument homeless :=
  .start (Course.load_opened homelessDocument 1 (by decide +kernel))

/-- What is shown at the start: one choice, which is available. -/
theorem snapshot_homeless : ∃ shown v view, snapshot.runFrom homeless = (.ok shown, v) ∧
    shown.node.choices[0]? = some view ∧ view.enabled = true := by
  have hshows : ((snapshot.runFrom homeless).1.toOption.bind fun shown =>
      shown.node.choices[0]?.map (·.enabled)) = some true := by decide +kernel
  obtain ⟨shown, hshown, hview⟩ := Option.bind_eq_some_iff.1 hshows
  obtain ⟨view, hview, henabled⟩ := Option.map_eq_some_iff.1 hview
  cases hr : (snapshot.runFrom homeless).1 with
  | error e =>
      rw [hr] at hshown
      cases hshown
  | ok shown' =>
      rw [hr] at hshown
      cases hshown
      exact ⟨shown, _, view, runFrom_eq hr, hview, henabled⟩

/-- The only choice at the start has no effects. -/
theorem choices_homeless :
    ∃ choices choice effects, homeless.choices = .ok choices ∧ choices[0]? = some choice ∧
      choice.field "effects" = .ok effects ∧ effects = .null := by
  have hfound : (homeless.choices.toOption.bind fun choices => choices[0]?.bind fun choice =>
      (choice.field "effects").toOption.map Value.isNull) = some true := by decide +kernel
  obtain ⟨choices, hchoices, hfound⟩ := Option.bind_eq_some_iff.1 hfound
  obtain ⟨choice, hchoice, hfound⟩ := Option.bind_eq_some_iff.1 hfound
  obtain ⟨effects, heffects, hnull⟩ := Option.map_eq_some_iff.1 hfound
  refine ⟨choices, choice, effects, ?_, hchoice, ?_, ?_⟩
  · cases hr : homeless.choices <;> rw [hr] at hchoices <;> cases hchoices
    rfl
  · cases hr : choice.field "effects" <;> rw [hr] at heffects <;> cases heffects
    rfl
  · cases effects <;> first | rfl | cases hnull

/-- A choice that is available and has no effects that could fail need not be carried out to its
end: what follows every action may fail. -/
theorem not_typed_choice :
    ¬ ∀ (document : Value) (w v : World) (shown : Snapshot) (choices : List Value)
        (view : ChoiceView) (choice effects : Value) (place : Nat),
      GameOf document w → w.book.OffersAvoidChance → w.book.ChoicesAreFilled →
      snapshot.runFrom w = (.ok shown, v) → shown.node.choices[place]? = some view →
      view.enabled = true → w.choices = .ok choices → choices[place]? = some choice →
      choice.field "effects" = .ok effects →
      (∃ v', (applyEffects onwards effects []).runFrom w = (.ok (), v')) →
      ((chooseIndex place).runFrom w).1 = .ok true := by
  intro h
  obtain ⟨shown, v, view, hshown, hview, henabled⟩ := snapshot_homeless
  obtain ⟨choices, choice, effects, hchoices, hchoice, heffects, rfl⟩ := choices_homeless
  obtain ⟨book, hbook⟩ := gameOf_homeless.exists_book
  have hsame := gameOf_homeless.book_eq hbook
  have hoffers : homeless.book.OffersAvoidChance :=
    hsame ▸ Book.offersAvoidChance_ofDocument hbook (by decide +kernel)
  have hfilled : homeless.book.ChoicesAreFilled :=
    hsame ▸ Book.choicesAreFilled_ofDocument hbook (by decide +kernel)
  have hchosen := h _ _ _ _ _ _ _ _ 0 gameOf_homeless hoffers hfilled hshown hview henabled
    hchoices hchoice heffects ⟨homeless, rfl⟩
  have hfails : ((chooseIndex (0 : Nat)).runFrom homeless).1 = .error .noFields := by decide +kernel
  rw [hfails] at hchosen
  cases hchosen

end Session

end Gamebook
