/-
**Which texts are dice.**

Dice are written as a row of digits, the letter, a row of digits, and perhaps a sign and a third
row; any blanks may stand between the parts.  A text without blanks around it is taken apart exactly
when it is written like that, and in one way only.  What is taken apart is then read, and that is
less: only spaces may stand behind the sign, and no row may have more digits than the limit.
So a text that is no notation has no dice, and a notation that is not readable ends in a fault.

Main definitions:

* `ModifierText.IsWritten`, `DiceText.Written` — how dice are written;
* `DiceText.Readable` — what can be read of it;
* `DiceText.dice` — the dice that are written.

Main results:

* `DiceText.split_eq_some_iff` — **what is taken apart is what is written**;
* `Dice.read_eq_some_iff`, `Dice.read_eq_none_iff`, `Dice.read_eq_error_iff` — the three ways of
  reading a text;
* `Dice.boundsOf_and_roll_total` — **bounds and rolls of readable texts**;
* `Dice.not_boundsOf_and_roll_total` — a tab behind the sign.
-/

import Gamebook.Play.Formula
import Gamebook.Proofs.Dice.Totals

set_option autoImplicit false

namespace Gamebook

/-- One digit or more, and nothing else. -/
def Text.IsNumeral (ds : List Char) : Prop := ds ≠ [] ∧ ∀ c ∈ ds, isDigit c

/-- Any number of blanks, and nothing else. -/
def Text.AreBlanks (cs : List Char) : Prop := ∀ c ∈ cs, isBlank c

namespace ModifierText

/-- The characters of a modifier: its sign, the blanks and the digits. -/
def chars (m : ModifierText) : List Char :=
  (if m.negative then '-' else '+') :: (m.blanks ++ m.digits)

/-- A modifier as it can be written. -/
structure IsWritten (m : ModifierText) : Prop where
  blanks : Text.AreBlanks m.blanks
  digits : Text.IsNumeral m.digits

/-- The modifier that is written. -/
def amount (m : ModifierText) : Int := Binary64.signed m.negative (Text.natOfDigits m.digits)

/-- A modifier that can be read: spaces are the only blanks, and there are not too many digits. -/
structure Readable (limit : DigitLimit) (m : ModifierText) : Prop where
  spaces : ∀ c ∈ m.blanks, c = ' '
  digits : limit.admits m.digits.length

end ModifierText

namespace DiceText

/-- The characters of dice, with the blanks between the parts and the letter. -/
def chars (t : DiceText) (before after behind : List Char) (letter : Char) : List Char :=
  t.count ++ (before ++ letter :: (after ++ (t.sides ++ (behind ++ t.modifier.elim [] (·.chars)))))

/-- **The characters are the dice as they are written**, any blanks between the parts. -/
inductive Written (t : DiceText) : List Char → Prop
  | intro {before after behind : List Char} {letter : Char} (count : Text.IsNumeral t.count)
      (before_letter : Text.AreBlanks before) (isLetter : letter = 'd' ∨ letter = 'D')
      (after_letter : Text.AreBlanks after) (sides : Text.IsNumeral t.sides)
      (behind_sides : Text.AreBlanks behind) (modifier : ∀ m ∈ t.modifier, m.IsWritten) :
      Written t (t.chars before after behind letter)

/-- Dice that can be read: no number has too many digits, and the modifier can be read. -/
structure Readable (limit : DigitLimit) (t : DiceText) : Prop where
  count : limit.admits t.count.length
  sides : limit.admits t.sides.length
  modifier : ∀ m ∈ t.modifier, m.Readable limit

/-- **The dice that are written**; without a modifier nothing is added. -/
def dice (t : DiceText) : Dice :=
  ⟨Text.natOfDigits t.count, Text.natOfDigits t.sides, t.modifier.elim 0 (·.amount)⟩

end DiceText

/-! ### Rows of digits and blanks -/

namespace Text

/-- Blanks are cut off as a whole from what starts without one. -/
theorem takeWhile_blanks {blanks rest : List Char} (h : AreBlanks blanks)
    (hrest : ∀ c ∈ rest.head?, isBlank c = false) :
    (blanks ++ rest).takeWhile isBlank = blanks := by
  rw [List.takeWhile_append_of_pos h]
  cases rest with
  | nil => simp
  | cons c rest => simp [hrest c rfl]

theorem dropWhile_blanks {blanks rest : List Char} (h : AreBlanks blanks)
    (hrest : ∀ c ∈ rest.head?, isBlank c = false) :
    (blanks ++ rest).dropWhile isBlank = rest := by
  rw [List.dropWhile_append_of_pos h]
  cases rest with
  | nil => rfl
  | cons c rest => simp [hrest c rfl]

/-- A text is its blanks in front and what stands behind them. -/
theorem exists_blanks (cs : List Char) :
    AreBlanks (cs.takeWhile isBlank) ∧ cs = cs.takeWhile isBlank ++ cs.dropWhile isBlank :=
  ⟨List.all_eq_true.1 List.all_takeWhile, List.takeWhile_append_dropWhile.symm⟩

/-- Behind a number stand blanks, or what starts with no digit. -/
theorem AreBlanks.head?_not_digit {blanks rest : List Char} (h : AreBlanks blanks)
    (hrest : ∀ c ∈ rest.head?, isDigit c = false) :
    ∀ c ∈ (blanks ++ rest).head?, isDigit c = false := by
  cases blanks with
  | nil => exact hrest
  | cons b blanks =>
      simp only [List.cons_append, List.head?_cons, Option.mem_some_iff, forall_eq']
      rw [Bool.eq_false_iff]
      intro hdigit
      have hblank : isBlank b = true := h b (List.mem_cons_self ..)
      exact absurd hblank (by simp [isBlank_eq_false_of_isDigit hdigit])

theorem IsNumeral.head?_not_blank {ds : List Char} (h : IsNumeral ds) (rest : List Char) :
    ∀ c ∈ (ds ++ rest).head?, isBlank c = false := by
  obtain ⟨c, ds, rfl⟩ := List.exists_cons_of_ne_nil h.1
  simp only [List.cons_append, List.head?_cons, Option.mem_some_iff, forall_eq']
  exact isBlank_eq_false_of_isDigit (h.2 c (List.mem_cons_self ..))

end Text

namespace Dice

theorem takeDigits_sound {cs ds rest : List Char} (h : takeDigits cs = some (ds, rest)) :
    Text.IsNumeral ds ∧ cs = ds ++ rest :=
  ⟨⟨takeDigits_ne_nil h, (takeDigits_eq_some h).2⟩, (takeDigits_eq_some h).1⟩

theorem takeLetter_sound {cs rest : List Char} (h : takeLetter cs = some rest) :
    ∃ letter, (letter = 'd' ∨ letter = 'D') ∧ cs = letter :: rest := by
  unfold takeLetter at h
  split at h
  · split at h
    · cases h
      exact ⟨_, ‹_›, rfl⟩
    · cases h
  · cases h

end Dice

/-! ### Taking a text apart -/

namespace ModifierText

/-- A modifier that is taken apart is written there, or there is none. -/
theorem split_sound {cs : List Char} {m : Option ModifierText} (h : split cs = some m) :
    cs = m.elim [] (·.chars) ∧ ∀ x ∈ m, x.IsWritten := by
  cases cs with
  | nil =>
      cases h
      exact ⟨rfl, nofun⟩
  | cons sign cs =>
      simp only [split] at h
      split at h
      · rename_i hsign
        split at h
        · rename_i digits hdigits
          cases h
          obtain ⟨hblanks, hcs⟩ := Text.exists_blanks cs
          obtain ⟨hnumeral, hrest⟩ := Dice.takeDigits_sound hdigits
          refine ⟨?_, fun x hx => ?_⟩
          · rw [hrest, List.append_nil] at hcs
            have hchar : (if decide (sign = '-') then '-' else '+') = sign := by
              rcases hsign with rfl | rfl <;> rfl
            rw [Option.elim_some, chars, hchar, ← hcs]
          · cases hx
            exact ⟨hblanks, hnumeral⟩
        · cases h
      · cases h

/-- A modifier that is written is taken apart into its sign, blanks and digits. -/
theorem split_complete {m : Option ModifierText} (h : ∀ x ∈ m, x.IsWritten) :
    split (m.elim [] (·.chars)) = some m := by
  cases m with
  | none => rfl
  | some m =>
      obtain ⟨negative, blanks, digits⟩ := m
      obtain ⟨hblanks, hdigits⟩ := h _ rfl
      have hhead := List.append_nil digits ▸ hdigits.head?_not_blank []
      have htake : Dice.takeDigits digits = some (digits, []) :=
        Dice.takeDigits_eq_self hdigits.1 hdigits.2
      dsimp only at hblanks hdigits
      cases negative <;>
        simp [split, chars, Text.takeWhile_blanks hblanks hhead,
          Text.dropWhile_blanks hblanks hhead, htake]

/-- A sign is neither a digit nor a blank. -/
theorem head?_chars (m : Option ModifierText) :
    ∀ c ∈ (m.elim [] (·.chars)).head?, Text.isDigit c = false ∧ Text.isBlank c = false := by
  have hplus : Text.isDigit '+' = false ∧ Text.isBlank '+' = false := by decide +kernel
  have hminus : Text.isDigit '-' = false ∧ Text.isBlank '-' = false := by decide +kernel
  rcases m with _ | ⟨_ | _, blanks, digits⟩
  · nofun
  · rintro c ⟨⟩
    exact hplus
  · rintro c ⟨⟩
    exact hminus

end ModifierText

namespace DiceText

theorem split_sound {cs : List Char} {t : DiceText} (h : split cs = some t) : t.Written cs := by
  obtain ⟨⟨count, cs₁⟩, hcount, h⟩ := Option.bind_eq_some_iff.1 h
  obtain ⟨cs₂, hletter, h⟩ := Option.bind_eq_some_iff.1 h
  obtain ⟨⟨sides, cs₃⟩, hsides, h⟩ := Option.bind_eq_some_iff.1 h
  obtain ⟨m, hm, h⟩ := Option.bind_eq_some_iff.1 h
  cases h
  obtain ⟨hnumeral, hcs⟩ := Dice.takeDigits_sound hcount
  obtain ⟨hbefore, hcs₁⟩ := Text.exists_blanks cs₁
  obtain ⟨letter, hletter, hcs₂⟩ := Dice.takeLetter_sound hletter
  obtain ⟨hafter, hrest₂⟩ := Text.exists_blanks cs₂
  obtain ⟨hsides, hsidesRest⟩ := Dice.takeDigits_sound hsides
  obtain ⟨hbehind, hcs₃⟩ := Text.exists_blanks cs₃
  obtain ⟨hmodifier, hwritten⟩ := ModifierText.split_sound hm
  have hchars : Written ⟨count, sides, m⟩ _ :=
    .intro hnumeral hbefore hletter hafter hsides hbehind hwritten
  rwa [chars, ← hmodifier, ← hcs₃, ← hsidesRest, ← hrest₂, ← hcs₂, ← hcs₁, ← hcs] at hchars

theorem split_complete {cs : List Char} {t : DiceText} (h : t.Written cs) : split cs = some t := by
  obtain ⟨hcount, hbefore, hletter, hafter, hsides, hbehind, hmodifier⟩ := h
  rename_i before after behind letter
  obtain ⟨count, sides, m⟩ := t
  have hplain : Text.isDigit letter = false ∧ Text.isBlank letter = false := by
    rcases hletter with rfl | rfl <;> decide +kernel
  have hhead : ∀ rest : List Char, ∀ c ∈ (letter :: rest).head?,
      Text.isDigit c = false ∧ Text.isBlank c = false := by
    rintro rest c ⟨⟩
    exact hplain
  have hsign := ModifierText.head?_chars m
  -- What stands behind each of the two numbers goes on with no digit.
  have hcountEnd := hbefore.head?_not_digit fun c hc =>
    (hhead (after ++ (sides ++ (behind ++ m.elim [] (·.chars)))) c hc).1
  have hsidesEnd := hbehind.head?_not_digit (fun c hc => (hsign c hc).1)
  have htakeLetter : ∀ cs, Dice.takeLetter (letter :: cs) = some cs := fun _ => if_pos hletter
  simp only [split, chars, Dice.takeDigits_append hcount.1 hcount.2 hcountEnd, Option.bind_eq_bind,
    Option.bind_some, Text.dropWhile_blanks hbefore (fun c hc => (hhead _ c hc).2), htakeLetter, Text.dropWhile_blanks hafter (hsides.head?_not_blank _),
    Dice.takeDigits_append hsides.1 hsides.2 hsidesEnd,
    Text.dropWhile_blanks hbehind (fun c hc => (hsign c hc).2),
    ModifierText.split_complete hmodifier]
  rfl

/-- **What is taken apart is what is written.** -/
theorem split_eq_some_iff {cs : List Char} {t : DiceText} : split cs = some t ↔ t.Written cs :=
  ⟨split_sound, split_complete⟩

end DiceText

/-! ### Reading -/

theorem DigitLimit.readNat_of_admits {limit : DigitLimit} {ds : List Char}
    (h : limit.admits ds.length) : limit.readNat ds = .ok (Text.natOfDigits ds) := if_pos h

theorem DigitLimit.admits_of_readNat {limit : DigitLimit} {ds : List Char} {n : Nat}
    (h : limit.readNat ds = .ok n) : limit.admits ds.length := by
  unfold readNat at h
  split at h
  · assumption
  · cases h

namespace ModifierText

variable {limit : DigitLimit} {m : ModifierText}

theorem value_of_readable (h : m.Readable limit) : m.value limit = .ok m.amount := by
  have hspaces : m.blanks.all (· = ' ') = true := List.all_eq_true.2 (by simpa using h.spaces)
  simp only [value, hspaces, DigitLimit.readNat_of_admits h.digits]
  rfl

theorem readable_of_value {k : Int} (h : m.value limit = .ok k) : m.Readable limit := by
  unfold value at h
  split at h
  · cases h
  · rename_i hspaces
    obtain ⟨n, hn, -⟩ := exists_of_bind_eq_ok h
    exact ⟨by simpa using hspaces, DigitLimit.admits_of_readNat hn⟩

end ModifierText

namespace Dice

open Formula

variable {limit : DigitLimit} {s : String} {t : DiceText} {d : Dice}

/-- What is readable is read as the dice that are written. -/
theorem ofText_of_readable (h : t.Readable limit) : ofText limit t = .ok t.dice := by
  obtain ⟨count, sides, m⟩ := t
  have hcount := DigitLimit.readNat_of_admits h.count
  have hsides := DigitLimit.readNat_of_admits h.sides
  cases m with
  | none =>
      simp only [ofText, hcount, hsides]
      rfl
  | some m =>
      simp only [ofText, hcount, hsides, ModifierText.value_of_readable (h.modifier m rfl)]
      rfl

theorem readable_of_ofText (h : ofText limit t = .ok d) : t.Readable limit := by
  obtain ⟨count, hcount, h⟩ := exists_of_bind_eq_ok h
  obtain ⟨sides, hsides, h⟩ := exists_of_bind_eq_ok h
  refine ⟨DigitLimit.admits_of_readNat hcount, DigitLimit.admits_of_readNat hsides, fun m hm => ?_⟩
  rw [Option.mem_def.1 hm] at h
  obtain ⟨k, hk, -⟩ := exists_of_bind_eq_ok h
  exact ModifierText.readable_of_value hk

/-- A notation is read by its parts. -/
theorem read_of_written (h : t.Written (Text.stripChars s.toList)) :
    read limit s = (ofText limit t).map some := by
  unfold read
  rw [DiceText.split_complete h]
  dsimp only
  cases ofText limit t <;> rfl

theorem read_of_not_written (h : ∀ t, ¬ DiceText.Written t (Text.stripChars s.toList)) :
    read limit s = .ok none := by
  unfold read
  cases hsplit : DiceText.split (Text.stripChars s.toList) with
  | none => rfl
  | some t => exact absurd (DiceText.split_sound hsplit) (h t)

/-- **The texts with dice** are notation that can be read. -/
theorem read_eq_some_iff :
    read limit s = .ok (some d) ↔
      ∃ t, DiceText.Written t (Text.stripChars s.toList) ∧ t.Readable limit ∧ d = t.dice := by
  constructor
  · intro h
    obtain ⟨t, ht⟩ := exists_split_of_read h
    have hwritten := DiceText.split_sound ht
    rw [read_of_written hwritten] at h
    cases hd : ofText limit t with
    | error e => simp [hd, Except.map] at h
    | ok d' =>
        have hreadable := readable_of_ofText hd
        rw [ofText_of_readable hreadable] at h
        cases h
        exact ⟨t, hwritten, hreadable, rfl⟩
  · rintro ⟨t, hwritten, hreadable, rfl⟩
    rw [read_of_written hwritten, ofText_of_readable hreadable]
    rfl

/-- **The texts without dice** are those that are no notation. -/
theorem read_eq_none_iff :
    read limit s = .ok none ↔ ∀ t, ¬ DiceText.Written t (Text.stripChars s.toList) := by
  refine ⟨fun h t hwritten => ?_, read_of_not_written⟩
  rw [read_of_written hwritten] at h
  cases hd : ofText limit t <;> simp [hd, Except.map] at h

/-- **The texts that end in a fault** are notation that cannot be read. -/
theorem read_eq_error_iff :
    (∃ e, read limit s = .error e) ↔
      ∃ t, DiceText.Written t (Text.stripChars s.toList) ∧ ¬ t.Readable limit := by
  constructor
  · rintro ⟨e, he⟩
    by_contra hnone
    simp only [not_exists, not_and, not_not] at hnone
    by_cases hwritten : ∃ t, DiceText.Written t (Text.stripChars s.toList)
    · obtain ⟨t, ht⟩ := hwritten
      cases he.symm.trans (read_eq_some_iff.2 ⟨t, ht, hnone t ht, rfl⟩)
    · cases he.symm.trans (read_of_not_written (not_exists.1 hwritten))
  · rintro ⟨t, hwritten, hreadable⟩
    rw [read_of_written hwritten]
    cases hd : ofText limit t with
    | error e => exact ⟨e, rfl⟩
    | ok d => exact absurd (readable_of_ofText hd) hreadable

/-- A text whose notation can be read, if it is notation, is read. -/
theorem exists_read (h : ∀ t, DiceText.Written t (Text.stripChars s.toList) → t.Readable limit) :
    ∃ d, read limit s = .ok d := by
  cases hread : read limit s with
  | ok d => exact ⟨d, rfl⟩
  | error e =>
      obtain ⟨t, hwritten, hreadable⟩ := read_eq_error_iff.1 ⟨e, hread⟩
      exact absurd (h t hwritten) hreadable

/-! ### Bounds and rolls -/

/-- The texts with bounds are those with dice. -/
theorem boundsOf_eq_some_iff {b : Bounds} :
    boundsOf limit (.str s) = .ok (some b) ↔
      ∃ d, read limit s = .ok (some d) ∧ b = d.bounds := by
  rw [boundsOf_str]
  rcases read limit s with e | _ | d <;> simp [Except.map, eq_comm]

theorem boundsOf_eq_none_iff : boundsOf limit (.str s) = .ok none ↔ read limit s = .ok none := by
  rw [boundsOf_str]
  rcases read limit s with e | _ | d <;> simp [Except.map]

/-- A text that is read can be rolled. -/
theorem outcome_rollFair_ok {d : Option Dice} (h : read limit s = .ok d) (c : Chance) :
    ∃ total c', outcome (Chance.rollFair limit (.str s)) c = (.ok (.int total), c') := by
  rw [outcome_rollFair, h]
  cases d with
  | none => exact ⟨0, c, rfl⟩
  | some d => exact ⟨_, _, rfl⟩

/-- Every roller gives a value for a text that is read. -/
theorem outcome_roll_ok {d : Option Dice} (h : read limit s = .ok d) (c : Chance) :
    ∃ v c', outcome (Chance.roll limit (.str s)) c = (.ok v, c') := by
  have hfair : ∀ c, ∃ v c', outcome (Chance.rollFair limit (.str s)) c = (.ok v, c') := fun c =>
    have ⟨total, c', hroll⟩ := outcome_rollFair_ok h c
    ⟨_, c', hroll⟩
  have hget : outcome (get : Chancy Chance) c = (.ok c, c) := rfl
  have hset : ∀ c', outcome (set c' : Chancy PUnit) c = (.ok ⟨⟩, c') := fun _ => rfl
  unfold Chance.roll
  rw [outcome_bind, hget]
  dsimp only
  split
  · exact hfair c
  · exact ⟨_, _, rfl⟩
  · rw [outcome_bind, hset]
    dsimp only
    split
    · exact hfair _
    · exact ⟨_, _, rfl⟩

/-- The function of formulas rolls every text that is read. -/
theorem outcome_call_roll {d : Option Dice} {w : World}
    (h : read w.settings.digitLimit s = .ok d) (names : Fields Value) (c : Chance) :
    ∃ v c', outcome (Scope.call ⟨names, w.builtins, w.settings.digitLimit⟩ "roll" [.str s]) c =
      (.ok v, c') := by
  obtain ⟨v, c', hroll⟩ := outcome_roll_ok h c
  obtain ⟨f, hf, happly⟩ : ∃ f, w.builtins "roll" = some f ∧
      f [.str s] = Chance.roll w.settings.digitLimit (.str s) := ⟨_, rfl, rfl⟩
  refine ⟨v, c', ?_⟩
  unfold Scope.call
  simp only [hf]
  exact (outcome_tryCatch _ _ _).trans (by rw [happly, hroll])

/-- **Bounds and rolls of readable texts.**  If the text, where it is notation at all, can be read,
then it has bounds exactly when it is notation, namely those of the dice that are written; without
bounds it rolls zero and draws nothing; and no roll of it ends in a fault. -/
theorem boundsOf_and_roll_total
    (h : ∀ t, DiceText.Written t (Text.stripChars s.toList) → t.Readable limit) :
    (∀ b, boundsOf limit (.str s) = .ok (some b) ↔
      ∃ t, DiceText.Written t (Text.stripChars s.toList) ∧ b = t.dice.bounds) ∧
    (boundsOf limit (.str s) = .ok none ↔
      ¬ ∃ t, DiceText.Written t (Text.stripChars s.toList)) ∧
    (∀ c, ∃ total c', outcome (Chance.rollFair limit (.str s)) c = (.ok (.int total), c')) ∧
    ((¬ ∃ t, DiceText.Written t (Text.stripChars s.toList)) →
      ∀ c, outcome (Chance.rollFair limit (.str s)) c = (.ok (.int 0), c)) ∧
    (∀ (w : World) names c, w.settings.digitLimit = limit → ∃ v c',
      outcome (Scope.call ⟨names, w.builtins, limit⟩ "roll" [.str s]) c = (.ok v, c')) := by
  obtain ⟨d, hread⟩ := exists_read h
  refine ⟨fun b => ?_, ?_, outcome_rollFair_ok hread, fun hno c => ?_, fun w names c hlimit => ?_⟩
  · rw [boundsOf_eq_some_iff]
    constructor
    · rintro ⟨d, hd, rfl⟩
      obtain ⟨t, ht, -, rfl⟩ := read_eq_some_iff.1 hd
      exact ⟨t, ht, rfl⟩
    · rintro ⟨t, ht, rfl⟩
      exact ⟨t.dice, read_eq_some_iff.2 ⟨t, ht, h t ht, rfl⟩, rfl⟩
  · rw [boundsOf_eq_none_iff, read_eq_none_iff, not_exists]
  · rw [outcome_rollFair, read_of_not_written (not_exists.1 hno)]
  · subst hlimit
    exact outcome_call_roll hread names c

/-- What has been read was readable. -/
theorem readable_of_read {d : Option Dice} (h : read limit s = .ok d)
    (ht : t.Written (Text.stripChars s.toList)) : t.Readable limit := by
  rw [read_of_written ht] at h
  cases hd : ofText limit t with
  | error e => simp [hd, Except.map] at h
  | ok d' => exact readable_of_ofText hd

/-- Two dice less one, with blanks in every place: from one to eleven. -/
theorem boundsOf_and_roll_total_blanks :
    (∃ t, DiceText.Written t (Text.stripChars "  2\tD 6\t-  1 ".toList) ∧
      (⟨1, 11⟩ : Bounds) = t.dice.bounds) ∧
    ∀ c, ∃ total c', outcome (Chance.rollFair .standard (.str "  2\tD 6\t-  1 ")) c =
      (.ok (.int total), c') := by
  have hread : read .standard "  2\tD 6\t-  1 " = .ok (some ⟨2, 6, -1⟩) := by decide +kernel
  obtain ⟨hbounds, -, hroll, -, -⟩ := boundsOf_and_roll_total fun _ => readable_of_read hread
  exact ⟨(hbounds _).1 (boundsOf_of_read hread), hroll⟩

/-- **A tab behind the sign**: the text is notation with bounds from three to eight, and both its
bounds and its rolls end in a fault. -/
theorem not_boundsOf_and_roll_total :
    (∃ t, DiceText.Written t (Text.stripChars "1d6+\t2".toList) ∧ t.dice.bounds = ⟨3, 8⟩) ∧
    boundsOf .standard (.str "1d6+\t2") = .error .malformed ∧
    ∀ c, outcome (Chance.rollFair .standard (.str "1d6+\t2")) c = (.error .malformed, c) := by
  have hsplit : DiceText.split (Text.stripChars "1d6+\t2".toList) =
      some ⟨['1'], ['6'], some ⟨false, ['\t'], ['2']⟩⟩ := by rfl
  have hread : read .standard "1d6+\t2" = .error .malformed := by decide +kernel
  refine ⟨⟨_, DiceText.split_sound hsplit, by decide +kernel⟩, ?_, fun c => ?_⟩
  · rw [boundsOf_str, hread]
    rfl
  · rw [outcome_rollFair, hread]

end Dice

end Gamebook
