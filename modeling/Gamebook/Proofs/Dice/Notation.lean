/-
**The characters of dice notation.**

Text that is read as dice has nothing but digits, blanks, the letter between the dice and their
sides, and the sign of the modifier.

Main definition: `Dice.isNotation` — these characters.

Main result: `Dice.isNotation_of_read` — **dice are written** with them.
-/

import Gamebook.Proofs.Outcome
import Gamebook.Proofs.Text

set_option autoImplicit false

namespace Gamebook

/-- What holds of all blanks holds of a text when it holds of the text without leading blanks. -/
theorem Text.forall_of_dropWhile {P : Char → Prop} {cs : List Char}
    (hblank : ∀ c, isBlank c → P c) (h : ∀ c ∈ cs.dropWhile isBlank, P c) : ∀ c ∈ cs, P c := by
  intro c hc
  rw [← List.takeWhile_append_dropWhile (p := isBlank) (l := cs)] at hc
  rcases List.mem_append.1 hc with hc | hc
  · exact hblank c (List.all_eq_true.1 List.all_takeWhile c hc)
  · exact h c hc

/-- What holds of all blanks holds of a text when it holds of the text without blanks around it. -/
theorem Text.forall_of_stripChars {P : Char → Prop} {cs : List Char}
    (hblank : ∀ c, isBlank c → P c) (h : ∀ c ∈ stripChars cs, P c) : ∀ c ∈ cs, P c := by
  have hright : ∀ c ∈ (cs.dropWhile isBlank).reverse, P c :=
    forall_of_dropWhile hblank fun c hc => h c (List.mem_reverse.2 hc)
  exact forall_of_dropWhile hblank fun c hc => hright c (List.mem_reverse.2 hc)

namespace Dice

/-- The characters that dice are written with. -/
def isNotation (c : Char) : Bool :=
  Text.isDigit c || Text.isBlank c || c = 'd' || c = 'D' || c = '+' || c = '-'

theorem isNotation_of_isDigit {c : Char} (h : Text.isDigit c) : isNotation c := by
  simp [isNotation, h]

theorem isNotation_of_isBlank (c : Char) (h : Text.isBlank c) : isNotation c := by
  simp [isNotation, h]

theorem takeDigits_eq_some {cs ds rest : List Char} (h : takeDigits cs = some (ds, rest)) :
    cs = ds ++ rest ∧ ∀ c ∈ ds, Text.isDigit c := by
  unfold takeDigits at h
  dsimp only at h
  split at h
  · cases h
  · cases h
    exact ⟨List.takeWhile_append_dropWhile.symm, List.all_eq_true.1 List.all_takeWhile⟩

theorem takeDigits_ne_nil {cs ds rest : List Char} (h : takeDigits cs = some (ds, rest)) :
    ds ≠ [] := by
  unfold takeDigits at h
  dsimp only at h
  split at h
  · cases h
  · rename_i hne
    cases h
    simpa using hne

/-- Digits are taken from dice notation when what stands behind them is dice notation. -/
theorem isNotation_of_takeDigits {cs ds rest : List Char} (h : takeDigits cs = some (ds, rest))
    (hrest : ∀ c ∈ rest, isNotation c) : ∀ c ∈ cs, isNotation c := by
  obtain ⟨rfl, hds⟩ := takeDigits_eq_some h
  exact List.forall_mem_append.2 ⟨fun c hc => isNotation_of_isDigit (hds c hc), hrest⟩

theorem isNotation_of_modifier {cs : List Char} {m : Option ModifierText}
    (h : ModifierText.split cs = some m) : ∀ c ∈ cs, isNotation c := by
  cases cs with
  | nil => simp
  | cons c cs =>
      simp only [ModifierText.split] at h
      split at h
      · rename_i hsign
        split at h
        · rename_i digits hdigits
          have hcs : ∀ c ∈ cs, isNotation c :=
            Text.forall_of_dropWhile isNotation_of_isBlank
              (isNotation_of_takeDigits hdigits (by simp))
          refine List.forall_mem_cons.2 ⟨?_, hcs⟩
          rcases hsign with rfl | rfl <;> decide +kernel
        · cases h
      · cases h

theorem isNotation_of_split {cs : List Char} {t : DiceText} (h : DiceText.split cs = some t) :
    ∀ c ∈ cs, isNotation c := by
  obtain ⟨⟨count, cs₁⟩, hcount, h⟩ := Option.bind_eq_some_iff.1 h
  obtain ⟨cs₂, hletter, h⟩ := Option.bind_eq_some_iff.1 h
  obtain ⟨⟨sides, cs₃⟩, hsides, h⟩ := Option.bind_eq_some_iff.1 h
  obtain ⟨m, hm, -⟩ := Option.bind_eq_some_iff.1 h
  have h₃ : ∀ c ∈ cs₃, isNotation c :=
    Text.forall_of_dropWhile isNotation_of_isBlank (isNotation_of_modifier hm)
  have h₂ : ∀ c ∈ cs₂, isNotation c :=
    Text.forall_of_dropWhile isNotation_of_isBlank (isNotation_of_takeDigits hsides h₃)
  have h₁ : ∀ c ∈ cs₁, isNotation c := by
    refine Text.forall_of_dropWhile isNotation_of_isBlank ?_
    cases hcs : cs₁.dropWhile Text.isBlank with
    | nil => simp
    | cons c cs =>
        simp only [hcs, takeLetter] at hletter
        split at hletter
        · rename_i hd
          cases hletter
          refine List.forall_mem_cons.2 ⟨?_, h₂⟩
          rcases hd with rfl | rfl <;> decide +kernel
        · cases hletter
  exact isNotation_of_takeDigits hcount h₁

/-- Text that is read as dice has the parts of dice notation. -/
theorem exists_split_of_read {limit : DigitLimit} {s : String} {d : Dice}
    (h : read limit s = .ok (some d)) :
    ∃ t, DiceText.split (Text.stripChars s.toList) = some t := by
  unfold read at h
  split at h
  · cases h
  · exact ⟨_, ‹_›⟩

theorem isEmpty_of_read {limit : DigitLimit} {s : String} {d : Dice}
    (h : read limit s = .ok (some d)) : s.isEmpty = false := by
  obtain ⟨t, ht⟩ := exists_split_of_read h
  rw [String.isEmpty_eq_false_iff]
  rintro rfl
  cases ht

/-- **Dice are written** with digits, blanks, the letter and the sign. -/
theorem isNotation_of_read {limit : DigitLimit} {s : String} {d : Dice}
    (h : read limit s = .ok (some d)) : ∀ c ∈ s.toList, isNotation c := by
  obtain ⟨t, ht⟩ := exists_split_of_read h
  exact Text.forall_of_stripChars isNotation_of_isBlank (isNotation_of_split ht)

end Dice

end Gamebook
