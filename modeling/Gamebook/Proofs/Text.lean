/-
**Digits and blanks.**

No character is both, so a row of digits has no blanks around it and is cut off as a whole from
what stands behind it.  Digits have no case, and the digits of a number are read as that number.

Main results:

* `Text.isBlank_eq_false_of_isDigit` — **digits are no blanks**;
* `Text.stripChars_eq_self` — characters between two that are no blanks are kept;
* `Text.head?_lowerFrom` — a row of digits starts with the same digit in lower case;
* `Text.natOfDigits_digitsOfNat` — the digits of a number are those of that number;
* `Dice.takeDigits_append` — a row of digits is taken as a whole.
-/

import Gamebook.Dice.Notation
import Gamebook.Text.Blank
import Gamebook.Text.Digit
import Gamebook.Text.Lowercase

set_option autoImplicit false

namespace Gamebook

namespace Text

/-- A digit lies in one of the blocks. -/
theorem exists_zero_of_isDigit {c : Char} (h : isDigit c) :
    ∃ z ∈ zeroDigits, z ≤ c.toNat ∧ c.toNat < z + 10 := by
  obtain ⟨d, hd⟩ := Option.isSome_iff_exists.1 h
  obtain ⟨z, hz, -⟩ := Option.map_eq_some_iff.1 hd
  exact ⟨z, List.mem_of_find?_eq_some hz, by simpa using List.find?_some hz⟩

/-- **Digits are no blanks.** -/
theorem isBlank_eq_false_of_isDigit {c : Char} (h : isDigit c) : isBlank c = false := by
  obtain ⟨z, hmem, hrange⟩ := exists_zero_of_isDigit h
  have hapart : ∀ z ∈ zeroDigits, ∀ r ∈ blankRanges, z + 10 ≤ r.1 ∨ r.2 < z := by decide
  rw [Bool.eq_false_iff]
  intro hblank
  obtain ⟨r, hr, hin⟩ := List.any_eq_true.1 hblank
  simp only [Bool.and_eq_true, decide_eq_true_eq] at hin
  rcases hapart z hmem r hr with h | h <;> omega

/-- Digits have no case. -/
theorem head?_lowerFrom {before cs : List Char} {c : Char} (h : isDigit c) :
    (lowerFrom before (c :: cs)).head? = some c := by
  obtain ⟨z, hmem, hrange⟩ := exists_zero_of_isDigit h
  have hapart : ∀ z ∈ zeroDigits, (z = 0x30 ∨ 0x80 ≤ z) ∧ (z + 10 ≤ 0x130 ∨ 0x3a3 < z) ∧
      ∀ r ∈ lowerTable, z + 10 ≤ r.1 ∨ r.2.1 < z := by decide +kernel
  obtain ⟨hplain, hlone, htable⟩ := hapart z hmem
  have hlookup : lowerChar c = c := by
    rw [lowerChar, List.find?_eq_none.2]
    rintro ⟨first, last, step, shift⟩ hr hin
    have hout : z + 10 ≤ first ∨ last < z := htable _ hr
    simp only [Bool.and_eq_true, decide_eq_true_eq] at hin
    omega
  have hlower : c.toNat < 0x80 → c.toLower = c := by
    intro hlt
    have hupper : ¬ (c.val ≥ 'A'.val ∧ c.val ≤ 'Z'.val) := by
      rintro ⟨h, -⟩
      have h : 65 ≤ c.toNat := h
      omega
    exact dif_neg hupper
  unfold lowerFrom
  rw [if_neg (by omega), if_neg (by omega)]
  split
  · rename_i hlt
    rw [hlower hlt]
    rfl
  · rw [hlookup]
    rfl

/-! ### Numerals -/

/-- The value of a plain digit. -/
theorem digitValue?_of_isDigit {c : Char} (h : c.isDigit) :
    digitValue? c = some (c.toNat - 48) := by
  have h : 48 ≤ c.toNat ∧ c.toNat ≤ 57 := by
    simpa [Char.isDigit, UInt32.le_iff_toNat_le] using h
  rw [digitValue?, zeroDigits, List.find?_cons_of_pos]
  · rfl
  · simp only [Bool.and_eq_true, decide_eq_true_eq]
    omega

theorem isDigit_digitsOfNat {n : Nat} : ∀ c ∈ digitsOfNat n, c.isDigit := fun _ hc =>
  Nat.isDigit_of_mem_toDigits (by omega) (by omega) hc

/-- **The digits of a number are those of that number.** -/
theorem natOfDigits_digitsOfNat (n : Nat) : natOfDigits (digitsOfNat n) = n := by
  have hread : ∀ {cs : List Char} {m : Nat}, (∀ c ∈ cs, c.isDigit) →
      natOfDigitsFrom m cs = Nat.ofDigitChars 10 cs m := by
    intro cs m hcs
    induction cs generalizing m with
    | nil => rfl
    | cons c cs ih =>
        obtain ⟨hc, hrest⟩ := List.forall_mem_cons.1 hcs
        rw [Nat.ofDigitChars_cons, ← ih hrest]
        rw [natOfDigitsFrom, List.foldl_cons, digitValue?_of_isDigit hc]
        rfl
  rw [natOfDigits, hread isDigit_digitsOfNat]
  exact Nat.ofDigitChars_toDigits (by omega) (by omega)

/-! ### Blanks around a text -/

/-- Characters between two that are no blanks are kept. -/
theorem stripChars_eq_self {cs : List Char} (hfirst : ∀ c ∈ cs.head?, isBlank c = false)
    (hlast : ∀ c ∈ cs.getLast?, isBlank c = false) : stripChars cs = cs := by
  have hdrop : ∀ {l : List Char}, (∀ c ∈ l.head?, isBlank c = false) → l.dropWhile isBlank = l := by
    intro l h
    cases l with
    | nil => rfl
    | cons c l => simp [h c rfl]
  unfold stripChars dropBlanksRight
  rw [hdrop hfirst, hdrop (by rwa [List.head?_reverse]), List.reverse_reverse]

/-- A row of digits has no blanks around it. -/
theorem stripChars_digits {ds : List Char} (h : ∀ c ∈ ds, isDigit c) : stripChars ds = ds :=
  stripChars_eq_self
    (fun c hc => isBlank_eq_false_of_isDigit (h c (List.mem_of_mem_head? hc)))
    (fun c hc => isBlank_eq_false_of_isDigit (h c (List.mem_of_getLast? hc)))

end Text

namespace Dice

/-- **A row of digits is taken as a whole**, up to the first character that is none. -/
theorem takeDigits_append {ds rest : List Char} (hne : ds ≠ [])
    (h : ∀ c ∈ ds, Text.isDigit c) (hrest : ∀ c ∈ rest.head?, Text.isDigit c = false) :
    takeDigits (ds ++ rest) = some (ds, rest) := by
  have htail : rest.takeWhile Text.isDigit = [] ∧ rest.dropWhile Text.isDigit = rest := by
    cases rest with
    | nil => exact ⟨rfl, rfl⟩
    | cons c rest => simp [hrest c rfl]
  unfold takeDigits
  rw [List.takeWhile_append_of_pos h, List.dropWhile_append_of_pos h, htail.1, htail.2,
    List.append_nil]
  simp [hne]

theorem takeDigits_eq_self {ds : List Char} (hne : ds ≠ []) (h : ∀ c ∈ ds, Text.isDigit c) :
    takeDigits ds = some (ds, []) := by
  have hds : takeDigits (ds ++ []) = some (ds, []) := takeDigits_append hne h nofun
  rwa [List.append_nil] at hds

end Dice

end Gamebook
