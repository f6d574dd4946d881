/-
**Texts and integers read as they were written.**

A quote, a backslash and a control character of a text are escaped, and reading the escape gives the
character back; every other character stands for itself.  The digits of an integer end where no
digit follows, and neither a point nor an exponent.

Main definition:

* `Json.Apart` — characters that do not go on with a number.

Main results:

* `Json.readString_stringChars` — a text is read as it was written;
* `Json.readPlain_intChars` — an integer within the digit limit is read as it was written.
-/

import Gamebook.Json.Reader
import Gamebook.Json.Writer
import Gamebook.Proofs.Text

set_option autoImplicit false

namespace Gamebook

namespace Json

/-! ### Texts -/

/-- The four digits of a control character. -/
theorem exists_hex_of_lt {n : Nat} (h : n < 0x20) :
    ∃ a b, Text.hex 4 n = ['0', '0', a, b] ∧ hexFour? '0' '0' a b = some n := by
  have hall : ∀ n < 0x20, Text.hex 4 n = ['0', '0', (n / 16).digitChar, (n % 16).digitChar] ∧
      hexFour? '0' '0' (n / 16).digitChar (n % 16).digitChar = some n := by decide +kernel
  exact ⟨_, _, hall n h⟩

/-- A character is read as it was written. -/
theorem readUnits_charChars (c : Char) (rest : List Char) :
    readUnits (charChars c ++ rest) = (readUnits rest).map fun r => (c.toNat :: r.1, r.2) := by
  have hescape : ∀ {letter : Char}, letter ≠ 'u' → escaped? letter = some c →
      readUnits ('\\' :: letter :: rest) =
        (readUnits rest).map fun r => (c.toNat :: r.1, r.2) := by
    intro letter hletter hc
    rw [readUnits.eq_def]
    simp [hletter, hc]
  have hcode : ∀ {n : Nat} {d : Char}, c.toNat = n → d.toNat = n → c = d := fun hc hd =>
    Char.toNat_inj.1 (hc.trans hd.symm)
  unfold charChars
  split
  · rename_i h
    rcases h with rfl | rfl <;> exact hescape (by decide) (by decide)
  rename_i hplain
  rw [not_or] at hplain
  split
  · rename_i h; subst h; exact hescape (by decide) (by decide)
  split
  · rename_i h; subst h; exact hescape (by decide) (by decide)
  split
  · rename_i h; subst h; exact hescape (by decide) (by decide)
  split
  · rename_i h
    obtain rfl : c = Char.ofNat 8 := hcode h (by decide)
    exact hescape (by decide) (by decide)
  split
  · rename_i h
    obtain rfl : c = Char.ofNat 12 := hcode h (by decide)
    exact hescape (by decide) (by decide)
  split
  · rename_i h
    obtain ⟨a, b, hhex, hvalue⟩ := exists_hex_of_lt h
    rw [hhex]
    simp [readUnits, hvalue]
  · rename_i h
    rw [readUnits.eq_def]
    simp [hplain, h]

theorem readUnits_flatMap_charChars (cs rest : List Char) :
    readUnits (cs.flatMap charChars ++ '"' :: rest) = some (cs.map Char.toNat, rest) := by
  induction cs with
  | nil => simp [readUnits]
  | cons c cs ih =>
      rw [List.flatMap_cons, List.append_assoc, readUnits_charChars, ih]
      rfl

/-- No character is half a pair. -/
theorem isHalf_toNat (c : Char) : isHighHalf c.toNat = false ∧ isLowHalf c.toNat = false := by
  have hvalid : c.toNat < 0xd800 ∨ (0xdfff < c.toNat ∧ c.toNat < 0x110000) := c.valid
  constructor <;> simp only [isHighHalf, isLowHalf, Bool.and_eq_false_iff, decide_eq_false_iff_not]
    <;> omega

theorem joinPairs_toNat (cs : List Char) : joinPairs (cs.map Char.toNat) = cs := by
  have hunit : ∀ c : Char, unitChar c.toNat = c := fun c => by
    simp [unitChar, isHalf_toNat]
  induction cs with
  | nil => rfl
  | cons c cs ih =>
      cases cs with
      | nil => simp [joinPairs, hunit]
      | cons c' cs =>
          rw [List.map_cons, List.map_cons, joinPairs, (isHalf_toNat c).1, hunit]
          simpa using ih

/-- **A text is read as it was written.** -/
theorem readString_stringChars (s : String) (rest : List Char) :
    readString (s.toList.flatMap charChars ++ '"' :: rest) = some (s.toList, rest) := by
  rw [readString, readUnits_flatMap_charChars]
  simp [joinPairs_toNat]

/-! ### Integers -/

/-- The characters do not go on with a number. -/
def Apart (cs : List Char) : Prop :=
  ∀ c ∈ cs.head?, isDigit c = false ∧ c ≠ '.' ∧ c ≠ 'e' ∧ c ≠ 'E'

theorem apart_nil : Apart [] := nofun

theorem apart_cons {c : Char} {cs : List Char}
    (h : isDigit c = false ∧ c ≠ '.' ∧ c ≠ 'e' ∧ c ≠ 'E') : Apart (c :: cs) := by
  rintro _ ⟨⟩
  exact h

theorem isDigit_of_isDigit {c : Char} (h : c.isDigit) : isDigit c = true := by
  simpa [Char.isDigit, isDigit, Char.le_def] using h

/-- The digits of a number start with zero for zero only. -/
theorem head_digitsOfNat {n : Nat} (h : 0 < n) :
    ∃ c cs, Text.digitsOfNat n = c :: cs ∧ c ≠ '0' := by
  unfold Text.digitsOfNat
  induction n using Nat.strongRecOn with
  | _ n ih =>
      rcases Nat.lt_or_ge n 10 with hlt | hge
      · have hsmall : ∀ n < 10, 0 < n → n.digitChar ≠ '0' := by decide
        exact ⟨_, [], Nat.toDigits_of_lt_base hlt, hsmall n hlt h⟩
      · obtain ⟨c, cs, hhead, hc⟩ := ih (n / 10) (by omega) (by omega)
        refine ⟨c, cs ++ [(n % 10).digitChar], ?_, hc⟩
        rw [Nat.toDigits_of_base_le (by omega) hge, hhead]
        rfl

variable {rest : List Char} {limit : DigitLimit}

theorem span_digitsOfNat (n : Nat) (hrest : Apart rest) :
    (Text.digitsOfNat n ++ rest).takeWhile isDigit = Text.digitsOfNat n ∧
      (Text.digitsOfNat n ++ rest).dropWhile isDigit = rest := by
  have hdigits : ∀ c ∈ Text.digitsOfNat n, isDigit c = true := fun c hc =>
    isDigit_of_isDigit (Text.isDigit_digitsOfNat c hc)
  rw [List.takeWhile_append_of_pos hdigits, List.dropWhile_append_of_pos hdigits]
  cases rest with
  | nil => simp
  | cons c rest => simp [(hrest c rfl).1]

/-- The digits of a number are read as a whole. -/
theorem readWhole_digitsOfNat (n : Nat) (hrest : Apart rest) :
    readWhole (Text.digitsOfNat n ++ rest) = some (Text.digitsOfNat n, rest) := by
  rcases Nat.eq_zero_or_pos n with rfl | hpos
  · rfl
  obtain ⟨htake, hdrop⟩ := span_digitsOfNat n hrest
  obtain ⟨c, cs, hhead, hc⟩ := head_digitsOfNat hpos
  rw [readWhole.eq_def]
  split
  · rename_i hzero
    rw [hhead, List.cons_append] at hzero
    exact absurd (List.cons.inj hzero).1 hc
  · rw [htake, hdrop, hhead]
    rfl

theorem readMagnitude_digitsOfNat (negative : Bool) (n : Nat) (hrest : Apart rest) :
    readMagnitude negative (Text.digitsOfNat n ++ rest) =
      some (⟨negative, Text.digitsOfNat n, [], []⟩, rest) := by
  have hfraction : readFraction rest = ([], rest) := by
    rw [readFraction.eq_def]
    split
    · exact absurd rfl (hrest '.' rfl).2.1
    · rfl
  have hexponent : readExponent rest = ([], rest) := by
    cases rest with
    | nil => rfl
    | cons c rest =>
        obtain ⟨-, -, he, hE⟩ := hrest c rfl
        simp [readExponent, he, hE]
  unfold readMagnitude
  rw [readWhole_digitsOfNat n hrest]
  simp [hfraction, hexponent]

theorem exists_head_digitsOfNat (n : Nat) :
    ∃ c cs, Text.digitsOfNat n = c :: cs ∧ c.isDigit = true := by
  have hne : Text.digitsOfNat n ≠ [] := Nat.toDigits_ne_nil
  obtain ⟨c, cs, hhead⟩ := List.exists_cons_of_ne_nil hne
  exact ⟨c, cs, hhead, Text.isDigit_digitsOfNat c (by rw [hhead]; exact List.mem_cons_self ..)⟩

theorem exists_head_intChars (n : Int) :
    ∃ c cs, intChars n = c :: cs ∧ (c.isDigit = true ∨ c = '-') := by
  obtain ⟨c, cs, hhead, hc⟩ := exists_head_digitsOfNat n.natAbs
  unfold intChars
  split
  · exact ⟨_, _, rfl, .inr rfl⟩
  · exact ⟨c, cs, hhead, .inl hc⟩

theorem readNumber_intChars (n : Int) (hrest : Apart rest) :
    readNumber (intChars n ++ rest) =
      some (⟨decide (n < 0), Text.digitsOfNat n.natAbs, [], []⟩, rest) := by
  unfold intChars
  split
  · rename_i hneg
    rw [decide_eq_true hneg]
    exact readMagnitude_digitsOfNat true n.natAbs hrest
  · rename_i hneg
    obtain ⟨c, cs, hhead, hc⟩ := exists_head_digitsOfNat n.natAbs
    rw [decide_eq_false hneg, ← readMagnitude_digitsOfNat false n.natAbs hrest, readNumber.eq_def]
    split
    · rename_i hminus
      rw [hhead, List.cons_append] at hminus
      rw [(List.cons.inj hminus).1] at hc
      cases hc
    · rfl

/-- An integer is no word. -/
theorem readWord_intChars (n : Int) : readWord .plain (intChars n ++ rest) = none := by
  obtain ⟨c, cs, hhead, hc⟩ := exists_head_digitsOfNat n.natAbs
  have hother : ∀ {letter : Char}, letter.isDigit = false → ¬ letter = c := fun hletter h => by
    rw [h, hc] at hletter
    cases hletter
  unfold intChars
  rw [hhead]
  split <;> simp [readWord, Dialect.plain, commonWords, hother]

/-- An integer within the limit has no more digits than that. -/
theorem admits_digitsOfNat {n : Int} (hone : limit.admits 1 = true)
    (h : limit.admitsInt n = true) :
    limit.admits (Text.digitsOfNat n.natAbs).length = true := by
  cases limit with
  | none => rfl
  | some d =>
      simp only [DigitLimit.admits, DigitLimit.admitsInt, Option.all_some, decide_eq_true_eq] at *
      exact (Nat.length_toDigits_le_iff (by omega) (by omega)).2 h

/-- **An integer within the digit limit is read as it was written.** -/
theorem readPlain_intChars {n : Int} (hone : limit.admits 1 = true)
    (h : limit.admitsInt n = true) (hrest : Apart rest) :
    readPlain .plain limit (intChars n ++ rest) = .ok (.int n, rest) := by
  unfold readPlain
  rw [readWord_intChars, readNumber_intChars n hrest]
  simp only [orMalformed, bind, Except.bind, NumberText.value, List.isEmpty_nil, Bool.and_self,
    if_true, admits_digitsOfNat hone h, Text.natOfDigits_digitsOfNat, Binary64.signed_natAbs]
  rfl

end Json

end Gamebook
