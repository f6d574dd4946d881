/-
**How numerals are written.**

A numeral is written with digits before or behind a point, and perhaps with an exponent.  What is
taken off the front of some characters is a numeral written like that.  Conversely, where a numeral
is written one is taken, and no shorter one.

Main definitions:

* `Numeral.SignWritten`, `Numeral.ExponentWritten`, `Numeral.FractionWritten` — the parts;
* `Numeral.Written` — how numerals are written.

Main results:

* `Numeral.take_sound` — **what is taken is a numeral as it is written**;
* `Numeral.take_complete` — **where a numeral is written one is taken**, as long at least.
-/

import Gamebook.Decimal.Numeral
import Gamebook.Proofs.Dice.Written

set_option autoImplicit false

namespace Gamebook

namespace Numeral

/-! ### How the parts are written -/

/-- A sign as it is written: not at all, or by its character. -/
inductive SignWritten : Bool → List Char → Prop
  | absent : SignWritten false []
  | plus : SignWritten false ['+']
  | minus : SignWritten true ['-']

/-- **An exponent as it is written**: not at all, or with its letter, a sign and digits. -/
inductive ExponentWritten : Int → List Char → Prop
  | absent : ExponentWritten 0 []
  | present {letter : Char} {negative : Bool} {sign digits : List Char}
      (isLetter : letter = 'e' ∨ letter = 'E') (hsign : SignWritten negative sign)
      (hdigits : Text.IsNumeral digits) :
      ExponentWritten (Binary64.signed negative (Text.natOfDigits digits))
        (letter :: (sign ++ digits))

/-- **A fraction as it is written**: not at all, or with the point and any number of digits. -/
inductive FractionWritten : List Char → List Char → Prop
  | absent : FractionWritten [] []
  | present {digits : List Char} (hdigits : ∀ c ∈ digits, Text.isDigit c) :
      FractionWritten digits ('.' :: digits)

/-- **A numeral as it is written**: digits, a fraction and an exponent, with a digit before or
behind the point. -/
inductive Written : Numeral → List Char → Prop
  | intro {whole fraction point raised : List Char} {exponent : Int}
      (hwhole : ∀ c ∈ whole, Text.isDigit c) (hfraction : FractionWritten fraction point)
      (hsome : whole ≠ [] ∨ fraction ≠ []) (hexponent : ExponentWritten exponent raised) :
      Written ⟨whole, fraction, exponent⟩ (whole ++ (point ++ raised))

theorem takeSign_sound (cs : List Char) :
    ∃ sign, SignWritten (takeSign cs).1 sign ∧ cs = sign ++ (takeSign cs).2 := by
  unfold takeSign
  split
  · exact ⟨_, .minus, rfl⟩
  · exact ⟨_, .plus, rfl⟩
  · exact ⟨_, .absent, rfl⟩

theorem takeExponent_sound (cs : List Char) :
    ∃ raised, ExponentWritten (takeExponent cs).1 raised ∧ cs = raised ++ (takeExponent cs).2 := by
  unfold takeExponent
  split
  · rename_i letter rest
    split
    · rename_i hletter
      dsimp only
      split
      · exact ⟨_, .absent, rfl⟩
      · rename_i hdigits
        obtain ⟨sign, hsign, hrest⟩ := takeSign_sound rest
        have hnumeral : Text.IsNumeral ((takeSign rest).2.takeWhile Text.isDigit) :=
          ⟨by simpa using hdigits, List.all_eq_true.1 List.all_takeWhile⟩
        refine ⟨_, .present hletter hsign hnumeral, ?_⟩
        simp only [List.cons_append, List.append_assoc, List.takeWhile_append_dropWhile]
        rw [← hrest]
    · exact ⟨_, .absent, rfl⟩
  · exact ⟨_, .absent, rfl⟩

theorem takeFraction_sound (cs : List Char) :
    ∃ point, FractionWritten (takeFraction cs).1 point ∧ cs = point ++ (takeFraction cs).2 := by
  unfold takeFraction
  split
  · refine ⟨_, .present (List.all_eq_true.1 List.all_takeWhile), ?_⟩
    rw [List.cons_append, List.takeWhile_append_dropWhile]
  · exact ⟨_, .absent, rfl⟩

/-- What is taken is a numeral as it is written. -/
theorem take_sound {cs rest : List Char} {n : Numeral} (h : take cs = some (n, rest)) :
    ∃ slice, n.Written slice ∧ cs = slice ++ rest := by
  unfold take at h
  dsimp only at h
  split at h
  · cases h
  · rename_i hsome
    cases h
    obtain ⟨point, hpoint, hbehind⟩ := takeFraction_sound (cs.dropWhile Text.isDigit)
    obtain ⟨raised, hraised, hrest⟩ :=
      takeExponent_sound (takeFraction (cs.dropWhile Text.isDigit)).2
    refine ⟨_, .intro (List.all_eq_true.1 List.all_takeWhile) hpoint ?_ hraised, ?_⟩
    · simpa [or_iff_not_imp_left] using hsome
    · rw [List.append_assoc, List.append_assoc, ← hrest, ← hbehind, List.takeWhile_append_dropWhile]

/-- A numeral has a character at least. -/
theorem Written.length_pos {n : Numeral} {slice : List Char} (h : n.Written slice) :
    0 < slice.length := by
  obtain ⟨-, hfraction, hsome, -⟩ := h
  cases hfraction with
  | absent =>
      have hne := List.length_pos_iff.2 (by simpa using hsome)
      simp only [List.length_append]
      omega
  | present => simp only [List.length_append, List.length_cons]; omega

/-! ### Taking a numeral -/

/-- What comes behind is no longer than what was there. -/
theorem length_takeExponent_le (cs : List Char) : (takeExponent cs).2.length ≤ cs.length := by
  obtain ⟨raised, -, h⟩ := takeExponent_sound cs
  have hlength := congrArg List.length h
  rw [List.length_append] at hlength
  omega

theorem length_takeFraction_le (cs : List Char) : (takeFraction cs).2.length ≤ cs.length := by
  obtain ⟨point, -, h⟩ := takeFraction_sound cs
  have hlength := congrArg List.length h
  rw [List.length_append] at hlength
  omega

theorem length_dropDigits_le (cs : List Char) :
    (cs.dropWhile Text.isDigit).length ≤ cs.length :=
  (List.dropWhile_sublist _).length_le

/-- A digit is no sign. -/
theorem takeSign_append {negative : Bool} {sign digits : List Char}
    (hsign : SignWritten negative sign) (hdigits : Text.IsNumeral digits) (behind : List Char) :
    takeSign (sign ++ (digits ++ behind)) = (negative, digits ++ behind) := by
  cases hsign with
  | plus | minus => rfl
  | absent =>
      obtain ⟨d, ds, rfl⟩ := List.exists_cons_of_ne_nil hdigits.1
      have hd : Text.isDigit d = true := hdigits.2 d (List.mem_cons_self ..)
      change takeSign (d :: (ds ++ behind)) = (false, d :: (ds ++ behind))
      unfold takeSign
      split
      · rename_i heq
        obtain ⟨rfl, -⟩ := List.cons.inj heq
        exact absurd hd (by decide +kernel)
      · rename_i heq
        obtain ⟨rfl, -⟩ := List.cons.inj heq
        exact absurd hd (by decide +kernel)
      · rfl

/-- An exponent that is written is taken, and perhaps more digits with it. -/
theorem length_takeExponent_append_le {exponent : Int} {raised : List Char}
    (h : ExponentWritten exponent raised) (behind : List Char) :
    (takeExponent (raised ++ behind)).2.length ≤ behind.length := by
  cases h with
  | absent => exact length_takeExponent_le behind
  | @present letter negative sign digits isLetter hsign hdigits =>
      have htakeSign := takeSign_append hsign hdigits behind
      have hdrop : (digits ++ behind).dropWhile Text.isDigit = behind.dropWhile Text.isDigit :=
        List.dropWhile_append_of_pos hdigits.2
      have hsome : ((digits ++ behind).takeWhile Text.isDigit).isEmpty = false := by
        rw [List.takeWhile_append_of_pos hdigits.2]
        simp [hdigits.1]
      simp only [takeExponent, List.cons_append, List.append_assoc, if_pos isLetter, htakeSign,
        hsome, hdrop]
      exact length_dropDigits_le behind

/-- An exponent goes on neither with a digit nor with the point. -/
theorem ExponentWritten.eq_nil_or {exponent : Int} {raised : List Char}
    (h : ExponentWritten exponent raised) (behind : List Char) :
    raised = [] ∨ (raised ++ behind).dropWhile Text.isDigit = raised ++ behind ∧
      takeFraction (raised ++ behind) = ([], raised ++ behind) := by
  cases h with
  | absent => exact .inl rfl
  | present isLetter hsign hdigits =>
      refine .inr ⟨List.dropWhile_cons_of_neg ?_, ?_⟩
      · rcases isLetter with rfl | rfl <;> decide +kernel
      · rcases isLetter with rfl | rfl <;> rfl

/-- Behind digits the exponent that is written is taken. -/
theorem length_takeExponent_dropDigits_le {exponent : Int} {raised : List Char}
    (h : ExponentWritten exponent raised) (behind : List Char) :
    (takeExponent ((raised ++ behind).dropWhile Text.isDigit)).2.length ≤ behind.length := by
  rcases h.eq_nil_or behind with rfl | ⟨hdrop, -⟩
  · exact Nat.le_trans (length_takeExponent_le _) (length_dropDigits_le behind)
  · rw [hdrop]
    exact length_takeExponent_append_le h behind

/-- Behind digits without a point the exponent that is written is taken. -/
theorem length_takeExponent_takeFraction_le {exponent : Int} {raised : List Char}
    (h : ExponentWritten exponent raised) (behind : List Char) :
    (takeExponent (takeFraction ((raised ++ behind).dropWhile Text.isDigit)).2).2.length ≤
      behind.length := by
  rcases h.eq_nil_or behind with rfl | ⟨hdrop, hfraction⟩
  · exact Nat.le_trans (length_takeExponent_le _)
      (Nat.le_trans (length_takeFraction_le _) (length_dropDigits_le behind))
  · rw [hdrop, hfraction]
    exact length_takeExponent_append_le h behind

/-- **Where a numeral is written one is taken**, as long at least. -/
theorem take_complete {n : Numeral} {slice : List Char} (h : n.Written slice)
    (behind : List Char) :
    ∃ n' rest, take (slice ++ behind) = some (n', rest) ∧ rest.length ≤ behind.length := by
  obtain ⟨hwhole, hfraction, hsome, hexponent⟩ := h
  rename_i whole fraction point raised exponent
  cases hfraction with
  | absent =>
      have hne : whole ≠ [] := by simpa using hsome
      have hcs : whole ++ ([] ++ raised) ++ behind = whole ++ (raised ++ behind) := by simp
      have hdrop : (whole ++ (raised ++ behind)).dropWhile Text.isDigit =
          (raised ++ behind).dropWhile Text.isDigit := List.dropWhile_append_of_pos hwhole
      have hempty : ((whole ++ (raised ++ behind)).takeWhile Text.isDigit).isEmpty = false := by
        rw [List.takeWhile_append_of_pos hwhole]
        simp [hne]
      rw [hcs]
      simp only [take, hdrop, hempty, Bool.false_and]
      exact ⟨_, _, rfl, length_takeExponent_takeFraction_le hexponent behind⟩
  | present hdigits =>
      have hcs : whole ++ ('.' :: fraction ++ raised) ++ behind =
          whole ++ '.' :: (fraction ++ (raised ++ behind)) := by simp
      have hpoint : Text.isDigit '.' = false := by decide +kernel
      have htake : (whole ++ '.' :: (fraction ++ (raised ++ behind))).takeWhile Text.isDigit =
          whole := by
        rw [List.takeWhile_append_of_pos hwhole]
        simp [hpoint]
      have hdrop : (whole ++ '.' :: (fraction ++ (raised ++ behind))).dropWhile Text.isDigit =
          '.' :: (fraction ++ (raised ++ behind)) := by
        rw [List.dropWhile_append_of_pos hwhole]
        simp [hpoint]
      have hempty : (whole.isEmpty &&
          ((fraction ++ (raised ++ behind)).takeWhile Text.isDigit).isEmpty) = false := by
        rw [List.takeWhile_append_of_pos hdigits]
        rcases hsome with h | h <;> simp [h]
      have hrest : (fraction ++ (raised ++ behind)).dropWhile Text.isDigit =
          (raised ++ behind).dropWhile Text.isDigit := List.dropWhile_append_of_pos hdigits
      rw [hcs]
      simp only [take, htake, hdrop, takeFraction, hempty, hrest]
      exact ⟨_, _, rfl, length_takeExponent_dropDigits_le hexponent behind⟩

end Numeral

end Gamebook
