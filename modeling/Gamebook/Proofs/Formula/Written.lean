/-
**How lexemes are written.**

A number is written as a numeral; a text stands between two quotes, with a backslash in front of
what does not stand for itself; a name is a row of letters, digits and two signs that starts with no
digit; a symbol has one form only.  What is scanned off the front of some characters is a lexeme
written like that.  Conversely, where a lexeme is written one is scanned, and no shorter one.

Main definitions:

* `Formula.TextWritten` — how texts are written between quotes;
* `Formula.Lexeme.Written` — how lexemes are written.

Main results:

* `Formula.scanText_iff` — **the texts that are scanned are those that are written**;
* `Formula.scanLexeme_sound` — **what is scanned is a lexeme as it is written**;
* `Formula.scanLexeme_complete` — **where a lexeme is written one is scanned**, as long at least.
-/

import Gamebook.Formula.Lexer
import Gamebook.Proofs.Decimal.Numeral

set_option autoImplicit false

namespace Gamebook.Formula

/-- **A text as it is written between quotes**: a backslash takes the next character with it, which
may be anything but a line end, and other characters than the quote stand for themselves. -/
inductive TextWritten (quote : Char) : List Char → List Char → Prop
  | nil : TextWritten quote [] []
  | plain {c : Char} {cs body : List Char} (hquote : c ≠ quote) (hbackslash : c ≠ '\\')
      (h : TextWritten quote cs body) : TextWritten quote (c :: cs) (c :: body)
  | escaped {c : Char} {cs body : List Char} (hline : c ≠ '\n') (h : TextWritten quote cs body) :
      TextWritten quote (unescape c :: cs) ('\\' :: c :: body)

/-- The characters that texts stand between. -/
def IsQuote (c : Char) : Prop := c = '\'' ∨ c = '"'

instance (c : Char) : Decidable (IsQuote c) := inferInstanceAs (Decidable (_ ∨ _))

/-- **A lexeme as it is written.**  The end of a formula is not written at all. -/
inductive Lexeme.Written : Lexeme → List Char → Prop
  | number {n : Numeral} {slice : List Char} (h : n.Written slice) :
      Written (.number (Number.float n.toFloat).normalize) slice
  | text {quote : Char} {cs body : List Char} (hquote : IsQuote quote)
      (h : TextWritten quote cs body) :
      Written (.text (String.ofList cs)) (quote :: (body ++ [quote]))
  | name {c : Char} {cs : List Char} (hstart : isNameStart c) (hparts : ∀ d ∈ cs, isNamePart d) :
      Written (.name (String.ofList (c :: cs))) (c :: cs)
  | symbol (s : Symbol) : Written (.symbol s) s.text.toList

/-! ### Texts -/

section

variable {quote : Char} {cs body rest : List Char}

theorem scanText_sound (h : scanText quote cs = some (body, rest)) :
    ∃ slice, TextWritten quote body slice ∧ cs = slice ++ quote :: rest := by
  fun_induction scanText quote cs generalizing body with
  | case1 => cases h
  | case2 => cases h
  | case3 cs => cases h
  | case4 c cs hline ih =>
      obtain ⟨⟨body', rest'⟩, hscan, hr⟩ := Option.map_eq_some_iff.1 h
      cases hr
      obtain ⟨slice, hwritten, rfl⟩ := ih hscan
      exact ⟨_, .escaped hline hwritten, rfl⟩
  | case5 cs =>
      cases h
      exact ⟨[], .nil, rfl⟩
  | case6 c cs hnil hescape hquote ih =>
      have hbackslash : c ≠ '\\' := by
        intro hc
        cases cs with
        | nil => exact hnil hc rfl
        | cons d cs => exact hescape d cs hc rfl
      obtain ⟨⟨body', rest'⟩, hscan, hr⟩ := Option.map_eq_some_iff.1 h
      cases hr
      obtain ⟨slice, hwritten, rfl⟩ := ih hscan
      exact ⟨_, .plain hquote hbackslash hwritten, rfl⟩

theorem scanText_complete (hquote : quote ≠ '\\') (h : TextWritten quote cs body) :
    scanText quote (body ++ quote :: rest) = some (cs, rest) := by
  induction h with
  | nil => simp [scanText, hquote]
  | plain hquote' hbackslash h ih => simp [scanText, hquote', hbackslash, ih]
  | escaped hline h ih => simp [scanText, hline, ih]

/-- **The texts that are scanned are those that are written.** -/
theorem scanText_iff (hquote : quote ≠ '\\') :
    scanText quote cs = some (body, rest) ↔
      ∃ slice, TextWritten quote body slice ∧ cs = slice ++ quote :: rest := by
  refine ⟨scanText_sound, ?_⟩
  rintro ⟨slice, hwritten, rfl⟩
  exact scanText_complete hquote hwritten

end

/-! ### Symbols -/

theorem scanSymbol_sound {cs rest : List Char} {s : Symbol} (h : scanSymbol cs = some (s, rest)) :
    cs = s.text.toList ++ rest := by
  obtain ⟨t, -, ht⟩ := List.exists_of_findSome?_eq_some h
  split at ht
  · rename_i hstart
    cases ht
    obtain ⟨behind, rfl⟩ := List.isPrefixOf_iff_prefix.1 hstart
    rw [← String.length_toList, List.drop_left]
  · cases ht

/-- Longer symbols come first. -/
theorem Symbol.pairwise_all : all.Pairwise fun s t => t.text.length ≤ s.text.length := by
  decide +kernel

/-- Where a symbol is written one is scanned, as long at least. -/
theorem scanSymbol_complete (s : Symbol) (behind : List Char) :
    ∃ t rest, scanSymbol (s.text.toList ++ behind) = some (t, rest) ∧
      rest.length ≤ behind.length := by
  cases hscan : scanSymbol (s.text.toList ++ behind) with
  | none =>
      have hnone := List.findSome?_eq_none_iff.1 hscan s s.mem_all
      simp at hnone
  | some r =>
      obtain ⟨t, rest⟩ := r
      have hsound := congrArg List.length (scanSymbol_sound hscan)
      obtain ⟨before, t', after, hall, ht', hbefore⟩ := List.findSome?_eq_some_iff.1 hscan
      obtain rfl : t' = t := by
        split at ht'
        · exact congrArg Prod.fst (Option.some.inj ht')
        · cases ht'
      -- the symbol does not stand in front of the one that was found
      have hmem : s = t' ∨ s ∈ after := by
        have hs := hall ▸ s.mem_all
        rcases List.mem_append.1 hs with hs | hs
        · have hnone := hbefore s hs
          simp at hnone
        · exact List.mem_cons.1 hs
      have hlonger : s.text.length ≤ t'.text.length := by
        rcases hmem with rfl | hmem
        · exact Nat.le_refl _
        · have hpairs := Symbol.pairwise_all
          rw [hall] at hpairs
          exact (List.pairwise_cons.1 (List.pairwise_append.1 hpairs).2.1).1 s hmem
      simp only [List.length_append, String.length_toList] at hsound
      exact ⟨t', rest, rfl, by omega⟩

/-! ### Lexemes -/

variable {cs rest slice : List Char} {l : Lexeme}

/-- **What is scanned is a lexeme as it is written.** -/
theorem scanLexeme_sound (h : scanLexeme cs = some (l, rest)) :
    ∃ slice, l.Written slice ∧ cs = slice ++ rest := by
  unfold scanLexeme at h
  split at h
  · rename_i n rest' htake
    cases h
    obtain ⟨slice, hwritten, hcs⟩ := Numeral.take_sound htake
    exact ⟨slice, .number hwritten, hcs⟩
  · split at h
    · cases h
    · rename_i c cs hnone
      split at h
      · rename_i hquote
        obtain ⟨⟨body, rest'⟩, hscan, hr⟩ := Option.map_eq_some_iff.1 h
        cases hr
        obtain ⟨slice, hwritten, rfl⟩ := scanText_sound hscan
        exact ⟨_, .text hquote hwritten, by simp⟩
      · split at h
        · rename_i hstart
          cases h
          have hpart : isNamePart c = true := by simp [isNamePart, hstart]
          have hparts : ∀ d ∈ cs.takeWhile isNamePart, isNamePart d :=
            List.all_eq_true.1 List.all_takeWhile
          refine ⟨c :: cs.takeWhile isNamePart, ?_, ?_⟩
          · rw [List.takeWhile_cons_of_pos hpart]
            exact .name hstart hparts
          · rw [List.dropWhile_cons_of_pos hpart, List.cons_append,
              List.takeWhile_append_dropWhile]
        · obtain ⟨⟨s, rest'⟩, hscan, hr⟩ := Option.map_eq_some_iff.1 h
          cases hr
          exact ⟨_, .symbol s, scanSymbol_sound hscan⟩

/-- A lexeme has a character at least. -/
theorem Lexeme.Written.length_pos (h : l.Written slice) : 0 < slice.length := by
  cases h with
  | number h => exact h.length_pos
  | text => exact Nat.succ_pos _
  | name => exact Nat.succ_pos _
  | symbol s => cases s <;> decide

/-- What starts neither with a digit nor with the point is no number. -/
theorem take_eq_none {c : Char} (hdigit : Text.isDigit c = false) (hpoint : c ≠ '.')
    (cs : List Char) : Numeral.take (c :: cs) = none := by
  have hfraction : Numeral.takeFraction (c :: cs) = ([], c :: cs) := by
    unfold Numeral.takeFraction
    split
    · rename_i heq
      exact absurd (List.cons.inj heq).1 hpoint
    · rfl
  simp [Numeral.take, hdigit, hfraction]

theorem scanLexeme_of_take_none {c : Char} (h : Numeral.take (c :: cs) = none) :
    scanLexeme (c :: cs) =
      if IsQuote c then (scanText c cs).map fun r => (.text (String.ofList r.1), r.2)
      else if isNameStart c then
        some (.name (String.ofList ((c :: cs).takeWhile isNamePart)),
          (c :: cs).dropWhile isNamePart)
      else (scanSymbol (c :: cs)).map fun r => (.symbol r.1, r.2) := by
  unfold scanLexeme
  rw [h]
  rfl

/-- A text between quotes is scanned as a whole. -/
theorem scanLexeme_text {quote : Char} {cs body : List Char} (hquote : IsQuote quote)
    (h : TextWritten quote cs body) (behind : List Char) :
    scanLexeme (quote :: (body ++ quote :: behind)) =
      some (.text (String.ofList cs), behind) := by
  have hnone : Numeral.take (quote :: (body ++ quote :: behind)) = none := by
    rcases hquote with rfl | rfl <;> exact take_eq_none (by decide +kernel) (by decide) _
  have hbackslash : quote ≠ '\\' := by rcases hquote with rfl | rfl <;> decide
  rw [scanLexeme_of_take_none hnone, if_pos hquote, scanText_complete hbackslash h]
  rfl

/-- A name starts with no digit, and neither with the point nor with a quote. -/
theorem plain_of_isNameStart {c : Char} (h : isNameStart c = true) :
    Text.isDigit c = false ∧ c ≠ '.' ∧ ¬ IsQuote c := by
  simp only [isNameStart, Bool.or_eq_true, Bool.and_eq_true, decide_eq_true_eq, Char.le_def,
    UInt32.le_iff_toNat_le] at h
  have hrange : c.toNat < 123 ∧ (c.toNat = 36 ∨ 65 ≤ c.toNat) := by
    rcases h with ((⟨hfrom, hto⟩ | ⟨hfrom, hto⟩) | rfl) | rfl
    · change 97 ≤ c.toNat at hfrom
      change c.toNat ≤ 122 at hto
      omega
    · change 65 ≤ c.toNat at hfrom
      change c.toNat ≤ 90 at hto
      omega
    · decide
    · decide
  refine ⟨?_, ?_, ?_⟩
  · rw [Bool.eq_false_iff]
    intro hdigit
    obtain ⟨z, hmem, hz⟩ := Text.exists_zero_of_isDigit hdigit
    have hblocks : ∀ z ∈ Text.zeroDigits, z = 48 ∨ 123 ≤ z := by decide
    have hblock := hblocks z hmem
    omega
  · rintro rfl
    revert hrange
    decide
  · rintro (rfl | rfl) <;> revert hrange <;> decide

/-- What a symbol starts with. -/
theorem Symbol.exists_text_eq_cons (s : Symbol) :
    ∃ c cs, s.text.toList = c :: cs ∧ Text.isDigit c = false ∧ ¬ IsQuote c ∧
      isNameStart c = false ∧ (c = '.' → cs = []) := by
  cases s <;>
    exact ⟨_, _, rfl, by decide +kernel, by decide, by decide, by decide⟩

/-- **Where a lexeme is written one is scanned**, as long at least. -/
theorem scanLexeme_complete (h : l.Written slice) (behind : List Char) :
    ∃ l' rest, scanLexeme (slice ++ behind) = some (l', rest) ∧ rest.length ≤ behind.length := by
  cases h with
  | number h =>
      obtain ⟨n, rest, htake, hrest⟩ := Numeral.take_complete h behind
      exact ⟨_, rest, by unfold scanLexeme; rw [htake], hrest⟩
  | @text quote cs body hquote h =>
      rw [List.cons_append, List.append_assoc, List.singleton_append]
      exact ⟨_, behind, scanLexeme_text hquote h behind, Nat.le_refl _⟩
  | @name c cs hstart hparts =>
      obtain ⟨hdigit, hpoint, hquote⟩ := plain_of_isNameStart hstart
      have hall : ∀ d ∈ c :: cs, isNamePart d :=
        List.forall_mem_cons.2 ⟨by simp [isNamePart, hstart], hparts⟩
      have hdrop : (c :: (cs ++ behind)).dropWhile isNamePart = behind.dropWhile isNamePart :=
        List.dropWhile_append_of_pos hall
      have hscan := scanLexeme_of_take_none (take_eq_none hdigit hpoint (cs ++ behind))
      rw [if_neg hquote, if_pos hstart, hdrop] at hscan
      exact ⟨_, _, hscan, (List.dropWhile_sublist isNamePart).length_le⟩
  | symbol s =>
      obtain ⟨c, cs, htext, hdigit, hquote, hstart, hpoint⟩ := s.exists_text_eq_cons
      obtain ⟨t, rest, hscan, hrest⟩ := scanSymbol_complete s behind
      rw [htext, List.cons_append] at hscan ⊢
      cases htake : Numeral.take (c :: (cs ++ behind)) with
      | none =>
          refine ⟨.symbol t, rest, ?_, hrest⟩
          rw [scanLexeme_of_take_none htake, if_neg hquote, if_neg (by simp [hstart]), hscan]
          rfl
      | some r =>
          -- only the point starts a number, and it is a symbol of its own
          obtain ⟨n, rest'⟩ := r
          have hc : c = '.' := by
            by_contra hc
            rw [take_eq_none hdigit hc] at htake
            cases htake
          obtain ⟨slice', hwritten, hcs⟩ := Numeral.take_sound htake
          have hlength := congrArg List.length hcs
          have hpos := hwritten.length_pos
          simp only [hpoint hc, List.nil_append, List.length_cons, List.length_append] at hlength
          exact ⟨_, rest', by unfold scanLexeme; rw [htake], by omega⟩

end Gamebook.Formula
