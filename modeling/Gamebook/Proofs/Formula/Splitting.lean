/-
**Nothing is lost between tokens.**

A formula is a row of pieces, each of them a blank or a token with the characters it is written
with.  Every token stands where the characters in front of it end, and no lexeme that starts there
is longer.  Where the row of pieces ends before the formula does, neither a blank nor a lexeme goes
on with it, and that is the place that the error names.

Main definitions:

* `Formula.Piece` — a blank, or a token with its characters;
* `Formula.Splits` — the characters up to some place are a row of pieces.

Main results:

* `Formula.scanLexeme_isLongest` — what is scanned is the longest lexeme;
* `Formula.Splits.increasing` — the places of the tokens increase;
* `Formula.tokenize_splits` — **a formula is split into its pieces**, or up to the place of the
  error.
-/

import Gamebook.Proofs.Formula.Rolling
import Gamebook.Proofs.Formula.Written

set_option autoImplicit false

namespace Gamebook.Formula

/-! ### Pieces -/

/-- A piece of a formula: a blank, or a token with the characters it is written with. -/
inductive Piece where
  | blank (c : Char)
  | token (t : Token) (slice : List Char)

namespace Piece

/-- The characters of a piece. -/
def chars : Piece → List Char
  | blank c => [c]
  | token _ slice => slice

/-- The token of a piece. -/
def token? : Piece → Option Token
  | blank _ => none
  | token t _ => some t

end Piece

/-- The characters of a row of pieces. -/
def charsOf (pieces : List Piece) : List Char := pieces.flatMap Piece.chars

/-- The tokens of a row of pieces. -/
def tokensOf (pieces : List Piece) : List Token := pieces.filterMap Piece.token?

@[simp] theorem charsOf_cons (p : Piece) (pieces : List Piece) :
    charsOf (p :: pieces) = p.chars ++ charsOf pieces := rfl

/-- No lexeme at the front of the characters is longer than the slice. -/
def IsLongest (slice cs : List Char) : Prop :=
  ∀ (l : Lexeme) slice', l.Written slice' → slice' <+: cs → slice'.length ≤ slice.length

/-- **The piece fits** at a place, in front of some characters: it is a blank, or a token of that
place that is written with its slice, and no longer lexeme stands there. -/
def Piece.Fits (pos : Nat) (behind : List Char) : Piece → Prop
  | .blank c => Text.isBlank c
  | .token t slice =>
      t.pos = pos ∧ t.lexeme.Written slice ∧ IsLongest slice (slice ++ behind)

/-- **The characters in front of the rest are a row of pieces**, each of which fits where it
stands. -/
structure Splits (pos : Nat) (pieces : List Piece) (cs rest : List Char) : Prop where
  joined : cs = charsOf pieces ++ rest
  fits : ∀ before p after, pieces = before ++ p :: after →
    p.Fits (pos + (charsOf before).length) (charsOf after ++ rest)

/-- Neither a blank nor a lexeme starts with the characters. -/
structure NothingStarts (c : Char) (behind : List Char) : Prop where
  noBlank : Text.isBlank c = false
  noLexeme : ∀ (l : Lexeme) slice, l.Written slice → ¬ slice <+: c :: behind

variable {pos : Nat} {pieces : List Piece} {cs rest : List Char}

namespace Splits

theorem nil (pos : Nat) (cs : List Char) : Splits pos [] cs cs where
  joined := rfl
  fits before p after h := by cases before <;> cases h

/-- A piece in front. -/
theorem cons {p : Piece} (hp : p.Fits pos cs)
    (h : Splits (pos + p.chars.length) pieces cs rest) :
    Splits pos (p :: pieces) (p.chars ++ cs) rest where
  joined := by rw [charsOf_cons, List.append_assoc, ← h.joined]
  fits before q after heq := by
    cases before with
    | nil =>
        obtain ⟨rfl, rfl⟩ := List.cons.inj heq
        rwa [← h.joined]
    | cons p' before =>
        obtain ⟨rfl, hpieces⟩ := List.cons.inj heq
        rw [charsOf_cons, List.length_append, ← Nat.add_assoc]
        exact h.fits before q after hpieces

theorem of_cons {p : Piece} (h : Splits pos (p :: pieces) cs rest) :
    p.Fits pos (charsOf pieces ++ rest) ∧
      Splits (pos + p.chars.length) pieces (charsOf pieces ++ rest) rest := by
  refine ⟨h.fits [] p pieces rfl, rfl, fun before q after heq => ?_⟩
  have hq := h.fits (p :: before) q after (congrArg (p :: ·) heq)
  rwa [charsOf_cons, List.length_append, ← Nat.add_assoc] at hq

/-- The tokens stand between the first place and the place behind the last one. -/
theorem le_pos (h : Splits pos pieces cs rest) {t : Token} (ht : t ∈ tokensOf pieces) :
    pos ≤ t.pos ∧ t.pos < pos + (charsOf pieces).length := by
  induction pieces generalizing pos cs with
  | nil => cases ht
  | cons p pieces ih =>
      obtain ⟨hp, hrest⟩ := h.of_cons
      have hbehind := fun ht => ih hrest ht
      rw [charsOf_cons, List.length_append]
      cases p with
      | blank c =>
          have hpos := hbehind ht
          omega
      | token t' slice =>
          rcases List.mem_cons.1 ht with rfl | ht
          · have hslice : 0 < slice.length := hp.2.1.length_pos
            have hplace := hp.1
            simp only [Piece.chars]
            omega
          · have hpos := hbehind ht
            omega

/-- **The places of the tokens increase**, up to that of the end. -/
theorem increasing (h : Splits pos pieces cs rest) {stop : Token}
    (hstop : stop.pos = pos + (charsOf pieces).length) :
    (tokensOf pieces ++ [stop]).Pairwise fun t u => t.pos < u.pos := by
  induction pieces generalizing pos cs with
  | nil => exact List.pairwise_singleton _ _
  | cons p pieces ih =>
      obtain ⟨hp, hrest⟩ := h.of_cons
      rw [charsOf_cons, List.length_append, ← Nat.add_assoc] at hstop
      cases p with
      | blank c => exact ih hrest hstop
      | token t slice =>
          refine List.pairwise_cons.2 ⟨fun u hu => ?_, ih hrest hstop⟩
          have hslice : 0 < slice.length := hp.2.1.length_pos
          have hplace := hp.1
          simp only [Piece.chars] at hstop hrest
          rcases List.mem_append.1 hu with hu | hu
          · have hpos := (hrest.le_pos hu).1
            omega
          · rw [List.mem_singleton.1 hu]
            omega

end Splits

/-! ### Splitting a formula -/

/-- What is scanned is the longest lexeme. -/
theorem scanLexeme_isLongest {l : Lexeme} {slice : List Char}
    (h : scanLexeme (slice ++ rest) = some (l, rest)) : IsLongest slice (slice ++ rest) := by
  rintro l' slice' hwritten ⟨behind, hbehind⟩
  obtain ⟨l'', rest'', hscan, hrest⟩ := scanLexeme_complete hwritten behind
  rw [hbehind, h] at hscan
  cases hscan
  have hlength := congrArg List.length hbehind
  simp only [List.length_append] at hlength
  omega

/-- What is scanned is a token that fits, and there are fewer characters behind it. -/
theorem exists_token_fits {l : Lexeme} {c : Char} (pos : Nat)
    (h : scanLexeme (c :: cs) = some (l, rest)) :
    ∃ slice, (Piece.token ⟨l, pos⟩ slice).Fits pos rest ∧ c :: cs = slice ++ rest ∧
      rest.length ≤ cs.length := by
  obtain ⟨slice, hwritten, hslice⟩ := scanLexeme_sound h
  have hlongest : IsLongest slice (slice ++ rest) := scanLexeme_isLongest (hslice ▸ h)
  have hlength := congrArg List.length hslice
  have hpos := hwritten.length_pos
  simp only [List.length_append, List.length_cons] at hlength
  exact ⟨slice, ⟨rfl, hwritten, hlongest⟩, hslice, by omega⟩

/-- Where nothing is scanned there is no lexeme. -/
theorem not_prefix_of_scanLexeme {l : Lexeme} {slice : List Char} (h : scanLexeme cs = none)
    (hl : l.Written slice) : ¬ slice <+: cs := by
  rintro ⟨behind, rfl⟩
  obtain ⟨l', rest, hscan, -⟩ := scanLexeme_complete hl behind
  cases h.symm.trans hscan

/-- What splitting some characters can give: the tokens of all of them, or the error at the place
where nothing starts. -/
inductive IsSplit (pos : Nat) (cs : List Char) : Except FormulaError (List Token) → Prop
  | whole {pieces : List Piece} (h : Splits pos pieces cs []) :
      IsSplit pos cs (.ok (tokensOf pieces ++ [⟨.stop, pos + (charsOf pieces).length⟩]))
  | stuck {pieces : List Piece} {c : Char} {behind : List Char}
      (h : Splits pos pieces cs (c :: behind)) (hnothing : NothingStarts c behind) :
      IsSplit pos cs (.error (.unexpectedCharacter c (pos + (charsOf pieces).length)))

/-- A piece in front brings its token. -/
theorem IsSplit.cons {p : Piece} {r : Except FormulaError (List Token)} (hp : p.Fits pos cs)
    (h : IsSplit (pos + p.chars.length) cs r) :
    IsSplit pos (p.chars ++ cs) (r.map (p.token?.toList ++ ·)) := by
  cases h with
  | @whole pieces h =>
      have htokens : tokensOf (p :: pieces) = p.token?.toList ++ tokensOf pieces := by
        cases p <;> rfl
      have hwhole := whole (h.cons hp)
      rwa [htokens, charsOf_cons, List.length_append, ← Nat.add_assoc, List.append_assoc]
        at hwhole
  | stuck h hnothing =>
      have hstuck := stuck (h.cons hp) hnothing
      rwa [charsOf_cons, List.length_append, ← Nat.add_assoc] at hstuck

/-- The tokens of some characters; every step reads a piece. -/
theorem tokenizeFrom_isSplit {n : Nat} (hn : cs.length ≤ n) (pos : Nat) :
    IsSplit pos cs (tokenizeFrom n pos cs) := by
  induction n generalizing pos cs with
  | zero =>
      obtain rfl : cs = [] := List.length_eq_zero_iff.1 (Nat.le_zero.1 hn)
      exact .whole (.nil pos [])
  | succ n ih =>
      cases cs with
      | nil => exact .whole (.nil pos [])
      | cons c cs =>
          have hcs : cs.length ≤ n := Nat.le_of_succ_le_succ hn
          cases hblank : Text.isBlank c with
          | true =>
              have hskip : tokenizeFrom (n + 1) pos (c :: cs) = tokenizeFrom n (pos + 1) cs := by
                rw [tokenizeFrom, if_pos hblank]
              have hsame : ∀ r : Except FormulaError (List Token),
                  r.map ((Piece.blank c).token?.toList ++ ·) = r := by
                rintro (_ | _) <;> rfl
              have hfits : (Piece.blank c).Fits pos cs := hblank
              have hsplit := IsSplit.cons hfits (ih hcs (pos + 1))
              rw [hsame] at hsplit
              rw [hskip]
              exact hsplit
          | false =>
              cases hscan : scanLexeme (c :: cs) with
              | none =>
                  have herror : tokenizeFrom (n + 1) pos (c :: cs) =
                      .error (.unexpectedCharacter c pos) := by
                    simp only [tokenizeFrom, hblank, hscan]
                    rfl
                  rw [herror]
                  exact .stuck (.nil pos _) ⟨hblank, fun l slice => not_prefix_of_scanLexeme hscan⟩
              | some r =>
                  obtain ⟨l, rest⟩ := r
                  obtain ⟨slice, hfits, hslice, hrest⟩ := exists_token_fits pos hscan
                  have hplace : (c :: cs).length - rest.length = slice.length := by
                    rw [hslice, List.length_append, Nat.add_sub_cancel]
                  rw [tokenizeFrom_cons hblank hscan, hplace, hslice]
                  exact IsSplit.cons hfits (ih (Nat.le_trans hrest hcs) (pos + slice.length))

/-- **A formula is split into its pieces.**  Its characters are those of its pieces one after the
other, and the pieces are blanks and tokens, each token the longest at its place; the places
increase up to the end token, which stands where the formula ends.  Otherwise the error names the
place up to which there are such pieces, and where neither a blank nor a lexeme starts. -/
theorem tokenize_splits (s : String) :
    (∃ pieces ts, Splits 0 pieces s.toList [] ∧ ts = tokensOf pieces ++ [⟨.stop, s.length⟩] ∧
      tokenize s = .ok ts ∧ ts.Pairwise fun t u => t.pos < u.pos) ∨
    ∃ pieces c rest, Splits 0 pieces s.toList (c :: rest) ∧ NothingStarts c rest ∧
      tokenize s = .error (.unexpectedCharacter c (charsOf pieces).length) := by
  have hsplit : IsSplit 0 s.toList (tokenize s) := tokenizeFrom_isSplit (Nat.le_refl _) 0
  generalize tokenize s = r at hsplit
  cases hsplit with
  | @whole pieces h =>
      have hlength : 0 + (charsOf pieces).length = s.length := by
        rw [← String.length_toList, h.joined, List.append_nil, Nat.zero_add]
      rw [hlength]
      exact .inl ⟨pieces, _, h, rfl, rfl, h.increasing hlength.symm⟩
  | stuck h hnothing =>
      rw [Nat.zero_add]
      exact .inr ⟨_, _, _, h, hnothing, rfl⟩

end Gamebook.Formula
