/-
**Every text can be quoted.**

Between quotes a text is written with a backslash in front of every backslash and of every quote of
the same kind; line ends and tabs may also be written by a letter behind a backslash.  However that
is done, the quotation is a single token, and as a formula it has the text as its value.

Main definitions:

* `Formula.Quotation` — how a text can be written between two quotes;
* `Formula.quoted` — a text between quotes with as few backslashes as possible;
* `Formula.enclosed` — some characters between two quotes.

Main results:

* `Formula.Quotation.textWritten` — a quotation is read as its text;
* `Formula.quotation_roundTrip` — **every quotation of a text has the text as its value**.
-/

import Gamebook.Formula.Eval
import Gamebook.Proofs.Formula.Rolling
import Gamebook.Proofs.Formula.Written

set_option autoImplicit false

namespace Gamebook.Formula

/-- The characters that a letter can stand for, each with its letter. -/
def letterForms : List (Char × Char) := [('\n', 'n'), ('\t', 't'), ('\r', 'r')]

/-- **How a text can be written between two quotes**: the quote and the backslash behind a
backslash, all other characters as they are, and line ends and tabs also by their letters. -/
inductive Quotation (quote : Char) : List Char → List Char → Prop
  | nil : Quotation quote [] []
  | guarded {c : Char} {cs body : List Char} (hguarded : c = quote ∨ c = '\\')
      (h : Quotation quote cs body) : Quotation quote (c :: cs) ('\\' :: c :: body)
  | letter {c letter : Char} {cs body : List Char} (hletter : (c, letter) ∈ letterForms)
      (h : Quotation quote cs body) : Quotation quote (c :: cs) ('\\' :: letter :: body)
  | plain {c : Char} {cs body : List Char} (hquote : c ≠ quote) (hbackslash : c ≠ '\\')
      (h : Quotation quote cs body) : Quotation quote (c :: cs) (c :: body)

/-- A text written with as few backslashes as possible. -/
def quoted (quote : Char) (cs : List Char) : List Char :=
  cs.flatMap fun c => if c = quote ∨ c = '\\' then ['\\', c] else [c]

/-- Some characters between two quotes. -/
def enclosed (quote : Char) (body : List Char) : String :=
  String.ofList (quote :: (body ++ [quote]))

variable {quote : Char} {cs body : List Char}

theorem quotation_quoted (quote : Char) (cs : List Char) :
    Quotation quote cs (quoted quote cs) := by
  induction cs with
  | nil => exact .nil
  | cons c cs ih =>
      unfold quoted at ih ⊢
      rw [List.flatMap_cons]
      split
      · exact .guarded ‹_› ih
      · rename_i h
        exact .plain (fun hc => h (.inl hc)) (fun hc => h (.inr hc)) ih

/-- A backslash takes quotes and backslashes as they are. -/
theorem unescape_guarded {c : Char} (hquote : IsQuote quote) (hc : c = quote ∨ c = '\\') :
    unescape c = c ∧ c ≠ '\n' := by
  rcases hc with rfl | rfl
  · rcases hquote with rfl | rfl <;> decide
  · decide

/-- **A quotation is read as its text.** -/
theorem Quotation.textWritten (hquote : IsQuote quote) (h : Quotation quote cs body) :
    TextWritten quote cs body := by
  induction h with
  | nil => exact .nil
  | guarded hguarded h ih =>
      obtain ⟨hunescape, hline⟩ := unescape_guarded hquote hguarded
      have hwritten := ih.escaped hline
      rwa [hunescape] at hwritten
  | letter hletter h ih =>
      rename_i c letter cs body
      have hforms : ∀ p ∈ letterForms, unescape p.2 = p.1 ∧ p.2 ≠ '\n' := by decide
      obtain ⟨hunescape, hline⟩ := hforms _ hletter
      have hwritten := ih.escaped hline
      rwa [hunescape] at hwritten
  | plain hquote' hbackslash h ih => exact .plain hquote' hbackslash ih

/-! ### The quotation as a formula -/

theorem IsQuote.isBlank_eq_false (h : IsQuote quote) : Text.isBlank quote = false := by
  rcases h with rfl | rfl <;> decide +kernel

/-- A text between quotes is one token. -/
theorem tokenize_enclosed (hquote : IsQuote quote) (h : TextWritten quote cs body) :
    tokenize (enclosed quote body) =
      .ok [⟨.text (String.ofList cs), 0⟩, ⟨.stop, (enclosed quote body).length⟩] := by
  have hscan := scanLexeme_text hquote h []
  have hend : ∀ n pos, tokenizeFrom n pos [] = .ok [⟨.stop, pos⟩] := by rintro (_ | _) _ <;> rfl
  rw [← String.length_toList, tokenize, enclosed, String.toList_ofList, List.length_cons,
    tokenizeFrom_cons hquote.isBlank_eq_false hscan, List.length_nil, Nat.sub_zero, Nat.zero_add,
    hend]
  rfl

/-- There are no blanks around a text between quotes. -/
theorem strip_enclosed (hquote : IsQuote quote) (body : List Char) :
    Text.strip (enclosed quote body) = enclosed quote body := by
  have hchars : (enclosed quote body).toList = quote :: (body ++ [quote]) := String.toList_ofList
  have hstrip : Text.stripChars (quote :: (body ++ [quote])) = quote :: (body ++ [quote]) := by
    refine Text.stripChars_eq_self ?_ ?_
    · simpa using hquote.isBlank_eq_false
    · have hlast : (quote :: (body ++ [quote])).getLast? = some quote := by
        simp [List.getLast?_cons]
      simpa [hlast] using hquote.isBlank_eq_false
  rw [Text.strip, hchars, hstrip]
  rfl

/-- Text between quotes, as a formula, has that text as its value. -/
theorem evaluate_enclosed (hquote : IsQuote quote) (h : TextWritten quote cs body)
    (scope : Scope) :
    evaluate scope (.str (enclosed quote body)) = pure (.str (String.ofList cs)) := by
  have hread : read (enclosed quote body) = .ok (.literal (.str (String.ofList cs))) := by
    rw [read_of_tokenize (tokenize_enclosed hquote h)]
    rfl
  have hempty : (enclosed quote body).isEmpty = false := by
    rw [String.isEmpty_eq_false_iff]
    intro hnil
    have hchars := congrArg String.toList hnil
    rw [enclosed, String.toList_ofList] at hchars
    cases hchars
  simp only [evaluate, evaluateText, strip_enclosed hquote, hempty, hread]
  rfl

/-- **Every quotation of a text has the text as its value**, in every scope, and is a single token.
Every text has a quotation. -/
theorem quotation_roundTrip (hquote : IsQuote quote) (s : String) :
    Quotation quote s.toList (quoted quote s.toList) ∧
    ∀ body, Quotation quote s.toList body →
      tokenize (enclosed quote body) =
        .ok [⟨.text s, 0⟩, ⟨.stop, (enclosed quote body).length⟩] ∧
      ∀ scope, evaluate scope (.str (enclosed quote body)) = pure (.str s) := by
  refine ⟨quotation_quoted quote s.toList, fun body h => ?_⟩
  have htokens := tokenize_enclosed hquote (h.textWritten hquote)
  have hvalue := evaluate_enclosed hquote (h.textWritten hquote)
  rw [String.ofList_toList] at htokens hvalue
  exact ⟨htokens, hvalue⟩

/-- A backslash, a line end, a tab and both quotes: the tab as a letter, the line end as it is. -/
theorem quotation_roundTrip_mixed :
    IsQuote '\'' ∧ Quotation '\'' "\\\n\t'\"".toList "\\\\\n\\t\\'\"".toList ∧
    tokenize "'\\\\\n\\t\\'\"'" = .ok [⟨.text "\\\n\t'\"", 0⟩, ⟨.stop, 10⟩] ∧
    ∀ scope, evaluate scope (.str "'\\\\\n\\t\\'\"'") = pure (.str "\\\n\t'\"") := by
  have hquote : IsQuote '\'' := .inl rfl
  have hquotation : Quotation '\'' "\\\n\t'\"".toList "\\\\\n\\t\\'\"".toList :=
    .guarded (by decide) <| .plain (by decide) (by decide) <| .letter (by decide) <|
      .guarded (by decide) <| .plain (by decide) (by decide) .nil
  obtain ⟨htokens, hvalue⟩ := (quotation_roundTrip hquote _).2 _ hquotation
  exact ⟨hquote, hquotation, htokens, hvalue⟩

end Gamebook.Formula
