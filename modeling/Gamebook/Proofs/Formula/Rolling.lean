/-
**The formula that rolls dice.**

Dice notation stands between quotes in a call of `roll`.  The characters of dice need no escape, so
the formula is read as a call with the notation itself as its only argument, and as the dice of a
check it is no notation: it starts with a letter.  Dice notation without the call is no formula: the
number of dice and the letter behind it are two tokens that no operator joins.

Main definition: `Formula.rollCall` — the formula.

Main results:

* `Formula.read_dice` — **dice notation is no formula**;
* `Formula.read_rollCall` — **how the formula is read**;
* `Formula.outcome_rollCall` — its value is that of the function;
* `Dice.read_rollCall` — it is no dice notation.
-/

import Gamebook.Proofs.Dice.Notation
import Gamebook.Proofs.Formula.Agreement

set_option autoImplicit false

namespace Gamebook

namespace Formula

/-! ### Tokens -/

/-- A lexeme at the front becomes a token, and what is behind it is split next. -/
theorem tokenizeFrom_cons {n pos : Nat} {c : Char} {cs rest : List Char} {l : Lexeme}
    (hc : Text.isBlank c = false) (h : scanLexeme (c :: cs) = some (l, rest)) :
    tokenizeFrom (n + 1) pos (c :: cs) =
      (tokenizeFrom n (pos + ((c :: cs).length - rest.length)) rest).map (⟨l, pos⟩ :: ·) := by
  simp only [tokenizeFrom, hc, h]
  cases tokenizeFrom n (pos + ((c :: cs).length - rest.length)) rest <;> rfl

/-- A text without quotes and backslashes is scanned as it is. -/
theorem scanText_plain {quote : Char} {cs : List Char} (hquote : quote ≠ '\\')
    (h : ∀ c ∈ cs, c ≠ quote ∧ c ≠ '\\') (rest : List Char) :
    scanText quote (cs ++ quote :: rest) = some (cs, rest) := by
  induction cs with
  | nil => simp [scanText, hquote]
  | cons c cs ih =>
      obtain ⟨⟨hc, hc'⟩, hcs⟩ := List.forall_mem_cons.1 h
      simp [scanText, hc, hc', ih hcs]

/-! ### Dice notation as a formula -/

/-- Blanks at the front are skipped. -/
theorem tokenizeFrom_dropWhile {n : Nat} {cs : List Char} (h : cs.length ≤ n) (pos : Nat) :
    ∃ n' pos', (cs.dropWhile Text.isBlank).length ≤ n' ∧
      tokenizeFrom n pos cs = tokenizeFrom n' pos' (cs.dropWhile Text.isBlank) := by
  induction cs generalizing n pos with
  | nil => exact ⟨n, pos, h, rfl⟩
  | cons c cs ih =>
      cases hc : Text.isBlank c with
      | false =>
          refine ⟨n, pos, ?_, ?_⟩ <;> rw [List.dropWhile_cons_of_neg (by simp [hc])]
          exact h
      | true =>
          obtain ⟨m, rfl⟩ : ∃ m, n = m + 1 := ⟨n - 1, by simp at h; omega⟩
          rw [List.dropWhile_cons_of_pos hc]
          obtain ⟨n', pos', hn', hskip⟩ := ih (Nat.le_of_succ_le_succ h) (pos + 1)
          exact ⟨n', pos', hn', by rw [← hskip, tokenizeFrom, if_pos hc]⟩

/-- Digits are a number, up to what neither is a digit nor goes on with the number. -/
theorem scanLexeme_digits {cs rest : List Char} {ds : List Char}
    (h : Dice.takeDigits cs = some (ds, rest))
    (hrest : ∀ c ∈ rest.head?, c ≠ '.' ∧ c ≠ 'e' ∧ c ≠ 'E') :
    ∃ n, scanLexeme cs = some (.number n, rest) := by
  unfold Dice.takeDigits at h
  dsimp only at h
  split at h
  · cases h
  · rename_i hne
    cases h
    have hfraction : Numeral.takeFraction (cs.dropWhile Text.isDigit) =
        ([], cs.dropWhile Text.isDigit) := by
      unfold Numeral.takeFraction
      split
      · rename_i heq
        exact absurd rfl (hrest '.' (by rw [heq]; rfl)).1
      · rfl
    have hexponent : Numeral.takeExponent (cs.dropWhile Text.isDigit) =
        (0, cs.dropWhile Text.isDigit) := by
      unfold Numeral.takeExponent
      split
      · rename_i c rest heq
        obtain ⟨-, he, hE⟩ := hrest c (by rw [heq]; rfl)
        rw [if_neg (by simp [he, hE])]
      · rfl
    have htake : Numeral.take cs =
        some (⟨cs.takeWhile Text.isDigit, [], 0⟩, cs.dropWhile Text.isDigit) := by
      simp only [Numeral.take, hfraction, hexponent, hne, Bool.false_and]
      rfl
    exact ⟨_, by unfold scanLexeme; rw [htake]⟩

/-- The letter between the dice and their sides starts a name. -/
theorem scanLexeme_letter {cs rest : List Char} (h : Dice.takeLetter cs = some rest) :
    ∃ c cs' name rest', cs = c :: cs' ∧ Text.isBlank c = false ∧
      scanLexeme cs = some (.name name, rest') := by
  unfold Dice.takeLetter at h
  split at h
  · rename_i c cs'
    split at h
    · rename_i hletter
      refine ⟨c, cs', String.ofList ((c :: cs').takeWhile isNamePart),
        (c :: cs').dropWhile isNamePart, rfl, ?_, ?_⟩
      · rcases hletter with rfl | rfl <;> decide +kernel
      · have hdigit : Text.isDigit c = false := by
          rcases hletter with rfl | rfl <;> decide +kernel
        have htake : Numeral.take (c :: cs') = none := by
          rcases hletter with rfl | rfl <;> simp [Numeral.take, Numeral.takeFraction, hdigit]
        unfold scanLexeme
        rw [htake]
        rcases hletter with rfl | rfl <;> rfl
    · cases h
  · cases h

/-- A number with a name behind it is no formula. -/
theorem parse_number_name (x : Number) (name : String) (p q : Nat) (ts : List Token) :
    parse (⟨.number x, p⟩ :: ⟨.name name, q⟩ :: ts) =
      .error (.formula (.unexpected (.name name) q)) := rfl

/-- What follows the number of dice: blanks, or the letter. -/
theorem head_of_takeLetter {cs rest : List Char}
    (h : Dice.takeLetter (cs.dropWhile Text.isBlank) = some rest) :
    ∀ c ∈ cs.head?, c ≠ '.' ∧ c ≠ 'e' ∧ c ≠ 'E' := by
  cases cs with
  | nil => nofun
  | cons c cs =>
      have hc : Text.isBlank c = true ∨ c = 'd' ∨ c = 'D' := by
        cases hblank : Text.isBlank c with
        | true => exact .inl rfl
        | false =>
            rw [List.dropWhile_cons_of_neg (by simp [hblank]), Dice.takeLetter] at h
            split at h
            · exact .inr ‹_›
            · cases h
      simp only [List.head?_cons, Option.mem_some_iff, forall_eq']
      refine ⟨?_, ?_, ?_⟩ <;> rintro rfl <;> revert hc <;> decide +kernel

/-- **Dice notation is no formula**: the letter is taken for a name, and a number stands in front of
it. -/
theorem read_dice {s : String} {t : DiceText} (h : DiceText.split s.toList = some t) :
    ∃ e, read s = .error (.formula e) := by
  obtain ⟨⟨count, rest⟩, hcount, h⟩ := Option.bind_eq_some_iff.1 h
  obtain ⟨rest', hletter, -⟩ := Option.bind_eq_some_iff.1 h
  obtain ⟨x, hnumber⟩ := scanLexeme_digits hcount (head_of_takeLetter hletter)
  obtain ⟨c, cs, name, rest₂, hrest, hc, hname⟩ := scanLexeme_letter hletter
  obtain ⟨hs, hdigits⟩ := Dice.takeDigits_eq_some hcount
  obtain ⟨c₀, ds, rfl⟩ := List.exists_cons_of_ne_nil (Dice.takeDigits_ne_nil hcount)
  have hc₀ : Text.isBlank c₀ = false :=
    Text.isBlank_eq_false_of_isDigit (hdigits c₀ (List.mem_cons_self ..))
  rw [hs, List.cons_append] at hnumber
  -- the number, the blanks behind it, and the name
  have hlength : rest.length ≤ (ds ++ rest).length := by simp
  obtain ⟨n, pos, hn, hskip⟩ :=
    tokenizeFrom_dropWhile hlength (0 + ((c₀ :: (ds ++ rest)).length - rest.length))
  rw [hrest] at hn hskip
  rw [hrest] at hname
  obtain ⟨m, rfl⟩ : ∃ m, n = m + 1 := ⟨n - 1, by simp at hn; omega⟩
  rw [tokenizeFrom_cons hc hname] at hskip
  generalize tokenizeFrom m (pos + ((c :: cs).length - rest₂.length)) rest₂ = behind at hskip
  have htokens : tokenize s =
      (behind.map (⟨.name name, pos⟩ :: ·)).map (⟨.number x, 0⟩ :: ·) := by
    unfold tokenize
    rw [hs, List.cons_append, List.length_cons, tokenizeFrom_cons hc₀ hnumber, hskip]
  cases behind with
  | error e =>
      exact ⟨e, by rw [read, htokens]; rfl⟩
  | ok ts =>
      exact ⟨_, (read_of_tokenize htokens).trans (parse_number_name x name 0 pos ts)⟩

/-- Dice notation fails as a formula, and leaves chance as it is. -/
theorem outcome_dice {limit : DigitLimit} {text : String} {d : Dice}
    (h : Dice.read limit text = .ok (some d)) (scope : Scope) (c : Chance) :
    ∃ e, outcome (evaluate scope (.str text)) c = (.error (.formula e), c) := by
  obtain ⟨t, ht⟩ := Dice.exists_split_of_read h
  have hstrip : (Text.strip text).toList = Text.stripChars text.toList := by simp [Text.strip]
  obtain ⟨e, he⟩ := read_dice (s := Text.strip text) (hstrip ▸ ht)
  have hempty : (Text.strip text).isEmpty = false := by
    rw [String.isEmpty_eq_false_iff]
    intro hempty
    rw [← hstrip, hempty] at ht
    cases ht
  refine ⟨e, ?_⟩
  simp only [evaluate, evaluateText, hempty, he]
  rfl

/-! ### The call -/

/-- The formula that rolls the dice of a text. -/
def rollCall (text : String) : String := "roll('" ++ text ++ "')"

variable {text : String}

theorem toList_rollCall (text : String) :
    (rollCall text).toList =
      'r' :: 'o' :: 'l' :: 'l' :: '(' :: '\'' :: (text.toList ++ '\'' :: [')']) := by
  simp [rollCall]

/-- There are no blanks around the formula. -/
theorem stripChars_rollCall (text : String) :
    Text.stripChars (rollCall text).toList = (rollCall text).toList := by
  refine Text.stripChars_eq_self ?_ ?_ <;> rw [toList_rollCall]
  · simp only [List.head?_cons, Option.mem_some_iff, forall_eq']
    decide +kernel
  · have hlast : ('r' :: 'o' :: 'l' :: 'l' :: '(' :: '\'' ::
        (text.toList ++ '\'' :: [')'])).getLast? = some ')' := by
      simp [List.getLast?_cons]
    rw [hlast]
    simp only [Option.mem_some_iff, forall_eq']
    decide +kernel

theorem isEmpty_rollCall (text : String) : (rollCall text).isEmpty = false := by
  rw [String.isEmpty_eq_false_iff]
  intro h
  have hlist := toList_rollCall text
  rw [h] at hlist
  cases hlist

theorem strip_rollCall (text : String) : Text.strip (rollCall text) = rollCall text := by
  rw [Text.strip, stripChars_rollCall, String.ofList_toList]

theorem tokenize_rollCall (h : ∀ c ∈ text.toList, c ≠ '\'' ∧ c ≠ '\\') :
    ∃ p₁ p₂ p₃ p₄ p₅, tokenize (rollCall text) = .ok
      [⟨.name "roll", p₁⟩, ⟨.symbol .openParen, p₂⟩, ⟨.text text, p₃⟩, ⟨.symbol .closeParen, p₄⟩,
        ⟨.stop, p₅⟩] := by
  have hname : ∀ cs, scanLexeme ('r' :: 'o' :: 'l' :: 'l' :: '(' :: cs) =
      some (.name "roll", '(' :: cs) := fun _ => rfl
  have hopen : ∀ cs, scanLexeme ('(' :: '\'' :: cs) = some (.symbol .openParen, '\'' :: cs) :=
    fun _ => rfl
  have htext : scanLexeme ('\'' :: (text.toList ++ '\'' :: [')'])) = some (.text text, [')']) := by
    have hscan : scanLexeme ('\'' :: (text.toList ++ '\'' :: [')'])) =
        (scanText '\'' (text.toList ++ '\'' :: [')'])).map
          fun r => (.text (String.ofList r.1), r.2) := rfl
    rw [hscan, scanText_plain (by decide) h]
    simp
  have hclose : scanLexeme [')'] = some (.symbol .closeParen, []) := rfl
  have hlength : (rollCall text).toList.length = text.toList.length + 4 + 1 + 1 + 1 + 1 := by
    simp [toList_rollCall]
  unfold tokenize
  rw [hlength, toList_rollCall, tokenizeFrom_cons (by decide +kernel) (hname _),
    tokenizeFrom_cons (by decide +kernel) (hopen _),
    tokenizeFrom_cons (by decide +kernel) htext, tokenizeFrom_cons (by decide +kernel) hclose]
  exact ⟨_, _, _, _, _, rfl⟩

/-- **How the formula is read**: as a call with the text as its argument. -/
theorem read_rollCall (h : ∀ c ∈ text.toList, c ≠ '\'' ∧ c ≠ '\\') :
    read (rollCall text) = .ok (.call "roll" [.literal (.str text)]) := by
  obtain ⟨p₁, p₂, p₃, p₄, p₅, htokens⟩ := tokenize_rollCall h
  rw [read_of_tokenize htokens]
  rfl

/-- The value of the formula is that of the function. -/
theorem outcome_rollCall (h : ∀ c ∈ text.toList, c ≠ '\'' ∧ c ≠ '\\') {scope : Scope} {f : Builtin}
    (hf : scope.builtins "roll" = some f) {c c' : Chance} {v : Value}
    (hrun : outcome (f [.str text]) c = (.ok v, c')) :
    outcome (evaluate scope (.str (rollCall text))) c = (.ok v, c') := by
  have hcall : outcome (Expr.eval scope (.call "roll" [.literal (.str text)])) c = (.ok v, c') := by
    change outcome (scope.call "roll" [.str text]) c = _
    unfold Scope.call
    rw [hf]
    exact (outcome_tryCatch _ _ _).trans (by rw [hrun])
  have hread : evaluate scope (.str (rollCall text)) =
      tryCatch (Expr.eval scope (.call "roll" [.literal (.str text)]))
        fun fault => throw (settle fault) := by
    simp only [evaluate, evaluateText, strip_rollCall, isEmpty_rollCall, read_rollCall h]
    rfl
  rw [hread]
  exact (outcome_tryCatch _ _ _).trans (by rw [hcall])

end Formula

namespace Dice

/-- The formula is no dice notation. -/
theorem read_rollCall (limit : DigitLimit) (text : String) :
    read limit (Formula.rollCall text) = .ok none := by
  unfold read
  rw [Formula.stripChars_rollCall, Formula.toList_rollCall]
  rfl

/-- The characters of dice need no escape. -/
theorem plain_of_read {limit : DigitLimit} {text : String} {d : Dice}
    (h : read limit text = .ok (some d)) : ∀ c ∈ text.toList, c ≠ '\'' ∧ c ≠ '\\' := by
  intro c hc
  have hnotation := isNotation_of_read h c hc
  constructor <;> rintro rfl <;> revert hnotation <;> decide +kernel

end Dice

end Gamebook
