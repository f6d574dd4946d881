/-
**What consoles show, and what they refuse.**

A console shows every notice in whose text no mark opens.  What it does with a text in which one
opens is not said.  Consoles that keep account of the styles refuse a closing mark whose style is
not open, so a word with such a mark, echoed in a notice, is refused.

Main definitions:

* `Console.RefusesUnmatched` — a closing mark is refused where its style is not open;
* `Console.strict` — a console that keeps account of the styles that are open.

Main results:

* `opensMark_eq_false` — no mark opens in a text without brackets;
* `Console.strict_refusesUnmatched` — there are consoles that refuse such marks and show the rest.
-/

import Gamebook.Session.Console
import Mathlib.Data.List.Basic

set_option autoImplicit false

namespace Gamebook

/-! ### Texts in which no mark opens -/

/-- No mark opens in a text without brackets. -/
theorem opensMark_eq_false {cs : List Char} (h : '[' ∉ cs) : opensMark cs = false := by
  fun_induction opensMark cs with
  | case1 => rfl
  | case2 cs ih => exact ih (by simp_all)
  | case3 cs ih => simp at h
  | case4 cs => simp at h
  | case5 c cs _ _ _ ih => exact ih (by simp_all)

namespace Console

theorem shows_of_notMem (c : Console) {n : Notice} (h : '[' ∉ n.text.toList) :
    c.shows n.marked = true :=
  c.shows_plain n (opensMark_eq_false h)

/-! ### Marks that do not match -/

/-- A row of letters, as the name of a style is. -/
def IsStyleName (name : List Char) : Prop := name ≠ [] ∧ ∀ c ∈ name, 'a' ≤ c ∧ c ≤ 'z'

/-- **A closing mark is refused where its style is not open**: in the text of a notice only the
style of the notice is open, and a mark that closes another one is refused. -/
def RefusesUnmatched (c : Console) : Prop :=
  ∀ (kind : NoticeKind) (before name after : List Char), '[' ∉ before → '\\' ∉ before →
    IsStyleName name → name ≠ kind.name.toList →
    c.shows (Notice.marked ⟨kind, String.ofList (before ++ '[' :: '/' :: name ++ ']' :: after)⟩) =
      false

/-! ### A strict console -/

/-- The styles that are open behind a mark, if it closes none that is not. -/
def openAfter (opened : List (List Char)) : List Char → Option (List (List Char))
  | ['/'] => opened.tail?
  | '/' :: name => if name ∈ opened then some (opened.erase name) else none
  | name => some (name :: opened)

/-- Whether every closing mark in some characters closes a style that is open.  The arguments before
the characters are the styles that are open and, inside a mark, what has been read of it, in
reverse. -/
def isMatched (opened : List (List Char)) : Option (List Char) → List Char → Bool
  | _, [] => true
  | none, '\\' :: '\\' :: cs => isMatched opened none cs
  | none, '\\' :: '[' :: cs => isMatched opened none cs
  | none, c :: cs => isMatched opened (if c = '[' then some [] else none) cs
  | some mark, c :: cs =>
      if c = ']' then
        match openAfter opened mark.reverse with
        | some opened => isMatched opened none cs
        | none => false
      else isMatched opened (some (if c = '[' then [] else c :: mark)) cs

variable {opened : List (List Char)} {cs : List Char}

/-- Characters that are neither brackets nor backslashes are passed over outside marks. -/
theorem isMatched_append {before : List Char} (h : '[' ∉ before) (h' : '\\' ∉ before) :
    isMatched opened none (before ++ cs) = isMatched opened none cs := by
  induction before with
  | nil => rfl
  | cons c before ih =>
      simp only [List.mem_cons, not_or] at h h'
      rw [List.cons_append, isMatched.eq_4 _ _ _ (by grind) (by grind), if_neg (Ne.symm h.1),
        ih h.2 h'.2]

/-- A mark is read up to its closing bracket. -/
theorem isMatched_mark {name : List Char} (h : '[' ∉ name) (h' : ']' ∉ name) (mark : List Char) :
    isMatched opened (some mark) (name ++ ']' :: cs) =
      match openAfter opened (mark.reverse ++ name) with
      | some opened => isMatched opened none cs
      | none => false := by
  induction name generalizing mark with
  | nil => simp [isMatched]
  | cons c name ih =>
      simp only [List.mem_cons, not_or] at h h'
      rw [List.cons_append, isMatched, if_neg (Ne.symm h'.1), if_neg (Ne.symm h.1),
        ih h.2 h'.2, List.reverse_cons, List.append_assoc, List.singleton_append]

/-- A text in which no mark opens is passed over, and so is a mark that is escaped behind it. -/
theorem isMatched_of_not_opensMark {closing : List Char} (h : opensMark cs = false)
    (hmark : isMatched opened none ('[' :: closing) = true)
    (hplain : isMatched opened none closing = true) :
    isMatched opened none (cs ++ '[' :: closing) = true := by
  fun_induction opensMark cs with
  | case1 => exact hmark
  | case2 cs ih => simpa [isMatched] using ih h
  | case3 cs ih => simpa [isMatched] using ih h
  | case4 cs => cases h
  | case5 c cs hslash hescaped hbracket ih =>
      by_cases hlast : c = '\\' ∧ cs = []
      · -- the backslash at the end escapes the mark behind the text
        obtain ⟨rfl, rfl⟩ := hlast
        simpa [isMatched] using hplain
      · rw [List.cons_append, isMatched.eq_4, if_neg hbracket]
        · exact ih h
        · cases cs <;> simp_all
        · cases cs <;> simp_all

/-- The mark in front of a notice opens the style of the notice. -/
theorem isMatched_marked (n : Notice) : isMatched [] none n.marked.toList =
    isMatched [n.kind.name.toList] none
      (n.text.toList ++ '[' :: '/' :: n.kind.name.toList ++ [']']) := by
  obtain ⟨kind, text⟩ := n
  cases kind <;> simp [Notice.marked, NoticeKind.name, isMatched, openAfter]

/-- A console that keeps account of the styles that are open. -/
def strict : Console where
  shows s := isMatched [] none s.toList
  shows_plain n h := by
    rw [isMatched_marked]
    simp only [List.cons_append, List.append_assoc]
    refine isMatched_of_not_opensMark h ?_ ?_
    · cases n.kind <;> rfl
    · cases n.kind <;> rfl

/-- A mark closes a style that is open, or none. -/
theorem openAfter_slash {name : List Char} (h : name ≠ []) :
    openAfter opened ('/' :: name) = if name ∈ opened then some (opened.erase name) else none := by
  cases name with
  | nil => exact absurd rfl h
  | cons c name => rfl

/-- **There are consoles that refuse what does not match**, and show every text without marks. -/
theorem strict_refusesUnmatched : strict.RefusesUnmatched := by
  intro kind before name after hbracket hslash hname hne
  have hletters : ∀ c, ¬ ('a' ≤ c ∧ c ≤ 'z') → c ∉ '/' :: name ∨ c = '/' := fun c hc =>
    or_iff_not_imp_right.2 fun hc' hmem =>
      (List.mem_cons.1 hmem).elim hc' fun hmem => hc (hname.2 c hmem)
  have hopen : '[' ∉ '/' :: name := (hletters _ (by decide)).resolve_right (by decide)
  have hclose : ']' ∉ '/' :: name := (hletters _ (by decide)).resolve_right (by decide)
  change isMatched [] none _ = false
  rw [isMatched_marked]
  simp only [String.toList_ofList, List.append_assoc, List.cons_append]
  rw [isMatched_append hbracket hslash, isMatched.eq_4 _ '[' _ (by simp) (by simp), if_pos rfl,
    ← List.cons_append, isMatched_mark hopen hclose, List.reverse_nil, List.nil_append,
    openAfter_slash hname.1, if_neg (by simpa using hne)]

end Console

end Gamebook
