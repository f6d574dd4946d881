/-
**Readers of tokens.**

Two things are said about a reader.  It *takes* a value off the tokens: with these tokens it gives
the value and leaves those tokens.  And it *yields* values with a property in front of the end of
the formula: it gives such a value or refuses the formula, and which of the two does not depend on
what lies behind the end token, which it neither passes nor looks behind.  Both are closed under
the steps a reader is made of.

Main definitions:

* `Formula.Spells` — the lexemes of the tokens up to some place;
* `Formula.Takes` — a reader takes a value off the front of the tokens;
* `Formula.Yields` — a reader gives values with a property, or refuses, within the formula.

Main results:

* `Formula.Takes.bind`, `Formula.takes_acceptFor`, `Formula.takes_accept`, `Formula.takes_expect`;
* `Formula.Yields.bind`, `Formula.Yields.next_bind`, `Formula.yields_acceptFor`,
  `Formula.yields_accept`, `Formula.yields_expect`.
-/

import Gamebook.Formula.Parser

set_option autoImplicit false

namespace Gamebook.Formula

variable {α β : Type} {ts mid rest : List Token} {xs ys : List Lexeme}

/-! ### What tokens spell -/

/-- The tokens start with these lexemes, and the others are behind them. -/
def Spells (ts : List Token) (xs : List Lexeme) (rest : List Token) : Prop :=
  ∃ used : List Token, used.map Token.lexeme = xs ∧ ts = used ++ rest

theorem Spells.refl (ts : List Token) : Spells ts [] ts := ⟨[], rfl, rfl⟩

theorem Spells.single (x : Lexeme) (pos : Nat) (ts : List Token) :
    Spells (⟨x, pos⟩ :: ts) [x] ts := ⟨[⟨x, pos⟩], rfl, rfl⟩

theorem Spells.append (h : Spells ts xs mid) (h' : Spells mid ys rest) :
    Spells ts (xs ++ ys) rest := by
  obtain ⟨used, rfl, rfl⟩ := h
  obtain ⟨used', rfl, rfl⟩ := h'
  exact ⟨used ++ used', List.map_append, (List.append_assoc ..).symm⟩

theorem Spells.cons {x : Lexeme} (h : Spells ts [x] mid) (h' : Spells mid xs rest) :
    Spells ts (x :: xs) rest := h.append h'

theorem Spells.eq (h : Spells ts [] rest) : ts = rest := by
  obtain ⟨used, hused, rfl⟩ := h
  rw [List.map_eq_nil_iff.1 hused, List.nil_append]

theorem Spells.exists_cons {x : Lexeme} (h : Spells ts (x :: xs) rest) :
    ∃ pos mid, ts = ⟨x, pos⟩ :: mid ∧ Spells mid xs rest := by
  obtain ⟨used, hused, rfl⟩ := h
  obtain ⟨⟨y, pos⟩, used, rfl, rfl, rfl⟩ := List.map_eq_cons_iff.1 hused
  exact ⟨pos, used ++ rest, rfl, used, rfl, rfl⟩

theorem Spells.exists_append (h : Spells ts (xs ++ ys) rest) :
    ∃ mid, Spells ts xs mid ∧ Spells mid ys rest := by
  obtain ⟨used, hused, rfl⟩ := h
  obtain ⟨used₁, used₂, rfl, rfl, rfl⟩ := List.map_eq_append_iff.1 hused
  exact ⟨used₂ ++ rest, ⟨used₁, rfl, List.append_assoc ..⟩, used₂, rfl, rfl⟩

theorem Spells.map_lexeme (h : Spells ts xs rest) :
    ts.map Token.lexeme = xs ++ rest.map Token.lexeme := by
  obtain ⟨used, rfl, rfl⟩ := h
  exact List.map_append

theorem Spells.length_eq (h : Spells ts xs rest) : ts.length = xs.length + rest.length := by
  obtain ⟨used, rfl, rfl⟩ := h
  rw [List.length_append, List.length_map]

/-! ### Taking a value off the front -/

/-- The reader takes the value off the front of the tokens. -/
def Takes (m : Reader α) (ts : List Token) (a : α) (rest : List Token) : Prop :=
  m ts = .ok (a, rest)

theorem Takes.pure (a : α) (ts : List Token) : Takes (pure a) ts a ts := rfl

theorem Takes.bind {m : Reader α} {f : α → Reader β} {a : α} {b : β} (hm : Takes m ts a mid)
    (hf : Takes (f a) mid b rest) : Takes (m >>= f) ts b rest := by
  change (m ts >>= fun p => f p.1 p.2) = _
  rw [show m ts = _ from hm]
  exact hf

theorem Takes.map {m : Reader α} {a : α} (f : α → β) (h : Takes m ts a rest) :
    Takes (f <$> m) ts (f a) rest := by
  change (m ts >>= fun p => .ok (f p.1, p.2)) = _
  rw [show m ts = _ from h]
  rfl

theorem Takes.exists_of_map {m : Reader α} {f : α → β} {b : β} (h : Takes (f <$> m) ts b rest) :
    ∃ a, f a = b ∧ Takes m ts a rest := by
  change (m ts >>= fun p => .ok (f p.1, p.2)) = _ at h
  cases hm : m ts with
  | error e =>
      rw [hm] at h
      cases h
  | ok p =>
      rw [hm] at h
      cases h
      exact ⟨p.1, rfl, hm⟩

theorem takes_peek (t : Token) (ts : List Token) : Takes peek (t :: ts) t (t :: ts) := rfl

theorem takes_next (t : Token) (ts : List Token) : Takes next (t :: ts) t ts := rfl

theorem takes_acceptFor {choose : Symbol → Option α} {s : Symbol} {a : α}
    (h : choose s = some a) (pos : Nat) (ts : List Token) :
    Takes (acceptFor choose) (⟨.symbol s, pos⟩ :: ts) (some a) ts := by
  refine (takes_peek _ _).bind ?_
  simp only [h]
  exact (takes_next _ _).bind (.pure _ _)

/-- Nothing is accepted where no chosen symbol is at the front. -/
theorem takes_acceptFor_none {choose : Symbol → Option α} {t : Token}
    (h : ∀ s, t.lexeme = .symbol s → choose s = none) (ts : List Token) :
    Takes (acceptFor choose) (t :: ts) none (t :: ts) := by
  refine (takes_peek _ _).bind ?_
  cases ht : t.lexeme with
  | symbol s =>
      simp only [h s ht]
      exact .pure _ _
  | _ => exact .pure _ _

theorem takes_accept (s : Symbol) (pos : Nat) (ts : List Token) :
    Takes (accept s) (⟨.symbol s, pos⟩ :: ts) true ts :=
  (takes_acceptFor (if_pos rfl) pos ts).bind (.pure _ _)

theorem takes_accept_false {s : Symbol} {t : Token} (h : t.lexeme ≠ .symbol s)
    (ts : List Token) : Takes (accept s) (t :: ts) false (t :: ts) := by
  refine (takes_acceptFor_none (fun found ht => if_neg ?_) ts).bind (.pure _ _)
  rintro rfl
  exact h ht

theorem takes_expect (s : Symbol) (pos : Nat) (ts : List Token) :
    Takes (expect s) (⟨.symbol s, pos⟩ :: ts) () ts :=
  (takes_accept s pos ts).bind (.pure _ _)

/-! ### Values within the formula -/

/-- An outcome within the formula, with the end token and what lies behind it put back. -/
def onward (tail : List Token) :
    Except FormulaError (α × List Token) → Except Fault (α × List Token)
  | .ok (a, rest) => .ok (a, rest ++ tail)
  | .error e => .error (.formula e)

/-- In front of the end of the formula the reader gives a value with the property, or refuses the
formula, whatever lies behind the end. -/
def Yields (stop : Token) (m : Reader α) (ts : List Token) (P : α → List Token → Prop) : Prop :=
  ∃ out : Except FormulaError (α × List Token),
    (∀ behind, m (ts ++ stop :: behind) = onward (stop :: behind) out) ∧
    ∀ a rest, out = .ok (a, rest) → P a rest

section

variable {stop : Token} {P P' : α → List Token → Prop} {Q : β → List Token → Prop}

theorem Yields.pure {a : α} (h : P a ts) : Yields stop (pure a) ts P := by
  refine ⟨.ok (a, ts), fun behind => rfl, fun b rest hb => ?_⟩
  cases hb
  exact h

theorem Yields.refuse (e : FormulaError) : Yields stop (refuse e : Reader α) ts P :=
  ⟨.error e, fun _ => rfl, fun _ _ h => by cases h⟩

theorem Yields.mono {m : Reader α} (h : Yields stop m ts P)
    (hP : ∀ a rest, P a rest → P' a rest) : Yields stop m ts P' := by
  obtain ⟨out, hout, hval⟩ := h
  exact ⟨out, hout, fun a rest ha => hP a rest (hval a rest ha)⟩

theorem Yields.bind {m : Reader α} {f : α → Reader β} (hm : Yields stop m ts P)
    (hf : ∀ a rest, P a rest → Yields stop (f a) rest Q) : Yields stop (m >>= f) ts Q := by
  obtain ⟨out, hout, hval⟩ := hm
  cases out with
  | error e =>
      refine ⟨.error e, fun behind => ?_, fun _ _ h => by cases h⟩
      change (m (ts ++ stop :: behind) >>= fun p => f p.1 p.2) = _
      rw [hout]
      rfl
  | ok p =>
      obtain ⟨a, rest⟩ := p
      obtain ⟨out', hout', hval'⟩ := hf a rest (hval a rest rfl)
      refine ⟨out', fun behind => ?_, hval'⟩
      change (m (ts ++ stop :: behind) >>= fun p => f p.1 p.2) = _
      rw [hout]
      exact hout' behind

/-- The token at the front may be the end token. -/
theorem Yields.peek_bind {f : Token → Reader β} (hstop : ts = [] → Yields stop (f stop) [] Q)
    (ht : ∀ t us, ts = t :: us → Yields stop (f t) ts Q) : Yields stop (peek >>= f) ts Q := by
  cases ts with
  | nil => exact hstop rfl
  | cons t us => exact ht t us rfl

/-- A reader that takes a token refuses the formula when this is the end token. -/
theorem Yields.next_bind {f : Token → Reader β} {e : FormulaError}
    (hstop : f stop = Formula.refuse e)
    (ht : ∀ t us, ts = t :: us → Yields stop (f t) us Q) : Yields stop (next >>= f) ts Q := by
  cases ts with
  | nil =>
      refine ⟨.error e, fun behind => ?_, fun _ _ h => by cases h⟩
      change f stop behind = _
      rw [hstop]
      rfl
  | cons t us => exact ht t us rfl

theorem Yields.refuseFront : Yields stop (refuseFront : Reader α) ts P :=
  .peek_bind (fun _ => .refuse _) fun _ _ _ => .refuse _

variable (hend : stop.lexeme = .stop)

include hend

/-- What is accepted is at the front. -/
theorem yields_acceptFor (choose : Symbol → Option α) :
    Yields stop (acceptFor choose) ts fun found rest =>
      match found with
      | some a => ∃ s, choose s = some a ∧ Spells ts [.symbol s] rest
      | none => rest = ts := by
  refine .peek_bind (fun hts => ?_) fun t us hts => ?_
  · subst hts
    simp only [hend]
    exact .pure rfl
  · subst hts
    obtain ⟨x, pos⟩ := t
    cases x with
    | symbol s =>
        cases hs : choose s with
        | none =>
            simp only [hs]
            exact .pure rfl
        | some a =>
            simp only [hs]
            exact Yields.bind (P := fun _ rest => rest = us)
              ⟨.ok (_, us), fun _ => rfl, fun _ _ h => by cases h; rfl⟩
              fun _ rest hrest => .pure ⟨s, hs, hrest ▸ .single _ _ _⟩
    | _ => exact .pure rfl

theorem yields_accept (s : Symbol) :
    Yields stop (accept s) ts fun found rest =>
      Spells ts (if found then [.symbol s] else []) rest := by
  refine (yields_acceptFor hend _).bind fun found rest h => .pure ?_
  cases found with
  | none => exact h ▸ .refl _
  | some u =>
      obtain ⟨s', hs', hspells⟩ := h
      by_cases hs : s' = s
      · exact hs ▸ hspells
      · rw [if_neg hs] at hs'
        cases hs'

theorem yields_expect (s : Symbol) :
    Yields stop (expect s) ts fun _ rest => Spells ts [.symbol s] rest := by
  refine (yields_accept hend s).bind fun found rest h => ?_
  cases found with
  | true => exact .pure h
  | false => exact .peek_bind (fun _ => .refuse _) fun _ _ _ => .refuse _

end

end Gamebook.Formula
