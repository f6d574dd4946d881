/-
**The grammar of formulas.**

The rules at the head of `Gamebook.Formula.Parser` say which lists of lexemes are formulas.  Here
they are a type of derivation trees: one constructor per alternative of a rule, a repetition being
the empty one or an element in front of a repetition.  Arguments stand directly behind a name that
no value has taken, and nowhere else.  A derivation has the lexemes it derives and the tree of the
formula it stands for; the operands of a level are joined from the left.

Main definitions:

* `Formula.Phrase`, `Formula.Nonterminal` — the left sides of the rules;
* `Formula.Derivation` — the derivations of a nonterminal;
* `Formula.Derivation.lexemes`, `Formula.Derivation.formula` — what is derived, and its tree;
* `Formula.Stops` — lexemes that no phrase of a rank goes on with;
* `Formula.Derivation.IsDetermined` — a derivation that no other one can be taken for.

Main results:

* `Formula.Derivation.exists_opening` — what a phrase can start with;
* `Formula.Derivation.isDetermined` — **a phrase ends in one place only**, and has one
  derivation: the grammar is unambiguous.
-/

import Gamebook.Formula.Parser

set_option autoImplicit false

namespace Gamebook.Formula

/-! ### Nonterminals -/

/-- The parts of a formula that are formulas of their own. -/
inductive Phrase where
  | conditional
  | level (l : Level)
  | unary
  | postfixed
  | primary

/-- What a level joins. -/
def Level.operand : Level → Phrase
  | .or => .level .and
  | .and => .level .equality
  | .equality => .level .relational
  | .relational => .level .additive
  | .additive => .level .multiplicative
  | .multiplicative => .unary

/-- The left sides of the rules: the phrases, the operands behind the first one, the members behind
a primary, and arguments, of which there may have to be one. -/
inductive Nonterminal where
  | phrase (p : Phrase)
  | operands (l : Level)
  | members
  | arguments
  | someArguments

/-- What a derivation stands for.  Operands and members stand for what they make of the tree in
front of them. -/
abbrev Nonterminal.Meaning : Nonterminal → Type
  | phrase _ => Expr
  | operands _ => Expr → Expr
  | members => Expr → Expr
  | arguments => List Expr
  | someArguments => List Expr

/-- The names that stand for a value and cannot be called. -/
def reserved : List String := ["true", "false", "null", "undefined"]

theorem keyword?_eq_none_iff {n : String} : keyword? n = none ↔ n ∉ reserved := by
  simp only [keyword?, reserved, List.mem_cons, List.not_mem_nil, or_false]
  by_cases htrue : n = "true"
  · simp [htrue]
  by_cases hfalse : n = "false"
  · simp [hfalse]
  simp [htrue, hfalse]

/-- The tree of a name: the value it stands for, or the name itself. -/
def named (n : String) : Expr :=
  match keyword? n with
  | some v => .literal v
  | none => .name n

/-! ### Derivations -/

/-- The derivations of a nonterminal. -/
inductive Derivation : Nonterminal → Type where
  | plain (d : Derivation (.phrase (.level .or))) : Derivation (.phrase .conditional)
  | choice (test : Derivation (.phrase (.level .or)))
      (yes no : Derivation (.phrase .conditional)) : Derivation (.phrase .conditional)
  | chain {l : Level} (first : Derivation (.phrase l.operand)) (more : Derivation (.operands l)) :
      Derivation (.phrase (.level l))
  | noOperand {l : Level} : Derivation (.operands l)
  | operand {l : Level} (s : Symbol) (join : Expr → Expr → Expr) (own : l.join s = some join)
      (right : Derivation (.phrase l.operand)) (more : Derivation (.operands l)) :
      Derivation (.operands l)
  | signed (s : Symbol) (op : UnaryOp) (own : unaryOp? s = some op)
      (d : Derivation (.phrase .unary)) : Derivation (.phrase .unary)
  | unsigned (d : Derivation (.phrase .postfixed)) : Derivation (.phrase .unary)
  | postfixed (d : Derivation (.phrase .primary)) (more : Derivation .members) :
      Derivation (.phrase .postfixed)
  | call (f : String) (free : f ∉ reserved) (args : Derivation .arguments)
      (more : Derivation .members) : Derivation (.phrase .postfixed)
  | noMember : Derivation .members
  | property (k : String) (more : Derivation .members) : Derivation .members
  | index (k : Derivation (.phrase .conditional)) (more : Derivation .members) :
      Derivation .members
  | number (n : Number) : Derivation (.phrase .primary)
  | text (s : String) : Derivation (.phrase .primary)
  | name (n : String) : Derivation (.phrase .primary)
  | parens (d : Derivation (.phrase .conditional)) : Derivation (.phrase .primary)
  | noArgument : Derivation .arguments
  | arguments (d : Derivation .someArguments) : Derivation .arguments
  | lastArgument (d : Derivation (.phrase .conditional)) : Derivation .someArguments
  | argument (d : Derivation (.phrase .conditional)) (more : Derivation .someArguments) :
      Derivation .someArguments

namespace Derivation

/-- **What is derived.** -/
def lexemes : {n : Nonterminal} → Derivation n → List Lexeme
  | _, plain d => d.lexemes
  | _, choice test yes no =>
      test.lexemes ++ .symbol .question :: (yes.lexemes ++ .symbol .colon :: no.lexemes)
  | _, chain first more => first.lexemes ++ more.lexemes
  | _, noOperand => []
  | _, operand s _ _ right more => .symbol s :: (right.lexemes ++ more.lexemes)
  | _, signed s _ _ d => .symbol s :: d.lexemes
  | _, unsigned d => d.lexemes
  | _, postfixed d more => d.lexemes ++ more.lexemes
  | _, call f _ args more =>
      .name f :: .symbol .openParen :: (args.lexemes ++ .symbol .closeParen :: more.lexemes)
  | _, noMember => []
  | _, property k more => .symbol .dot :: .name k :: more.lexemes
  | _, index k more =>
      .symbol .openBracket :: (k.lexemes ++ .symbol .closeBracket :: more.lexemes)
  | _, number n => [.number n]
  | _, text s => [.text s]
  | _, name n => [.name n]
  | _, parens d => .symbol .openParen :: (d.lexemes ++ [.symbol .closeParen])
  | _, noArgument => []
  | _, arguments d => d.lexemes
  | _, lastArgument d => d.lexemes
  | _, argument d more => d.lexemes ++ .symbol .comma :: more.lexemes

/-- **The tree a derivation stands for.** -/
def formula : {n : Nonterminal} → Derivation n → n.Meaning
  | _, plain d => d.formula
  | _, choice test yes no => .conditional test.formula yes.formula no.formula
  | _, chain first more => more.formula first.formula
  | _, noOperand => fun left => left
  | _, operand _ join _ right more => fun left => more.formula (join left right.formula)
  | _, signed _ op _ d => .unary op d.formula
  | _, unsigned d => d.formula
  | _, postfixed d more => more.formula d.formula
  | _, call f _ args more => more.formula (.call f args.formula)
  | _, noMember => fun e => e
  | _, property k more => fun e => more.formula (.member e (.literal (.str k)))
  | _, index k more => fun e => more.formula (.member e k.formula)
  | _, number n => .literal (.num n)
  | _, text s => .literal (.str s)
  | _, name n => named n
  | _, parens d => d.formula
  | _, noArgument => []
  | _, arguments d => d.formula
  | _, lastArgument d => [d.formula]
  | _, argument d more => d.formula :: more.formula

end Derivation

/-! ### What a phrase goes on with -/

/-- The ranks of the levels, the loosest first. -/
def Level.rank : Level → Nat
  | .or => 2
  | .and => 3
  | .equality => 4
  | .relational => 5
  | .additive => 6
  | .multiplicative => 7

/-- The ranks of the phrases, the loosest first. -/
def Phrase.rank : Phrase → Nat
  | conditional => 1
  | level l => l.rank
  | unary => 8
  | postfixed => 9
  | primary => 10

/-- The highest rank of a phrase that goes on with the symbol, or zero. -/
def Symbol.reach : Symbol → Nat
  | question => 1
  | or | orNull => 2
  | and => 3
  | equal | notEqual | same | notSame => 4
  | less | atMost | more | atLeast => 5
  | plus | minus => 6
  | star | slash | percent => 7
  | dot | openBracket | openParen => 9
  | bang | colon | comma | closeParen | closeBracket => 0

/-- The highest rank of a phrase that goes on with the lexeme, or zero. -/
def Lexeme.reach : Lexeme → Nat
  | symbol s => s.reach
  | _ => 0

/-- There is a lexeme in front, and phrases of the rank do not go on with it. -/
def Stops (r : Nat) : List Lexeme → Prop
  | [] => False
  | x :: _ => x.reach < r

theorem Stops.mono {r r' : Nat} {xs : List Lexeme} (h : Stops r xs) (hr : r ≤ r') :
    Stops r' xs := by
  cases xs with
  | nil => exact h
  | cons x xs => exact Nat.lt_of_lt_of_le h hr

/-- What phrases go on with is not what they stop in front of. -/
theorem Stops.ne_cons {r : Nat} {x : Lexeme} {xs : List Lexeme} (h : Stops r xs)
    (hx : ¬ x.reach < r) (ys : List Lexeme) : xs ≠ x :: ys := by
  rintro rfl
  exact hx h

theorem Level.rank_operand (l : Level) : l.operand.rank = l.rank + 1 := by
  cases l <;> rfl

/-- The symbols of a level reach as far as the level. -/
theorem Level.reach_of_join {l : Level} {s : Symbol} {join : Expr → Expr → Expr}
    (h : l.join s = some join) : s.reach = l.rank := by
  cases l <;> cases s <;> first | rfl | exact absurd h (by simp [Level.join])

/-- A level does not stop in front of its own symbols. -/
theorem Level.not_reach_lt {l : Level} {s : Symbol} {join : Expr → Expr → Expr}
    (h : l.join s = some join) : ¬ (Lexeme.symbol s).reach < l.rank :=
  Nat.not_lt.2 (Nat.le_of_eq (Level.reach_of_join h).symm)

/-- What has to stand behind a nonterminal for it to end there: a lexeme it does not go on with,
and the closing parenthesis behind arguments. -/
def Nonterminal.Ends : Nonterminal → List Lexeme → Prop
  | phrase p, xs => Stops p.rank xs
  | operands l, xs => Stops l.rank xs
  | members, xs => Stops Phrase.postfixed.rank xs
  | arguments, xs => xs.head? = some (.symbol .closeParen)
  | someArguments, xs => xs.head? = some (.symbol .closeParen)

/-! ### What a phrase starts with -/

/-- The phrase can start with the lexeme. -/
def Phrase.OpensWith (p : Phrase) : Lexeme → Prop
  | .symbol s => s = .openParen ∨ p.rank ≤ Phrase.unary.rank ∧ (unaryOp? s).isSome
  | .stop => False
  | _ => True

theorem Phrase.OpensWith.mono {p p' : Phrase} {x : Lexeme} (h : p.OpensWith x)
    (hr : p'.rank ≤ p.rank) : p'.OpensWith x := by
  cases x with
  | symbol s => exact h.imp_right fun h => ⟨Nat.le_trans hr h.1, h.2⟩
  | _ => exact h

/-- No phrase starts with a closing parenthesis. -/
theorem Phrase.not_opensWith_closeParen (p : Phrase) : ¬ p.OpensWith (.symbol .closeParen) := by
  simp [OpensWith, unaryOp?]

/-- Only the phrases from unary ones on start with an operator. -/
theorem Phrase.not_opensWith_of_unaryOp? {s : Symbol} {op : UnaryOp} (h : unaryOp? s = some op) :
    ¬ Phrase.postfixed.OpensWith (.symbol s) := by
  rintro (rfl | ⟨hr, -⟩)
  · simp [unaryOp?] at h
  · exact absurd hr (by decide)

namespace Derivation

/-- **A phrase has a first lexeme**, and it is one that the phrase can start with. -/
theorem exists_opening : ∀ {p : Phrase} (d : Derivation (.phrase p)),
    ∃ x xs, d.lexemes = x :: xs ∧ p.OpensWith x
  | _, plain d => by
      obtain ⟨x, xs, hx, h⟩ := d.exists_opening
      exact ⟨x, xs, hx, h.mono (by decide)⟩
  | _, choice test yes no => by
      obtain ⟨x, xs, hx, h⟩ := test.exists_opening
      exact ⟨x, _, by rw [lexemes, hx]; rfl, h.mono (by decide)⟩
  | _, chain (l := l) first more => by
      obtain ⟨x, xs, hx, h⟩ := first.exists_opening
      have hr : (Phrase.level l).rank ≤ l.operand.rank := by
        rw [l.rank_operand]
        exact Nat.le_succ _
      exact ⟨x, _, by rw [lexemes, hx]; rfl, h.mono hr⟩
  | _, signed s op own d => ⟨_, _, rfl, .inr ⟨Nat.le_refl _, by rw [own]; rfl⟩⟩
  | _, unsigned d => by
      obtain ⟨x, xs, hx, h⟩ := d.exists_opening
      exact ⟨x, xs, hx, h.mono (by decide)⟩
  | _, postfixed d more => by
      obtain ⟨x, xs, hx, h⟩ := d.exists_opening
      exact ⟨x, _, by rw [lexemes, hx]; rfl, h.mono (by decide)⟩
  | _, call f free args more => ⟨_, _, rfl, trivial⟩
  | _, number n => ⟨_, _, rfl, trivial⟩
  | _, text s => ⟨_, _, rfl, trivial⟩
  | _, name n => ⟨_, _, rfl, trivial⟩
  | _, parens d => ⟨_, _, rfl, .inl rfl⟩

/-! ### Derivations are unique -/

attribute [local simp] lexemes

section

variable {l : Level} {rest rest' : List Lexeme}

/-- An operand of a level ends in front of the operands behind it. -/
theorem stops_operands (more : Derivation (.operands l)) (h : Stops l.rank rest) :
    Stops l.operand.rank (more.lexemes ++ rest) := by
  rw [l.rank_operand]
  cases more with
  | noOperand => exact h.mono (Nat.le_succ _)
  | operand s join own right more =>
      have hs : s.reach = l.rank := Level.reach_of_join own
      exact Nat.lt_succ_of_le (Nat.le_of_eq hs)

/-- A primary ends in front of its members. -/
theorem stops_members (more : Derivation .members) (h : Stops Phrase.postfixed.rank rest) :
    Stops Phrase.primary.rank (more.lexemes ++ rest) := by
  cases more with
  | noMember => exact h.mono (by decide)
  | property k more => exact (by decide : 9 < 10)
  | index k more => exact (by decide : 9 < 10)

/-- A phrase does not start with a symbol that it cannot start with. -/
theorem lexemes_append_ne {p : Phrase} {x : Lexeme} (hx : ¬ p.OpensWith x)
    (d : Derivation (.phrase p)) (xs : List Lexeme) : d.lexemes ++ rest ≠ x :: xs := by
  obtain ⟨y, ys, hy, hopens⟩ := d.exists_opening
  rw [hy]
  intro h
  obtain ⟨rfl, -⟩ := List.cons.inj h
  exact hx hopens

/-- Arguments do not start with a closing parenthesis. -/
theorem lexemes_append_ne_closeParen (d : Derivation .someArguments) (xs : List Lexeme) :
    d.lexemes ++ rest ≠ .symbol .closeParen :: xs := by
  cases d with
  | lastArgument d => exact lexemes_append_ne (Phrase.not_opensWith_closeParen _) d xs
  | argument d more =>
      simp only [lexemes, List.append_assoc]
      exact lexemes_append_ne (Phrase.not_opensWith_closeParen _) d xs

/-- A primary and its members are no call. -/
theorem lexemes_append_ne_call (d : Derivation (.phrase .primary)) (more : Derivation .members)
    (hrest : Stops Phrase.postfixed.rank rest) {f : String} {xs : List Lexeme} :
    d.lexemes ++ (more.lexemes ++ rest) ≠ .name f :: .symbol .openParen :: xs := by
  intro h
  -- the primary is the name, and its members start where a call has a parenthesis
  have hMore : more.lexemes ++ rest = .symbol .openParen :: xs := by
    cases d <;> simp_all
  cases more with
  | noMember => exact hrest.ne_cons (x := .symbol .openParen) (by decide) xs hMore
  | property k more => simp at hMore
  | index k more => simp at hMore

end

/-- Whatever else is derived from the nonterminal, with lexemes behind it that end it as well, is the
same derivation with the same lexemes behind it. -/
def IsDetermined {n : Nonterminal} (d : Derivation n) : Prop :=
  ∀ (d' : Derivation n) {rest rest' : List Lexeme}, d.lexemes ++ rest = d'.lexemes ++ rest' →
    n.Ends rest → n.Ends rest' → d = d' ∧ rest = rest'

theorem isDetermined_plain {d : Derivation (.phrase (.level .or))} (hd : d.IsDetermined) :
    (plain d).IsDetermined := by
  intro d' rest rest' h hrest hrest'
  have hor : Stops (Phrase.level .or).rank rest := hrest.mono (by decide)
  cases d' with
  | plain d' =>
      obtain ⟨rfl, rfl⟩ := hd d' h hor (hrest'.mono (by decide))
      exact ⟨rfl, rfl⟩
  | choice test yes no =>
      -- the test would end in front of the question mark, where the conditional goes on
      simp only [lexemes, List.append_assoc, List.cons_append] at h
      obtain ⟨-, rfl⟩ := hd test h hor (by decide : 1 < 2)
      exact absurd hrest (by decide : ¬ 1 < 1)

theorem isDetermined_choice {test : Derivation (.phrase (.level .or))}
    {yes no : Derivation (.phrase .conditional)} (htest : test.IsDetermined)
    (hyes : yes.IsDetermined) (hno : no.IsDetermined) : (choice test yes no).IsDetermined := by
  intro d' rest rest' h hrest hrest'
  cases d' with
  | plain d' =>
      simp only [lexemes, List.append_assoc, List.cons_append] at h
      obtain ⟨-, rfl⟩ := htest d' h (by decide : 1 < 2) (hrest'.mono (by decide))
      exact absurd hrest' (by decide : ¬ 1 < 1)
  | choice test' yes' no' =>
      simp only [lexemes, List.append_assoc, List.cons_append] at h
      obtain ⟨rfl, hYes⟩ := htest test' h (by decide : 1 < 2) (by decide : 1 < 2)
      obtain ⟨rfl, hNo⟩ :=
        hyes yes' (List.cons.inj hYes).2 (by decide : 0 < 1) (by decide : 0 < 1)
      obtain ⟨rfl, rfl⟩ := hno no' (List.cons.inj hNo).2 hrest hrest'
      exact ⟨rfl, rfl⟩

theorem isDetermined_chain {l : Level} {first : Derivation (.phrase l.operand)}
    {more : Derivation (.operands l)} (hfirst : first.IsDetermined) (hmore : more.IsDetermined) :
    (chain first more).IsDetermined := by
  intro d' rest rest' h hrest hrest'
  cases d' with
  | chain first' more' =>
      simp only [lexemes, List.append_assoc] at h
      obtain ⟨rfl, hMore⟩ :=
        hfirst first' h (stops_operands more hrest) (stops_operands more' hrest')
      obtain ⟨rfl, rfl⟩ := hmore more' hMore hrest hrest'
      exact ⟨rfl, rfl⟩

theorem isDetermined_noOperand {l : Level} : (noOperand (l := l)).IsDetermined := by
  intro d' rest rest' h hrest _
  cases d' with
  | noOperand => exact ⟨rfl, h⟩
  | operand s join own right more =>
      exact absurd h (hrest.ne_cons (Level.not_reach_lt own) _)

theorem isDetermined_operand {l : Level} {s : Symbol} {join : Expr → Expr → Expr}
    (own : l.join s = some join) {right : Derivation (.phrase l.operand)}
    {more : Derivation (.operands l)} (hright : right.IsDetermined) (hmore : more.IsDetermined) :
    (operand s join own right more).IsDetermined := by
  intro d' rest rest' h hrest hrest'
  cases d' with
  | noOperand => exact absurd h.symm (hrest'.ne_cons (Level.not_reach_lt own) _)
  | operand s' join' own' right' more' =>
      simp only [lexemes, List.append_assoc, List.cons_append] at h
      obtain ⟨hs, hRight⟩ := List.cons.inj h
      obtain rfl : s = s' := Lexeme.symbol.inj hs
      obtain rfl : join = join' := Option.some.inj (own.symm.trans own')
      obtain ⟨rfl, hMore⟩ :=
        hright right' hRight (stops_operands more hrest) (stops_operands more' hrest')
      obtain ⟨rfl, rfl⟩ := hmore more' hMore hrest hrest'
      exact ⟨rfl, rfl⟩

theorem isDetermined_signed {s : Symbol} {op : UnaryOp} (own : unaryOp? s = some op)
    {d : Derivation (.phrase .unary)} (hd : d.IsDetermined) : (signed s op own d).IsDetermined := by
  intro d' rest rest' h hrest hrest'
  cases d' with
  | signed s' op' own' d' =>
      obtain ⟨hs, hLexemes⟩ := List.cons.inj h
      obtain rfl : s = s' := Lexeme.symbol.inj hs
      obtain rfl : op = op' := Option.some.inj (own.symm.trans own')
      obtain ⟨rfl, rfl⟩ := hd d' hLexemes hrest hrest'
      exact ⟨rfl, rfl⟩
  | unsigned d' =>
      exact absurd h.symm (lexemes_append_ne (Phrase.not_opensWith_of_unaryOp? own) d' _)

theorem isDetermined_unsigned {d : Derivation (.phrase .postfixed)} (hd : d.IsDetermined) :
    (unsigned d).IsDetermined := by
  intro d' rest rest' h hrest hrest'
  cases d' with
  | signed s op own d' =>
      exact absurd h (lexemes_append_ne (Phrase.not_opensWith_of_unaryOp? own) d _)
  | unsigned d' =>
      obtain ⟨rfl, rfl⟩ := hd d' h (hrest.mono (by decide)) (hrest'.mono (by decide))
      exact ⟨rfl, rfl⟩

theorem isDetermined_postfixed {d : Derivation (.phrase .primary)} {more : Derivation .members}
    (hd : d.IsDetermined) (hmore : more.IsDetermined) : (postfixed d more).IsDetermined := by
  intro d' rest rest' h hrest hrest'
  cases d' with
  | postfixed d' more' =>
      simp only [lexemes, List.append_assoc] at h
      obtain ⟨rfl, hMore⟩ := hd d' h (stops_members more hrest) (stops_members more' hrest')
      obtain ⟨rfl, rfl⟩ := hmore more' hMore hrest hrest'
      exact ⟨rfl, rfl⟩
  | call f free args more' =>
      simp only [lexemes, List.append_assoc, List.cons_append] at h
      exact absurd h (lexemes_append_ne_call d more hrest)

theorem isDetermined_call {f : String} {free : f ∉ reserved} {args : Derivation .arguments}
    {more : Derivation .members} (hargs : args.IsDetermined) (hmore : more.IsDetermined) :
    (call f free args more).IsDetermined := by
  intro d' rest rest' h hrest hrest'
  cases d' with
  | postfixed d' more' =>
      simp only [lexemes, List.append_assoc, List.cons_append] at h
      exact absurd h.symm (lexemes_append_ne_call d' more' hrest')
  | call f' free' args' more' =>
      simp only [lexemes, List.append_assoc, List.cons_append] at h
      obtain ⟨hf, hOpen⟩ := List.cons.inj h
      obtain rfl : f = f' := Lexeme.name.inj hf
      obtain ⟨rfl, hClose⟩ := hargs args' (List.cons.inj hOpen).2 rfl rfl
      obtain ⟨rfl, rfl⟩ := hmore more' (List.cons.inj hClose).2 hrest hrest'
      exact ⟨rfl, rfl⟩

theorem isDetermined_noMember : noMember.IsDetermined := by
  intro d' rest rest' h hrest _
  cases d' with
  | noMember => exact ⟨rfl, h⟩
  | property k more => exact absurd h (hrest.ne_cons (x := .symbol .dot) (by decide) _)
  | index k more => exact absurd h (hrest.ne_cons (x := .symbol .openBracket) (by decide) _)

theorem isDetermined_property {k : String} {more : Derivation .members}
    (hmore : more.IsDetermined) : (property k more).IsDetermined := by
  intro d' rest rest' h hrest hrest'
  cases d' with
  | noMember => exact absurd h.symm (hrest'.ne_cons (x := .symbol .dot) (by decide) _)
  | property k' more' =>
      simp only [lexemes, List.cons_append, List.cons.injEq, Lexeme.name.injEq, true_and] at h
      obtain ⟨rfl, hMore⟩ := h
      obtain ⟨rfl, rfl⟩ := hmore more' hMore hrest hrest'
      exact ⟨rfl, rfl⟩
  | index k' more' => simp at h

theorem isDetermined_index {k : Derivation (.phrase .conditional)} {more : Derivation .members}
    (hk : k.IsDetermined) (hmore : more.IsDetermined) : (index k more).IsDetermined := by
  intro d' rest rest' h hrest hrest'
  cases d' with
  | noMember => exact absurd h.symm (hrest'.ne_cons (x := .symbol .openBracket) (by decide) _)
  | property k' more' => simp at h
  | index k' more' =>
      simp only [lexemes, List.append_assoc, List.cons_append] at h
      obtain ⟨rfl, hMore⟩ := hk k' (List.cons.inj h).2 (by decide : 0 < 1) (by decide : 0 < 1)
      obtain ⟨rfl, rfl⟩ := hmore more' (List.cons.inj hMore).2 hrest hrest'
      exact ⟨rfl, rfl⟩

/-- A number, a text or a name is read off the one lexeme that it is. -/
theorem isDetermined_of_singleton {d : Derivation (.phrase .primary)} {x : Lexeme}
    (hd : d.lexemes = [x]) : d.IsDetermined := by
  intro d' rest rest' h _ _
  cases d with
  | parens d => simp at hd
  | _ => cases d' <;> simp_all

theorem isDetermined_parens {d : Derivation (.phrase .conditional)} (hd : d.IsDetermined) :
    (parens d).IsDetermined := by
  intro d' rest rest' h _ _
  cases d' with
  | parens d' =>
      simp only [lexemes, List.append_assoc, List.cons_append, List.nil_append] at h
      obtain ⟨rfl, hrests⟩ := hd d' (List.cons.inj h).2 (by decide : 0 < 1) (by decide : 0 < 1)
      exact ⟨rfl, (List.cons.inj hrests).2⟩
  | _ => simp at h

theorem isDetermined_noArgument : noArgument.IsDetermined := by
  intro d' rest rest' h hrest _
  cases d' with
  | noArgument => exact ⟨rfl, h⟩
  | arguments d' =>
      obtain ⟨xs, rfl⟩ := List.head?_eq_some_iff.1 hrest
      exact absurd h.symm (lexemes_append_ne_closeParen d' _)

theorem isDetermined_arguments {d : Derivation .someArguments} (hd : d.IsDetermined) :
    (arguments d).IsDetermined := by
  intro d' rest rest' h hrest hrest'
  cases d' with
  | noArgument =>
      obtain ⟨xs, rfl⟩ := List.head?_eq_some_iff.1 hrest'
      exact absurd h (lexemes_append_ne_closeParen d _)
  | arguments d' =>
      obtain ⟨rfl, rfl⟩ := hd d' h hrest hrest'
      exact ⟨rfl, rfl⟩

theorem isDetermined_lastArgument {d : Derivation (.phrase .conditional)} (hd : d.IsDetermined) :
    (lastArgument d).IsDetermined := by
  intro d' rest rest' h hrest hrest'
  obtain ⟨xs, rfl⟩ := List.head?_eq_some_iff.1 hrest
  cases d' with
  | lastArgument d' =>
      obtain ⟨xs', rfl⟩ := List.head?_eq_some_iff.1 hrest'
      obtain ⟨rfl, hrests⟩ := hd d' h (by decide : 0 < 1) (by decide : 0 < 1)
      exact ⟨rfl, hrests⟩
  | argument d' more' =>
      simp only [lexemes, List.append_assoc, List.cons_append] at h
      obtain ⟨-, hrests⟩ := hd d' h (by decide : 0 < 1) (by decide : 0 < 1)
      simp at hrests

theorem isDetermined_argument {d : Derivation (.phrase .conditional)}
    {more : Derivation .someArguments} (hd : d.IsDetermined) (hmore : more.IsDetermined) :
    (argument d more).IsDetermined := by
  intro d' rest rest' h hrest hrest'
  simp only [lexemes, List.append_assoc, List.cons_append] at h
  cases d' with
  | lastArgument d' =>
      obtain ⟨xs', rfl⟩ := List.head?_eq_some_iff.1 hrest'
      obtain ⟨-, hrests⟩ := hd d' h (by decide : 0 < 1) (by decide : 0 < 1)
      simp at hrests
  | argument d' more' =>
      simp only [lexemes, List.append_assoc, List.cons_append] at h
      obtain ⟨rfl, hMore⟩ := hd d' h (by decide : 0 < 1) (by decide : 0 < 1)
      obtain ⟨rfl, rfl⟩ := hmore more' (List.cons.inj hMore).2 hrest hrest'
      exact ⟨rfl, rfl⟩

/-- **A nonterminal ends in one place only**, and has one derivation up to there. -/
theorem isDetermined {n : Nonterminal} (d : Derivation n) : d.IsDetermined := by
  induction d with
  | plain d ih => exact isDetermined_plain ih
  | choice test yes no ihTest ihYes ihNo => exact isDetermined_choice ihTest ihYes ihNo
  | chain first more ihFirst ihMore => exact isDetermined_chain ihFirst ihMore
  | noOperand => exact isDetermined_noOperand
  | operand s join own right more ihRight ihMore => exact isDetermined_operand own ihRight ihMore
  | signed s op own d ih => exact isDetermined_signed own ih
  | unsigned d ih => exact isDetermined_unsigned ih
  | postfixed d more ihD ihMore => exact isDetermined_postfixed ihD ihMore
  | call f free args more ihArgs ihMore => exact isDetermined_call ihArgs ihMore
  | noMember => exact isDetermined_noMember
  | property k more ih => exact isDetermined_property ih
  | index k more ihK ihMore => exact isDetermined_index ihK ihMore
  | number n => exact isDetermined_of_singleton rfl
  | text s => exact isDetermined_of_singleton rfl
  | name n => exact isDetermined_of_singleton rfl
  | parens d ih => exact isDetermined_parens ih
  | noArgument => exact isDetermined_noArgument
  | arguments d ih => exact isDetermined_arguments ih
  | lastArgument d ih => exact isDetermined_lastArgument ih
  | argument d more ihD ihMore => exact isDetermined_argument ihD ihMore

end Derivation

end Gamebook.Formula
