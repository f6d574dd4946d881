/-
**The parser reads the grammar.**

A formula is read exactly when the tokens in front of its end are derived by the grammar, and the
tree is that of the only derivation.  What the parser gives has a derivation because every reader
gives derivations when the reader of the conditionals inside it does; this goes by the bounds that
the readers recurse on.  That every derivation is read goes by the derivation: each phrase ends
where the tokens behind it cannot go on with it, and the bounds are above the number of tokens.

Main definitions:

* `Formula.Derives` — the tokens up to some place have a derivation with this meaning;
* `Formula.Phrase.reader` — the reader of a phrase;
* `Formula.Derivation.IsRead` — a derivation is read wherever it ends.

Main results:

* `Formula.conditional_yields` — what is read has a derivation;
* `Formula.Derivation.isRead` — derivations are read;
* `Formula.parse_iff_derivation` — **the parser accepts exactly the grammar**;
* `Formula.read_ok_or_refused` — the end token stops the parser on the tokens of every text.
-/

import Gamebook.Proofs.Formula.Grammar
import Gamebook.Proofs.Formula.Reader

set_option autoImplicit false

namespace Gamebook.Formula

/-! ### What is read has a derivation -/

/-- The tokens up to some place have a derivation that stands for this. -/
def Derives (n : Nonterminal) (ts : List Token) (m : n.Meaning) (rest : List Token) : Prop :=
  ∃ d : Derivation n, Spells ts d.lexemes rest ∧ d.formula = m

/-- The reader gives what the phrase derives. -/
def ReadsPhrase (stop : Token) (p : Phrase) (m : Reader Expr) : Prop :=
  ∀ ts, Yields stop m ts (Derives (.phrase p) ts)

section

variable {stop : Token} (hend : stop.lexeme = .stop)

include hend

theorem chainFrom_yields {l : Level} {operand : Reader Expr}
    (hop : ReadsPhrase stop l.operand operand) (n : Nat) (left : Expr) (ts : List Token) :
    Yields stop (chainFrom l operand n left) ts fun e rest =>
      ∃ d : Derivation (.operands l), Spells ts d.lexemes rest ∧ d.formula left = e := by
  induction n generalizing left ts with
  | zero => exact .pure ⟨.noOperand, .refl ts, rfl⟩
  | succ n ih =>
      refine (yields_acceptFor hend l.join).bind fun found mid h => ?_
      cases found with
      | none => exact .pure ⟨.noOperand, h ▸ .refl _, rfl⟩
      | some join =>
          obtain ⟨s, own, hs⟩ := h
          refine (hop mid).bind fun right mid' ⟨d, hd, hright⟩ => ?_
          refine (ih (join left right) mid').mono fun e rest ⟨more, hmore, he⟩ => ?_
          refine ⟨.operand s join own d more, hs.cons (hd.append hmore), ?_⟩
          rw [← he, ← hright]
          rfl

theorem chain_yields {l : Level} {operand : Reader Expr}
    (hop : ReadsPhrase stop l.operand operand) (n : Nat) :
    ReadsPhrase stop (.level l) (chain l operand n) := by
  intro ts
  refine (hop ts).bind fun left mid ⟨d, hd, hleft⟩ => ?_
  refine (chainFrom_yields hend hop n left mid).mono fun e rest ⟨more, hmore, he⟩ => ?_
  refine ⟨.chain d more, hd.append hmore, ?_⟩
  rw [← he, ← hleft]
  rfl

variable {inner : Reader Expr} (hinner : ReadsPhrase stop .conditional inner)

include hinner

/-- A name that nothing has taken is a primary of its own. -/
theorem primary_yields (ts : List Token) :
    Yields stop (primary inner) ts fun r rest =>
      Derives (.phrase .primary) ts r.1 rest ∧
        ∀ f, r.2 = some f → f ∉ reserved ∧ Spells ts [.name f] rest := by
  refine .next_bind (e := .unexpected stop.lexeme stop.pos) (by simp only [hend]) fun t us hts => ?_
  subst hts
  obtain ⟨x, pos⟩ := t
  cases x with
  | number n => exact .pure ⟨⟨.number n, .single _ _ _, rfl⟩, fun f h => by cases h⟩
  | text s => exact .pure ⟨⟨.text s, .single _ _ _, rfl⟩, fun f h => by cases h⟩
  | name n =>
      cases hn : keyword? n with
      | some v =>
          simp only [hn]
          refine .pure ⟨⟨.name n, .single _ _ _, ?_⟩, fun f h => by cases h⟩
          simp only [Derivation.formula, named, hn]
      | none =>
          simp only [hn]
          refine .pure ⟨⟨.name n, .single _ _ _, ?_⟩, fun f h => ?_⟩
          · simp only [Derivation.formula, named, hn]
          · cases h
            exact ⟨keyword?_eq_none_iff.1 hn, .single _ _ _⟩
  | symbol s =>
      cases s with
      | openParen =>
          refine (hinner us).bind fun e mid hread => ?_
          obtain ⟨d, hd, he⟩ := hread
          refine (yields_expect hend .closeParen).bind fun _ rest hclose => .pure ?_
          refine ⟨⟨.parens d, (Spells.single _ _ _).cons (hd.append hclose), he⟩, fun f h => ?_⟩
          cases h
      | _ => exact .refuse _
  | stop => exact .refuse _

theorem argumentsFrom_yields (n : Nat) (ts : List Token) :
    Yields stop (argumentsFrom inner n) ts fun es rest =>
      ∃ d : Derivation .someArguments,
        Spells ts (d.lexemes ++ [.symbol .closeParen]) rest ∧ d.formula = es := by
  induction n generalizing ts with
  | zero => exact .refuseFront
  | succ n ih =>
      refine (hinner ts).bind fun e mid ⟨d, hd, he⟩ => ?_
      refine (yields_accept hend .closeParen).bind fun closed mid' hclose => ?_
      cases closed with
      | true =>
          refine .pure ⟨.lastArgument d, hd.append hclose, ?_⟩
          rw [← he]
          rfl
      | false =>
          obtain rfl := hclose.eq
          refine (yields_expect hend .comma).bind fun _ mid' hcomma => ?_
          refine (ih mid').bind fun es rest ⟨more, hmore, hes⟩ => .pure ?_
          refine ⟨.argument d more, ?_, ?_⟩
          · rw [Derivation.lexemes, List.append_assoc]
            exact hd.append (hcomma.cons hmore)
          · rw [← he, ← hes]
            rfl

theorem arguments_yields (n : Nat) (ts : List Token) :
    Yields stop (arguments inner n) ts fun es rest =>
      ∃ d : Derivation .arguments,
        Spells ts (d.lexemes ++ [.symbol .closeParen]) rest ∧ d.formula = es := by
  refine (yields_accept hend .closeParen).bind fun closed mid hclose => ?_
  cases closed with
  | true => exact .pure ⟨.noArgument, hclose, rfl⟩
  | false =>
      obtain rfl := hclose.eq
      refine (argumentsFrom_yields hend hinner n _).mono fun es rest ⟨d, hd, hes⟩ => ?_
      exact ⟨.arguments d, hd, hes⟩

/-- Behind a primary stand members, or behind a name of its own a call and then members. -/
theorem postfixFrom_yields (n : Nat) (e : Expr) (name : Option String) (ts : List Token) :
    Yields stop (postfixFrom inner n e name) ts fun e' rest =>
      (∃ d : Derivation .members, Spells ts d.lexemes rest ∧ d.formula e = e') ∨
      ∃ f, name = some f ∧ ∃ (args : Derivation .arguments) (more : Derivation .members),
        Spells ts (.symbol .openParen :: (args.lexemes ++ .symbol .closeParen :: more.lexemes))
          rest ∧ more.formula (.call f args.formula) = e' := by
  induction n generalizing e name ts with
  | zero => exact .pure (.inl ⟨.noMember, .refl ts, rfl⟩)
  | succ n ih =>
      -- once something has followed the primary, no call can
      have members (e : Expr) (ts : List Token) :
          Yields stop (postfixFrom inner n e none) ts fun e' rest =>
            ∃ d : Derivation .members, Spells ts d.lexemes rest ∧ d.formula e = e' := by
        refine (ih e none ts).mono fun e' rest h => h.resolve_right ?_
        rintro ⟨f, hf, -⟩
        cases hf
      refine (yields_accept hend .dot).bind fun dot mid hdot => ?_
      cases dot with
      | true =>
          refine .next_bind (e := .expectedProperty stop.pos) (by simp only [hend])
            fun t us hts => ?_
          subst hts
          obtain ⟨x, pos⟩ := t
          cases x with
          | name k =>
              refine (members _ us).mono fun e' rest ⟨d, hd, he⟩ => .inl ?_
              exact ⟨.property k d, hdot.cons ((Spells.single _ _ _).cons hd), he⟩
          | _ => exact .refuse _
      | false =>
          obtain rfl := hdot.eq
          refine (yields_accept hend .openBracket).bind fun bracket mid hbracket => ?_
          cases bracket with
          | true =>
              refine (hinner mid).bind fun k mid' ⟨d, hd, hk⟩ => ?_
              refine (yields_expect hend .closeBracket).bind fun _ mid'' hclose => ?_
              refine (members _ mid'').mono fun e' rest ⟨more, hmore, he⟩ => .inl ?_
              refine ⟨.index d more, hbracket.cons (hd.append (hclose.cons hmore)), ?_⟩
              rw [← he, ← hk]
              rfl
          | false =>
              obtain rfl := hbracket.eq
              refine (yields_accept hend .openParen).bind fun paren mid hparen => ?_
              cases paren with
              | true =>
                  cases name with
                  | none => exact .refuse _
                  | some f =>
                      refine (arguments_yields hend hinner n mid).bind
                        fun es mid' ⟨args, hargs, hes⟩ => ?_
                      refine (members _ mid').mono fun e' rest ⟨more, hmore, he⟩ => .inr ?_
                      refine ⟨f, rfl, args, more, hparen.cons ?_, hes ▸ he⟩
                      simpa using hargs.append hmore
              | false =>
                  obtain rfl := hparen.eq
                  exact .pure (.inl ⟨.noMember, .refl _, rfl⟩)

theorem postfixExpr_yields (n : Nat) : ReadsPhrase stop .postfixed (postfixExpr inner n) := by
  intro ts
  refine (primary_yields hend hinner ts).bind fun r mid ⟨⟨d, hd, hr⟩, hname⟩ => ?_
  refine (postfixFrom_yields hend hinner n r.1 r.2 mid).mono fun e rest h => ?_
  rcases h with ⟨more, hmore, he⟩ | ⟨f, hf, args, more, hcall, he⟩
  · refine ⟨.postfixed d more, hd.append hmore, ?_⟩
    rw [← he, ← hr]
    rfl
  · obtain ⟨free, hspells⟩ := hname f hf
    exact ⟨.call f free args more, hspells.cons hcall, he⟩

omit hinner in
theorem unaryFrom_yields {operand : Reader Expr} (hop : ReadsPhrase stop .postfixed operand)
    (n : Nat) : ReadsPhrase stop .unary (unaryFrom operand n) := by
  induction n with
  | zero =>
      intro ts
      exact (hop ts).mono fun e rest ⟨d, hd, he⟩ => ⟨.unsigned d, hd, he⟩
  | succ n ih =>
      intro ts
      refine (yields_acceptFor hend unaryOp?).bind fun found mid h => ?_
      cases found with
      | none =>
          obtain rfl := h
          exact (hop mid).mono fun e rest ⟨d, hd, he⟩ => ⟨.unsigned d, hd, he⟩
      | some op =>
          obtain ⟨s, own, hs⟩ := h
          refine (ih mid).bind fun e rest ⟨d, hd, he⟩ => .pure ?_
          refine ⟨.signed s op own d, hs.cons hd, ?_⟩
          rw [← he]
          rfl

/-- Level by level, from the tightest to the loosest. -/
theorem disjunction_yields (n : Nat) : ReadsPhrase stop (.level .or) (disjunction inner n) := by
  have hUnary : ReadsPhrase stop .unary (unary inner n) :=
    unaryFrom_yields hend (postfixExpr_yields hend hinner n) n
  have hProduct := chain_yields (l := .multiplicative) hend hUnary n
  have hSum := chain_yields (l := .additive) hend hProduct n
  have hRelation := chain_yields (l := .relational) hend hSum n
  have hEquality := chain_yields (l := .equality) hend hRelation n
  have hConjunction := chain_yields (l := .and) hend hEquality n
  exact chain_yields (l := .or) hend hConjunction n

theorem ternary_yields (n : Nat) : ReadsPhrase stop .conditional (ternary inner n) := by
  intro ts
  refine (disjunction_yields hend hinner n ts).bind fun test mid ⟨d, hd, htest⟩ => ?_
  refine (yields_accept hend .question).bind fun found mid₁ hquestion => ?_
  cases found with
  | true =>
      refine (hinner mid₁).bind fun yes mid₂ ⟨dYes, hdYes, hyes⟩ => ?_
      refine (yields_expect hend .colon).bind fun _ mid₃ hcolon => ?_
      refine (hinner mid₃).bind fun no rest ⟨dNo, hdNo, hno⟩ => .pure ?_
      refine ⟨.choice d dYes dNo, ?_, ?_⟩
      · exact hd.append (hquestion.cons (hdYes.append (hcolon.cons hdNo)))
      · rw [← htest, ← hyes, ← hno]
        rfl
  | false =>
      obtain rfl := hquestion.eq
      exact .pure ⟨.plain d, hd, htest⟩

omit hinner in
/-- **What is read has a derivation**, whatever the bound. -/
theorem conditional_yields (n : Nat) : ReadsPhrase stop .conditional (conditional n) := by
  induction n with
  | zero => exact fun ts => .refuseFront
  | succ n ih => exact ternary_yields hend ih n

omit hinner in
/-- A whole formula uses the tokens in front of the end token. -/
theorem formula_yields (n : Nat) {ts : List Token} (hts : ∀ t ∈ ts, t.lexeme ≠ .stop) :
    Yields stop (formula n) ts fun e rest =>
      rest = [] ∧ Derives (.phrase .conditional) ts e rest := by
  refine .peek_bind (fun _ => ?_) fun t us hts' => ?_
  · rw [if_pos hend]
    exact .refuse _
  · have ht : t.lexeme ≠ .stop := hts t (hts' ▸ List.mem_cons_self ..)
    rw [if_neg ht]
    refine (conditional_yields hend n ts).bind fun e rest hd => ?_
    refine .peek_bind (fun hrest => ?_) fun t' us' hrest => ?_
    · subst hrest
      rw [if_pos hend]
      exact .pure ⟨rfl, hd⟩
    · -- the token that is left over is not the end token
      obtain ⟨d, ⟨used, -, hused⟩, -⟩ := hd
      have ht' : t'.lexeme ≠ .stop := hts t' (by simp [hused, hrest])
      rw [if_neg ht']
      exact .refuse _

end

/-! ### Derivations are read -/

/-- The reader of a phrase, with a bound on the nesting and on the loops. -/
def Phrase.reader (n : Nat) : Phrase → Reader Expr
  | conditional => Formula.conditional (n + 1)
  | level .or => disjunction (Formula.conditional n) n
  | level .and => conjunction (Formula.conditional n) n
  | level .equality => equality (Formula.conditional n) n
  | level .relational => relational (Formula.conditional n) n
  | level .additive => additive (Formula.conditional n) n
  | level .multiplicative => multiplicative (Formula.conditional n) n
  | unary => Formula.unary (Formula.conditional n) n
  | postfixed => postfixExpr (Formula.conditional n) n
  | primary => Prod.fst <$> Formula.primary (Formula.conditional n)

theorem Phrase.reader_level (n : Nat) (l : Level) :
    (level l).reader n = chain l (l.operand.reader n) n := by
  cases l <;> rfl

/-- What it means that the meaning of a nonterminal is read.  The bounds are on the tokens up to
the place where the nonterminal ends; the parenthesis behind arguments is taken with them. -/
def Nonterminal.Read (n : Nat) : (N : Nonterminal) → N.Meaning → List Token → List Token → Prop
  | phrase .unary, e, ts, rest => ∀ k, ts.length ≤ k + rest.length →
      Takes (unaryFrom (postfixExpr (conditional n) n) k) ts e rest
  | phrase p, e, ts, rest => Takes (p.reader n) ts e rest
  | operands l, f, ts, rest => ∀ left k, ts.length ≤ k + rest.length →
      Takes (chainFrom l (l.operand.reader n) k left) ts (f left) rest
  | members, f, ts, rest => ∀ e name k, ts.length ≤ k + rest.length →
      Takes (postfixFrom (conditional n) k e name) ts (f e) rest
  | arguments, es, ts, rest => ts.length < n + rest.length → ∀ k, ts.length ≤ k + rest.length →
      Takes (Formula.arguments (conditional n) k) ts es rest.tail
  | someArguments, es, ts, rest => ts.length < n + rest.length → ∀ k, ts.length ≤ k + rest.length →
      Takes (argumentsFrom (conditional n) k) ts es rest.tail

/-- The derivation is read wherever it ends. -/
def Derivation.IsRead {N : Nonterminal} (d : Derivation N) : Prop :=
  ∀ n ts rest, Spells ts d.lexemes rest → N.Ends (rest.map Token.lexeme) →
    ts.length ≤ n + rest.length → N.Read n d.formula ts rest

theorem Derivation.IsRead.takes_reader {p : Phrase} {d : Derivation (.phrase p)} (hd : d.IsRead)
    {n : Nat} {ts rest : List Token} (hs : Spells ts d.lexemes rest)
    (hstop : Stops p.rank (rest.map Token.lexeme)) (hlen : ts.length ≤ n + rest.length) :
    Takes (p.reader n) ts d.formula rest := by
  have hread := hd n ts rest hs hstop hlen
  cases p with
  | unary => exact hread n hlen
  | _ => exact hread

section

variable {n r : Nat} {ts rest : List Token}

theorem exists_front (h : Stops r (rest.map Token.lexeme)) :
    ∃ t us, rest = t :: us ∧ t.lexeme.reach < r := by
  cases rest with
  | nil => exact h.elim
  | cons t us => exact ⟨t, us, rfl, h⟩

/-- A symbol that the phrase goes on with is not where it stops. -/
theorem takes_accept_of_stops {s : Symbol} (h : Stops r (rest.map Token.lexeme))
    (hs : r ≤ s.reach) : Takes (accept s) rest false rest := by
  obtain ⟨t, us, rfl, ht⟩ := exists_front h
  refine takes_accept_false (fun hts => ?_) us
  rw [hts] at ht
  exact absurd ht (Nat.not_lt.2 hs)

/-- A conditional inside a phrase is read with a bound above its length. -/
theorem Derivation.IsRead.takes {d : Derivation (.phrase .conditional)} (hd : d.IsRead)
    (hs : Spells ts d.lexemes rest) (hstop : Stops 1 (rest.map Token.lexeme))
    (hlen : ts.length < n + rest.length) : Takes (conditional n) ts d.formula rest := by
  have hts := hs.length_eq
  obtain ⟨m, rfl⟩ : ∃ m, n = m + 1 := ⟨n - 1, by omega⟩
  exact hd m ts rest hs hstop (by omega)

end

namespace Derivation

theorem isRead_plain {d : Derivation (.phrase (.level .or))} (hd : d.IsRead) :
    (plain d).IsRead := by
  intro n ts rest hs hrest hlen
  have hdisjunction : Takes (disjunction (conditional n) n) ts d.formula rest :=
    hd n ts rest hs (hrest.mono (by decide)) hlen
  refine hdisjunction.bind ?_
  exact (takes_accept_of_stops hrest (by decide)).bind (.pure _ _)

theorem isRead_choice {test : Derivation (.phrase (.level .or))}
    {yes no : Derivation (.phrase .conditional)} (hTest : test.IsRead) (hYes : yes.IsRead)
    (hNo : no.IsRead) : (choice test yes no).IsRead := by
  intro n ts rest hs hrest hlen
  obtain ⟨mid, hsTest, hsQuestion⟩ := hs.exists_append
  obtain ⟨pos, mid₁, rfl, hsBranches⟩ := hsQuestion.exists_cons
  obtain ⟨mid₂, hsYes, hsColon⟩ := hsBranches.exists_append
  obtain ⟨pos', mid₃, rfl, hsNo⟩ := hsColon.exists_cons
  have hlenTest := hsTest.length_eq
  have hlenYes := hsYes.length_eq
  have hlenNo := hsNo.length_eq
  simp only [List.length_cons] at hlenTest hlenYes
  have hdisjunction : Takes (disjunction (conditional n) n) ts test.formula _ :=
    hTest n ts _ hsTest (by decide : 1 < 2) (by simp only [List.length_cons]; omega)
  refine hdisjunction.bind ((takes_accept .question pos mid₁).bind ?_)
  refine (hYes.takes hsYes (by decide : 0 < 1) (by simp only [List.length_cons]; omega)).bind ?_
  refine (takes_expect .colon pos' mid₃).bind ?_
  exact (hNo.takes hsNo hrest (by omega)).bind (.pure _ _)

theorem isRead_chain {l : Level} {first : Derivation (.phrase l.operand)}
    {more : Derivation (.operands l)} (hFirst : first.IsRead) (hMore : more.IsRead) :
    (chain first more).IsRead := by
  intro n ts rest hs hrest hlen
  obtain ⟨mid, hsFirst, hsMore⟩ := hs.exists_append
  have hlenFirst := hsFirst.length_eq
  have hlenMore := hsMore.length_eq
  have hmid : Stops l.operand.rank (mid.map Token.lexeme) := by
    rw [hsMore.map_lexeme]
    exact stops_operands more hrest
  have hoperand : Takes (l.operand.reader n) ts first.formula mid :=
    hFirst.takes_reader hsFirst hmid (by omega)
  change Takes ((Phrase.level l).reader n) ts _ rest
  rw [Phrase.reader_level]
  exact hoperand.bind (hMore n mid rest hsMore hrest (by omega) first.formula n (by omega))

theorem takes_join_none {l : Level} {rest : List Token}
    (h : Stops l.rank (rest.map Token.lexeme)) : Takes (acceptFor l.join) rest none rest := by
  obtain ⟨t, us, rfl, ht⟩ := exists_front h
  refine takes_acceptFor_none (fun s hts => ?_) us
  rw [hts] at ht
  cases hjoin : l.join s with
  | none => rfl
  | some join => exact absurd ht (Level.not_reach_lt hjoin)

theorem isRead_noOperand {l : Level} : (noOperand (l := l)).IsRead := by
  intro n ts rest hs hrest hlen left k hk
  obtain rfl := hs.eq
  cases k with
  | zero => exact .pure _ _
  | succ k => exact (takes_join_none hrest).bind (.pure _ _)

theorem isRead_operand {l : Level} {s : Symbol} {join : Expr → Expr → Expr}
    {own : l.join s = some join} {right : Derivation (.phrase l.operand)}
    {more : Derivation (.operands l)} (hRight : right.IsRead) (hMore : more.IsRead) :
    (operand s join own right more).IsRead := by
  intro n ts rest hs hrest hlen left k hk
  obtain ⟨pos, mid, rfl, hsOperands⟩ := hs.exists_cons
  obtain ⟨mid', hsRight, hsMore⟩ := hsOperands.exists_append
  have hlenRight := hsRight.length_eq
  have hlenMore := hsMore.length_eq
  simp only [List.length_cons] at hlen hk
  obtain ⟨k, rfl⟩ : ∃ k', k = k' + 1 := ⟨k - 1, by omega⟩
  have hmid : Stops l.operand.rank (mid'.map Token.lexeme) := by
    rw [hsMore.map_lexeme]
    exact stops_operands more hrest
  have hoperand : Takes (l.operand.reader n) mid right.formula mid' :=
    hRight.takes_reader hsRight hmid (by omega)
  refine (takes_acceptFor own pos mid).bind (hoperand.bind ?_)
  exact hMore n mid' rest hsMore hrest (by omega) _ k (by omega)

theorem isRead_signed {s : Symbol} {op : UnaryOp} {own : unaryOp? s = some op}
    {d : Derivation (.phrase .unary)} (hd : d.IsRead) : (signed s op own d).IsRead := by
  intro n ts rest hs hrest hlen k hk
  obtain ⟨pos, mid, rfl, hsD⟩ := hs.exists_cons
  have hlenD := hsD.length_eq
  simp only [List.length_cons] at hlen hk
  obtain ⟨k, rfl⟩ : ∃ k', k = k' + 1 := ⟨k - 1, by omega⟩
  refine (takes_acceptFor own pos mid).bind ?_
  exact (hd n mid rest hsD hrest (by omega) k (by omega)).bind (.pure _ _)

/-- A postfix expression does not start with an operator. -/
theorem isRead_unsigned {d : Derivation (.phrase .postfixed)} (hd : d.IsRead) :
    (unsigned d).IsRead := by
  intro n ts rest hs hrest hlen k hk
  have hpostfixed : Takes (postfixExpr (conditional n) n) ts d.formula rest :=
    hd n ts rest hs (hrest.mono (by decide)) hlen
  cases k with
  | zero => exact hpostfixed
  | succ k =>
      obtain ⟨x, xs, hx, hopens⟩ := d.exists_opening
      have hfront := hs
      rw [lexemes, hx] at hfront
      obtain ⟨pos, mid, rfl, -⟩ := hfront.exists_cons
      refine (takes_acceptFor_none (fun s hts => ?_) mid).bind hpostfixed
      subst hts
      cases hop : unaryOp? s with
      | none => rfl
      | some op => exact absurd hopens (Phrase.not_opensWith_of_unaryOp? hop)

/-- The members behind a primary are read. -/
theorem isRead_postfixed {d : Derivation (.phrase .primary)} {more : Derivation .members}
    (hd : d.IsRead) (hMore : more.IsRead) : (postfixed d more).IsRead := by
  intro n ts rest hs hrest hlen
  obtain ⟨mid, hsD, hsMore⟩ := hs.exists_append
  have hlenD := hsD.length_eq
  have hlenMore := hsMore.length_eq
  have hmid : Stops Phrase.primary.rank (mid.map Token.lexeme) := by
    rw [hsMore.map_lexeme]
    exact stops_members more hrest
  obtain ⟨⟨e, name⟩, he, hprimary⟩ := (hd n ts mid hsD hmid (by omega)).exists_of_map
  refine hprimary.bind ?_
  rw [show e = d.formula from he]
  exact hMore n mid rest hsMore hrest (by omega) _ name n (by omega)

theorem isRead_call {f : String} {free : f ∉ reserved} {args : Derivation .arguments}
    {more : Derivation .members} (hArgs : args.IsRead) (hMore : more.IsRead) :
    (call f free args more).IsRead := by
  intro n ts rest hs hrest hlen
  obtain ⟨pos, mid, rfl, hsOpen⟩ := hs.exists_cons
  obtain ⟨pos', mid₁, rfl, hsInside⟩ := hsOpen.exists_cons
  obtain ⟨mid₂, hsArgs, hsClose⟩ := hsInside.exists_append
  obtain ⟨pos'', mid₃, rfl, hsMore⟩ := hsClose.exists_cons
  have hlenArgs := hsArgs.length_eq
  have hlenMore := hsMore.length_eq
  simp only [List.length_cons] at hlen hlenArgs
  obtain ⟨n', rfl⟩ : ∃ n', n = n' + 1 := ⟨n - 1, by omega⟩
  have hname : Takes (Formula.primary (conditional (n' + 1)))
      (⟨.name f, pos⟩ :: ⟨.symbol .openParen, pos'⟩ :: mid₁) (.name f, some f)
      (⟨.symbol .openParen, pos'⟩ :: mid₁) := by
    refine (takes_next _ _).bind ?_
    simp only [keyword?_eq_none_iff.2 free]
    exact .pure _ _
  have hargs : Takes (Formula.arguments (conditional (n' + 1)) n') mid₁ args.formula mid₃ :=
    hArgs _ mid₁ _ hsArgs rfl (by simp only [List.length_cons]; omega)
      (by simp only [List.length_cons]; omega) n' (by simp only [List.length_cons]; omega)
  refine hname.bind ((takes_accept_false (by simp) _).bind ?_)
  refine (takes_accept_false (by simp) _).bind ((takes_accept .openParen pos' mid₁).bind ?_)
  refine hargs.bind ?_
  exact hMore _ mid₃ rest hsMore hrest (by omega) _ none n' (by omega)

theorem isRead_noMember : noMember.IsRead := by
  intro n ts rest hs hrest hlen e name k hk
  obtain rfl := hs.eq
  cases k with
  | zero => exact .pure _ _
  | succ k =>
      refine (takes_accept_of_stops hrest (by decide)).bind ?_
      refine (takes_accept_of_stops hrest (by decide)).bind ?_
      exact (takes_accept_of_stops hrest (by decide)).bind (.pure _ _)

theorem isRead_property {k : String} {more : Derivation .members} (hMore : more.IsRead) :
    (property k more).IsRead := by
  intro n ts rest hs hrest hlen e name m hm
  obtain ⟨pos, mid, rfl, hsName⟩ := hs.exists_cons
  obtain ⟨pos', mid', rfl, hsMore⟩ := hsName.exists_cons
  have hlenMore := hsMore.length_eq
  simp only [List.length_cons] at hlen hm
  obtain ⟨m, rfl⟩ : ∃ m', m = m' + 1 := ⟨m - 1, by omega⟩
  refine (takes_accept .dot pos _).bind ((takes_next _ _).bind ?_)
  exact hMore n mid' rest hsMore hrest (by omega) _ none m (by omega)

theorem isRead_index {k : Derivation (.phrase .conditional)} {more : Derivation .members}
    (hK : k.IsRead) (hMore : more.IsRead) : (index k more).IsRead := by
  intro n ts rest hs hrest hlen e name m hm
  obtain ⟨pos, mid, rfl, hsInside⟩ := hs.exists_cons
  obtain ⟨mid₁, hsK, hsClose⟩ := hsInside.exists_append
  obtain ⟨pos', mid₂, rfl, hsMore⟩ := hsClose.exists_cons
  have hlenK := hsK.length_eq
  have hlenMore := hsMore.length_eq
  simp only [List.length_cons] at hlen hm hlenK
  obtain ⟨m, rfl⟩ : ∃ m', m = m' + 1 := ⟨m - 1, by omega⟩
  have hkey : Takes (conditional n) mid k.formula (⟨.symbol .closeBracket, pos'⟩ :: mid₂) :=
    hK.takes hsK (by decide : 0 < 1) (by simp only [List.length_cons]; omega)
  refine (takes_accept_false (by simp) _).bind ((takes_accept .openBracket pos mid).bind ?_)
  refine hkey.bind ((takes_expect .closeBracket pos' mid₂).bind ?_)
  exact hMore n mid₂ rest hsMore hrest (by omega) _ none m (by omega)

theorem isRead_number (x : Number) : (number x).IsRead := by
  intro n ts rest hs hrest hlen
  obtain ⟨pos, mid, rfl, hsRest⟩ := hs.exists_cons
  obtain rfl := hsRest.eq
  have hprimary : Takes (Formula.primary (conditional n)) (⟨.number x, pos⟩ :: mid)
      (.literal (.num x), none) mid := (takes_next _ _).bind (.pure _ _)
  exact hprimary.map Prod.fst

theorem isRead_text (s : String) : (text s).IsRead := by
  intro n ts rest hs hrest hlen
  obtain ⟨pos, mid, rfl, hsRest⟩ := hs.exists_cons
  obtain rfl := hsRest.eq
  have hprimary : Takes (Formula.primary (conditional n)) (⟨.text s, pos⟩ :: mid)
      (.literal (.str s), none) mid := (takes_next _ _).bind (.pure _ _)
  exact hprimary.map Prod.fst

theorem isRead_name (x : String) : (name x).IsRead := by
  intro n ts rest hs hrest hlen
  obtain ⟨pos, mid, rfl, hsRest⟩ := hs.exists_cons
  obtain rfl := hsRest.eq
  have hprimary : ∃ own, Takes (Formula.primary (conditional n)) (⟨.name x, pos⟩ :: mid)
      (named x, own) mid := by
    cases hx : keyword? x with
    | some v =>
        refine ⟨none, (takes_next _ _).bind ?_⟩
        simp only [named, hx]
        exact .pure _ _
    | none =>
        refine ⟨some x, (takes_next _ _).bind ?_⟩
        simp only [named, hx]
        exact .pure _ _
  obtain ⟨own, hprimary⟩ := hprimary
  exact hprimary.map Prod.fst

theorem isRead_parens {d : Derivation (.phrase .conditional)} (hd : d.IsRead) :
    (parens d).IsRead := by
  intro n ts rest hs hrest hlen
  obtain ⟨pos, mid, rfl, hsInside⟩ := hs.exists_cons
  obtain ⟨mid₁, hsD, hsClose⟩ := hsInside.exists_append
  obtain ⟨pos', mid₂, rfl, hsRest⟩ := hsClose.exists_cons
  obtain rfl := hsRest.eq
  have hlenD := hsD.length_eq
  simp only [List.length_cons] at hlen hlenD
  have hinner : Takes (conditional n) mid d.formula (⟨.symbol .closeParen, pos'⟩ :: mid₂) :=
    hd.takes hsD (by decide : 0 < 1) (by simp only [List.length_cons]; omega)
  have hprimary : Takes (Formula.primary (conditional n)) (⟨.symbol .openParen, pos⟩ :: mid)
      (d.formula, none) mid₂ :=
    (takes_next _ _).bind (hinner.bind ((takes_expect .closeParen pos' mid₂).bind (.pure _ _)))
  exact hprimary.map Prod.fst

/-- What stands behind arguments. -/
theorem exists_closeParen {rest : List Token}
    (h : (rest.map Token.lexeme).head? = some (.symbol .closeParen)) :
    ∃ pos us, rest = ⟨.symbol .closeParen, pos⟩ :: us := by
  obtain ⟨xs, hxs⟩ := List.head?_eq_some_iff.1 h
  obtain ⟨⟨x, pos⟩, us, rfl, rfl, -⟩ := List.map_eq_cons_iff.1 hxs
  exact ⟨pos, us, rfl⟩

theorem isRead_noArgument : noArgument.IsRead := by
  intro n ts rest hs hrest hlen hn k hk
  obtain rfl := hs.eq
  obtain ⟨pos, us, rfl⟩ := exists_closeParen hrest
  exact (takes_accept .closeParen pos us).bind (.pure _ _)

theorem isRead_arguments {d : Derivation .someArguments} (hd : d.IsRead) :
    (arguments d).IsRead := by
  intro n ts rest hs hrest hlen hn k hk
  have hts : ts.map Token.lexeme = d.lexemes ++ rest.map Token.lexeme := hs.map_lexeme
  cases ts with
  | nil =>
      obtain ⟨pos, us, rfl⟩ := exists_closeParen hrest
      simp at hts
  | cons t us =>
      have ht : t.lexeme ≠ .symbol .closeParen := by
        intro ht
        rw [List.map_cons, ht] at hts
        exact lexemes_append_ne_closeParen d _ hts.symm
      exact (takes_accept_false ht us).bind (hd n _ rest hs hrest hlen hn k hk)

theorem isRead_lastArgument {d : Derivation (.phrase .conditional)} (hd : d.IsRead) :
    (lastArgument d).IsRead := by
  intro n ts rest hs hrest hlen hn k hk
  obtain ⟨pos, us, rfl⟩ := exists_closeParen hrest
  obtain ⟨x, xs, hx, -⟩ := d.exists_opening
  have hlenD : ts.length = (x :: xs).length + _ := hx ▸ hs.length_eq
  simp only [List.length_cons] at hk hlenD
  obtain ⟨k, rfl⟩ : ∃ k', k = k' + 1 := ⟨k - 1, by omega⟩
  refine (hd.takes hs (by decide : 0 < 1) hn).bind ?_
  exact (takes_accept .closeParen pos us).bind (.pure _ _)

theorem isRead_argument {d : Derivation (.phrase .conditional)} {more : Derivation .someArguments}
    (hd : d.IsRead) (hMore : more.IsRead) : (argument d more).IsRead := by
  intro n ts rest hs hrest hlen hn k hk
  obtain ⟨mid, hsD, hsComma⟩ := hs.exists_append
  obtain ⟨pos, mid', rfl, hsMore⟩ := hsComma.exists_cons
  have hlenD := hsD.length_eq
  have hlenMore := hsMore.length_eq
  simp only [List.length_cons] at hlenD
  obtain ⟨k, rfl⟩ : ∃ k', k = k' + 1 := ⟨k - 1, by omega⟩
  have hfirst : Takes (conditional n) ts d.formula (⟨.symbol .comma, pos⟩ :: mid') :=
    hd.takes hsD (by decide : 0 < 1) (by simp only [List.length_cons]; omega)
  have hmore : Takes (argumentsFrom (conditional n) k) mid' more.formula rest.tail :=
    hMore n mid' rest hsMore hrest (by omega) (by omega) k (by omega)
  refine hfirst.bind ((takes_accept_false (by simp) _).bind ?_)
  exact (takes_expect .comma pos mid').bind (hmore.bind (.pure _ _))

/-- **Every derivation is read.** -/
theorem isRead {N : Nonterminal} (d : Derivation N) : d.IsRead := by
  induction d with
  | plain d ih => exact isRead_plain ih
  | choice test yes no ihTest ihYes ihNo => exact isRead_choice ihTest ihYes ihNo
  | chain first more ihFirst ihMore => exact isRead_chain ihFirst ihMore
  | noOperand => exact isRead_noOperand
  | operand s join own right more ihRight ihMore => exact isRead_operand ihRight ihMore
  | signed s op own d ih => exact isRead_signed ih
  | unsigned d ih => exact isRead_unsigned ih
  | postfixed d more ihD ihMore => exact isRead_postfixed ihD ihMore
  | call f free args more ihArgs ihMore => exact isRead_call ihArgs ihMore
  | noMember => exact isRead_noMember
  | property k more ih => exact isRead_property ih
  | index k more ihK ihMore => exact isRead_index ihK ihMore
  | number n => exact isRead_number n
  | text s => exact isRead_text s
  | name n => exact isRead_name n
  | parens d ih => exact isRead_parens ih
  | noArgument => exact isRead_noArgument
  | arguments d ih => exact isRead_arguments ih
  | lastArgument d ih => exact isRead_lastArgument ih
  | argument d more ihD ihMore => exact isRead_argument ihD ihMore

end Derivation

/-! ### Whole formulas -/

section

variable {ts : List Token} {stop : Token}

theorem body_append (hts : ∀ t ∈ ts, t.lexeme ≠ .stop) (hstop : stop.lexeme = .stop)
    (behind : List Token) : body (ts ++ stop :: behind) = ts := by
  rw [body, List.takeWhile_append_of_pos fun t ht => decide_eq_true (hts t ht)]
  simp [hstop]

/-- A derivation is read as a whole formula. -/
theorem parse_of_derivation (hts : ∀ t ∈ ts, t.lexeme ≠ .stop) (hstop : stop.lexeme = .stop)
    (behind : List Token) (d : Derivation (.phrase .conditional))
    (hd : d.lexemes = ts.map Token.lexeme) :
    parse (ts ++ stop :: behind) = .ok d.formula := by
  have hspells : Spells (ts ++ stop :: behind) d.lexemes (stop :: behind) := ⟨ts, hd.symm, rfl⟩
  have hends : Stops 1 ((stop :: behind).map Token.lexeme) := by
    rw [List.map_cons, hstop]
    exact (by decide : 0 < 1)
  have hread : Takes (conditional (ts.length + 1)) (ts ++ stop :: behind) d.formula
      (stop :: behind) :=
    d.isRead.takes hspells hends (by simp only [List.length_append]; omega)
  obtain ⟨x, xs, hx, hopens⟩ := d.exists_opening
  obtain ⟨t, us, rfl, hfront, -⟩ := List.map_eq_cons_iff.1 (hd.symm.trans hx)
  have hformula : Takes (formula ((t :: us).length + 1)) (t :: us ++ stop :: behind) d.formula
      (stop :: behind) := by
    refine (takes_peek t _).bind ?_
    rw [if_neg (hts t (List.mem_cons_self ..))]
    refine hread.bind ((takes_peek stop behind).bind ?_)
    rw [if_pos hstop]
    exact .pure _ _
  rw [parse, body_append hts hstop]
  change Prod.fst <$> formula _ _ = _
  rw [show formula _ _ = _ from hformula]
  rfl

/-- What the parser gives depends on the tokens up to the end token, and has a derivation. -/
theorem parse_eq (hts : ∀ t ∈ ts, t.lexeme ≠ .stop) (hstop : stop.lexeme = .stop) :
    ∃ out : Except FormulaError Expr,
      (∀ behind, parse (ts ++ stop :: behind) = out.mapError Fault.formula) ∧
      ∀ e, out = .ok e → ∃ d : Derivation (.phrase .conditional),
        d.lexemes = ts.map Token.lexeme ∧ d.formula = e := by
  obtain ⟨out, hout, hval⟩ := formula_yields hstop (ts.length + 1) hts
  refine ⟨out.map Prod.fst, fun behind => ?_, fun e he => ?_⟩
  · rw [parse, body_append hts hstop]
    change Prod.fst <$> formula _ _ = _
    rw [hout behind]
    cases out with
    | error e => rfl
    | ok p => rfl
  · cases out with
    | error e' => cases he
    | ok p =>
        cases he
        obtain ⟨hrest, d, hd, hformula⟩ := hval p.1 p.2 rfl
        refine ⟨d, ?_, hformula⟩
        rw [hd.map_lexeme, hrest, List.map_nil, List.append_nil]

/-- **The parser accepts exactly the grammar.**  In front of the end token it reads what the grammar
derives and gives the tree of the derivation, which is the only one; it refuses everything else;
and it never looks behind the end token. -/
theorem parse_iff_derivation (hts : ∀ t ∈ ts, t.lexeme ≠ .stop) (hstop : stop.lexeme = .stop)
    (behind : List Token) :
    (∀ e, parse (ts ++ stop :: behind) = .ok e ↔
      ∃ d : Derivation (.phrase .conditional), d.lexemes = ts.map Token.lexeme ∧ d.formula = e) ∧
    (∀ d d' : Derivation (.phrase .conditional), d.lexemes = ts.map Token.lexeme →
      d'.lexemes = ts.map Token.lexeme → d = d') ∧
    ((¬ ∃ d : Derivation (.phrase .conditional), d.lexemes = ts.map Token.lexeme) →
      ∃ e, parse (ts ++ stop :: behind) = .error (.formula e)) ∧
    parse (ts ++ stop :: behind) = parse (ts ++ [stop]) := by
  obtain ⟨out, hout, hval⟩ := parse_eq hts hstop
  refine ⟨fun e => ⟨fun h => ?_, ?_⟩, fun d d' hd hd' => ?_, fun hnone => ?_, ?_⟩
  · rw [hout behind] at h
    cases out with
    | error e' => cases h
    | ok e' =>
        cases h
        exact hval e rfl
  · rintro ⟨d, hd, rfl⟩
    exact parse_of_derivation hts hstop behind d hd
  · -- both derivations end where the formula does
    have hends : (Nonterminal.phrase .conditional).Ends [.stop] := (by decide : 0 < 1)
    exact (d.isDetermined d' (by rw [hd, hd']) hends hends).1
  · cases out with
    | error e => exact ⟨e, hout behind⟩
    | ok e =>
        obtain ⟨d, hd, -⟩ := hval e rfl
        exact absurd ⟨d, hd⟩ hnone
  · rw [hout behind, hout []]

end

/-- The tokens of `1 + x`. -/
def sumTokens : List Token :=
  [⟨.number (.int 1), 0⟩, ⟨.symbol .plus, 2⟩, ⟨.name "x", 4⟩]

/-- A sum has a derivation, and its tree joins the two operands. -/
theorem exists_derivation_sum :
    (∀ t ∈ sumTokens, t.lexeme ≠ .stop) ∧ Token.lexeme ⟨.stop, 5⟩ = .stop ∧
    ∃ d : Derivation (.phrase .conditional), d.lexemes = sumTokens.map Token.lexeme ∧
      d.formula = .binary .add (.literal (.int 1)) (.name "x") := by
  have hts : ∀ t ∈ sumTokens, t.lexeme ≠ .stop := by decide
  have hparse : parse (sumTokens ++ [⟨.stop, 5⟩]) =
      .ok (.binary .add (.literal (.int 1)) (.name "x")) := by rfl
  exact ⟨hts, rfl, ((parse_iff_derivation hts rfl []).1 _).1 hparse⟩

/-! ### Texts -/

theorem scanLexeme_ne_stop {cs rest : List Char} {l : Lexeme} (h : scanLexeme cs = some (l, rest)) :
    l ≠ .stop := by
  unfold scanLexeme at h
  split at h
  · cases h
    simp
  · split at h
    · cases h
    · split at h
      · obtain ⟨r, -, hr⟩ := Option.map_eq_some_iff.1 h
        cases hr
        simp
      · split at h
        · cases h
          simp
        · obtain ⟨r, -, hr⟩ := Option.map_eq_some_iff.1 h
          cases hr
          simp

/-- One end token closes the tokens of a text. -/
theorem tokenizeFrom_eq_append (n pos : Nat) (cs : List Char) {us : List Token}
    (h : tokenizeFrom n pos cs = .ok us) :
    ∃ ts stop, us = ts ++ [stop] ∧ stop.lexeme = .stop ∧ ∀ t ∈ ts, t.lexeme ≠ .stop := by
  induction n generalizing pos cs us with
  | zero =>
      cases h
      exact ⟨[], ⟨.stop, pos⟩, rfl, rfl, by simp⟩
  | succ n ih =>
      cases cs with
      | nil =>
          cases h
          exact ⟨[], ⟨.stop, pos⟩, rfl, rfl, by simp⟩
      | cons c cs =>
          simp only [tokenizeFrom] at h
          split at h
          · exact ih _ _ h
          · split at h
            · cases h
            · rename_i l rest hscan
              cases hnext : tokenizeFrom n (pos + ((c :: cs).length - rest.length)) rest with
              | error e =>
                  rw [hnext] at h
                  cases h
              | ok next =>
                  rw [hnext] at h
                  cases h
                  obtain ⟨ts, stop, rfl, hstop, hts⟩ := ih _ _ hnext
                  refine ⟨⟨l, pos⟩ :: ts, stop, rfl, hstop, ?_⟩
                  exact List.forall_mem_cons.2 ⟨scanLexeme_ne_stop hscan, hts⟩

/-- **Reading a text never walks past its tokens**: it gives a tree, or refuses the formula. -/
theorem read_ok_or_refused (s : String) :
    (∃ e, read s = .ok e) ∨ ∃ e, read s = .error (.formula e) := by
  cases htokens : tokenize s with
  | error e => exact .inr ⟨e, by rw [read, htokens]⟩
  | ok us =>
      obtain ⟨ts, stop, rfl, hstop, hts⟩ := tokenizeFrom_eq_append _ _ _ htokens
      obtain ⟨out, hout, -⟩ := parse_eq hts hstop
      rw [read_of_tokenize htokens, hout []]
      cases out with
      | error e => exact .inr ⟨e, rfl⟩
      | ok e => exact .inl ⟨e, rfl⟩

end Gamebook.Formula
