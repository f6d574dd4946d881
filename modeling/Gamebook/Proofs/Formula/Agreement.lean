/-
**Formulas in scopes that agree.**

A formula sees its scope through the names and the functions that occur in it.  Two scopes that
agree on these give it values that differ at most in what follows the inventory, or the same fault,
whatever chance has in store.

Main definitions:

* `Formula.Agree` — computations with the same outcome whatever chance has in store;
* `Formula.Expr.avoids`, `Formula.avoids` — formulas without some names and functions;
* `Formula.Scope.Alike` — scopes that agree apart from some names and functions.

Main result: `Formula.evaluate_agree` — **formulas have the same outcome in scopes that agree**.
-/

import Gamebook.Formula.Eval
import Gamebook.Proofs.Outcome
import Gamebook.Proofs.Value.Detached

set_option autoImplicit false

namespace Gamebook

namespace Formula

open Value

variable {α β γ δ : Type}

/-! ### Computations that agree -/

/-- The outcome of a computation that uses chance. -/
def outcome (m : Chancy α) (c : Chance) : Except Fault α × Chance := m.run.run c

theorem outcome_bind (m : Chancy α) (f : α → Chancy β) (c : Chance) :
    outcome (m >>= f) c = match outcome m c with
      | (.ok a, c') => outcome (f a) c'
      | (.error e, c') => (.error e, c') := by
  change (ExceptT.run (m >>= f)).run c = _
  rw [ExceptT.run_bind, StateT.run_bind]
  rcases h : outcome m c with ⟨r, c'⟩
  have h' : StateT.run (ExceptT.run m) c = (r, c') := h
  rw [h']
  cases r <;> rfl

theorem outcome_tryCatch (m : Chancy α) (handle : Fault → Chancy α) (c : Chance) :
    outcome (tryCatch m handle) c = match outcome m c with
      | (.ok a, c') => (.ok a, c')
      | (.error e, c') => outcome (handle e) c' := by
  change (ExceptT.run (tryCatch m handle)).run c = _
  rw [ExceptT.run_tryCatch, StateT.run_bind]
  rcases h : outcome m c with ⟨r, c'⟩
  have h' : StateT.run (ExceptT.run m) c = (r, c') := h
  rw [h']
  cases r <;> rfl

@[simp] theorem outcome_liftM (r : Except Fault α) (c : Chance) :
    outcome (liftM r : Chancy α) c = (r, c) := by
  cases r <;> rfl

/-- The two computations have the same outcome, whatever chance has in store for either. -/
def Agree (Q : α → β → Prop) (m : Chancy α) (m' : Chancy β) : Prop :=
  ∀ c c', Paired False Q (outcome m c).1 (outcome m' c').1

namespace Agree

variable {Q : α → β → Prop} {m : Chancy α} {m' : Chancy β}

theorem pure {a : α} {b : β} (h : Q a b) : Agree Q (pure a) (pure b) := fun _ _ => .ok h

theorem throw (e : Fault) : Agree Q (throw e) (throw e) := fun _ _ => .error e

theorem lift {r : Except Fault α} {r' : Except Fault β} (h : Paired False Q r r') :
    Agree Q (liftM r) (liftM r') := fun c c' => by
  rw [outcome_liftM, outcome_liftM]
  exact h

theorem bind {P : γ → δ → Prop} {f : α → Chancy γ} {f' : β → Chancy δ} (hm : Agree Q m m')
    (hf : ∀ a b, Q a b → Agree P (f a) (f' b)) : Agree P (m >>= f) (m' >>= f') := fun c c' => by
  rw [outcome_bind, outcome_bind]
  have h := hm c c'
  generalize outcome m c = o, outcome m' c' = o' at h
  obtain ⟨r, d⟩ := o
  obtain ⟨r', d'⟩ := o'
  cases h with
  | ok h => exact hf _ _ h d d'
  | error e => exact .error e
  | left h => exact h.elim
  | right h => exact h.elim

theorem tryCatch {handle : Fault → Chancy α} {handle' : Fault → Chancy β} (hm : Agree Q m m')
    (hh : ∀ e, Agree Q (handle e) (handle' e)) :
    Agree Q (tryCatch m handle) (tryCatch m' handle') := fun c c' => by
  rw [outcome_tryCatch, outcome_tryCatch]
  have h := hm c c'
  generalize outcome m c = o, outcome m' c' = o' at h
  obtain ⟨r, d⟩ := o
  obtain ⟨r', d'⟩ := o'
  cases h with
  | ok h => exact .ok h
  | error e => exact hh e d d'
  | left h => exact h.elim
  | right h => exact h.elim

end Agree

/-! ### What a formula avoids -/

mutual

/-- Whether some names and functions do not occur in a tree. -/
def Expr.avoids (names calls : List String) : Expr → Bool
  | .literal _ => true
  | .name n => !names.contains n
  | .conditional test yes no =>
      test.avoids names calls && yes.avoids names calls && no.avoids names calls
  | .logical _ left right => left.avoids names calls && right.avoids names calls
  | .binary _ left right => left.avoids names calls && right.avoids names calls
  | .unary _ operand => operand.avoids names calls
  | .member object key => object.avoids names calls && key.avoids names calls
  | .call function arguments =>
      !calls.contains function && Expr.avoidsList names calls arguments

/-- Whether some names and functions do not occur in some trees. -/
def Expr.avoidsList (names calls : List String) : List Expr → Bool
  | [] => true
  | e :: es => e.avoids names calls && Expr.avoidsList names calls es

end

/-- Whether some names and functions do not occur in content that may be a formula.  A text that
cannot be read has none. -/
def avoids (names calls : List String) : Value → Bool
  | .str s =>
      match read (Text.strip s) with
      | .ok e => e.avoids names calls
      | .error _ => true
  | _ => true

mutual

/-- Every tree does without no names and no functions. -/
theorem Expr.avoids_nil (e : Expr) : e.avoids [] [] = true := by
  match e with
  | .literal _ | .name _ => rfl
  | .conditional test yes no => simp [avoids, test.avoids_nil, yes.avoids_nil, no.avoids_nil]
  | .logical _ left right | .binary _ left right =>
      simp [avoids, left.avoids_nil, right.avoids_nil]
  | .unary _ operand => simp [avoids, operand.avoids_nil]
  | .member object key => simp [avoids, object.avoids_nil, key.avoids_nil]
  | .call _ arguments => simp [avoids, Expr.avoidsList_nil arguments]

theorem Expr.avoidsList_nil (es : List Expr) : Expr.avoidsList [] [] es = true := by
  match es with
  | [] => rfl
  | e :: es => simp [avoidsList, e.avoids_nil, Expr.avoidsList_nil es]

end

theorem avoids_nil (formula : Value) : avoids [] [] formula = true := by
  cases formula with
  | str s =>
      simp only [avoids]
      split
      · exact Expr.avoids_nil _
      · rfl
  | _ => rfl

/-! ### Scopes that agree -/

/-- The two scopes agree apart from some names and functions. -/
structure Scope.Alike (names calls : List String) (s s' : Scope) : Prop where
  name (n : String) : n ∉ names → Paired False Like (s.lookup n) (s'.lookup n)
  call (f : String) (vs vs' : List Value) : f ∉ calls → List.Forall₂ Like vs vs' →
    Agree Like (s.call f vs) (s'.call f vs')
  digitLimit : s.digitLimit = s'.digitLimit

variable {names calls : List String} {s s' : Scope}

theorem isTrue_like {v w : Value} (h : Like v w) : v.isTrue = w.isTrue := by
  rw [← isTrue_detached v, h, isTrue_detached]

theorem isNull_like {v w : Value} (h : Like v w) : v.isNull = w.isNull := by
  rw [← isNull_detached v, h, isNull_detached]

/-- Values that are alike have one truth value, so that a test of them goes on in one way. -/
theorem agree_isTrue_bind {Q : α → β → Prop} {v w : Value} (hvw : Like v w)
    {f : Bool → Chancy α} {f' : Bool → Chancy β} (h : ∀ b, Agree Q (f b) (f' b)) :
    Agree Q (do let b ← v.isTrue; f b) (do let b ← w.isTrue; f' b) := by
  rw [isTrue_like hvw]
  refine (Agree.lift (.of_eq rfl)).bind fun b b' hb => ?_
  subst hb
  exact h b

mutual

/-- **A tree has the same value** in scopes that agree on what occurs in it. -/
theorem Expr.eval_agree (h : s.Alike names calls s') (e : Expr)
    (he : e.avoids names calls = true) : Agree Like (e.eval s) (e.eval s') := by
  match e with
  | .literal v => exact .pure (.refl v)
  | .name n =>
      refine .lift (h.name n ?_)
      simpa [Expr.avoids] using he
  | .conditional test yes no =>
      simp only [Expr.avoids, Bool.and_eq_true] at he
      -- the tests agree, so both scopes go on with the same branch
      refine (Expr.eval_agree h test he.1.1).bind fun v w hvw => agree_isTrue_bind hvw fun b => ?_
      cases b
      · exact Expr.eval_agree h no he.2
      · exact Expr.eval_agree h yes he.1.2
  | .logical op left right =>
      simp only [Expr.avoids, Bool.and_eq_true] at he
      cases op with
      | and =>
          refine (Expr.eval_agree h left he.1).bind fun v w hvw => ?_
          refine agree_isTrue_bind hvw fun b => ?_
          cases b
          · exact .pure hvw
          · exact Expr.eval_agree h right he.2
      | or =>
          refine (Expr.eval_agree h left he.1).bind fun v w hvw => ?_
          refine agree_isTrue_bind hvw fun b => ?_
          cases b
          · exact Expr.eval_agree h right he.2
          · exact .pure hvw
      | orNull =>
          refine (Expr.eval_agree h left he.1).bind fun v w hvw => ?_
          rw [isNull_like hvw]
          cases w.isNull
          · exact .pure hvw
          · exact Expr.eval_agree h right he.2
  | .binary op left right =>
      simp only [Expr.avoids, Bool.and_eq_true] at he
      refine (Expr.eval_agree h left he.1).bind fun v v' hv => ?_
      refine (Expr.eval_agree h right he.2).bind fun w w' hw => .lift ?_
      rw [← binary_detached s.digitLimit, hv, hw, binary_detached, h.digitLimit]
      exact .refl (fun _ => .refl _) _
  | .unary op operand =>
      refine (Expr.eval_agree h operand he).bind fun v v' hv => .lift ?_
      rw [← unary_detached, hv, unary_detached]
      exact .refl (fun _ => .refl _) _
  | .member object key =>
      simp only [Expr.avoids, Bool.and_eq_true] at he
      refine (Expr.eval_agree h object he.1).bind fun v v' hv => ?_
      refine (Expr.eval_agree h key he.2).bind fun k k' hk => .lift (.of_map_eq ?_)
      rw [← member_detached, ← member_detached, hv, hk, h.digitLimit]
  | .call function arguments =>
      simp only [Expr.avoids, Bool.and_eq_true] at he
      refine (Expr.evalList_agree h arguments he.2).bind fun vs vs' hvs => ?_
      exact h.call function vs vs' (by simpa using he.1) hvs

theorem Expr.evalList_agree (h : s.Alike names calls s') (es : List Expr)
    (hes : Expr.avoidsList names calls es = true) :
    Agree (List.Forall₂ Like) (Expr.evalList s es) (Expr.evalList s' es) := by
  match es with
  | [] => exact .pure .nil
  | e :: es =>
      simp only [Expr.avoidsList, Bool.and_eq_true] at hes
      refine (Expr.eval_agree h e hes.1).bind fun v v' hv => ?_
      refine (Expr.evalList_agree h es hes.2).bind fun vs vs' hvs => .pure ?_
      exact .cons hv hvs

end

/-- **Formulas have the same outcome in scopes that agree** on what occurs in them. -/
theorem evaluate_agree (h : s.Alike names calls s') {formula : Value}
    (hformula : avoids names calls formula = true) :
    Agree Like (evaluate s formula) (evaluate s' formula) := by
  cases formula with
  | null => exact .pure (.refl _)
  | str text =>
      simp only [evaluate]
      split
      · exact .pure (.refl _)
      · unfold evaluateText
        simp only [avoids] at hformula
        split
        · exact .throw _
        · rename_i e he
          rw [he] at hformula
          exact (Expr.eval_agree h e hformula).tryCatch fun fault => .throw _
  | _ => exact .pure (.refl _)

end Formula

end Gamebook
