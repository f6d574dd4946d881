/-
**Formulas that use no chance.**

A formula uses chance by calling the functions that do.  One that does not call them has an outcome
of its own, whatever chance has in store, and takes nothing from chance.

Main definition:

* `Formula.Chanceless` — computations with one outcome that take nothing from chance.

Main results:

* `Formula.Expr.eval_chanceless` — a tree whose calls use no chance is chanceless;
* `Play.evaluate_chanceless` — **a formula that does not use chance leaves the world as it is**, but
  for the line that it leaves when it fails.
-/

import Gamebook.Proofs.Play.Twins

set_option autoImplicit false

namespace Gamebook

namespace Formula

variable {α β : Type}

/-! ### Computations without chance -/

/-- The computation has one outcome, whatever chance has in store, and takes nothing from chance. -/
def Chanceless (m : Chancy α) : Prop := ∃ r, ∀ c, outcome m c = (r, c)

namespace Chanceless

theorem lift (r : Except Fault α) : Chanceless (liftM r : Chancy α) := ⟨r, outcome_liftM r⟩

theorem pure (a : α) : Chanceless (pure a) := ⟨.ok a, fun _ => rfl⟩

theorem throw (e : Fault) : Chanceless (throw e : Chancy α) := ⟨.error e, fun _ => rfl⟩

theorem bind {m : Chancy α} {f : α → Chancy β} (hm : Chanceless m) (hf : ∀ a, Chanceless (f a)) :
    Chanceless (m >>= f) := by
  obtain ⟨r, hr⟩ := hm
  cases r with
  | error e => exact ⟨.error e, fun c => by rw [outcome_bind, hr]⟩
  | ok a =>
      obtain ⟨r', hr'⟩ := hf a
      exact ⟨r', fun c => by rw [outcome_bind, hr]; exact hr' c⟩

theorem tryCatch {m : Chancy α} {handle : Fault → Chancy α} (hm : Chanceless m)
    (hh : ∀ e, Chanceless (handle e)) : Chanceless (tryCatch m handle) := by
  obtain ⟨r, hr⟩ := hm
  cases r with
  | ok a => exact ⟨.ok a, fun c => by rw [outcome_tryCatch, hr]⟩
  | error e =>
      obtain ⟨r', hr'⟩ := hh e
      exact ⟨r', fun c => by rw [outcome_tryCatch, hr]; exact hr' c⟩

end Chanceless

/-! ### Trees and formulas -/

variable {names calls : List String} {scope : Scope}

mutual

/-- A tree whose calls use no chance is chanceless. -/
theorem Expr.eval_chanceless (h : ∀ f vs, f ∉ calls → Chanceless (scope.call f vs)) (e : Expr)
    (he : e.avoids names calls = true) : Chanceless (e.eval scope) := by
  match e with
  | .literal v => exact .pure v
  | .name n => exact .lift _
  | .conditional test yes no =>
      simp only [Expr.avoids, Bool.and_eq_true] at he
      refine (Expr.eval_chanceless h test he.1.1).bind fun v => (Chanceless.lift _).bind fun b => ?_
      cases b
      · exact Expr.eval_chanceless h no he.2
      · exact Expr.eval_chanceless h yes he.1.2
  | .logical op left right =>
      simp only [Expr.avoids, Bool.and_eq_true] at he
      have hright := Expr.eval_chanceless h right he.2
      cases op with
      | and =>
          have hleft := Expr.eval_chanceless h left he.1
          refine hleft.bind fun v => (Chanceless.lift _).bind fun b => ?_
          cases b
          · exact .pure v
          · exact hright
      | or =>
          have hleft := Expr.eval_chanceless h left he.1
          refine hleft.bind fun v => (Chanceless.lift _).bind fun b => ?_
          cases b
          · exact hright
          · exact .pure v
      | orNull =>
          refine (Expr.eval_chanceless h left he.1).bind fun v => ?_
          cases v.isNull
          · exact .pure v
          · exact hright
  | .binary op left right =>
      simp only [Expr.avoids, Bool.and_eq_true] at he
      refine (Expr.eval_chanceless h left he.1).bind fun v => ?_
      exact (Expr.eval_chanceless h right he.2).bind fun w => .lift _
  | .unary op operand => exact (Expr.eval_chanceless h operand he).bind fun v => .lift _
  | .member object key =>
      simp only [Expr.avoids, Bool.and_eq_true] at he
      refine (Expr.eval_chanceless h object he.1).bind fun v => ?_
      exact (Expr.eval_chanceless h key he.2).bind fun k => .lift _
  | .call function arguments =>
      simp only [Expr.avoids, Bool.and_eq_true] at he
      refine (Expr.evalList_chanceless h arguments he.2).bind fun vs => ?_
      exact h function vs (by simpa using he.1)

theorem Expr.evalList_chanceless (h : ∀ f vs, f ∉ calls → Chanceless (scope.call f vs))
    (es : List Expr) (hes : Expr.avoidsList names calls es = true) :
    Chanceless (Expr.evalList scope es) := by
  match es with
  | [] => exact .pure []
  | e :: es =>
      simp only [Expr.avoidsList, Bool.and_eq_true] at hes
      refine (Expr.eval_chanceless h e hes.1).bind fun v => ?_
      exact (Expr.evalList_chanceless h es hes.2).bind fun vs => .pure (v :: vs)

end

/-- Content whose calls use no chance is chanceless. -/
theorem evaluate_chanceless (h : ∀ f vs, f ∉ calls → Chanceless (scope.call f vs)) {formula : Value}
    (hformula : avoids names calls formula = true) : Chanceless (evaluate scope formula) := by
  cases formula with
  | null => exact .pure _
  | str text =>
      simp only [evaluate]
      split
      · exact .pure _
      · unfold evaluateText
        simp only [avoids] at hformula
        split
        · exact .throw _
        · rename_i e he
          rw [he] at hformula
          exact (Expr.eval_chanceless h e hformula).tryCatch fun fault => .throw _
  | _ => exact .pure _

end Formula

/-! ### Formulas in a world -/

open Formula World

/-- A call of a function that does not use chance takes nothing from it. -/
theorem World.call_chanceless {w : World} {extra : Fields Value} {scope : Scope}
    (hscope : w.scope extra = .ok scope) {name : String} (hname : name ∉ chanceCalls)
    (vs : List Value) : Chanceless (scope.call name vs) := by
  obtain ⟨hroll, hrandom⟩ : name ≠ "roll" ∧ name ≠ "random" := by simpa [chanceCalls] using hname
  have hbuiltins : scope.builtins = w.builtins := by
    obtain ⟨_, _, hscope⟩ := exists_of_bind_eq_ok hscope
    cases hscope
    rfl
  rw [Scope.call, hbuiltins, builtins, chanceBuiltin?_eq_none _ hroll hrandom]
  dsimp only
  cases w.stateBuiltin? name with
  | some f => exact (Chanceless.lift _).tryCatch fun e => by cases e <;> exact .throw _
  | none =>
      dsimp only [mathBuiltin?]
      cases math? name with
      | none => exact .throw _
      | some f =>
          refine ((Chanceless.lift (f vs)).bind fun n => .pure _).tryCatch fun e => ?_
          cases e <;> exact .throw _

namespace Play

variable {w : World} {formula : Value}

/-- **A formula that does not use chance leaves the world as it is.**  When it fails it is worth
zero and, unless asked to be quiet, leaves a line in the journal; that is all that being quiet
changes. -/
theorem evaluate_chanceless (hformula : avoids [] chanceCalls formula = true)
    (extra : Fields Value) (w : World) :
    (∃ r, ∀ quiet, (evaluate formula extra quiet).runFrom w = (r, w)) ∨
      (evaluate formula extra true).runFrom w = (.ok (.int 0), w) := by
  simp only [runFrom_evaluate]
  cases hscope : w.scope extra with
  | error e => exact .inl ⟨.error e, fun _ => rfl⟩
  | ok scope =>
      have hcall : ∀ f vs, f ∉ chanceCalls → Chanceless (scope.call f vs) := fun f vs hf =>
        call_chanceless hscope hf vs
      obtain ⟨r, hr⟩ := Formula.evaluate_chanceless hcall hformula
      have hrun : (Formula.evaluate scope formula).run.run w.chance = (r, w.chance) := hr w.chance
      simp only [hrun]
      cases r with
      | ok v => exact .inl ⟨.ok v, fun _ => rfl⟩
      | error e =>
          cases e with
          | formula e => exact .inr rfl
          | _ => exact .inl ⟨.error _, fun _ => rfl⟩

/-- Quietly evaluated, a formula that does not use chance leaves the world as it is. -/
theorem evaluate_quiet (hformula : avoids [] chanceCalls formula = true) (extra : Fields Value)
    (w : World) : ((evaluate formula extra true).runFrom w).2 = w := by
  rcases evaluate_chanceless hformula extra w with ⟨r, hr⟩ | hr
  · rw [hr]
  · rw [hr]

end Play

end Gamebook
