/-
**How a formula can fail.**

Inside a formula, arithmetic may leave the range of numbers, a value may be of the wrong kind, and
an integer may have too many digits to become text; everything else that can go wrong is an error of
the formula itself.  Outside, the first two have become errors of the formula, too.  An integer with
too many digits has not, and it is met only where texts have a digit limit: without one a formula
with nothing but the functions on numbers has a value or is refused.

Main definitions:

* `FailsOnly`, `GivesOnly` — the faults and the results that an outcome can be;
* `Fault.InFormula`, `Fault.OfFormula` — the faults inside a formula and of a formula as a whole.

Main results:

* `Formula.Expr.eval_failsOnly` — **how evaluating a tree can fail**;
* `Formula.evaluate_failsOnly` — how evaluating content can fail;
* `Formula.evaluate_returns_or_refuses` — **without a digit limit content has a value or its
  evaluation ends in an error of the formula**.
-/

import Gamebook.Proofs.Formula.Agreement
import Gamebook.Proofs.Formula.Parsing

set_option autoImplicit false

namespace Gamebook

/-! ### Outcomes and their faults -/

/-- If the outcome is a fault, then one of these. -/
def FailsOnly (F : Fault → Prop) {α : Type} (r : Except Fault α) : Prop :=
  ∀ e, r = .error e → F e

/-- If the outcome is a result, then one of these. -/
def GivesOnly {α : Type} (P : α → Prop) (r : Except Fault α) : Prop :=
  ∀ a, r = .ok a → P a

instance {α : Type} (P : α → Prop) [DecidablePred P] (r : Except Fault α) :
    Decidable (GivesOnly P r) :=
  match r with
  | .ok a => decidable_of_iff (P a) ⟨fun h _ ha => Except.ok.inj ha ▸ h, fun h => h a rfl⟩
  | .error _ => .isTrue nofun

namespace FailsOnly

variable {F G : Fault → Prop} {α β : Type} {r : Except Fault α}

theorem ok (a : α) : FailsOnly F (.ok a) := nofun

theorem error {e : Fault} (h : F e) : FailsOnly F (.error e : Except Fault α) := fun _ he =>
  Except.error.inj he ▸ h

theorem of_exists (h : ∃ a, r = .ok a) : FailsOnly F r := by
  obtain ⟨a, rfl⟩ := h
  exact .ok a

theorem mono (h : FailsOnly F r) (hFG : ∀ e, F e → G e) : FailsOnly G r := fun e he =>
  hFG e (h e he)

instance [DecidablePred F] (r : Except Fault α) : Decidable (FailsOnly F r) :=
  match r with
  | .ok a => .isTrue (.ok a)
  | .error e => decidable_of_iff (F e) ⟨.error, fun h => h e rfl⟩

/-- What fails in no way has a result. -/
theorem exists_ok (h : FailsOnly (fun _ => False) r) : ∃ a, r = .ok a := by
  cases r with
  | ok a => exact ⟨a, rfl⟩
  | error e => exact (h e rfl).elim

theorem bind {f : α → Except Fault β} (hr : FailsOnly F r)
    (hf : ∀ a, r = .ok a → FailsOnly F (f a)) : FailsOnly F (r >>= f) := by
  cases r with
  | ok a => exact hf a rfl
  | error e => exact .error (hr e rfl)

/-- A result is looked at, and something is made of it. -/
theorem map {f : α → β} (hr : FailsOnly F r) :
    FailsOnly F (r >>= fun a => (pure (f a) : Except Fault β)) :=
  hr.bind fun a _ => .ok (f a)

end FailsOnly

/-- The faults that can come about inside a formula.  Without a digit limit no integer has too many
digits. -/
def Fault.InFormula (limit : DigitLimit) : Fault → Prop
  | formula _ | outOfRange | wrongKind => True
  | tooManyDigits => limit ≠ none
  | _ => False

/-- The faults of a formula as a whole. -/
def Fault.OfFormula (limit : DigitLimit) : Fault → Prop
  | formula _ => True
  | tooManyDigits => limit ≠ none
  | _ => False

theorem Fault.ofFormula_settle {limit : DigitLimit} {e : Fault} (h : e.InFormula limit) :
    (Formula.settle e).OfFormula limit := by
  cases e with
  | formula | outOfRange | wrongKind => trivial
  | tooManyDigits => exact h
  | _ => exact h.elim

theorem inRange_failsOnly {F : Fault → Prop} (hF : F .outOfRange) {α : Type} (o : Option α) :
    FailsOnly F (inRange o) := by
  cases o with
  | none => exact .error hF
  | some a => exact .ok a

theorem Value.isTrue_failsOnly {F : Fault → Prop} (hF : F .outOfRange) (v : Value) :
    FailsOnly F v.isTrue := by
  cases v with
  | num n =>
      simp only [isTrue]
      split
      · exact .ok false
      · exact inRange_failsOnly hF _
  | _ => exact .ok _

namespace Value

mutual

@[simp] theorem isWritable_none (v : Value) : v.isWritable none = true := by
  match v with
  | num n => cases n <;> rfl
  | list vs => exact isWritableList_none vs
  | obj fs | inventory fs => exact isWritableFields_none fs
  | flags content => exact isWritable_none content
  | null | bool _ | str _ => rfl

theorem isWritableList_none (vs : List Value) : isWritableList none vs = true := by
  match vs with
  | [] => rfl
  | v :: vs => rw [isWritableList, isWritable_none v, isWritableList_none vs, Bool.and_self]

theorem isWritableFields_none (fs : List (Key × Value)) : isWritableFields none fs = true := by
  match fs with
  | [] => rfl
  | (k, v) :: fs =>
      have hk : k.isWritable none = true := by
        cases k with
        | num n => cases n <;> rfl
        | _ => rfl
      rw [isWritableFields, hk, isWritable_none v, isWritableFields_none fs]
      rfl

end

theorem displayWithin_failsOnly {F : Fault → Prop} {limit : DigitLimit}
    (hF : limit ≠ none → F .tooManyDigits) (v : Value) : FailsOnly F (v.displayWithin limit) := by
  unfold displayWithin
  split
  · exact .ok _
  · rename_i hv
    exact .error (hF fun hlimit => hv (hlimit ▸ v.isWritable_none))

end Value

namespace Formula

open Fault (InFormula OfFormula)
open Value (isTrue_failsOnly displayWithin_failsOnly)

variable {limit : DigitLimit}

/-! ### Operators -/

section

variable (v w : Value)

theorem operand_failsOnly (op : Symbol) : FailsOnly (InFormula limit) (operand op v) := by
  cases v with
  | null => exact .error trivial
  | _ => exact .ok _

theorem arithmetic_failsOnly (op : Symbol) (f : Number → Number → Option Number) :
    FailsOnly (InFormula limit) (arithmetic op f v w) := by
  have hoperands : FailsOnly (InFormula limit) (operands op v w) :=
    (operand_failsOnly v op).bind fun _ _ => (operand_failsOnly w op).map
  exact hoperands.bind fun ab _ => (inRange_failsOnly trivial (f ab.1 ab.2)).map

theorem add_failsOnly : FailsOnly (InFormula limit) (add limit v w) := by
  unfold add
  split
  · exact (displayWithin_failsOnly id w).map
  · exact (displayWithin_failsOnly id v).map
  · exact arithmetic_failsOnly v w _ _

theorem binary_failsOnly (op : BinaryOp) : FailsOnly (InFormula limit) (op.apply limit v w) := by
  cases op with
  | add => exact add_failsOnly v w
  | sub | mul | div | rem => exact arithmetic_failsOnly v w _ _
  | _ => exact .ok _

theorem unary_failsOnly (op : UnaryOp) : FailsOnly (InFormula limit) (op.apply v) := by
  cases op with
  | not => exact (isTrue_failsOnly trivial v).map
  | negate => exact (operand_failsOnly v .minus).map
  | number => exact (operand_failsOnly v .plus).map

/-! ### Members -/

theorem indexOf_failsOnly (key : Value) : FailsOnly (InFormula limit) (indexOf? key) := by
  cases key with
  | num n =>
      refine (inRange_failsOnly trivial n.toFloat?).bind fun x _ => ?_
      split <;> exact .ok _
  | _ => exact .ok none

theorem memberOfRow_failsOnly (items : List Value) (key : Value) :
    FailsOnly (InFormula limit) (memberOfRow items key) := by
  unfold memberOfRow
  split
  · exact .ok _
  · refine (indexOf_failsOnly _).bind fun i _ => ?_
    split <;> exact .ok _

theorem member_failsOnly (v key : Value) : FailsOnly (InFormula limit) (member limit v key) := by
  match v with
  | .null => exact (displayWithin_failsOnly id key).bind fun k _ => .error trivial
  | .obj fields => exact (displayWithin_failsOnly id key).map
  | .inventory counts => exact (displayWithin_failsOnly id key).map
  | .list items => exact memberOfRow_failsOnly items key
  | .str s => exact memberOfRow_failsOnly _ key
  | .flags content => exact (member_failsOnly content key).map
  | .bool _ | .num _ => exact .ok _

end

/-! ### Functions on numbers -/

theorem anyNaN_failsOnly (ns : List Number) : FailsOnly (InFormula limit) (anyNaN ns) := by
  induction ns with
  | nil => exact .ok false
  | cons a rest ih =>
      refine (inRange_failsOnly trivial a.isNaN?).bind fun nan _ => ?_
      split
      · exact .ok true
      · exact ih

theorem bestOf_failsOnly (better : Number → Number → Bool) (default : Number) (ns : List Number) :
    FailsOnly (InFormula limit) (bestOf better default ns) := by
  refine (anyNaN_failsOnly ns).bind fun nan _ => ?_
  cases nan with
  | true => exact .ok _
  | false => cases ns <;> exact .ok _

theorem clamp_failsOnly (n low high : Number) : FailsOnly (InFormula limit) (clamp n low high) :=
  (bestOf_failsOnly _ _ [n, low]).bind fun _ _ => bestOf_failsOnly _ _ _

theorem ofOne_failsOnly (f : Number → Option Number) (vs : List Value) :
    FailsOnly (InFormula limit) (ofOne f vs) := by
  unfold ofOne
  split
  · exact inRange_failsOnly trivial _
  · exact .error trivial

theorem ofThree_failsOnly {f : Number → Number → Number → Except Fault Number}
    (hf : ∀ a b c, FailsOnly (InFormula limit) (f a b c)) (vs : List Value) :
    FailsOnly (InFormula limit) (ofThree f vs) := by
  unfold ofThree
  split
  · exact hf _ _ _
  · exact .error trivial

/-- How a function on numbers can fail, whichever it is. -/
theorem math_failsOnly {name : String} {f : List Value → Except Fault Number}
    (h : math? name = some f) (vs : List Value) : FailsOnly (InFormula limit) (f vs) := by
  have hmem : some f ∈ [some fun vs : List Value => minimum (vs.map Value.toNumber),
      some fun vs : List Value => maximum (vs.map Value.toNumber), some (ofThree clamp),
      some (ofOne Number.floor?), some (ofOne Number.ceil?), some (ofOne fun n => some n.abs),
      some (ofOne Number.round?), none] := by
    rw [← h, math?]
    repeat' split
    all_goals simp
  simp only [List.mem_cons, Option.some.injEq, reduceCtorEq, List.not_mem_nil, or_false] at hmem
  rcases hmem with rfl | rfl | rfl | rfl | rfl | rfl | rfl
  · exact bestOf_failsOnly _ _ _
  · exact bestOf_failsOnly _ _ _
  · exact ofThree_failsOnly clamp_failsOnly vs
  all_goals exact ofOne_failsOnly _ vs

/-! ### Trees -/

section

variable {α β : Type} {F : Fault → Prop}

/-- How a computation that uses chance can fail, whatever chance has in store. -/
def ChancyFailsOnly (F : Fault → Prop) (m : Chancy α) : Prop :=
  ∀ c, FailsOnly F (outcome m c).1

namespace ChancyFailsOnly

theorem pure (a : α) : ChancyFailsOnly F (pure a) := fun _ => .ok a

theorem throw {e : Fault} (h : F e) : ChancyFailsOnly F (throw e : Chancy α) := fun _ => .error h

theorem lift {r : Except Fault α} (h : FailsOnly F r) : ChancyFailsOnly F (liftM r) := fun c => by
  rw [outcome_liftM]
  exact h

theorem bind {m : Chancy α} {f : α → Chancy β} (hm : ChancyFailsOnly F m)
    (hf : ∀ a, ChancyFailsOnly F (f a)) : ChancyFailsOnly F (m >>= f) := fun c => by
  rw [outcome_bind]
  have h := hm c
  generalize outcome m c = o at h
  obtain ⟨r, c'⟩ := o
  cases r with
  | ok a => exact hf a c'
  | error e => exact .error (h e rfl)

theorem tryCatch {G : Fault → Prop} {m : Chancy α} {handle : Fault → Chancy α}
    (hm : ChancyFailsOnly G m) (hh : ∀ e, G e → ChancyFailsOnly F (handle e)) :
    ChancyFailsOnly F (tryCatch m handle) := fun c => by
  rw [outcome_tryCatch]
  have h := hm c
  generalize outcome m c = o at h
  obtain ⟨r, c'⟩ := o
  cases r with
  | ok a => exact .ok a
  | error e => exact hh e (h e rfl) c'

end ChancyFailsOnly

end

variable {names calls : List String} {scope : Scope}

/-- How a call can fail when the function called fails like this, too. -/
theorem call_failsOnly_of {F : Fault → Prop} (hF : ∀ e, F (.formula e)) {f : String}
    {vs : List Value}
    (h : ∀ builtin, scope.builtins f = some builtin → ChancyFailsOnly F (builtin vs)) :
    ChancyFailsOnly F (scope.call f vs) := by
  unfold Scope.call
  split
  · exact .throw (hF _)
  · rename_i builtin hbuiltin
    refine (h builtin hbuiltin).tryCatch fun e he => ?_
    cases e with
    | wrongKind => exact .throw (hF _)
    | _ => exact .throw he

/-- How a call can fail when the function called fails as a formula does. -/
theorem call_failsOnly {f : String} {vs : List Value}
    (h : ∀ builtin, scope.builtins f = some builtin →
      ChancyFailsOnly (InFormula scope.digitLimit) (builtin vs)) :
    ChancyFailsOnly (InFormula scope.digitLimit) (scope.call f vs) :=
  call_failsOnly_of (fun _ => trivial) h

section

variable {F G : Fault → Prop}

mutual

/-- **How evaluating a tree can fail**, when every function that it may call fails like that, too,
and the faults inside a formula are among these. -/
theorem Expr.eval_failsOnly (hF : ∀ e, InFormula scope.digitLimit e → F e)
    (h : ∀ f vs, f ∉ calls → ChancyFailsOnly F (scope.call f vs)) (e : Expr)
    (he : e.avoids names calls = true) : ChancyFailsOnly F (e.eval scope) := by
  match e with
  | .literal v => exact .pure v
  | .name n =>
      refine .lift ?_
      unfold Scope.lookup
      split
      · exact .ok _
      · exact .error (hF _ trivial)
  | .conditional test yes no =>
      simp only [Expr.avoids, Bool.and_eq_true] at he
      refine (Expr.eval_failsOnly hF h test he.1.1).bind fun v => ?_
      refine (ChancyFailsOnly.lift (isTrue_failsOnly (hF _ trivial) v)).bind fun b => ?_
      cases b
      · exact Expr.eval_failsOnly hF h no he.2
      · exact Expr.eval_failsOnly hF h yes he.1.2
  | .logical op left right =>
      simp only [Expr.avoids, Bool.and_eq_true] at he
      have hright := Expr.eval_failsOnly hF h right he.2
      cases op with
      | and =>
          refine (Expr.eval_failsOnly hF h left he.1).bind fun v => ?_
          refine (ChancyFailsOnly.lift (isTrue_failsOnly (hF _ trivial) v)).bind fun b => ?_
          cases b
          · exact .pure v
          · exact hright
      | or =>
          refine (Expr.eval_failsOnly hF h left he.1).bind fun v => ?_
          refine (ChancyFailsOnly.lift (isTrue_failsOnly (hF _ trivial) v)).bind fun b => ?_
          cases b
          · exact hright
          · exact .pure v
      | orNull =>
          refine (Expr.eval_failsOnly hF h left he.1).bind fun v => ?_
          cases v.isNull
          · exact .pure v
          · exact hright
  | .binary op left right =>
      simp only [Expr.avoids, Bool.and_eq_true] at he
      refine (Expr.eval_failsOnly hF h left he.1).bind fun v => ?_
      refine (Expr.eval_failsOnly hF h right he.2).bind fun w => .lift ?_
      exact (binary_failsOnly v w op).mono hF
  | .unary op operand =>
      refine (Expr.eval_failsOnly hF h operand he).bind fun v => .lift ?_
      exact (unary_failsOnly v op).mono hF
  | .member object key =>
      simp only [Expr.avoids, Bool.and_eq_true] at he
      refine (Expr.eval_failsOnly hF h object he.1).bind fun v => ?_
      refine (Expr.eval_failsOnly hF h key he.2).bind fun k => .lift ?_
      exact (member_failsOnly v k).mono hF
  | .call function arguments =>
      simp only [Expr.avoids, Bool.and_eq_true] at he
      refine (Expr.evalList_failsOnly hF h arguments he.2).bind fun vs => ?_
      exact h function vs (by simpa using he.1)

theorem Expr.evalList_failsOnly (hF : ∀ e, InFormula scope.digitLimit e → F e)
    (h : ∀ f vs, f ∉ calls → ChancyFailsOnly F (scope.call f vs)) (es : List Expr)
    (hes : Expr.avoidsList names calls es = true) :
    ChancyFailsOnly F (Expr.evalList scope es) := by
  match es with
  | [] => exact .pure []
  | e :: es =>
      simp only [Expr.avoidsList, Bool.and_eq_true] at hes
      refine (Expr.eval_failsOnly hF h e hes.1).bind fun v => ?_
      exact (Expr.evalList_failsOnly hF h es hes.2).bind fun vs => .pure (v :: vs)

end

/-- How evaluating content can fail, when its tree and its functions fail like this: a fault inside
a formula becomes one of the formula as a whole. -/
theorem evaluate_failsOnly_of (hF : ∀ e, InFormula scope.digitLimit e → F e)
    (hG : ∀ e, F e → G (settle e))
    (h : ∀ f vs, f ∉ calls → ChancyFailsOnly F (scope.call f vs)) {formula : Value}
    (hformula : avoids names calls formula = true) :
    ChancyFailsOnly G (evaluate scope formula) := by
  cases formula with
  | null => exact .pure _
  | str text =>
      simp only [evaluate]
      split
      · exact .pure _
      · unfold evaluateText
        simp only [avoids] at hformula
        rcases read_ok_or_refused (Text.strip text) with ⟨e, he⟩ | ⟨e, he⟩
        · rw [he] at hformula ⊢
          refine (Expr.eval_failsOnly hF h e hformula).tryCatch fun fault hfault => ?_
          exact .throw (hG fault hfault)
        · rw [he]
          exact .throw (hG (.formula e) (hF _ trivial))
  | _ => exact .pure _

end

/-- How evaluating content can fail: a formula is refused or has no result, or an integer has too
many digits. -/
theorem evaluate_failsOnly
    (h : ∀ f vs, f ∉ calls → ChancyFailsOnly (InFormula scope.digitLimit) (scope.call f vs))
    {formula : Value} (hformula : avoids names calls formula = true) :
    ChancyFailsOnly (OfFormula scope.digitLimit) (evaluate scope formula) :=
  evaluate_failsOnly_of (fun _ he => he) (fun _ he => Fault.ofFormula_settle he) h hformula

/-- **How evaluating a text can end** where the functions are those on numbers and texts have no
digit limit: it has a value, or it ends in an error of the formula. -/
theorem evaluate_returns_or_refuses (names : Fields Value) (formula : Value) (c : Chance) :
    (∃ v, (outcome (evaluate (Scope.pure names none) formula) c).1 = .ok v) ∨
      ∃ e, (outcome (evaluate (Scope.pure names none) formula) c).1 = .error (.formula e) := by
  have hcall : ∀ f vs, f ∉ ([] : List String) →
      ChancyFailsOnly (InFormula none) ((Scope.pure names none).call f vs) := fun f vs _ =>
    call_failsOnly fun builtin hbuiltin => by
      obtain ⟨g, hg, rfl⟩ := Option.map_eq_some_iff.1 hbuiltin
      exact (ChancyFailsOnly.lift (math_failsOnly hg vs)).bind fun n => .pure _
  have hfails := evaluate_failsOnly hcall (avoids_nil formula) c
  generalize (outcome (evaluate (Scope.pure names none) formula) c).1 = r at hfails ⊢
  cases r with
  | ok v => exact .inl ⟨v, rfl⟩
  | error e =>
      have he : OfFormula none e := hfails e rfl
      cases e with
      | formula e => exact .inr ⟨e, rfl⟩
      | tooManyDigits => exact (he rfl).elim
      | _ => exact he.elim

end Formula

end Gamebook
