/-
**Formulas of integers.**

Sums, differences and products of integers are exact, whatever their size, and so are the least and
the greatest of some integers.  A remainder is taken of floats, and a number is rounded by way of a
float.  So a formula over integers has the integer that it stands for as its value, as long as these
two operations meet only integers with which they are exact; up to `2 ^ 52` all are.

Main definitions:

* `Formula.Expr.integer?` — **the integer that a formula stands for**, by unbounded arithmetic;
* `Formula.Expr.parts` — the trees in a tree;
* `Formula.Expr.IsExact` — the operation at the root of a tree is exact with its operands;
* `Formula.Scope.Binds` — some names stand for integers in a scope.

Main results:

* `Formula.BinaryOp.apply_int`, `Formula.math?_int` — the operators and functions on integers;
* `Formula.eval_integer` — **formulas of integers are exact**;
* `Formula.not_eval_integer` — not so for an odd integer above `2 ^ 52` that is rounded;
* `Formula.binds_of_scope` — games evaluate their formulas in such scopes.
-/

import Gamebook.Play.Formula
import Gamebook.Proofs.Number.Integers
import Gamebook.Proofs.Outcome

set_option autoImplicit false

namespace Gamebook.Formula

open Number (IsExactRemainder IsExactRound)

/-! ### The integer of a formula -/

/-- What an operator makes of two integers; a remainder has the sign of the first one. -/
def BinaryOp.onIntegers? : BinaryOp → Int → Int → Option Int
  | add, a, b => some (a + b)
  | sub, a, b => some (a - b)
  | mul, a, b => some (a * b)
  | rem, a, b => if b = 0 then none else some (Int.tmod a b)
  | _, _, _ => none

/-- What a function makes of some integers; they are integral already, and nothing is rounded. -/
def integerFunction? : String → List Int → Option Int
  | "min", a :: as => some (as.foldl min a)
  | "max", a :: as => some (as.foldl max a)
  | "clamp", [n, low, high] => some (min (max n low) high)
  | "floor", [n] => some n
  | "ceil", [n] => some n
  | "abs", [n] => some n.natAbs
  | "round", [n] => some n
  | _, _ => none

mutual

/-- **The integer that a formula stands for**, when its names stand for integers and it is made of
operators and functions on integers. -/
def Expr.integer? (names : String → Option Int) : Expr → Option Int
  | .literal (.int i) => some i
  | .name n => names n
  | .unary .negate operand => (operand.integer? names).map (- ·)
  | .binary op left right => do op.onIntegers? (← left.integer? names) (← right.integer? names)
  | .call function arguments => do integerFunction? function (← Expr.integers? names arguments)
  | _ => none

/-- The integers that some formulas stand for. -/
def Expr.integers? (names : String → Option Int) : List Expr → Option (List Int)
  | [] => some []
  | e :: es => do return (← e.integer? names) :: (← Expr.integers? names es)

end

mutual

/-- A tree and all trees in it. -/
def Expr.parts : Expr → List Expr
  | .literal v => [.literal v]
  | .name n => [.name n]
  | .conditional test yes no =>
      .conditional test yes no :: (test.parts ++ yes.parts ++ no.parts)
  | .logical op left right => .logical op left right :: (left.parts ++ right.parts)
  | .binary op left right => .binary op left right :: (left.parts ++ right.parts)
  | .unary op operand => .unary op operand :: operand.parts
  | .member object key => .member object key :: (object.parts ++ key.parts)
  | .call function arguments => .call function arguments :: Expr.partsOfList arguments

/-- All trees in some trees. -/
def Expr.partsOfList : List Expr → List Expr
  | [] => []
  | e :: es => e.parts ++ Expr.partsOfList es

end

theorem Expr.mem_parts (e : Expr) : e ∈ e.parts := by
  cases e <;> simp [parts]

variable {names : String → Option Int} {scope : Scope} {a b i n : Int} {is : List Int}

/-! ### Operators -/

theorem BinaryOp.apply_int {op : BinaryOp} (limit : DigitLimit) (h : op.onIntegers? a b = some i)
    (ha : a.natAbs < tenTo 300) (hb : b.natAbs < tenTo 300)
    (hexact : op = .rem → IsExactRemainder a b) :
    op.apply limit (.int a) (.int b) = .ok (.int i) := by
  cases op with
  | add | sub | mul =>
      cases h
      rfl
  | rem =>
      simp only [onIntegers?, ite_eq_iff, reduceCtorEq, and_false, false_or,
        Option.some.injEq] at h
      obtain ⟨hzero, rfl⟩ := h
      have hremainder := (Number.remainder?_int_eq_tmod_iff (.of_lt_tenTo ha) (.of_lt_tenTo hb)
        hzero).2 (hexact rfl)
      simp only [apply, arithmetic, operands, operand, Value.toNumber]
      simp only [bind, Except.bind, pure, Except.pure, hremainder]
      rfl
  | _ => cases h

/-! ### Functions -/

theorem anyNaN_int (h : ∀ i ∈ is, i.natAbs < tenTo 300) :
    anyNaN (is.map Number.int) = .ok false := by
  induction is with
  | nil => rfl
  | cons i is ih =>
      obtain ⟨hi, his⟩ := List.forall_mem_cons.1 h
      rw [List.map_cons, anyNaN, Number.isNaN?_of_inRange (.of_lt_tenTo hi)]
      exact ih his

theorem best_int {better : Number → Number → Bool} {f : Int → Int → Int}
    (h : ∀ a b, (if better (.int b) (.int a) then Number.int b else .int a) = .int (f a b))
    (a : Int) (is : List Int) :
    best better (.int a) (is.map Number.int) = .int (is.foldl f a) := by
  induction is generalizing a with
  | nil => rfl
  | cons b is ih => rw [List.map_cons, best, h, ih, List.foldl_cons]

theorem minimum_int (h : ∀ i ∈ a :: is, i.natAbs < tenTo 300) :
    minimum ((a :: is).map Number.int) = .ok (.int (is.foldl min a)) := by
  have hmin (a b : Int) : (if (Number.int b).lt (.int a) then Number.int b else .int a) =
      .int (min a b) := by
    simp only [Number.lt_int_iff]
    rw [min_comm, min_def_lt]
    split <;> rfl
  unfold minimum bestOf
  rw [anyNaN_int h]
  exact congrArg Except.ok (best_int hmin a is)

theorem maximum_int (h : ∀ i ∈ a :: is, i.natAbs < tenTo 300) :
    maximum ((a :: is).map Number.int) = .ok (.int (is.foldl max a)) := by
  have hmax (a b : Int) : (if (Number.int a).lt (.int b) then Number.int b else .int a) =
      .int (max a b) := by
    simp only [Number.lt_int_iff]
    rw [max_def_lt]
    split <;> rfl
  unfold maximum bestOf
  rw [anyNaN_int h]
  exact congrArg Except.ok (best_int hmax a is)

theorem clamp_int {low high : Int} (h : ∀ i ∈ [n, low, high], i.natAbs < tenTo 300) :
    clamp (.int n) (.int low) (.int high) = .ok (.int (min (max n low) high)) := by
  have hlarger : ∀ i ∈ [max n low, high], i.natAbs < tenTo 300 := by
    simp only [List.mem_cons, List.not_mem_nil, or_false, forall_eq_or_imp, forall_eq] at h ⊢
    refine ⟨?_, h.2.2⟩
    rcases max_choice n low with hmax | hmax <;> rw [hmax]
    · exact h.1
    · exact h.2.1
  have hfirst : ∀ i ∈ [n, low], i.natAbs < tenTo 300 := fun i hi =>
    h i (List.mem_append_left [high] hi)
  have hmaximum : maximum [.int n, .int low] = .ok (.int (max n low)) :=
    maximum_int hfirst
  have hminimum : minimum [.int (max n low), .int high] = .ok (.int (min (max n low) high)) :=
    minimum_int hlarger
  simp only [clamp, hmaximum, bind, Except.bind, hminimum]

theorem toNumber_map_int (is : List Int) :
    (is.map Value.int).map Value.toNumber = is.map Number.int := by
  rw [List.map_map]
  rfl

/-- **The functions on integers** are those on numbers. -/
theorem math?_int {f : String} (h : integerFunction? f is = some i)
    (hsmall : ∀ i ∈ is, i.natAbs < tenTo 300) (hexact : f = "round" → ∀ n ∈ is, IsExactRound n) :
    ∃ g, math? f = some g ∧ g (is.map Value.int) = .ok (.int i) := by
  unfold integerFunction? at h
  split at h <;> cases h
  · exact ⟨_, rfl, by rw [toNumber_map_int, minimum_int hsmall]⟩
  · exact ⟨_, rfl, by rw [toNumber_map_int, maximum_int hsmall]⟩
  · exact ⟨_, rfl, clamp_int hsmall⟩
  all_goals
    simp only [List.mem_singleton, forall_eq] at hsmall hexact
    have hrange := Number.InRange.of_lt_tenTo hsmall
  · exact ⟨_, rfl, by simp [ofOne, Value.toNumber, Number.floor?_int hrange, inRange]⟩
  · exact ⟨_, rfl, by simp [ofOne, Value.toNumber, Number.ceil?_int hrange, inRange]⟩
  · exact ⟨_, rfl, rfl⟩
  · refine ⟨_, rfl, ?_⟩
    have hround := (Number.round?_int_eq_self_iff hsmall).2 (hexact trivial)
    simp [ofOne, Value.toNumber, hround, inRange]

/-! ### Trees -/

/-- A scope in which some names stand for integers, with the functions on numbers. -/
structure Scope.Binds (scope : Scope) (names : String → Option Int) : Prop where
  name : ∀ n i, names n = some i → scope.names.get? n = some (Value.int i)
  builtin : ∀ f b, mathBuiltin? f = some b → scope.builtins f = some b

/-- Whether the operation at the root of a tree does not suffer from passing through floats. -/
def Expr.IsExact (names : String → Option Int) : Expr → Prop
  | .binary .rem left right =>
      ∀ a ∈ left.integer? names, ∀ b ∈ right.integer? names, IsExactRemainder a b
  | .call "round" arguments => ∀ is ∈ Expr.integers? names arguments, ∀ n ∈ is, IsExactRound n
  | _ => True

theorem call_int (hscope : scope.Binds names) {f : String}
    (h : integerFunction? f is = some i) (hsmall : ∀ i ∈ is, i.natAbs < tenTo 300)
    (hexact : f = "round" → ∀ n ∈ is, IsExactRound n) :
    scope.call f (is.map Value.int) = pure (.int i) := by
  obtain ⟨g, hg, hvalue⟩ := math?_int h hsmall hexact
  have hbuiltin := hscope.builtin f _ (by rw [mathBuiltin?, hg]; rfl)
  rw [Scope.call, hbuiltin]
  dsimp only
  rw [hvalue]
  rfl

mutual

/-- **A tree has the integer that it stands for as its value.** -/
theorem Expr.eval_of_integer? (hscope : scope.Binds names) (e : Expr) {i : Int}
    (hsmall : ∀ p ∈ e.parts, ∀ j ∈ p.integer? names, j.natAbs < tenTo 300)
    (hexact : ∀ p ∈ e.parts, p.IsExact names) (h : e.integer? names = some i) :
    e.eval scope = pure (.int i) := by
  match e with
  | .literal v =>
      obtain ⟨rfl⟩ : v = .int i := by
        unfold Expr.integer? at h
        split at h <;> simp_all
      rfl
  | .name n =>
      rw [Expr.eval, Scope.lookup, hscope.name n i h]
      rfl
  | .unary op operand =>
      rw [Expr.parts, List.forall_mem_cons] at hsmall hexact
      cases op with
      | negate =>
          obtain ⟨a, ha, rfl⟩ := Option.map_eq_some_iff.1 h
          rw [Expr.eval, Expr.eval_of_integer? hscope operand hsmall.2 hexact.2 ha, pure_bind]
          rfl
      | _ => cases h
  | .binary op left right =>
      rw [Expr.parts, List.forall_mem_cons, List.forall_mem_append] at hsmall hexact
      obtain ⟨a, ha, h⟩ := Option.bind_eq_some_iff.1 h
      obtain ⟨b, hb, h⟩ := Option.bind_eq_some_iff.1 h
      have hvalue := BinaryOp.apply_int scope.digitLimit h
        (hsmall.2.1 left left.mem_parts a ha) (hsmall.2.2 right right.mem_parts b hb)
        (by rintro rfl; exact hexact.1 a ha b hb)
      rw [Expr.eval, Expr.eval_of_integer? hscope left hsmall.2.1 hexact.2.1 ha, pure_bind,
        Expr.eval_of_integer? hscope right hsmall.2.2 hexact.2.2 hb, pure_bind, hvalue]
      rfl
  | .call function arguments =>
      rw [Expr.parts, List.forall_mem_cons] at hsmall hexact
      obtain ⟨is, his, h⟩ := Option.bind_eq_some_iff.1 h
      obtain ⟨hvalues, hsmall'⟩ :=
        Expr.evalList_of_integers? hscope arguments hsmall.2 hexact.2 his
      rw [Expr.eval, hvalues, pure_bind]
      exact call_int hscope h hsmall' (by rintro rfl; exact hexact.1 is his)
  | .conditional _ _ _ | .logical _ _ _ | .member _ _ => cases h

theorem Expr.evalList_of_integers? (hscope : scope.Binds names) (es : List Expr) {is : List Int}
    (hsmall : ∀ p ∈ Expr.partsOfList es, ∀ j ∈ p.integer? names, j.natAbs < tenTo 300)
    (hexact : ∀ p ∈ Expr.partsOfList es, p.IsExact names)
    (h : Expr.integers? names es = some is) :
    Expr.evalList scope es = pure (is.map Value.int) ∧ ∀ i ∈ is, i.natAbs < tenTo 300 := by
  match es with
  | [] =>
      cases h
      exact ⟨rfl, nofun⟩
  | e :: es =>
      rw [Expr.partsOfList, List.forall_mem_append] at hsmall hexact
      obtain ⟨i, hi, h⟩ := Option.bind_eq_some_iff.1 h
      obtain ⟨is, his, h⟩ := Option.bind_eq_some_iff.1 h
      cases h
      obtain ⟨hvalues, hsmall'⟩ := Expr.evalList_of_integers? hscope es hsmall.2 hexact.2 his
      refine ⟨?_, List.forall_mem_cons.2 ⟨hsmall.1 e e.mem_parts i hi, hsmall'⟩⟩
      rw [Expr.evalList, Expr.eval_of_integer? hscope e hsmall.1 hexact.1 hi, pure_bind, hvalues,
        pure_bind]
      rfl

end

/-! ### Formulas -/

/-- **Formulas of integers are exact** while all values stay below `10 ^ 300` in magnitude: the
value is the integer that the formula stands for, as a tree and as a text, in every scope in which
its names stand for integers.  The operands of a remainder and of a rounding pass through floats and
have to be exact there. -/
theorem eval_integer (hscope : scope.Binds names) {e : Expr} (h : e.integer? names = some i)
    (hsmall : ∀ p ∈ e.parts, ∀ j ∈ p.integer? names, j.natAbs < tenTo 300)
    (hexact : ∀ p ∈ e.parts, p.IsExact names) :
    e.eval scope = pure (.int i) ∧
      ∀ s, read (Text.strip s) = .ok e → evaluate scope (.str s) = pure (.int i) := by
  have hvalue := Expr.eval_of_integer? hscope e hsmall hexact h
  refine ⟨hvalue, fun s hread => ?_⟩
  have hempty : (Text.strip s).isEmpty = false := by
    rw [String.isEmpty_eq_false_iff]
    intro hnil
    rw [hnil] at hread
    cases hread
  simp only [evaluate, hempty, evaluateText, hread, hvalue]
  rfl

/-- A rounding, a remainder and a difference far above `2 ^ 53`. -/
theorem eval_integer_large :
    let names : String → Option Int := fun n =>
      if n = "$a" then some 1152921504606846976 else if n = "$b" then some (-10) else none
    let scope := Scope.pure [("$a", .int 1152921504606846976), ("$b", .int (-10))] .standard
    let e := Expr.binary .sub (.binary .rem (.call "round" [.name "$a"]) (.name "$b"))
      (.name "$a")
    scope.Binds names ∧ e.integer? names = some (-1152921504606846970) ∧
      (∀ p ∈ e.parts, ∀ j ∈ p.integer? names, j.natAbs < tenTo 300) ∧
      (∀ p ∈ e.parts, p.IsExact names) ∧
      read (Text.strip "round($a) % $b - $a") = .ok e ∧
      evaluate scope (.str "round($a) % $b - $a") = pure (.int (-1152921504606846970)) := by
  intro names scope e
  have hscope : scope.Binds names := by
    refine ⟨fun n i h => ?_, fun _ _ h => h⟩
    simp only [names, ite_eq_iff, reduceCtorEq, and_false, or_false, Option.some.injEq] at h
    obtain ⟨rfl, rfl⟩ | ⟨-, rfl, rfl⟩ := h <;> rfl
  have hvalue : e.integer? names = some (-1152921504606846970) := by decide +kernel
  have hsmall : ∀ p ∈ e.parts, ∀ j ∈ p.integer? names, j.natAbs < tenTo 300 := by
    decide +kernel
  have hexact : ∀ p ∈ e.parts, p.IsExact names := by
    have hremainder : IsExactRemainder 1152921504606846976 (-10) := by decide +kernel
    have hround : IsExactRound 1152921504606846976 := by decide +kernel
    simpa [e, names, Expr.parts, Expr.partsOfList, Expr.IsExact, Expr.integer?, Expr.integers?,
      integerFunction?] using ⟨hremainder, hround⟩
  have hstrip : Text.strip "round($a) % $b - $a" = "round($a) % $b - $a" := by decide +kernel
  have htokens : tokenize "round($a) % $b - $a" = .ok [⟨.name "round", 0⟩,
      ⟨.symbol .openParen, 5⟩, ⟨.name "$a", 6⟩, ⟨.symbol .closeParen, 8⟩, ⟨.symbol .percent, 10⟩,
      ⟨.name "$b", 12⟩, ⟨.symbol .minus, 15⟩, ⟨.name "$a", 17⟩, ⟨.stop, 19⟩] := by rfl
  have hread : read (Text.strip "round($a) % $b - $a") = .ok e := by
    rw [hstrip, read_of_tokenize htokens]
    rfl
  have heval := (eval_integer hscope hvalue hsmall hexact).2 _ hread
  exact ⟨hscope, hvalue, hsmall, hexact, hread, heval⟩

/-- An odd integer above `2 ^ 52` is not rounded to itself. -/
theorem not_eval_integer :
    ¬ ∀ (names : String → Option Int) (scope : Scope) (e : Expr) (i : Int), scope.Binds names →
      e.integer? names = some i →
      (∀ p ∈ e.parts, ∀ j ∈ p.integer? names, j.natAbs < tenTo 300) →
      e.eval scope = pure (.int i) := by
  intro h
  have heval := h (fun n => if n = "$x" then some 4503599627370497 else none)
    (.pure [("$x", .int 4503599627370497)] .standard) (.call "round" [.name "$x"])
    4503599627370497 ?_ (by decide +kernel) (by decide +kernel)
  · have hresult := congrArg
      (fun m : Chancy Value => (m (.constant 0 .null)).1.toOption.bind Value.number?) heval
    exact absurd hresult (by decide +kernel)
  · refine ⟨fun n i h => ?_, fun _ _ h => h⟩
    simp only [ite_eq_iff, reduceCtorEq, and_false, or_false, Option.some.injEq] at h
    obtain ⟨rfl, rfl⟩ := h
    rfl

/-! ### Games -/

/-- A world has the functions on numbers. -/
theorem builtins_of_mathBuiltin? (w : World) {f : String} {b : Builtin}
    (h : mathBuiltin? f = some b) : w.builtins f = some b := by
  have hname : f ∈ ["min", "max", "clamp", "floor", "ceil", "abs", "round"] := by
    by_contra hf
    simp only [List.mem_cons, List.not_mem_nil, or_false, not_or] at hf
    simp [mathBuiltin?, math?, hf] at h
  simp only [List.mem_cons, List.not_mem_nil, or_false] at hname
  rcases hname with rfl | rfl | rfl | rfl | rfl | rfl | rfl <;> exact h

/-- So the formulas of a game are exact in the same way. -/
theorem binds_of_scope {w : World} {extra : Fields Value} (hscope : w.scope extra = .ok scope)
    (hnames : ∀ n i, names n = some i → scope.names.get? n = some (Value.int i)) :
    scope.Binds names := by
  obtain ⟨_, _, hscope⟩ := exists_of_bind_eq_ok hscope
  cases hscope
  exact ⟨hnames, fun _ _ => builtins_of_mathBuiltin? w⟩

end Gamebook.Formula
