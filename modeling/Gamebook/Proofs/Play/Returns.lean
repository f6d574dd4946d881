/-
**Actions that return.**

An action returns when its run ends with a result.  Two faults can keep an action from returning in
a world of the expected shape, and both mean that an integer was too large: it lies beyond the
floats, or it has too many digits to be written.  A statement about an action therefore has two
readings: loosely, these are the only faults that it can end in; strictly, where all integers that
it meets are in range, it returns.

Main definitions:

* `Fault.IsTooLarge`, `Fault.Allowed` — the faults for integers that are too large;
* `Play.Returns` — the faults that an action can end in, and what is true when it returns.

Main results:

* `Play.Returns.bind` — **two actions one after the other**;
* `Play.evaluate_returns` — evaluating a formula returns, unless an integer had too many digits.
-/

import Gamebook.Proofs.Formula.Faults
import Gamebook.Proofs.Number.Range
import Gamebook.Proofs.Play.Scope
import Gamebook.Proofs.Play.Shape

set_option autoImplicit false

namespace Gamebook

/-! ### Integers that are too large -/

/-- The fault means that an integer was too large. -/
def Fault.IsTooLarge : Fault → Prop
  | outOfRange | tooManyDigits => True
  | _ => False

/-- The faults that are let through: loosely, those for integers that are too large. -/
def Fault.Allowed (loose : Prop) (e : Fault) : Prop := loose ∧ e.IsTooLarge

section

variable {loose : Prop} {α : Type} {r : Except Fault α}

/-- What fails only for integers that are too large, and not at all when it should not. -/
theorem FailsOnly.allowed (h : FailsOnly Fault.IsTooLarge r) (hok : ¬ loose → ∃ a, r = .ok a) :
    FailsOnly (Fault.Allowed loose) r := fun e he => by
  by_cases hloose : loose
  · exact ⟨hloose, h e he⟩
  · obtain ⟨a, ha⟩ := hok hloose
    rw [ha] at he
    cases he

theorem inRange_allowed {o : Option α} (h : ¬ loose → o.isSome = true) :
    FailsOnly (Fault.Allowed loose) (inRange o) :=
  (inRange_failsOnly trivial o).allowed fun hloose => by
    obtain ⟨a, rfl⟩ := Option.isSome_iff_exists.1 (h hloose)
    exact ⟨a, rfl⟩

end

namespace Play

/-! ### Actions -/

/-- A fault that the action ends in is one of these, and a result has a property in the world
after it. -/
structure Returns (F : Fault → Prop) {α : Type} (w : World) (m : Play α)
    (Q : α → World → Prop) : Prop where
  fault : FailsOnly F (m.runFrom w).1
  result : ∀ a, (m.runFrom w).1 = .ok a → Q a (m.runFrom w).2

namespace Returns

variable {F : Fault → Prop} {α β : Type} {w : World} {m : Play α} {P Q : α → World → Prop}

theorem of_runFrom {r : Except Fault α} {w' : World} (h : m.runFrom w = (r, w'))
    (hF : FailsOnly F r) (hQ : ∀ a, r = .ok a → Q a w') : Returns F w m Q := by
  refine ⟨?_, fun a ha => ?_⟩
  · rw [h]
    exact hF
  · rw [h] at ha ⊢
    exact hQ a ha

theorem mono (h : Returns F w m P) (hPQ : ∀ a w', P a w' → Q a w') : Returns F w m Q :=
  ⟨h.fault, fun a ha => hPQ a _ (h.result a ha)⟩

theorem pure {a : α} (h : Q a w) : Returns F w (pure a) Q :=
  of_runFrom (runFrom_pure a w) (.ok a) fun _ h' => by
    cases h'
    exact h

/-- **Two actions one after the other**: the second one is run where the first one returned. -/
theorem bind {f : α → Play β} {Q : β → World → Prop} (hm : Returns F w m P)
    (hf : ∀ a w', P a w' → Returns F w' (f a) Q) : Returns F w (m >>= f) Q := by
  rcases hr : m.runFrom w with ⟨r, w'⟩
  cases r with
  | error e =>
      have he : F e := hm.fault e (by rw [hr])
      exact of_runFrom (runFrom_bind_error hr) (.error he) fun _ h => by cases h
  | ok a =>
      have hP : P a w' := by
        have h := hm.result a (by rw [hr])
        rwa [hr] at h
      exact of_runFrom (runFrom_bind_ok hr) (hf a w' hP).fault (hf a w' hP).result

theorem lift_bind {e : Except Fault α} {f : α → Play β} {Q : β → World → Prop}
    (he : FailsOnly F e) (hf : ∀ a, e = .ok a → Returns F w (f a) Q) :
    Returns F w (liftM e >>= f) Q := by
  cases e with
  | error e =>
      exact of_runFrom (runFrom_bind_error (runFrom_liftM (.error e) w)) (.error (he e rfl))
        fun _ h => by cases h
  | ok a =>
      have h := hf a rfl
      exact of_runFrom (runFrom_bind_ok (runFrom_liftM (.ok a) w)) h.fault h.result

/-- A computation that has a result is followed by what is done with it. -/
theorem lift_ok_bind {e : Except Fault α} {a : α} {f : α → Play β} {Q : β → World → Prop}
    (he : e = .ok a) (hf : Returns F w (f a) Q) : Returns F w (liftM e >>= f) Q := by
  subst he
  exact lift_bind (.ok a) fun _ h => Except.ok.inj h ▸ hf

theorem modify {f : World → World} {Q : PUnit → World → Prop} (hQ : Q ⟨⟩ (f w)) :
    Returns F w (modify f : Play PUnit) Q :=
  of_runFrom (runFrom_modify f w) (.ok _) fun _ _ => hQ

theorem modifyState {f : State → State} {Q : Unit → World → Prop}
    (hQ : Q () { w with state := f w.state }) : Returns F w (modifyState f) Q :=
  of_runFrom (runFrom_modifyState f w) (.ok ()) fun _ _ => hQ

theorem state_bind {f : State → Play β} {Q : β → World → Prop} (h : Returns F w (f w.state) Q) :
    Returns F w (state >>= f) Q :=
  of_runFrom (runFrom_bind_ok (runFrom_state w)) h.fault h.result

theorem book_bind {f : Book → Play β} {Q : β → World → Prop} (h : Returns F w (f w.book) Q) :
    Returns F w (book >>= f) Q :=
  of_runFrom (runFrom_bind_ok (runFrom_book w)) h.fault h.result

theorem digitLimit_bind {f : DigitLimit → Play β} {Q : β → World → Prop}
    (h : Returns F w (f w.settings.digitLimit) Q) : Returns F w (digitLimit >>= f) Q :=
  of_runFrom (runFrom_bind_ok (runFrom_digitLimit w)) h.fault h.result

/-- What is done unless a test holds, and what is done when it does. -/
theorem ite_not {b : Bool} {m' : Play α} (h : b = false → Returns F w m Q)
    (h' : b = true → Returns F w m' Q) : Returns F w (if !b then m else m') Q := by
  cases b with
  | false => exact h rfl
  | true => exact h' rfl

/-- Loosely, an action fails only for an integer that is too large. -/
theorem isTooLarge (h : Returns (Fault.Allowed True) w m Q) :
    FailsOnly Fault.IsTooLarge (m.runFrom w).1 := h.fault.mono fun _ he => he.2

/-- Strictly, an action returns. -/
theorem exists_ok (h : Returns (Fault.Allowed False) w m Q) : ∃ a, (m.runFrom w).1 = .ok a :=
  (h.fault.mono fun _ he => he.1).exists_ok

end Returns

end Play

/-! ### Functions of formulas -/

namespace World

open Formula Fault

variable {w : World} {limit : DigitLimit}

theorem asKey_failsOnly (v : Value) : FailsOnly (InFormula limit) v.asKey := by
  cases v <;> first | exact .ok _ | exact .error trivial

theorem quantity_failsOnly (w : World) (item : Value) :
    FailsOnly (InFormula limit) (w.state.inventory.quantity item) := (asKey_failsOnly item).map

theorem hasItem_failsOnly (w : World) (item count : Value) :
    FailsOnly (InFormula limit) (w.hasItem item count) := by
  refine (w.quantity_failsOnly item).bind fun quantity _ => FailsOnly.map ?_
  unfold Value.le
  split
  · exact .ok _
  · refine FailsOnly.map ?_
    simp only [Value.lt]
    split
    · exact .ok _
    · exact .error trivial

/-- Where the flags are an object, a flag is missing or has a value, unless what is asked for is no
name. -/
theorem flag_failsOnly (hw : w.state.flags.IsRecord) (flag : Value) :
    FailsOnly (InFormula limit) (w.flag flag) := by
  obtain ⟨flags, hflags⟩ := hw
  have hfieldAt : w.flag flag =
      (Value.lookup flags flag >>= fun v => (pure (Value.ofOption v) : Except Fault Value)) := by
    rw [World.flag, hflags]
    rfl
  rw [hfieldAt]
  exact FailsOnly.map (asKey_failsOnly flag).map

theorem stateBuiltin_failsOnly (hw : w.state.flags.IsRecord) {name : String}
    {f : List Value → Except Fault Value} (h : w.stateBuiltin? name = some f) (vs : List Value) :
    FailsOnly (InFormula limit) (f vs) := by
  unfold stateBuiltin? at h
  split at h
  · cases h
    dsimp only
    split
    · exact w.hasItem_failsOnly _ _
    · exact w.hasItem_failsOnly _ _
    · exact .error trivial
  split at h
  · cases h
    dsimp only
    split
    · exact w.quantity_failsOnly _
    · exact .error trivial
  split at h
  · cases h
    dsimp only
    split
    · exact .ok _
    · exact .error trivial
  split at h
  · cases h
    dsimp only
    split
    · exact (flag_failsOnly hw _).bind fun v _ => (Value.isTrue_failsOnly trivial v).map
    · exact .error trivial
  · cases h

/-- How a call can fail that rolls no dice. -/
theorem call_failsOnly (hw : w.state.flags.IsRecord) {scope : Scope}
    (hscope : scope.builtins = w.builtins) {name : String} (hroll : name ≠ "roll")
    (vs : List Value) : ChancyFailsOnly (InFormula scope.digitLimit) (scope.call name vs) := by
  refine Formula.call_failsOnly fun builtin hbuiltin => ?_
  rw [hscope, builtins] at hbuiltin
  by_cases hrandom : name = "random"
  · rw [chanceBuiltin?, if_pos hrandom] at hbuiltin
    cases hbuiltin
    cases vs with
    | nil => exact fun c => .ok _
    | cons v vs => exact .throw trivial
  · rw [chanceBuiltin?_eq_none _ hroll hrandom] at hbuiltin
    dsimp only at hbuiltin
    split at hbuiltin
    · rename_i f hf
      cases hbuiltin
      exact .lift (stateBuiltin_failsOnly hw hf vs)
    · obtain ⟨f, hf, rfl⟩ := Option.map_eq_some_iff.1 hbuiltin
      exact (ChancyFailsOnly.lift (math_failsOnly hf vs)).bind fun n => .pure _

/-- The names that a formula can use are there in a world of the expected shape. -/
theorem IsShaped.exists_scope (hw : w.IsShaped) (extra : Fields Value) :
    ∃ scope, w.scope extra = .ok scope ∧ scope.builtins = w.builtins := by
  obtain ⟨capacity, hcapacity, -⟩ := hw.exists_capacity
  unfold World.scope
  dsimp only
  rw [hcapacity]
  exact ⟨_, rfl, rfl⟩

end World

/-! ### Formulas and conditions -/

namespace Play

open World Fault

variable {loose : Prop} {w : World} {formula : Value}

/-- The functions that may fail in ways of their own. -/
def diceCalls : List String := ["roll"]

/-- **A formula that rolls no dice fails only for too many digits.** -/
theorem evaluate_failsOnly (hw : w.IsShaped) (hformula : Formula.avoids [] diceCalls formula = true)
    (extra : Fields Value) (quiet : Bool) :
    FailsOnly (· = .tooManyDigits) ((evaluate formula extra quiet).runFrom w).1 := by
  obtain ⟨scope, hscope, hbuiltins⟩ := hw.exists_scope extra
  have hfails : FailsOnly (OfFormula scope.digitLimit)
      ((Formula.evaluate scope formula).run.run w.chance).1 :=
    Formula.evaluate_failsOnly (fun f vs hf => call_failsOnly hw.flags hbuiltins
      (fun h => hf (List.mem_singleton.2 h)) vs) hformula w.chance
  rw [runFrom_evaluate, hscope]
  dsimp only
  generalize (Formula.evaluate scope formula).run.run w.chance = r at hfails
  obtain ⟨r, c⟩ := r
  cases r with
  | ok v => exact .ok v
  | error e =>
      have he : OfFormula scope.digitLimit e := hfails e rfl
      cases e with
      | formula | tooManyDigits => first | exact .ok _ | exact .error rfl
      | _ => exact he.elim

/-- In the world the formula meets no integer with too many digits, and a value that it gives has
the property. -/
def Gives (w : World) (extra : Fields Value) (quiet : Bool) (formula : Value)
    (P : Value → Prop) : Prop :=
  FailsOnly (· ≠ .tooManyDigits) ((evaluate formula extra quiet).runFrom w).1 ∧
    GivesOnly P ((evaluate formula extra quiet).runFrom w).1

instance (w : World) (extra : Fields Value) (quiet : Bool) (formula : Value) (P : Value → Prop)
    [DecidablePred P] : Decidable (Gives w extra quiet formula P) :=
  inferInstanceAs (Decidable (_ ∧ _))

/-- Evaluating a formula returns, and only looks. -/
theorem evaluate_returns (hw : w.IsShaped) (hformula : Formula.avoids [] diceCalls formula = true)
    {extra : Fields Value} {quiet : Bool} {P : Value → Prop}
    (h : ¬ loose → Gives w extra quiet formula P) :
    Returns (Allowed loose) w (evaluate formula extra quiet) fun v w' =>
      (evaluate formula extra quiet).runFrom w = (.ok v, w') ∧ Idle w w' ∧ (¬ loose → P v) := by
  refine ⟨fun e he => ?_, fun v hv => ?_⟩
  · obtain rfl := evaluate_failsOnly hw hformula extra quiet e he
    by_cases hloose : loose
    · exact ⟨hloose, trivial⟩
    · exact absurd rfl ((h hloose).1 _ he)
  · exact ⟨runFrom_eq hv, (evaluate_idle formula extra quiet).world, fun hl => (h hl).2 v hv⟩

/-- A value can be tested whose number is in range. -/
theorem isTrue_allowed {v : Value} (h : ¬ loose → v.toNumber.InRange) :
    FailsOnly (Allowed loose) v.isTrue := by
  refine (Value.isTrue_failsOnly trivial v).allowed fun hloose => ?_
  cases v with
  | num n =>
      obtain ⟨b, hb⟩ : ∃ b, n.isNaN? = some b :=
        Option.isSome_iff_exists.1 (h hloose).isSome_isNaN
      simp only [Value.isTrue]
      split
      · exact ⟨false, rfl⟩
      · exact ⟨!b, by rw [hb]; rfl⟩
  | _ => exact ⟨_, rfl⟩

/-- **No condition that is tested meets an integer that is too large**: none with too many digits on
the way to its value, and its value is not beyond the floats. -/
def TestsInRange (extra : Fields Value) (quiet : Bool) : List Value → World → Prop
  | [], _ => True
  | c :: cs, w =>
      Gives w extra quiet c (fun v => v.toNumber.InRange) ∧
        GivesOnly (fun v => v.isTrue = .ok true →
          TestsInRange extra quiet cs ((evaluate c extra quiet).runFrom w).2)
          ((evaluate c extra quiet).runFrom w).1

instance decidableTestsInRange (extra : Fields Value) (quiet : Bool) :
    (cs : List Value) → (w : World) → Decidable (TestsInRange extra quiet cs w)
  | [], _ => .isTrue trivial
  | _ :: cs, _ =>
      have (w' : World) := decidableTestsInRange extra quiet cs w'
      inferInstanceAs (Decidable (_ ∧ _))

/-- Testing conditions returns. -/
theorem allHold_returns {extra : Fields Value} {quiet : Bool} {cs : List Value}
    (hcs : ∀ c ∈ cs, Formula.avoids [] diceCalls c = true) (hw : w.IsShaped)
    (h : ¬ loose → TestsInRange extra quiet cs w) :
    Returns (Allowed loose) w (allHold extra quiet cs) fun _ _ => True := by
  induction cs generalizing w with
  | nil => exact .pure trivial
  | cons c cs ih =>
      obtain ⟨hc, hcs⟩ := List.forall_mem_cons.1 hcs
      refine (evaluate_returns hw hc fun hl => (h hl).1).bind fun v w' hv => ?_
      obtain ⟨hrun, hidle, hv⟩ := hv
      refine .lift_bind (isTrue_allowed hv) fun b hb => ?_
      cases b with
      | false => exact .pure trivial
      | true =>
          refine ih hcs (hidle.isShaped hw) fun hl => ?_
          have hnext := (h hl).2 v (by rw [hrun]) hb
          rwa [hrun] at hnext

/-- The conditions in a value: a list of them, or a single one. -/
def conditionsIn : Value → List Value
  | .list cs => cs
  | c => [c]

/-- **Checking conditions returns.** -/
theorem checkConditions_returns {extra : Fields Value} {quiet : Bool} {conditions : Value}
    (hcs : ∀ c ∈ conditionsIn conditions, Formula.avoids [] diceCalls c = true) (hw : w.IsShaped)
    (h : ¬ loose → TestsInRange extra quiet (conditionsIn conditions) w) :
    Returns (Allowed loose) w (checkConditions conditions extra quiet) fun _ _ => True := by
  unfold checkConditions
  split
  · exact .pure trivial
  · cases conditions with
    | list cs => exact allHold_returns hcs hw h
    | _ => exact allHold_returns hcs hw h

end Play

end Gamebook
