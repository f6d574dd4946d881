/-
**The die that is rolled and the die that the bands divide.**

A check with bands rolls by a formula and divides a die.  When the formula is a call of `roll`, the
dice of the call are rolled and lie within their own bounds, but the bands divide the default die:
what is rolled there is known only when the formula is evaluated.  So the two are the same die only
when the dice of the call fit into the default one.  When the formula is dice notation without the
call, the bands divide the die of the notation, but dice notation is no formula and is worth zero.

Main definitions:

* `Check.rollOf` — the roll of a check;
* `World.drawing` — a world with other draws;
* `World.Rolls`, `World.RollsWithin` — what a check can roll in a world;
* `World.Divides` — the die that the bands of a check divide.

Main results:

* `Check.boundsFor_rollCall`, `Check.boundsFor_dice` — the die of the bands;
* `Check.resolve_rolls` — what a resolved check has rolled;
* `Check.rolls_within_iff` — **when the rolls lie within the die of the bands**;
* `Check.not_rolls_within` — dice that do not fit.
-/

import Gamebook.Check.Resolution
import Gamebook.Play.Setup
import Gamebook.Proofs.Dice.Roll
import Gamebook.Proofs.Formula.Rolling
import Gamebook.Proofs.Play.Idle

set_option autoImplicit false

namespace Gamebook

/-- The world with other draws. -/
def World.drawing (w : World) (draw : Nat → Int) : World :=
  { w with chance := { w.chance with draw } }

/-- The roll of a check. -/
def Check.rollOf (evaluate : Evaluator) (settings : Settings) (check : Value) : Play Number := do
  Play.keep (← evaluate (← rollExpression check settings.defaultDice) []).toNumber

/-- A check rolls the number in the world for some draws. -/
def World.Rolls (w : World) (check : Value) (n : Number) : Prop :=
  ∃ draw w', (Check.rollOf Play.evaluator w.settings check).runFrom (w.drawing draw) = (.ok n, w')

/-- What a check rolls in the world lies within the bounds. -/
def World.RollsWithin (w : World) (check : Value) (bounds : Bounds) : Prop :=
  ∀ total : Int, w.Rolls check (.int total) → bounds.min ≤ total ∧ total ≤ bounds.max

/-- The sets of a check are those of its bands over the bounds. -/
def World.Divides (w : World) (check : Value) (bounds : Bounds) : Prop :=
  ∀ sets, Check.bandSetsFor w.settings.digitLimit check w.settings.defaultDice =
    .ok (some sets) →
  ∃ bands onCritFail onCritSuccess, check.field "bands" = .ok bands ∧
    Band.computeSets w.settings.digitLimit bands bounds onCritFail onCritSuccess = .ok sets

namespace Check

open Play Formula

variable {w w' : World} {check buffs c : Value} {text : String} {d : Dice} {limit : DigitLimit}
  {b : Option Bounds} {o : CheckOutcome}

/-! ### The die of the bands -/

/-- The default dice of a session that sets none have twenty sides. -/
theorem boundsOf_default :
    Dice.boundsOf .standard (.str ({} : Settings).defaultDice) = .ok (some standardBounds) := by
  have h : Dice.read .standard ({} : Settings).defaultDice = .ok (some ⟨1, 20, 0⟩) := rfl
  simp only [Dice.boundsOf, Dice.ofValue, h]
  rfl

/-- A check rolls by its own formula when it has one. -/
theorem rollExpression_of_field (hcheck : check.field "roll_expr" = .ok (.str text))
    (hne : text.isEmpty = false) (defaultDice : String) :
    rollExpression check defaultDice = .ok (.str text) := by
  have hholds : (Value.str text).holds = true := by simp [Value.holds, hne]
  simp only [rollExpression, hcheck, bind, Except.bind, hholds, if_true]
  rfl

/-- **The bands divide the default die** when the check calls `roll`. -/
theorem boundsFor_rollCall (hcheck : check.field "roll_expr" = .ok (.str (rollCall text)))
    {defaultDice : String} (hdefault : Dice.boundsOf limit (.str defaultDice) = .ok b) :
    boundsFor limit check defaultDice = .ok (b.getD standardBounds) := by
  have hnone : Dice.boundsOf limit (.str (rollCall text)) = .ok none := by
    simp only [Dice.boundsOf, Dice.ofValue, Dice.read_rollCall]
    rfl
  simp only [boundsFor, rollExpression_of_field hcheck (isEmpty_rollCall text), bind, Except.bind,
    hnone, hdefault]
  rfl

/-- **The bands divide the die of the notation** when the check is written as dice. -/
theorem boundsFor_dice (hcheck : check.field "roll_expr" = .ok (.str text))
    (hdice : Dice.read limit text = .ok (some d)) (defaultDice : String) :
    boundsFor limit check defaultDice = .ok d.bounds := by
  have hbounds : Dice.boundsOf limit (.str text) = .ok (some d.bounds) := by
    simp only [Dice.boundsOf, Dice.ofValue, hdice]
    rfl
  simp only [boundsFor, rollExpression_of_field hcheck (Dice.isEmpty_of_read hdice), bind,
    Except.bind, hbounds]
  rfl

/-- The sets of a check are those of its bands over the bounds of its die. -/
theorem divides_of_boundsFor {bounds : Bounds}
    (hbounds : boundsFor w.settings.digitLimit check w.settings.defaultDice = .ok bounds) :
    w.Divides check bounds := by
  intro sets h
  obtain ⟨bands, hbands, h⟩ := exists_of_bind_eq_ok h
  obtain ⟨critFail, -, h⟩ := exists_of_bind_eq_ok h
  obtain ⟨critSuccess, -, h⟩ := exists_of_bind_eq_ok h
  dsimp only at h
  split at h
  · cases h
  · obtain ⟨bounds', hbounds', h⟩ := exists_of_bind_eq_ok h
    cases hbounds.symm.trans hbounds'
    obtain ⟨sets', hsets, h⟩ := exists_of_bind_eq_ok h
    cases h
    exact ⟨bands, _, _, hbands, hsets⟩

/-! ### The die that is rolled -/

/-- What a resolved check has rolled. -/
theorem resolve_rolls {settings : Settings}
    (h : (resolve evaluator buffs settings check).runFrom w = (.ok o, w')) :
    ∃ w₁, (rollOf evaluator settings check).runFrom w = (.ok o.roll, w₁) := by
  obtain ⟨formula, w₁, hformula, h⟩ := runFrom_bind_eq_ok h
  obtain ⟨roll, w₂, hroll, h⟩ := runFrom_bind_eq_ok h
  refine ⟨w₂, (runFrom_bind_ok hformula).trans (hroll.trans ?_)⟩
  -- The other steps leave the roll as it is.
  repeat obtain ⟨_, _, -, h⟩ := runFrom_bind_eq_ok h
  cases h
  rfl

/-- Fair dice are rolled. -/
theorem outcome_roll {chance : Chance} (hdice : Dice.read limit text = .ok (some d))
    (hfair : chance.roller = .fair) :
    outcome (Chance.roll limit (.str text)) chance =
      (.ok (.int (d.roll chance).1), (d.roll chance).2) := by
  have hget : outcome (get : Chancy Chance) chance = (.ok chance, chance) := rfl
  have hfairly : outcome (Chance.rollFair limit (.str text)) chance =
      (.ok (.int (d.roll chance).1), (d.roll chance).2) := by
    unfold Chance.rollFair
    rw [outcome_bind, outcome_liftM]
    simp only [Dice.ofValue, hdice]
    rfl
  unfold Chance.roll
  rw [outcome_bind, hget]
  simp only [hfair]
  exact hfairly

/-- The names that a formula can use are there when the capacity is. -/
theorem exists_scope_of_capacity (hcapacity : w.state.capacity = .ok c) :
    ∃ names, w.scope [] = .ok ⟨names, w.builtins, w.settings.digitLimit⟩ := by
  simp only [World.scope, hcapacity, bind, Except.bind]
  exact ⟨_, rfl⟩

/-- **The dice of the call are rolled**, and nothing but chance is used. -/
theorem runFrom_rollOf (hcheck : check.field "roll_expr" = .ok (.str (rollCall text)))
    (hdice : Dice.read w.settings.digitLimit text = .ok (some d))
    (hcapacity : w.state.capacity = .ok c) (hfair : w.chance.roller = .fair) :
    (rollOf evaluator w.settings check).runFrom w =
      (.ok (.int (d.roll w.chance).1), { w with chance := (d.roll w.chance).2 }) := by
  obtain ⟨names, hscope⟩ := exists_scope_of_capacity hcapacity
  have hvalue : outcome (Formula.evaluate ⟨names, w.builtins, w.settings.digitLimit⟩
      (.str (rollCall text))) w.chance = (.ok (.int (d.roll w.chance).1), (d.roll w.chance).2) :=
    outcome_rollCall (Dice.plain_of_read hdice) rfl (outcome_roll hdice hfair)
  have hevaluate : (evaluator (.str (rollCall text)) []).runFrom w =
      (.ok (.int (d.roll w.chance).1), { w with chance := (d.roll w.chance).2 }) := by
    unfold evaluator
    unfold outcome at hvalue
    rw [runFrom_evaluate, hscope]
    simp only [hvalue]
  unfold rollOf
  rw [runFrom_bind_ok (runFrom_liftM_ok
    (rollExpression_of_field hcheck (isEmpty_rollCall text) _) w), runFrom_bind_ok hevaluate]
  rfl

/-- What a check that calls `roll` can roll are the totals of the dice. -/
theorem rolls_iff (hcheck : check.field "roll_expr" = .ok (.str (rollCall text)))
    (hdice : Dice.read w.settings.digitLimit text = .ok (some d))
    (hcapacity : w.state.capacity = .ok c) (hfair : w.chance.roller = .fair) {n : Number} :
    w.Rolls check n ↔ ∃ draw, n = .int (d.roll (w.drawing draw).chance).1 := by
  refine exists_congr fun draw => ?_
  have hrun := @runFrom_rollOf (w.drawing draw) check c text d hcheck hdice hcapacity hfair
  refine ⟨fun ⟨w', h⟩ => ?_, fun h => ⟨_, by rw [h]; exact hrun⟩⟩
  cases h.symm.trans hrun
  rfl

/-- **Dice notation rolls zero**: it is no formula. -/
theorem runFrom_rollOf_dice (hcheck : check.field "roll_expr" = .ok (.str text))
    (hdice : Dice.read w.settings.digitLimit text = .ok (some d))
    (hcapacity : w.state.capacity = .ok c) :
    ∃ w', (rollOf evaluator w.settings check).runFrom w = (.ok (.int 0), w') := by
  obtain ⟨names, hscope⟩ := exists_scope_of_capacity hcapacity
  obtain ⟨e, he⟩ := outcome_dice hdice ⟨names, w.builtins, w.settings.digitLimit⟩ w.chance
  have hzero : ((evaluator (.str text) []).runFrom w).1 = .ok (.int 0) :=
    evaluate_of_failure hscope (congrArg Prod.fst he) false
  unfold rollOf
  rw [runFrom_bind_ok (runFrom_liftM_ok
    (rollExpression_of_field hcheck (Dice.isEmpty_of_read hdice) _) w),
    runFrom_bind_ok (runFrom_eq hzero)]
  exact ⟨_, rfl⟩

theorem rolls_dice_iff (hcheck : check.field "roll_expr" = .ok (.str text))
    (hdice : Dice.read w.settings.digitLimit text = .ok (some d))
    (hcapacity : w.state.capacity = .ok c) {n : Number} : w.Rolls check n ↔ n = .int 0 := by
  constructor
  · rintro ⟨draw, w', h⟩
    obtain ⟨w₁, hrun⟩ :=
      @runFrom_rollOf_dice (w.drawing draw) check c text d hcheck hdice hcapacity
    cases h.symm.trans hrun
    rfl
  · rintro rfl
    obtain ⟨w₁, hrun⟩ :=
      @runFrom_rollOf_dice (w.drawing w.chance.draw) check c text d hcheck hdice hcapacity
    exact ⟨w.chance.draw, w₁, hrun⟩

/-! ### The same die -/

/-- The dice of the call stay within some bounds exactly when all their totals do. -/
theorem rollsWithin_rollCall_iff (hcheck : check.field "roll_expr" = .ok (.str (rollCall text)))
    (hdice : Dice.read w.settings.digitLimit text = .ok (some d)) (hsides : 0 < d.sides)
    (hcapacity : w.state.capacity = .ok c) (hfair : w.chance.roller = .fair) {bounds : Bounds} :
    w.RollsWithin check bounds ↔ bounds.min ≤ d.bounds.min ∧ d.bounds.max ≤ bounds.max := by
  have hrolls := fun n => @rolls_iff w check c text d hcheck hdice hcapacity hfair n
  constructor
  · intro h
    have hlowest : (d.roll (w.drawing fun _ => 0).chance).1 = d.bounds.min :=
      Dice.roll_lowest hsides fun _ => rfl
    have hhighest : (d.roll (w.drawing fun _ => d.sides - 1).chance).1 = d.bounds.max :=
      Dice.roll_highest hsides fun _ => rfl
    constructor
    · exact hlowest ▸ (h _ ((hrolls _).2 ⟨fun _ => 0, rfl⟩)).1
    · exact hhighest ▸ (h _ ((hrolls _).2 ⟨fun _ => d.sides - 1, rfl⟩)).2
  · rintro ⟨hmin, hmax⟩ total htotal
    obtain ⟨draw, htotal⟩ := (hrolls _).1 htotal
    cases htotal
    have hmem := Dice.roll_mem_bounds hsides (w.drawing draw).chance
    exact ⟨Int.le_trans hmin hmem.1, Int.le_trans hmem.2 hmax⟩

/-- **When the rolls of a check lie within the die of its bands.**  The formula `roll('...')` rolls
its own dice, while the bands divide the default die, or one with twenty sides: the rolls lie within
it exactly when all totals of the dice do.  Dice notation without the call is divided as it is
written, but rolls zero. -/
theorem rolls_within_iff (hdice : Dice.read w.settings.digitLimit text = .ok (some d))
    (hsides : 0 < d.sides)
    (hdefault : Dice.boundsOf w.settings.digitLimit (.str w.settings.defaultDice) = .ok b)
    (hcapacity : w.state.capacity = .ok c) (hfair : w.chance.roller = .fair) :
    let bounds := b.getD standardBounds
    (∀ check, check.field "roll_expr" = .ok (.str (rollCall text)) →
      w.Divides check bounds ∧
      (∀ draw, ∃ (total : Int) (w' : World),
        (rollOf evaluator w.settings check).runFrom (w.drawing draw) = (.ok (.int total), w') ∧
          d.bounds.min ≤ total ∧ total ≤ d.bounds.max) ∧
      (w.RollsWithin check bounds ↔ bounds.min ≤ d.bounds.min ∧ d.bounds.max ≤ bounds.max)) ∧
    (∀ check, check.field "roll_expr" = .ok (.str text) →
      w.Divides check d.bounds ∧
      (∀ draw, ∃ w',
        (rollOf evaluator w.settings check).runFrom (w.drawing draw) = (.ok (.int 0), w')) ∧
      (w.RollsWithin check d.bounds ↔ d.bounds.min ≤ 0 ∧ 0 ≤ d.bounds.max)) ∧
    ∀ check draw buffs o w', (resolve evaluator buffs w.settings check).runFrom (w.drawing draw) =
      (.ok o, w') →
      ∃ w₁, (rollOf evaluator w.settings check).runFrom (w.drawing draw) = (.ok o.roll, w₁) := by
  intro bounds
  refine ⟨fun check hcheck => ⟨?_, fun draw => ?_, ?_⟩,
    fun check hcheck => ⟨?_, fun draw => ?_, ?_⟩,
    fun check draw buffs o w' h => resolve_rolls h⟩
  -- the call
  · exact divides_of_boundsFor (boundsFor_rollCall hcheck hdefault)
  · have hrun := @runFrom_rollOf (w.drawing draw) check c text d hcheck hdice hcapacity hfair
    exact ⟨_, _, hrun, Dice.roll_mem_bounds hsides _⟩
  · exact rollsWithin_rollCall_iff hcheck hdice hsides hcapacity hfair
  -- the notation
  · exact divides_of_boundsFor (boundsFor_dice hcheck hdice _)
  · exact @runFrom_rollOf_dice (w.drawing draw) check c text d hcheck hdice hcapacity
  · have hrolls := fun n => @rolls_dice_iff w check c text d hcheck hdice hcapacity n
    refine ⟨fun h => h 0 ((hrolls _).2 rfl), fun h total htotal => ?_⟩
    cases (hrolls _).1 htotal
    exact h

/-- A check that rolls by a formula and has a branch for a critical success. -/
def rollingCheck (formula : String) : Value :=
  .obj [("roll_expr", .str formula), ("crit_success", .obj [("log", .str "Splendid!")])]

/-- Two dice with six sides fit into the die with twenty.  Without the call they roll zero, which is
no total of theirs. -/
theorem rolls_within_iff_twoDice :
    let w := World.closed {} (.constant 0 (.int 0))
    Dice.read w.settings.digitLimit "2d6" = .ok (some ⟨2, 6, 0⟩) ∧
    Dice.boundsOf w.settings.digitLimit (.str w.settings.defaultDice) = .ok (some ⟨1, 20⟩) ∧
    w.state.capacity = .ok .null ∧ w.chance.roller = .fair ∧
    w.RollsWithin (rollingCheck (rollCall "2d6")) ⟨1, 20⟩ ∧
    ¬ w.RollsWithin (rollingCheck "2d6") ⟨2, 12⟩ := by
  intro w
  have hdice : Dice.read w.settings.digitLimit "2d6" = .ok (some ⟨2, 6, 0⟩) := rfl
  obtain ⟨hcall, hdiceText, -⟩ := rolls_within_iff hdice (by decide) boundsOf_default rfl rfl
  have hwithin := (hcall (rollingCheck (rollCall "2d6")) rfl).2.2
  have hzero := (hdiceText (rollingCheck "2d6") rfl).2.2
  exact ⟨hdice, boundsOf_default, rfl, rfl, hwithin.2 (by decide),
    fun h => absurd (hzero.1 h).1 (by decide)⟩

/-- Three dice with ten sides do not fit, and may show thirty. -/
theorem not_rolls_within :
    ¬ ∀ (w : World) (check : Value) (text : String) (d : Dice) (bounds : Bounds) (total : Int),
      check.field "roll_expr" = .ok (.str (rollCall text)) →
      Dice.read w.settings.digitLimit text = .ok (some d) → 0 < d.count → 0 < d.sides →
      w.chance.roller = .fair →
      (bandSetsFor w.settings.digitLimit check w.settings.defaultDice).toOption.join.isSome →
      boundsFor w.settings.digitLimit check w.settings.defaultDice = .ok bounds →
      w.Rolls check (.int total) → bounds.min ≤ total ∧ total ≤ bounds.max := by
  intro h
  let w := World.closed {} (.constant 0 (.int 0))
  have hcheck : (rollingCheck (rollCall "3d10")).field "roll_expr" =
      .ok (.str (rollCall "3d10")) := rfl
  have hdice : Dice.read w.settings.digitLimit "3d10" = .ok (some ⟨3, 10, 0⟩) := rfl
  have hrolls : w.Rolls (rollingCheck (rollCall "3d10")) (.int 30) :=
    (rolls_iff hcheck hdice rfl rfl).2 ⟨fun _ => 9, rfl⟩
  have hwithin := h w _ "3d10" ⟨3, 10, 0⟩ ⟨1, 20⟩ 30 hcheck hdice (by decide)
    (by decide) rfl (by decide +kernel) (boundsFor_rollCall hcheck boundsOf_default) hrolls
  exact absurd hwithin.2 (by decide)

end Check

end Gamebook
