/-
**The totals of dice.**

A roll takes one draw for every die and adds what the dice show to the modifier.  With suitable
draws the dice show any values between one and their sides, each die on its own; so the totals that
can be rolled leave out nothing between the bounds.

Main definitions:

* `Chance.drawing` — a source with other draws;
* `Chance.faces` — what the next dice show.

Main results:

* `Chance.throwDice_eq` — a throw adds up the faces, and takes one draw for each;
* `Chance.exists_faces_eq_iff` — **the faces that can be thrown**;
* `Chance.exists_throwDice_eq_iff` — the sums that can be thrown;
* `Dice.totals_eq_bounds` — **the totals of dice are the integers between their bounds**.
-/

import Gamebook.Proofs.Dice.Roll
import Gamebook.Proofs.Formula.Rolling
import Mathlib.Algebra.Ring.Int.Defs

set_option autoImplicit false

namespace Gamebook

namespace Chance

variable {c : Chance} {sides count : Nat}

/-- The source with other draws. -/
def drawing (c : Chance) (draw : Nat → Int) : Chance :=
  { c with draw }

/-- What the next dice with the given number of sides show. -/
def faces (sides : Nat) : Nat → Chance → List Int
  | 0, _ => []
  | count + 1, c => (c.throwDie sides).1 :: faces sides count (c.throwDie sides).2

/-! ### Faces -/

/-- **A throw adds up the faces** and takes one draw for each. -/
theorem throwDice_eq (sides count : Nat) (total : Int) (c : Chance) :
    c.throwDice sides count total =
      (total + (c.faces sides count).sum, { c with drawn := c.drawn + count }) := by
  induction count generalizing total c with
  | zero => simp [throwDice, faces]
  | succ count ih =>
      rw [throwDice, faces, List.sum_cons, ← Int.add_assoc]
      refine (ih _ _).trans ?_
      simp only [throwDie, Nat.add_assoc, Nat.add_comm 1 count]

@[simp] theorem length_faces (sides count : Nat) (c : Chance) :
    (c.faces sides count).length = count := by
  induction count generalizing c with
  | zero => rfl
  | succ count ih => exact congrArg (· + 1) (ih _)

theorem mem_faces (h : 0 < sides) {face : Int} (hface : face ∈ c.faces sides count) :
    1 ≤ face ∧ face ≤ sides := by
  induction count generalizing c with
  | zero => cases hface
  | succ count ih =>
      rcases List.mem_cons.1 hface with rfl | hface
      · exact throwDie_mem h c
      · exact ih hface

/-- Dice show the faces that the draws stand for. -/
theorem faces_eq_of_draw {shown : List Int} (hrange : ∀ face ∈ shown, 1 ≤ face ∧ face ≤ sides)
    (hdraw : ∀ i (hi : i < shown.length), c.draw (c.drawn + i) = shown[i] - 1) :
    c.faces sides shown.length = shown := by
  induction shown generalizing c with
  | nil => rfl
  | cons face shown ih =>
      obtain ⟨⟨hone, hsides⟩, hrange⟩ := List.forall_mem_cons.1 hrange
      have hmod : (face - 1).emod sides = face - 1 := Int.emod_eq_of_lt (by omega) (by omega)
      have hfirst : c.draw c.drawn = face - 1 := hdraw 0 (Nat.succ_pos _)
      have hrest : (c.throwDie sides).2.faces sides shown.length = shown := by
        refine ih hrange fun i hi => ?_
        have hnext := hdraw (i + 1) (Nat.succ_lt_succ hi)
        rwa [← Nat.add_assoc, Nat.add_right_comm] at hnext
      have hthrown : (c.throwDie sides).1 = face := by
        simp only [throwDie, hfirst, hmod]
        omega
      rw [List.length_cons, faces, hthrown, hrest]

/-- **The faces that can be thrown**: as many as there are dice, each between one and the sides. -/
theorem exists_faces_eq_iff (h : 0 < sides) (c : Chance) (shown : List Int) :
    (∃ draw, (c.drawing draw).faces sides count = shown) ↔
      shown.length = count ∧ ∀ face ∈ shown, 1 ≤ face ∧ face ≤ sides := by
  constructor
  · rintro ⟨draw, rfl⟩
    exact ⟨length_faces .., fun face => mem_faces h⟩
  · rintro ⟨rfl, hrange⟩
    refine ⟨fun n => shown.getD (n - c.drawn) 0 - 1, faces_eq_of_draw hrange fun i hi => ?_⟩
    simp [drawing, hi]

/-! ### Sums of faces -/

/-- Every value between all ones and all at the greatest value is a sum of faces. -/
theorem exists_sum_eq {total : Int} (hlow : (count : Int) ≤ total)
    (hhigh : total ≤ count * (sides : Int)) :
    ∃ shown : List Int, shown.length = count ∧ (∀ face ∈ shown, 1 ≤ face ∧ face ≤ sides) ∧
      shown.sum = total := by
  induction count generalizing total with
  | zero => exact ⟨[], rfl, by simp, by simp at hlow hhigh ⊢; omega⟩
  | succ count ih =>
      have hmul : ((count + 1 : Nat) : Int) * sides = count * sides + sides := by
        rw [Int.natCast_succ, Int.add_mul, Int.one_mul]
      have hsides : (0 : Int) < sides := by
        rcases Nat.eq_zero_or_pos sides with rfl | hpos
        · simp at hhigh
          omega
        · omega
      have hones : (count : Int) * 1 ≤ count * sides :=
        Int.mul_le_mul_of_nonneg_left (by omega) (by omega)
      -- The first die takes what it can; at least one is left for each of the others.
      have hleast : (count : Int) ≤ total - min (sides : Int) (total - count) := by omega
      have hmost : total - min (sides : Int) (total - count) ≤ count * sides := by omega
      obtain ⟨shown, hlength, hrange, hsum⟩ := ih hleast hmost
      refine ⟨min (sides : Int) (total - count) :: shown, congrArg (· + 1) hlength,
        List.forall_mem_cons.2 ⟨by omega, hrange⟩, ?_⟩
      rw [List.sum_cons, hsum]
      omega

/-- The sums that can be thrown are the integers from all ones to all at the greatest value. -/
theorem exists_throwDice_eq_iff (h : 0 < sides) (c : Chance) (start total : Int) :
    (∃ draw, ((c.drawing draw).throwDice sides count start).1 = total) ↔
      start + count ≤ total ∧ total ≤ start + count * sides := by
  constructor
  · rintro ⟨draw, rfl⟩
    exact throwDice_mem h count start _
  · rintro ⟨hlow, hhigh⟩
    have hleast : (count : Int) ≤ total - start := by omega
    have hmost : total - start ≤ count * (sides : Int) := by omega
    obtain ⟨shown, hlength, hrange, hsum⟩ := exists_sum_eq hleast hmost
    obtain ⟨draw, hdraw⟩ := (exists_faces_eq_iff h c shown).2 ⟨hlength, hrange⟩
    refine ⟨draw, ?_⟩
    rw [throwDice_eq, hdraw, hsum]
    omega

end Chance

namespace Dice

open Formula

variable {limit : DigitLimit} {s : String} {d : Dice}

/-- The bounds of a text are those of its dice. -/
theorem boundsOf_str (limit : DigitLimit) (s : String) :
    boundsOf limit (.str s) = (read limit s).map (·.map bounds) := by
  rw [boundsOf, ofValue]
  cases read limit s <;> rfl

theorem boundsOf_of_read (hread : read limit s = .ok (some d)) :
    boundsOf limit (.str s) = .ok (some d.bounds) := by
  rw [boundsOf_str, hread]
  rfl

/-- A roll of a text rolls its dice, and is zero without them. -/
theorem outcome_rollFair (limit : DigitLimit) (s : String) (c : Chance) :
    outcome (Chance.rollFair limit (.str s)) c = match read limit s with
      | .ok (some d) => (.ok (.int (d.roll c).1), (d.roll c).2)
      | .ok none => (.ok (.int 0), c)
      | .error e => (.error e, c) := by
  unfold Chance.rollFair
  rw [outcome_bind, outcome_liftM, ofValue]
  rcases read limit s with e | _ | d <;> rfl

/-- Dice with sides add the faces that they show to the modifier. -/
theorem outcome_rollFair_of_read (hread : read limit s = .ok (some d)) (h : 0 < d.sides)
    (c : Chance) :
    outcome (Chance.rollFair limit (.str s)) c =
      (.ok (.int (d.modifier + (c.faces d.sides d.count).sum)),
        { c with drawn := c.drawn + d.count }) := by
  rw [outcome_rollFair, hread]
  dsimp only
  rw [roll_eq h, Chance.throwDice_eq]

/-- **The totals of dice are the integers between their bounds.**  A roll adds up the modifier and
what the dice show, one draw for each; whatever dice can show, they show for some draws. -/
theorem totals_eq_bounds (hread : read limit s = .ok (some d)) (hsides : 0 < d.sides) :
    boundsOf limit (.str s) = .ok (some d.bounds) ∧
    (∀ c, outcome (Chance.rollFair limit (.str s)) c =
      (.ok (.int (d.modifier + (c.faces d.sides d.count).sum)),
        { c with drawn := c.drawn + d.count })) ∧
    (∀ c shown, (∃ draw, (Chance.drawing c draw).faces d.sides d.count = shown) ↔
      shown.length = d.count ∧ ∀ face ∈ shown, 1 ≤ face ∧ face ≤ d.sides) ∧
    (∀ c total, (∃ draw, (outcome (Chance.rollFair limit (.str s)) (Chance.drawing c draw)).1 =
        .ok (.int total)) ↔ d.bounds.min ≤ total ∧ total ≤ d.bounds.max) := by
  refine ⟨boundsOf_of_read hread, outcome_rollFair_of_read hread hsides,
    Chance.exists_faces_eq_iff hsides, fun c total => ?_⟩
  have hroll : ∀ draw, (outcome (Chance.rollFair limit (.str s)) (c.drawing draw)).1 =
      .ok (.int ((c.drawing draw).throwDice d.sides d.count d.modifier).1) := fun draw => by
    rw [outcome_rollFair_of_read hread hsides, Chance.throwDice_eq]
  simp only [hroll, Except.ok.injEq, Value.num.injEq, Number.int.injEq]
  rw [Chance.exists_throwDice_eq_iff hsides, bounds, Int.add_comm d.modifier,
    Int.add_comm d.modifier]

/-- Two dice and a six: what they show for some draws, and the totals from eight to eighteen. -/
theorem totals_two_dice :
    boundsOf .standard (.str "2d6+6") = .ok (some ⟨8, 18⟩) ∧
    (∃ draw, (Chance.drawing (.constant 0 .null) draw).faces 6 2 = [3, 5]) ∧
    (∀ total, (∃ draw, (outcome (Chance.rollFair .standard (.str "2d6+6"))
        (Chance.drawing (.constant 0 .null) draw)).1 = .ok (.int total)) ↔
      8 ≤ total ∧ total ≤ 18) := by
  have hread : read .standard "2d6+6" = .ok (some ⟨2, 6, 6⟩) := by decide +kernel
  obtain ⟨hbounds, -, hfaces, htotals⟩ := totals_eq_bounds hread (by decide)
  exact ⟨hbounds, (hfaces _ [3, 5]).2 (by decide), htotals _⟩

end Dice

end Gamebook
