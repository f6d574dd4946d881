/-
**What dice can show.**

Every die shows a value from one up to its sides, so a roll lies between the least and the greatest
total.  Either is reached, whatever has been drawn before.

Main results:

* `Dice.roll_mem_bounds` — **a roll lies within the bounds** of its dice;
* `Dice.roll_lowest`, `Dice.roll_highest` — the bounds are reached.
-/

import Gamebook.Dice.Roll

set_option autoImplicit false

namespace Gamebook

namespace Chance

theorem throwDie_mem {sides : Nat} (h : 0 < sides) (c : Chance) :
    1 ≤ (c.throwDie sides).1 ∧ (c.throwDie sides).1 ≤ sides := by
  have hpos : (0 : Int) < sides := Int.natCast_pos.2 h
  have hnonneg : 0 ≤ (c.draw c.drawn).emod sides := Int.emod_nonneg _ (Int.ne_of_gt hpos)
  have hlt : (c.draw c.drawn).emod sides < sides := Int.emod_lt_of_pos _ hpos
  simp only [throwDie]
  omega

/-- The sum of some dice lies between all ones and all at their greatest value. -/
theorem throwDice_mem {sides : Nat} (h : 0 < sides) (count : Nat) (total : Int) (c : Chance) :
    total + count ≤ (c.throwDice sides count total).1 ∧
      (c.throwDice sides count total).1 ≤ total + count * sides := by
  induction count generalizing total c with
  | zero => simp [throwDice]
  | succ count ih =>
      obtain ⟨hone, hsides⟩ := throwDie_mem h c
      obtain ⟨hlow, hhigh⟩ := ih (total + (c.throwDie sides).1) (c.throwDie sides).2
      have hmul : ((count + 1 : Nat) : Int) * sides = count * sides + sides := by
        rw [Int.natCast_succ, Int.add_mul, Int.one_mul]
      simp only [throwDice]
      omega

/-- Where the draws are all the same, so are the dice. -/
theorem throwDice_of_draw_eq {c : Chance} {draw : Int} (h : ∀ n, c.draw n = draw) (sides : Nat)
    (count : Nat) (total : Int) :
    (c.throwDice sides count total).1 = total + count * (1 + draw.emod sides) := by
  induction count generalizing total c with
  | zero => simp [throwDice]
  | succ count ih =>
      have hnext := ih (c := (c.throwDie sides).2) h (total + (c.throwDie sides).1)
      have hmul : ((count + 1 : Nat) : Int) * (1 + draw.emod sides) =
          count * (1 + draw.emod sides) + (1 + draw.emod sides) := by
        rw [Int.natCast_succ, Int.add_mul, Int.one_mul]
      have hface : (c.throwDie sides).1 = 1 + draw.emod sides := by
        simp only [throwDie, h]
      simp only [throwDice]
      omega

end Chance

namespace Dice

variable {d : Dice} {c : Chance}

theorem roll_eq (h : 0 < d.sides) : d.roll c = c.throwDice d.sides d.count d.modifier :=
  if_neg (by omega)

/-- Dice that have sides can show something. -/
theorem min_le_max_bounds (h : 0 < d.sides) : d.bounds.min ≤ d.bounds.max := by
  have hle : d.count * 1 ≤ d.count * d.sides := Nat.mul_le_mul_left d.count h
  have hcast : ((d.count * d.sides : Nat) : Int) = d.count * d.sides := Int.natCast_mul ..
  simp only [Dice.bounds]
  omega

/-- **A roll lies within the bounds** of its dice. -/
theorem roll_mem_bounds (h : 0 < d.sides) (c : Chance) :
    d.bounds.min ≤ (d.roll c).1 ∧ (d.roll c).1 ≤ d.bounds.max := by
  have hmem := Chance.throwDice_mem h d.count d.modifier c
  rw [roll_eq h]
  simp only [bounds]
  omega

/-- Draws of zero give the least total. -/
theorem roll_lowest (h : 0 < d.sides) (hdraw : ∀ n, c.draw n = 0) :
    (d.roll c).1 = d.bounds.min := by
  have hmod : (0 : Int).emod d.sides = 0 := Int.zero_emod _
  rw [roll_eq h, Chance.throwDice_of_draw_eq hdraw, hmod]
  simp [bounds, Int.add_comm]

/-- Draws of one less than the sides give the greatest total. -/
theorem roll_highest (h : 0 < d.sides) (hdraw : ∀ n, c.draw n = d.sides - 1) :
    (d.roll c).1 = d.bounds.max := by
  have hmod : ((d.sides : Int) - 1).emod d.sides = d.sides - 1 :=
    Int.emod_eq_of_lt (by omega) (by omega)
  have hface : 1 + ((d.sides : Int) - 1) = d.sides := by omega
  rw [roll_eq h, Chance.throwDice_of_draw_eq hdraw, hmod, hface]
  simp [bounds, Int.add_comm]

end Dice

end Gamebook
