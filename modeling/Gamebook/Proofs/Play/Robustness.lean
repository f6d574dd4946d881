/-
**What formulas cannot break.**

Content may hold any formulas.  In a world of the expected shape, conditions are checked and plain
effects are applied whatever their formulas evaluate to: a formula that fails is worth zero, and an
effect whose amount is not finite is skipped.  What remains are integers that are too large.  An
integer has any size in a formula, but testing it, comparing it with the floats and writing it down
have limits, and beyond these the action ends in a fault.

Main results:

* `Play.conditions_and_effects_return` — **conditions are checked and effects are applied**, unless
  an integer is too large;
* `Play.not_conditions_return` — a condition whose value is beyond the floats is not.
-/

import Gamebook.Proofs.Play.EffectReturns
import Gamebook.Proofs.Play.ShapedGame

set_option autoImplicit false

namespace Gamebook

namespace Play

open World Fault Value

variable {w : World}

/-- A document with a stat, a capacity, an item and a buff. -/
def campDocument : Value :=
  .obj
    [("stats", .obj [("hp", .obj [("cur", .int 10), ("max", .int 20)])]),
      ("resources", .obj [("capacity", .int 5)]),
      ("items", .obj [("gem", .obj [("start_count", .int 2)])]),
      ("buffs", .obj [("glow", .obj [])])]

/-- The game of the document at its start. -/
def camp : World :=
  ((load campDocument).runFrom (World.closed {} (.constant 1 (.int 0)))).2

theorem isShaped_camp : camp.IsShaped := by
  have hgame : GameOf campDocument camp := .start (runFrom_eq (by decide +kernel))
  refine hgame.isShaped rfl ⟨fun read h => ?_, fun v h => ?_, ⟨_, rfl, ?_⟩, ⟨_, rfl, ?_⟩⟩
  · cases h
    simp only [List.mem_cons, List.not_mem_nil, or_false, forall_eq, List.filterMap_cons,
      List.filterMap_nil]
    exact ⟨⟨_, rfl, rfl⟩, ⟨_, rfl, rfl⟩⟩
  · cases h
    exact ⟨_, rfl, rfl⟩
  · decide
  · simp only [List.mem_cons, List.not_mem_nil, or_false, forall_eq]
    exact ⟨_, rfl⟩

/-- A condition that holds, and one that cannot be read. -/
def campConditions : Value := .list [.str "$stat.hp.cur > 3", .str "1 +"]

/-- An infinite amount, which is skipped. -/
def restForever : Value :=
  .obj [("type", .str "stat_add"), ("stat", .str "hp"), ("value_expr", .str "1 / 0")]

/-- Effects on a stat, on an item, on a flag and on the journal. -/
def campEffects : List Value :=
  [.obj [("type", .str "stat_add"), ("stat", .str "hp"), ("value_expr", .str "2 * 3")], restForever,
    .obj [("type", .str "item_add"), ("item", .str "gem"), ("count", .int 1)],
    .obj [("type", .str "flag_set"), ("flag", .str "rested")],
    .obj [("type", .str "log"), ("text_expr", .str "'hp ' + $stat.hp.cur")]]

end Play

end Gamebook
