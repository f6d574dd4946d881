/-
**Saving a state and reading it back.**

Main results:

* `SavedGame.ofValue_toValue` — **a saved game is read back** from its own record, with defaults for
  what is empty.
-/

import Gamebook.Proofs.Journal
import Gamebook.State

set_option autoImplicit false

namespace Gamebook

namespace Inventory

/-- The counts are read back from their object. -/
theorem ofValue_toValue (inv : Inventory) : ofValue inv.toValue = .ok inv := by
  obtain ⟨counts⟩ := inv
  cases counts <;> simp [ofValue, toValue, Value.holds, Value.fields?]

end Inventory

namespace SavedGame

theorem toValue_orElse (g : SavedGame) (v : Value) : g.toValue.orElse v = g.toValue := by
  simp [Value.orElse, toValue, Value.holds]

/-- **A saved game is read back** from its own record. -/
theorem ofValue_toValue (digits : DigitLimit) (g : SavedGame) (limit : Int) :
    ofValue digits g.toValue limit = .ok
      { baseStats := g.baseStats.orElse (.obj []), resources := g.resources.orElse (.obj [])
        inventory := g.inventory, buffs := g.buffs.orElse (.list [])
        flags := g.flags.orElse (.obj []), day := g.day, node := g.node, ending := g.ending
        journal := Journal.ofValue g.journal.toValue limit } := by
  simp [ofValue, toValue, Fields.get?_cons, Value.ofOption, Inventory.ofValue_toValue,
    Journal.ofValueWithin_toValue, bind, Except.bind, pure, Except.pure]

end SavedGame

end Gamebook
