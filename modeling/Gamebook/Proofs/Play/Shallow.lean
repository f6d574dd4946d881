/-
**What never ends for its depth.**

Nodes and days that lead to others end in a fault when they are nested too deeply.  No other part of
play brings this fault about: reading content, arithmetic, bands and dice, and formulas with all
functions that they can call have faults of their own only.

Main definitions:

* `Fault.IsShallow` — every fault but that of depth;
* `Shallow` — outcomes that are not the fault of depth.

Main result: `Play.evaluate_shallow` — **evaluating a formula never ends for its depth**, in any
world.
-/

import Gamebook.Proofs.Play.Returns

set_option autoImplicit false

namespace Gamebook

/-- The fault does not mean that nodes and days are nested too deeply. -/
def Fault.IsShallow : Fault → Prop
  | tooDeep => False
  | _ => True

/-- The outcome is not the fault of depth. -/
abbrev Shallow {α : Type} (r : Except Fault α) : Prop := FailsOnly Fault.IsShallow r

theorem Fault.InFormula.isShallow {limit : DigitLimit} {e : Fault} (h : e.InFormula limit) :
    e.IsShallow := by
  cases e with
  | tooDeep => exact h.elim
  | _ => trivial

namespace FailsOnly

variable {F : Fault → Prop} {α β : Type}

theorem mapM {f : α → Except Fault β} {l : List α} (h : ∀ a, FailsOnly F (f a)) :
    FailsOnly F (l.mapM f) := by
  induction l with
  | nil => exact .ok []
  | cons a l ih =>
      rw [List.mapM_cons]
      exact (h a).bind fun _ _ => ih.map

theorem filterMapM {f : α → Except Fault (Option β)} {l : List α} (h : ∀ a, FailsOnly F (f a)) :
    FailsOnly F (l.filterMapM f) := by
  induction l with
  | nil => exact .ok []
  | cons a l ih =>
      rw [List.filterMapM_cons]
      refine (h a).bind fun b? _ => ?_
      cases b? with
      | none => exact ih
      | some b => exact ih.map

end FailsOnly

theorem inRange_shallow {α : Type} (o : Option α) : Shallow (inRange o) :=
  inRange_failsOnly trivial o

/-! ### Values -/

namespace Value

variable (v w : Value)

theorem entries_shallow : Shallow v.entries := by
  unfold entries
  split
  · exact .ok _
  · exact .error trivial

theorem field?_shallow (k : Key) : Shallow (v.field? k) := (entries_shallow v).map

theorem field_shallow (k : Key) : Shallow (v.field k) := (field?_shallow v k).map

theorem required_shallow (k : Key) : Shallow (v.required k) := by
  unfold required
  split
  · split
    · exact .ok _
    · exact .error trivial
  · exact .error trivial

theorem asKey_shallow : Shallow v.asKey := by
  cases v <;> first | exact .ok _ | exact .error trivial

theorem lookup_shallow {α : Type} (fs : Fields α) : Shallow (lookup fs v) := (asKey_shallow v).map

theorem fieldAt_shallow : Shallow (v.fieldAt w) :=
  (entries_shallow v).bind fun fs _ => (lookup_shallow w fs).map

theorem placeIn_shallow (length : Nat) : Shallow (placeIn length v) := by
  unfold placeIn
  split
  · rename_i i _
    generalize (if i < 0 then i + (length : Int) else i) = place
    dsimp only
    split
    · exact .ok _
    · exact .error trivial
  · exact .error trivial

theorem entryAt_shallow : Shallow (v.entryAt w) := by
  unfold entryAt
  split
  · exact (placeIn_shallow w _).map
  · exact (placeIn_shallow w _).map
  · exact (asKey_shallow w).bind fun k _ => required_shallow v k

theorem setEntryAt_shallow (u : Value) : Shallow (v.setEntryAt w u) := by
  unfold setEntryAt
  split
  · exact (asKey_shallow w).map
  · exact (placeIn_shallow w _).map
  · exact .error trivial

theorem elements_shallow : Shallow v.elements := by
  cases v <;> first | exact .ok _ | exact .error trivial

theorem contains_shallow : Shallow (v.contains w) := by
  unfold contains
  split
  · exact (lookup_shallow w _).map
  · exact (lookup_shallow w _).map
  · exact .ok _
  · split
    · exact .ok _
    · exact .error trivial
  · exact .error trivial

theorem isFiniteNumber_shallow : Shallow v.isFiniteNumber := by
  unfold isFiniteNumber
  split
  · exact inRange_shallow _
  · exact .ok false

theorem isTrue_shallow : Shallow v.isTrue := isTrue_failsOnly trivial v

theorem plus_shallow (n : Number) : Shallow (v.plus n) := by
  unfold plus
  split
  · exact inRange_shallow _
  · exact .error trivial

theorem minus_shallow : Shallow (v.minus w) := by
  unfold minus
  split
  · exact inRange_shallow _
  · exact .error trivial

mutual

theorem lt_shallow (v w : Value) : Shallow (v.lt w) := by
  match v with
  | null | obj _ | inventory _ | flags _ => exact .error trivial
  | bool _ | num _ | str _ =>
      unfold lt
      split
      · exact .ok _
      · exact .error trivial
  | list vs =>
      unfold lt
      split
      · exact ltList_shallow vs _
      · exact .error trivial

theorem ltList_shallow (vs ws : List Value) : Shallow (ltList vs ws) := by
  match vs with
  | [] => exact .ok _
  | v :: vs =>
      unfold ltList
      split
      · exact .ok false
      · split
        · exact ltList_shallow vs _
        · exact lt_shallow v _

end

theorem le_shallow : Shallow (v.le w) := by
  unfold le
  split
  · exact .ok _
  · exact (lt_shallow v w).map

theorem larger_shallow : Shallow (larger v w) := (lt_shallow v w).map

theorem smaller_shallow : Shallow (smaller v w) := (lt_shallow w v).map

theorem displayWithin_shallow (limit : DigitLimit) : Shallow (v.displayWithin limit) :=
  displayWithin_failsOnly (fun _ => trivial) v

theorem plainTextWithin_shallow (limit : DigitLimit) : Shallow (v.plainTextWithin limit) := by
  unfold plainTextWithin
  split
  · exact .ok _
  · exact .error trivial

end Value

open Value

/-! ### The inventory, stats and buffs -/

namespace Inventory

variable (inv : Inventory) (item qty capacity : Value)

theorem quantity_shallow : Shallow (inv.quantity item) := (asKey_shallow item).map

theorem sumFrom_shallow (n : Number) (vs : List Value) : Shallow (sumFrom n vs) := by
  induction vs generalizing n with
  | nil => exact .ok n
  | cons v vs ih => exact (plus_shallow v n).bind fun m _ => ih m

theorem overflows_shallow (n : Number) : Shallow (inv.overflows n capacity) := by
  unfold overflows
  split
  · exact .ok false
  refine (isFiniteNumber_shallow capacity).bind fun finite _ => ?_
  split
  · exact .ok false
  split
  · exact .ok false
  exact (sumFrom_shallow _ _).bind fun _ _ => (inRange_shallow _).map

theorem add_shallow : Shallow (inv.add item qty capacity) := by
  unfold add
  split
  · exact .ok _
  refine (isFiniteNumber_shallow qty).bind fun finite _ => ?_
  split
  · exact .ok _
  refine (overflows_shallow inv capacity _).bind fun overflown _ => ?_
  split
  · exact .ok _
  exact (asKey_shallow item).bind fun name _ => (plus_shallow _ _).map

theorem remove_shallow : Shallow (inv.remove item qty) := by
  unfold remove
  split
  · exact .ok _
  refine (isFiniteNumber_shallow qty).bind fun finite _ => ?_
  split
  · exact .ok _
  exact (asKey_shallow item).bind fun name _ => (minus_shallow _ _).map

end Inventory

namespace BuffInstance

theorem aggregateFrom_shallow (totals : BuffTotals) (is : List BuffInstance) :
    Shallow (aggregateFrom totals is) := by
  induction is generalizing totals with
  | nil => exact .ok totals
  | cons i is ih =>
      refine (isFiniteNumber_shallow i.value).bind fun finite _ => ?_
      split
      · exact ih totals
      · have hadd : Shallow (totals.add i.id i.value.toNumber) :=
          (asKey_shallow i.id).bind fun _ _ => (inRange_shallow _).map
        exact hadd.bind fun totals' _ => ih totals'

end BuffInstance

namespace Stat

variable (s : Stat) (derived : Fields Stat)

theorem cur_shallow : Shallow s.cur := required_shallow _ _

theorem max_shallow : Shallow s.max := required_shallow _ _

theorem clamp_shallow : Shallow s.clamp := by
  unfold clamp
  refine (max_shallow s).bind fun top _ => (larger_shallow _ top).bind fun top _ => ?_
  refine (cur_shallow _).bind fun cur _ => (larger_shallow _ cur).bind fun cur _ => ?_
  exact (smaller_shallow cur top).map

theorem clampTo_shallow (id : Key) : Shallow (clampTo derived id s) := by
  have hcut (s : Stat) : Shallow (do
      if ← (← s.cur).lt (.int 0) then return s.setCur (.int 0) else return s) := by
    refine (cur_shallow s).bind fun cur _ => (lt_shallow cur _).bind fun below _ => ?_
    split <;> exact .ok _
  unfold clampTo
  split
  · refine (max_shallow _).bind fun top _ => (cur_shallow s).bind fun cur _ => ?_
    refine (lt_shallow top cur).bind fun above _ => ?_
    split <;> exact hcut _
  · exact hcut s

theorem clampAll_shallow (base : Fields Stat) : Shallow (clampAll base derived) :=
  FailsOnly.mapM fun entry => (clampTo_shallow entry.2 derived entry.1).map

end Stat

namespace Play

theorem holdsOf_shallow (inventory : Inventory) (item : Key) (definition : Value) :
    Shallow (holdsOf inventory item definition) := by
  unfold holdsOf
  refine (inventory.quantity_shallow _).bind fun count _ => ?_
  refine (field_shallow _ _).bind fun holds _ => ?_
  split
  · exact .ok _
  refine (isFiniteNumber_shallow count).bind fun finite _ => ?_
  split
  · exact .ok _
  split
  · exact .ok _
  exact (elements_shallow holds).map

theorem declares_shallow (table id : Value) : Shallow (declares table id) := by
  unfold declares
  split
  · exact contains_shallow table id
  · exact .ok false

theorem withoutId_shallow (id : Value) (active : List Value) : Shallow (withoutId id active) :=
  FailsOnly.filterMapM fun buff => (field_shallow buff _).map

theorem tickBuff_shallow (buff : Value) : Shallow (tickBuff buff) := by
  unfold tickBuff
  refine (field_shallow buff _).bind fun duration _ => ?_
  split
  · exact .ok _
  refine (minus_shallow duration _).bind fun left _ => ?_
  split
  · exact (entries_shallow buff).map
  · exact .ok none

theorem tickAll_shallow (active : List Value) : Shallow (tickAll active) :=
  FailsOnly.filterMapM tickBuff_shallow

theorem dayCount_shallow (amount : Value) : Shallow (dayCount amount) := by
  unfold dayCount
  refine (inRange_shallow _).bind fun finite _ => ?_
  split
  · exact .ok 1
  refine (inRange_shallow _).bind fun n _ => ?_
  split <;> exact .ok _

theorem entryWithId_shallow (id : Value) (entries : List Value) :
    Shallow (entryWithId id entries) := by
  induction entries with
  | nil => exact .ok none
  | cons e es ih =>
      refine (field_shallow e _).bind fun v _ => ?_
      split
      · exact .ok _
      · exact ih

theorem isEnding_shallow (node : Value) : Shallow (isEnding node) := (field_shallow node _).map

end Play

/-! ### Dice, bands and checks -/

section

variable (limit : DigitLimit)

theorem DigitLimit.readNat_shallow (digits : List Char) : Shallow (limit.readNat digits) := by
  unfold readNat
  split
  · exact .ok _
  · exact .error trivial

namespace Dice

theorem ofText_shallow (t : DiceText) : Shallow (ofText limit t) := by
  unfold ofText
  refine (limit.readNat_shallow _).bind fun count _ => ?_
  refine (limit.readNat_shallow _).bind fun sides _ => ?_
  split
  · exact .ok _
  · refine FailsOnly.map ?_
    unfold ModifierText.value
    split
    · exact .error trivial
    · exact (limit.readNat_shallow _).map

theorem ofValue_shallow (v : Value) : Shallow (ofValue limit v) := by
  unfold ofValue
  split
  · unfold read
    split
    · exact .ok none
    · exact (ofText_shallow limit _).map
  · exact .ok none

theorem boundsOf_shallow (v : Value) : Shallow (boundsOf limit v) := (ofValue_shallow limit v).map

end Dice

namespace Band

variable (bands : Value) (name : String) (bounds : Bounds)

theorem readRange_shallow (cs : List Char) : Shallow (readRange limit cs) := by
  have hend (e : EndText) : Shallow (e.value limit) := (limit.readNat_shallow _).map
  unfold readRange
  split
  · exact .ok none
  · refine (hend _).bind fun first _ => ?_
    split
    · exact .ok _
    · exact (hend _).map

theorem rangeOf_shallow (band : Value) : Shallow (rangeOf limit band bounds) := by
  refine (field_shallow band _).bind fun range _ => ?_
  unfold parseRange
  split
  · exact .ok []
  · exact .ok []
  · refine (plainTextWithin_shallow _ limit).bind fun text _ => ?_
    refine (readRange_shallow limit _).bind fun ends _ => ?_
    split <;> exact .ok _

theorem critSet_shallow (branch : Bool) (extreme : Int) :
    Shallow (critSet limit bands name bounds branch extreme) := by
  refine (field_shallow bands _).bind fun band _ => ?_
  split
  · exact rangeOf_shallow limit bounds band
  · exact .ok _

theorem plainSet_shallow : Shallow (plainSet limit bands name bounds) := by
  refine (field_shallow bands _).bind fun band _ => ?_
  split
  · exact rangeOf_shallow limit bounds band
  · exact .ok []

theorem isExplicit_shallow : Shallow (isExplicit bands) := by
  refine (field_shallow bands _).bind fun success _ => ?_
  split
  · exact .ok true
  · exact (field_shallow bands _).map

theorem computeSets_shallow (critFail critSuccess : Bool) :
    Shallow (computeSets limit bands bounds critFail critSuccess) := by
  unfold computeSets
  refine (critSet_shallow limit _ _ _ _ _).bind fun critFail _ => ?_
  refine (critSet_shallow limit _ _ _ _ _).bind fun critSuccess _ => ?_
  refine (isExplicit_shallow _).bind fun explicit _ => ?_
  split
  · exact .ok _
  refine (plainSet_shallow limit _ _ _).bind fun success _ => ?_
  exact (plainSet_shallow limit _ _ _).map

end Band

namespace Check

variable (check : Value) (defaultDice : String)

theorem rollExpression_shallow : Shallow (rollExpression check defaultDice) := by
  unfold rollExpression
  refine (field_shallow check _).bind fun own _ => ?_
  split
  · exact .ok own
  · exact (field_shallow check _).map

theorem boundsFor_shallow : Shallow (boundsFor limit check defaultDice) := by
  unfold boundsFor
  refine (rollExpression_shallow check defaultDice).bind fun roll _ => ?_
  refine (Dice.boundsOf_shallow limit roll).bind fun bounds _ => ?_
  split
  · exact .ok _
  · exact (Dice.boundsOf_shallow limit _).map

theorem bandSetsFor_shallow : Shallow (bandSetsFor limit check defaultDice) := by
  unfold bandSetsFor
  refine (field_shallow check _).bind fun bands _ => (field_shallow check _).bind fun fail _ => ?_
  refine (field_shallow check _).bind fun success _ => ?_
  dsimp only
  split
  · exact .ok none
  refine (boundsFor_shallow limit check defaultDice).bind fun bounds _ => ?_
  exact (Band.computeSets_shallow limit bands bounds _ _).map

theorem totalResult_shallow (total dc : Value) : Shallow (totalResult total dc) :=
  (le_shallow dc total).map

theorem dieValue_shallow (roll : Value) : Shallow (dieValue roll) := by
  unfold dieValue
  refine (inRange_shallow _).bind fun finite _ => ?_
  split
  · exact .ok none
  refine (inRange_shallow _).bind fun n _ => ?_
  split <;> exact .ok _

theorem classify_shallow (roll total dc : Value) (sets : Option Band.Sets) :
    Shallow (classify roll total dc sets) := by
  unfold classify
  split
  · exact totalResult_shallow total dc
  · refine (dieValue_shallow roll).bind fun v _ => ?_
    split
    · exact .ok _
    · exact totalResult_shallow total dc

theorem selectBranch_shallow (result : CheckResult) : Shallow (selectBranch check result) := by
  unfold selectBranch
  split
  · refine (field_shallow check _).bind fun branch _ => ?_
    split
    · exact .ok branch
    · exact field_shallow check _
  · refine (field_shallow check _).bind fun branch _ => ?_
    split
    · exact .ok branch
    · exact field_shallow check _
  · exact field_shallow check _

theorem logLineWithin_shallow (o : CheckOutcome) : Shallow (o.logLineWithin limit) := by
  unfold CheckOutcome.logLineWithin
  split
  · exact .ok _
  · exact .error trivial

end Check

end

/-! ### Formulas -/

open Formula

/-- A computation that uses chance never ends for its depth, whatever chance has in store. -/
abbrev ChancyShallow {α : Type} (m : Chancy α) : Prop := ChancyFailsOnly Fault.IsShallow m

namespace Chance

variable (limit : DigitLimit) (v : Value)

theorem rollFair_shallow : ChancyShallow (rollFair limit v) := by
  refine (ChancyFailsOnly.lift (Dice.ofValue_shallow limit v)).bind fun dice => ?_
  cases dice with
  | none => exact .pure _
  | some d => exact fun c => .ok _

theorem roll_shallow : ChancyShallow (roll limit v) := fun c => by
  have hfair := rollFair_shallow limit v
  unfold roll
  rw [outcome_bind]
  change FailsOnly _ (outcome _ c).1
  split
  · exact hfair c
  · exact .ok _
  · rw [outcome_bind]
    change FailsOnly _ (outcome _ _).1
    split
    · exact hfair _
    · exact .ok _

end Chance

namespace World

variable {w : World}

theorem stateBuiltin_shallow {name : String} {f : List Value → Except Fault Value}
    (h : w.stateBuiltin? name = some f) (vs : List Value) : Shallow (f vs) := by
  have hitem (item count : Value) : Shallow (w.hasItem item count) :=
    (Inventory.quantity_shallow _ item).bind fun quantity _ => (le_shallow _ quantity).map
  unfold stateBuiltin? at h
  split at h
  · cases h
    dsimp only
    split
    · exact hitem _ _
    · exact hitem _ _
    · exact .error trivial
  split at h
  · cases h
    dsimp only
    split
    · exact Inventory.quantity_shallow _ _
    · exact .error trivial
  split at h
  · cases h
    dsimp only
    split
    · exact .ok _
    · exact .error trivial
  split at h
  · cases h
    dsimp only
    split
    · exact (fieldAt_shallow _ _).bind fun v _ => (isTrue_shallow v).map
    · exact .error trivial
  · cases h

theorem builtin_shallow {name : String} {f : Builtin} (h : w.builtins name = some f)
    (vs : List Value) : ChancyShallow (f vs) := by
  rw [builtins] at h
  cases hchance : chanceBuiltin? w.settings.digitLimit name with
  | some g =>
      rw [hchance] at h
      cases h
      unfold chanceBuiltin? at hchance
      split at hchance
      · cases hchance
        dsimp only
        split
        · exact fun c => .ok _
        · exact .throw trivial
      split at hchance
      · cases hchance
        dsimp only
        split
        · exact Chance.roll_shallow _ _
        · exact .throw trivial
      · cases hchance
  | none =>
      rw [hchance] at h
      dsimp only at h
      split at h
      · rename_i g hg
        cases h
        exact .lift (stateBuiltin_shallow hg vs)
      · obtain ⟨g, hg, rfl⟩ := Option.map_eq_some_iff.1 h
        have hmath : FailsOnly (Fault.InFormula none) (g vs) := math_failsOnly hg vs
        have hshallow : Shallow (g vs) := hmath.mono fun _ => Fault.InFormula.isShallow
        exact (ChancyFailsOnly.lift hshallow).bind fun n => .pure _

theorem scope_shallow (extra : Fields Value) : Shallow (w.scope extra) :=
  (field_shallow w.state.resources _).map

end World

namespace Play

/-- **Evaluating a formula never ends for its depth**, in any world. -/
theorem evaluate_shallow (formula : Value) (extra : Fields Value) (quiet : Bool) (w : World) :
    Shallow ((evaluate formula extra quiet).runFrom w).1 := by
  rw [runFrom_evaluate]
  have hscope := w.scope_shallow extra
  generalize hs : w.scope extra = s at hscope
  cases s with
  | error e => exact .error (hscope e rfl)
  | ok scope =>
      have hbuiltins : scope.builtins = w.builtins := by
        obtain ⟨_, _, h⟩ := exists_of_bind_eq_ok hs
        cases h
        rfl
      have hfails : ChancyShallow (Formula.evaluate scope formula) :=
        evaluate_failsOnly_of (fun _ => Fault.InFormula.isShallow)
          (fun e he => by cases e <;> exact he)
          (fun f vs _ => call_failsOnly_of (fun _ => trivial) fun builtin hb =>
            World.builtin_shallow (hbuiltins ▸ hb) vs) (avoids_nil formula)
      have hfault := hfails w.chance
      unfold outcome at hfault
      dsimp only
      generalize (Formula.evaluate scope formula).run.run w.chance = r at hfault
      obtain ⟨r, c⟩ := r
      cases r with
      | ok v => exact .ok v
      | error e =>
          cases e with
          | formula e => exact .ok _
          | _ => exact hfault

end Play

end Gamebook
