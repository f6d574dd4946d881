/-
**The derived view in step with the base stats.**

After a sync the derived stats have the names of the base stats, each of them is in its range, no
base value is below zero, and the sums of the buffs are those of the contributions in effect.
Actions write base stats and buffs without touching the view, so in between it can be out of step;
what they never do is to write a stat that is not proper.

Main definition: `World.InStep` — the view of a world is in step.

Main results:

* `World.hasBuff_eq_has` — a buff is in effect when its sum is there;
* `World.Changes.allProper` — **base stats stay proper**, whatever happens;
* `World.SettledFrom.inStep` — **a settled world is in step**.
-/

import Gamebook.Proofs.Play.ActionChanges

set_option autoImplicit false

namespace Gamebook

/-! ### Sums of buffs -/

/-- A name is a given text when its value equals it. -/
theorem Value.eqv_str {v : Value} {name : Key} (h : v.asKey = .ok name) (s : String) :
    v.eqv (.str s) = name.same (.text s) := by
  cases v with
  | str t =>
      cases h
      rw [Value.eqv, Bool.eq_iff_iff, Key.same_text, beq_iff_eq]
  | null =>
      cases h
      rfl
  | bool b =>
      cases h
      cases b <;> rfl
  | num n =>
      cases h
      simp [Value.eqv, Value.number?, Key.same, Key.canon]
  | _ => cases h

namespace BuffInstance

/-- Each contribution that counts puts its name among those of the sums. -/
theorem has_aggregateFrom {totals sums : BuffTotals} {instances : List BuffInstance}
    (hfinite : ∀ i ∈ instances, Play.IsFiniteInstance i)
    (h : aggregateFrom totals instances = .ok sums) (id : String) :
    sums.has id = (totals.has id || instances.any fun i => i.id.eqv (.str id)) := by
  induction instances generalizing totals with
  | nil =>
      cases h
      simp
  | cons i rest ih =>
      have hi : i.value.isFiniteNumber = .ok true := hfinite i (List.mem_cons_self ..)
      have hrest : ∀ j ∈ rest, Play.IsFiniteInstance j :=
        fun j hj => hfinite j (List.mem_cons_of_mem i hj)
      cases hname : i.id.asKey with
      | error e => simp [aggregateFrom, hi, BuffTotals.add, hname, bind, Except.bind] at h
      | ok name =>
          -- a sum out of range ends the sync, so no contribution is lost
          cases hsum : inRange (((totals.get? name).getD (.int 0)).add? i.value.toNumber) with
          | error e =>
              simp [aggregateFrom, hi, BuffTotals.add, hname, hsum, bind, Except.bind] at h
          | ok sum =>
              have h' : aggregateFrom (totals.set name sum) rest = .ok sums := by
                simpa [aggregateFrom, hi, BuffTotals.add, hname, hsum, bind, Except.bind, pure,
                  Except.pure] using h
              rw [ih hrest h', Fields.has_set, List.any_cons, Value.eqv_str hname]
              cases name.same (.text id) <;> simp

end BuffInstance

/-! ### Views in step -/

theorem Number.KeptAs.isComparable {n n' : Number} (h : n.KeptAs n')
    (hn : n.IsComparable) : n'.IsComparable := by
  rcases h with rfl | ⟨rfl, _⟩
  · exact hn
  · exact absurd rfl hn

/-- **The view is in step with the base stats.** -/
structure World.InStep (w : World) : Prop where
  /-- The derived stats have the names of the base stats. -/
  keys : w.state.stats.keys = w.state.baseStats.keys
  /-- Every derived stat is in its range. -/
  derived : Stat.AllInRange w.state.stats
  /-- No base value is below zero. -/
  base : ∀ f ∈ w.state.baseStats, ∃ c : Number, f.2.cur = .ok (.num c) ∧
    Number.le (.int 0) c = true
  /-- The sums of the buffs are those of the contributions. -/
  totals : BuffInstance.aggregate w.state.buffInstances = .ok w.state.buffTotals
  /-- A buff is in effect when its sum is there. -/
  hasBuff : ∀ id : String, w.hasBuff (.str id) = w.state.buffTotals.has id

namespace World

variable {P : Value → Prop} {E : Fields Value → Prop} {ends : Prop} {w w' : World}

/-- Being in step is a matter of the stats and the buffs in effect. -/
theorem InStep.of_eq (h : w.InStep) (hbase : w'.state.baseStats = w.state.baseStats)
    (hstats : w'.state.stats = w.state.stats)
    (hinstances : w'.state.buffInstances = w.state.buffInstances)
    (htotals : w'.state.buffTotals = w.state.buffTotals) : w'.InStep := by
  obtain ⟨hk, hd, hb, ht, hh⟩ := h
  refine ⟨?_, ?_, ?_, ?_, fun id => ?_⟩
  · rw [hstats, hbase, hk]
  · rw [hstats]
    exact hd
  · rw [hbase]
    exact hb
  · rw [hinstances, htotals, ht]
  · rw [htotals, ← hh id, World.hasBuff, World.hasBuff, hinstances]

theorem InStep.idle (h : w.InStep) (h' : Idle w w') : w'.InStep :=
  h.of_eq (by rw [h'.state_eq]) (by rw [h'.state_eq]) (by rw [h'.state_eq]) (by rw [h'.state_eq])

/-- **A sync of proper base stats puts the view in step.** -/
theorem SyncRun.inStep {p : Passes} (h : SyncRun w w' p)
    (hbase : Stat.AllProper w.state.baseStats) : w'.InStep := by
  have hstate := h.state_eq
  refine ⟨?_, ?_, fun g hg => ?_, ?_, fun id => ?_⟩
  · rw [hstate]
    exact h.second_spec.1
  · rw [hstate]
    exact h.second_spec.2 (h.allProper hbase)
  · rw [hstate] at hg
    obtain ⟨f, _, _, c, top, hc, hcc, _, h0, hg⟩ := exists_mem_of_forall₂ (h.cutBy hbase) hg
    obtain ⟨c', hc', h0', _⟩ := Stat.cur_cutTo hc hcc h0
    exact ⟨c', by rw [hg, hc'], h0'⟩
  · rw [hstate]
    exact h.totals_eq
  · rw [World.hasBuff, hstate, BuffInstance.has_aggregateFrom h.finite h.totals_eq]
    simp

/-! ### Proper base stats -/

theorem Change.allProper (h : Change P E ends w w') (hw : Stat.AllProper w.state.baseStats) :
    Stat.AllProper w'.state.baseStats := by
  cases h with
  | idle h =>
      rw [h.state_eq]
      exact hw
  | sync =>
      obtain ⟨base, _, _, _, hcut, hidle⟩ := (Play.sync_leads w).world
      rw [hidle.state_eq]
      rcases hcut with rfl | ⟨derived, hclamp, hkeys, hrange⟩
      · exact hw
      · exact Stat.allProper_clampAll hkeys hw (hrange hw) hclamp
  | @cur effect stat before name s amount after kept _ _ hget hbefore hfinite hafter hkept =>
      have hs : s.IsProper := Fields.forall_get? hw hget
      refine Fields.forall_set hw (hs.setCur (hkept.isComparable ?_))
      rcases hafter.after_cases with rfl | hafter
      · exact .of_isFinite? (inRange_eq_ok hfinite)
      · obtain ⟨c, m, hc, _, hcc, _⟩ := hs
        rw [hbefore] at hc
        exact Stat.IsProper.plus (Except.ok.inj hc) hcc hfinite hafter
  | @max effect stat before name s amount after kept _ _ _ _ hget hbefore hfinite hafter hkept =>
      have hs : s.IsProper := Fields.forall_get? hw hget
      refine Fields.forall_set hw (hs.setMax (hkept.isComparable ?_))
      obtain ⟨c, m, _, hm, _, hmc⟩ := hs
      rw [hbefore] at hm
      exact Stat.IsProper.plus (Except.ok.inj hm) hmc hfinite hafter
  | _ => exact hw

/-- **Base stats stay proper.** -/
theorem Changes.allProper (h : Changes P E ends w w') (hw : Stat.AllProper w.state.baseStats) :
    Stat.AllProper w'.state.baseStats :=
  h.preserves (fun _ _ hc => hc.allProper) hw

/-- **A settled world is in step**, when the base stats it comes from are proper. -/
theorem SettledFrom.inStep (h : SettledFrom P E w w') (hw : Stat.AllProper w.state.baseStats) :
    w'.InStep := by
  obtain ⟨w₁, w₂, ending, hchanges, hsync, hidle⟩ := h
  obtain ⟨p, hp⟩ := Play.sync_eq_ok_iff.1 hsync
  have h₂ : (w₂.withEnding ending).InStep :=
    (hp.inStep (hchanges.allProper hw)).of_eq rfl rfl rfl rfl
  exact h₂.idle hidle

end World

end Gamebook
