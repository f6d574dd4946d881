/-
**Worlds of the expected shape.**

Content is trusted to have a shape: the two values of a stat, the capacity and the counts of the
items are numbers of some kind, the active buffs are records, and the flags and the declarations of
items and buffs are objects.  A document of this shape opens as a world of this shape, and nothing
that play can change spoils it.

Main definitions:

* `Value.IsNumber`, `Value.IsRecord`, `Value.IsResources`, `Stat.HasNumbers` — the kinds of values;
* `World.IsShaped` — **worlds of the expected shape**.

Main result: `World.Changes.isShaped` — **every change keeps the shape**.
-/

import Gamebook.Proofs.Inventory
import Gamebook.Proofs.Play.Change

set_option autoImplicit false

namespace Gamebook

open Play Value

/-! ### Kinds of values -/

/-- The value is a number, or a truth value in place of one. -/
def Value.IsNumber (v : Value) : Prop := v.number?.isSome = true

instance (v : Value) : Decidable v.IsNumber := inferInstanceAs (Decidable (_ = true))

/-- The value is an object. -/
def Value.IsRecord (v : Value) : Prop := ∃ fields, v = .obj fields

/-- The value is an object whose capacity, if it has one, is a number. -/
def Value.IsResources (v : Value) : Prop :=
  ∃ resources, v = .obj resources ∧
    ((ofOption (Fields.get? resources "capacity")).orElse (.int 0)).IsNumber

theorem Value.IsNumber.exists_number {v : Value} (h : v.IsNumber) : ∃ n, v.number? = some n :=
  Option.isSome_iff_exists.1 h

@[simp] theorem Value.isNumber_num (n : Number) : (Value.num n).IsNumber := rfl

/-- Only a number comes before a number. -/
theorem Value.IsNumber.of_lt {v w : Value} {b : Bool} (hw : w.IsNumber) (h : v.lt w = .ok b) :
    v.IsNumber := by
  obtain ⟨n, hn⟩ := hw.exists_number
  cases v with
  | bool | num => rfl
  | str | list =>
      cases w with
      | bool | num => cases h
      | _ => cases hn
  | _ => cases h

theorem Value.isNumber_atLeastZero (n : Number) : (Inventory.atLeastZero n).IsNumber := by
  unfold Inventory.atLeastZero
  split <;> rfl

namespace Stat

/-- Both values of the stat are numbers. -/
structure HasNumbers (s : Stat) : Prop where
  cur : ∃ v, s.cur = .ok v ∧ v.IsNumber
  max : ∃ v, s.max = .ok v ∧ v.IsNumber

variable {s s' : Stat} {v : Value}

theorem HasNumbers.setCur (h : s.HasNumbers) (hv : v.IsNumber) : (s.setCur v).HasNumbers :=
  ⟨⟨v, cur_setCur s v, hv⟩, by rw [max_setCur]; exact h.max⟩

theorem HasNumbers.setMax (h : s.HasNumbers) (hv : v.IsNumber) : (s.setMax v).HasNumbers :=
  ⟨by rw [cur_setMax]; exact h.cur, ⟨v, max_setMax s v, hv⟩⟩

/-- A stat that could be cut to a derived maximum still has numbers for its values. -/
theorem HasNumbers.clampTo (hs : s.HasNumbers) {derived : Fields Stat} {id : Key}
    (h : clampTo derived id s = .ok s') : s'.HasNumbers := by
  rw [clampTo_eq_bind] at h
  obtain ⟨cut, hcut, h⟩ := exists_of_bind_eq_ok h
  have hcutNumbers : cut.HasNumbers := by
    cases hlimit : derived.get? id with
    | none =>
        rw [hlimit] at hcut
        cases hcut
        exact hs
    | some limit =>
        rw [hlimit] at hcut
        obtain ⟨top, htop, hcut⟩ := exists_of_bind_eq_ok hcut
        obtain ⟨c, hc, hcut⟩ := exists_of_bind_eq_ok hcut
        obtain ⟨b, hb, hcut⟩ := exists_of_bind_eq_ok hcut
        -- the maximum was compared with a number, so it is one
        obtain ⟨c', hc', hnumber⟩ := hs.cur
        obtain rfl : c' = c := Except.ok.inj (hc'.symm.trans hc)
        cases b with
        | true =>
            cases hcut
            exact hs.setCur (hnumber.of_lt hb)
        | false =>
            cases hcut
            exact hs
  rcases raised_cases h with rfl | ⟨rfl, -⟩
  · exact hcutNumbers.setCur rfl
  · exact hcutNumbers

end Stat

/-! ### Worlds -/

namespace World

/-- The parts of the state and of the book that conditions and effects rely on have the expected
kinds. -/
structure IsShaped (w : World) : Prop where
  stats : ∀ f ∈ w.state.baseStats, f.2.HasNumbers
  resources : w.state.resources.IsResources
  counts : ∀ f ∈ w.state.inventory.counts, f.2.IsNumber
  buffs : ∃ active, w.state.buffs = .list active ∧ ∀ buff ∈ active, buff.IsRecord
  flags : w.state.flags.IsRecord
  items : w.book.items.IsRecord
  declaredBuffs : ∃ buffs, w.book.buffs = .obj buffs ∧
    ∀ f ∈ buffs, (f.2.orElse (.obj [])).IsRecord

variable {P : Value → Prop} {E : Fields Value → Prop} {ends : Prop} {w w' : World}

/-- The capacity is read from the resources. -/
theorem IsShaped.exists_capacity (h : w.IsShaped) :
    ∃ v, w.state.capacity = .ok v ∧ (v.orElse (.int 0)).IsNumber := by
  obtain ⟨resources, hresources, hcapacity⟩ := h.resources
  refine ⟨_, ?_, hcapacity⟩
  rw [State.capacity, hresources]
  rfl

/-- The shape is that of the parts that it is about. -/
theorem IsShaped.of_eq (h : w.IsShaped) (hbook : w'.book = w.book)
    (hstats : w'.state.baseStats = w.state.baseStats)
    (hresources : w'.state.resources = w.state.resources)
    (hinventory : w'.state.inventory = w.state.inventory) (hbuffs : w'.state.buffs = w.state.buffs)
    (hflags : w'.state.flags = w.state.flags) : w'.IsShaped :=
  ⟨hstats ▸ h.stats, hresources ▸ h.resources, hinventory ▸ h.counts, hbuffs ▸ h.buffs,
    hflags ▸ h.flags, hbook ▸ h.items, hbook ▸ h.declaredBuffs⟩

theorem Idle.isShaped (h : Idle w w') (hw : w.IsShaped) : w'.IsShaped := by
  have hs := h.state_eq
  exact hw.of_eq h.book_eq (by rw [hs]) (by rw [hs]) (by rw [hs]) (by rw [hs]) (by rw [hs])

/-- A sync cuts the base stats down and leaves the other parts as they are. -/
theorem Resynced.isShaped (h : Resynced w w') (hw : w.IsShaped) : w'.IsShaped := by
  obtain ⟨base, stats, instances, totals, hcut, hidle⟩ := h
  have hbase : ∀ f ∈ base, f.2.HasNumbers := by
    rcases hcut with rfl | ⟨derived, hclamp, -, -⟩
    · exact hw.stats
    · intro g hg
      obtain ⟨f, hf, -, hfg⟩ := exists_mem_of_forall₂ (Stat.clampAll_eq_ok_iff.1 hclamp) hg
      exact (hw.stats f hf).clampTo hfg
  refine hidle.isShaped ?_
  exact ⟨hbase, hw.resources, hw.counts, hw.buffs, hw.flags, hw.items, hw.declaredBuffs⟩

/-- A world with other counts, all of them numbers. -/
theorem IsShaped.withInventory (hw : w.IsShaped) {inventory : Inventory}
    (h : ∀ f ∈ inventory.counts, f.2.IsNumber) :
    (w.withState (w.state.withInventory inventory)).IsShaped := by
  obtain ⟨flags, hflags⟩ := hw.flags
  refine ⟨hw.stats, hw.resources, h, hw.buffs, ?_, hw.items, hw.declaredBuffs⟩
  change (refreshFlags inventory.counts w.state.flags).IsRecord
  rw [hflags]
  exact ⟨_, rfl⟩

/-- A world with other active buffs, all of them records. -/
theorem IsShaped.withBuffs (hw : w.IsShaped) {active : List Value}
    (h : ∀ buff ∈ active, buff.IsRecord) :
    (w.withState { w.state with buffs := .list active }).IsShaped :=
  ⟨hw.stats, hw.resources, hw.counts, ⟨active, rfl, h⟩, hw.flags, hw.items, hw.declaredBuffs⟩

/-- What is kept of the active buffs, or made of one of them, is a record again. -/
theorem IsShaped.buffs_filterMapM (hw : w.IsShaped) {f : Value → Except Fault (Option Value)}
    {active rest : List Value} (hactive : w.state.buffs.elements = .ok active)
    (hrest : active.filterMapM f = .ok rest)
    (hf : ∀ buff buff', buff.IsRecord → f buff = .ok (some buff') → buff'.IsRecord) :
    ∀ buff ∈ rest, buff.IsRecord := by
  obtain ⟨active', hbuffs, hrecords⟩ := hw.buffs
  rw [hbuffs] at hactive
  cases hactive
  intro buff hbuff
  obtain ⟨buff₀, hmem, hbuff₀⟩ := exists_of_mem_filterMapM hrest hbuff
  exact hf _ _ (hrecords _ hmem) hbuff₀

theorem isRecord_of_unlessId {id buff buff' : Value} (h : buff.IsRecord)
    (hbuff : unlessId id buff = .ok (some buff')) : buff'.IsRecord := by
  obtain ⟨v, -, hbuff⟩ := exists_of_bind_eq_ok hbuff
  split at hbuff
  · cases hbuff
  · cases hbuff
    exact h

theorem isRecord_of_tickBuff {buff buff' : Value} (h : buff.IsRecord)
    (hbuff : tickBuff buff = .ok (some buff')) : buff'.IsRecord := by
  obtain ⟨duration, -, hbuff⟩ := exists_of_bind_eq_ok hbuff
  split at hbuff
  · cases hbuff
    exact h
  obtain ⟨left, -, hbuff⟩ := exists_of_bind_eq_ok hbuff
  split at hbuff
  · obtain ⟨fields, -, hbuff⟩ := exists_of_bind_eq_ok hbuff
    cases hbuff
    exact ⟨_, rfl⟩
  · cases hbuff

/-- A flag is set in the object of the flags. -/
theorem isRecord_of_setEntryAt {flags flag v flags' : Value} (h : flags.IsRecord)
    (hset : flags.setEntryAt flag v = .ok flags') : flags'.IsRecord := by
  obtain ⟨fields, rfl⟩ := h
  obtain ⟨name, -, hset⟩ := exists_of_bind_eq_ok hset
  cases hset
  exact ⟨_, rfl⟩

/-- **Every change keeps the shape.** -/
theorem Change.isShaped (h : Change P E ends w w') (hw : w.IsShaped) : w'.IsShaped := by
  cases h with
  | idle h => exact h.isShaped hw
  | sync =>
      have h : Resynced w (Play.sync.runFrom w).2 := (sync_leads w).world
      exact h.isShaped hw
  | cur _ _ hget =>
      refine ⟨Fields.forall_set hw.stats ?_, hw.resources, hw.counts, hw.buffs, hw.flags, hw.items,
        hw.declaredBuffs⟩
      exact (Fields.forall_get? hw.stats hget).setCur (isNumber_num _)
  | max _ _ _ _ hget =>
      refine ⟨Fields.forall_set hw.stats ?_, hw.resources, hw.counts, hw.buffs, hw.flags, hw.items,
        hw.declaredBuffs⟩
      exact (Fields.forall_get? hw.stats hget).setMax (isNumber_num _)
  | capacity =>
      refine ⟨hw.stats, ⟨_, rfl, ?_⟩, hw.counts, hw.buffs, hw.flags, hw.items, hw.declaredBuffs⟩
      rw [Fields.get?_set_self]
      rcases orElse_eq (.num _) (.int 0) with h | h <;> rw [ofOption, h] <;> rfl
  | addItem _ _ _ _ _ _ hadd =>
      refine hw.withInventory ?_
      rcases Inventory.add_cases hadd with rfl | ⟨name, n, -, -, -, rfl⟩
      · exact hw.counts
      · exact Fields.forall_set hw.counts (isNumber_atLeastZero n)
  | removeItem _ _ _ hremove =>
      refine hw.withInventory ?_
      rcases Inventory.remove_cases hremove with rfl | ⟨name, n, -, -, rfl⟩
      · exact hw.counts
      · exact Fields.forall_set hw.counts (isNumber_atLeastZero n)
  | addBuff _ _ _ _ _ _ _ _ _ hactive =>
      obtain ⟨active, hbuffs, hrecords⟩ := hw.buffs
      rw [hbuffs] at hactive
      cases hactive
      refine hw.withBuffs fun buff hbuff => ?_
      rcases List.mem_append.1 hbuff with hbuff | hbuff
      · exact hrecords buff hbuff
      · exact ⟨_, List.mem_singleton.1 hbuff⟩
  | removeBuff _ _ hactive hrest =>
      exact hw.withBuffs (hw.buffs_filterMapM hactive hrest fun _ _ => isRecord_of_unlessId)
  | tick hactive hrest =>
      exact hw.withBuffs (hw.buffs_filterMapM hactive hrest fun _ _ => isRecord_of_tickBuff)
  | flag _ _ _ _ _ _ _ hflags =>
      exact ⟨hw.stats, hw.resources, hw.counts, hw.buffs, isRecord_of_setEntryAt hw.flags hflags,
        hw.items, hw.declaredBuffs⟩
  | _ => exact hw.of_eq rfl rfl rfl rfl rfl rfl

/-- Changes one after the other keep the shape. -/
theorem Changes.isShaped (h : Changes P E ends w w') (hw : w.IsShaped) : w'.IsShaped :=
  h.preserves (fun _ _ => Change.isShaped) hw

/-- What makes changes only keeps the shape. -/
theorem isShaped_of_leads {α : Type} {m : Play α} {Q : α → World → Prop}
    (h : Leads (Changes (fun _ => True) (fun _ => True) True) w m Q) (hw : w.IsShaped) :
    (m.runFrom w).2.IsShaped := h.world.isShaped hw

end World

end Gamebook
