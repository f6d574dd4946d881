/-
**Parts of the state, and worlds that differ in one.**

A part of the state is a value of a stat, the capacity, the count of an item, the active buffs or a
flag.  Two worlds differ in notes only when all parts of their states agree, whatever the journal,
the warnings and the chance that is left are.  They differ in a part when one has another value
there.

A flag can be the flags themselves.  Whoever reads it finds every flag, so the flags are opened
before what formulas read is compared.

Main definitions:

* `State.Part`, `State.put` — the parts of a state, and the state with another value in one;
* `Value.opened`, `World.opened` — the flags as formulas read them;
* `World.Noting`, `World.Touches` — worlds that differ in notes only, and in a part and in notes.

Main results:

* `Formula.member_live` — a member of the flags is a member of the opened flags;
* `World.Touches.trans` — what is touched twice is touched;
* `World.Touches.view_eq` — touching a part leaves the derived view alone;
* `World.Touches.opened` — **touching a flag leaves what the others read as alone**, unless one of
  them is the flags.
-/

import Gamebook.Proofs.Adjustment
import Gamebook.Proofs.Play.Idle

set_option autoImplicit false

namespace Gamebook

open Value

/-! ### Writing twice -/

/-- Where a value can be written another one can, too, and the last one stays. -/
theorem Value.setEntryAt_setEntryAt {v w id : Value} {a b : Value} (h : v.setEntryAt id a = .ok w) :
    ∃ u, w.setEntryAt id b = .ok u ∧ v.setEntryAt id b = .ok u := by
  cases v with
  | obj fields =>
      obtain ⟨k, hk, h⟩ := exists_of_bind_eq_ok h
      cases h
      simp only [setEntryAt, hk, bind, Except.bind, Fields.set_set]
      exact ⟨_, rfl, rfl⟩
  | list items =>
      obtain ⟨i, hi, h⟩ := exists_of_bind_eq_ok h
      cases h
      simp only [setEntryAt, List.length_set, hi, bind, Except.bind, List.set_set]
      exact ⟨_, rfl, rfl⟩
  | _ => cases h

/-! ### Flags that are the inventory or the flags -/

namespace Value

section

variable {p : Value → Bool} {f : Value → Value}

/-- What leaves every value alone that lacks a property leaves a list of such values alone. -/
theorem map_eq_self (hf : ∀ v, p v = false → f v = v) {items : List Value}
    (h : items.any p = false) : items.map f = items := by
  refine (List.map_congr_left fun v hmem => ?_).trans (List.map_id _)
  exact hf v (Bool.eq_false_iff.2 (List.any_eq_false.1 h v hmem))

theorem map_entries_eq_self (hf : ∀ v, p v = false → f v = v) {fields : Fields Value}
    (h : (fields.any fun g => p g.2) = false) : fields.map (fun g => (g.1, f g.2)) = fields := by
  refine (List.map_congr_left fun g hmem => ?_).trans (List.map_id _)
  exact Prod.ext rfl (hf g.2 (Bool.eq_false_iff.2 (List.any_eq_false.1 h g hmem)))

end

end Value

/-- The value is the inventory. -/
def Value.isInventory : Value → Bool
  | .inventory _ => true
  | _ => false

theorem Value.follow_eq_self (counts : Fields Value) (v : Value) (h : v.isInventory = false) :
    v.follow counts = v := by
  cases v with
  | inventory counts => cases h
  | _ => rfl

namespace Value

/-- The flags as formulas read them: a flag that is the flags has what they hold. -/
def opened (flags : Value) : Value :=
  match flags with
  | .list items => .list (items.map (·.within flags.live))
  | .obj fields => .obj (fields.map fun f => (f.1, f.2.within flags.live))
  | .inventory counts => .inventory (counts.map fun c => (c.1, c.2.within flags.live))
  | v => v

theorem within_eq_self (whole v : Value) (h : v.isFlags = false) : v.within whole = v := by
  cases v with
  | flags content => cases h
  | _ => rfl

end Value

namespace Formula

/-- An entry of a part of the flags is the entry of the opened part. -/
theorem memberOfObject_within (limit : DigitLimit) (fields : Fields Value) (key whole : Value) :
    (do return (← memberOfObject limit fields key).within whole : Except Fault Value) =
      memberOfObject limit (fields.map fun f => (f.1, f.2.within whole)) key := by
  unfold memberOfObject
  cases key.displayWithin limit with
  | error e => rfl
  | ok name =>
      have hentry : (ofOption (fields.get? name)).within whole =
          ofOption (Fields.get? (fields.map fun f => (f.1, f.2.within whole)) name) := by
        rw [Fields.get?_map fun v : Value => v.within whole]
        cases fields.get? name <;> rfl
      exact congrArg Except.ok hentry

theorem memberOfRow_within (items : List Value) (key whole : Value) :
    (do return (← memberOfRow items key).within whole : Except Fault Value) =
      memberOfRow (items.map (·.within whole)) key := by
  have helement (i : Int) :
      (elementAt items i).within whole = elementAt (items.map (·.within whole)) i := by
    unfold elementAt
    rw [List.getElem?_map]
    split
    · cases items[i.toNat]? <;> rfl
    · rfl
  unfold memberOfRow
  split
  · rw [List.length_map]
    split <;> rfl
  · cases indexOf? key with
    | error e => rfl
    | ok i? =>
        cases i? with
        | none => rfl
        | some i => exact congrArg Except.ok (helement i)

/-- **A member of the flags** is a member of the opened flags. -/
theorem member_live (limit : DigitLimit) (flags key : Value) :
    member limit flags.live key = member limit flags.opened key := by
  cases flags with
  | list items => exact memberOfRow_within items key _
  | obj fields => exact memberOfObject_within limit fields key _
  | inventory counts => exact memberOfObject_within limit counts key _
  | _ => rfl

end Formula

/-! ### Parts of the state -/

namespace State

/-- A part of the state that an effect can name. -/
inductive Part where
  | cur (stat : Key)
  | max (stat : Key)
  | capacity
  | count (item : Key)
  | buffs
  | flag (id : Value)

/-- The state with another value in a part.  No stat is made that is not there, and where there are
no resources or flags to write to the state stays as it is. -/
def put (s : State) (v : Value) : Part → State
  | .cur name => { s with baseStats := s.baseStats.adjust name fun stat => stat.setCur v }
  | .max name => { s with baseStats := s.baseStats.adjust name fun stat => stat.setMax v }
  | .capacity =>
      match s.resources.entries with
      | .ok resources => { s with resources := .obj (resources.set "capacity" v) }
      | .error _ => s
  | .count item => { s with inventory := ⟨s.inventory.counts.set item v⟩ }
  | .buffs => { s with buffs := v }
  | .flag id =>
      match s.flags.setEntryAt id v with
      | .ok flags => { s with flags }
      | .error _ => s

variable (s : State) (v : Value) (part : Part)

theorem put_journal (j : Journal) :
    put { s with journal := j } v part = { s.put v part with journal := j } := by
  cases part with
  | capacity => simp only [put]; split <;> rfl
  | flag id => simp only [put]; split <;> rfl
  | _ => rfl

/-- A part keeps the value that was written last. -/
theorem put_put (v' : Value) : (s.put v part).put v' part = s.put v' part := by
  cases part with
  | cur name => simp only [put, Fields.adjust_adjust, Stat.setCur, Fields.set_set]
  | max name => simp only [put, Fields.adjust_adjust, Stat.setMax, Fields.set_set]
  | capacity =>
      cases h : s.resources.entries with
      | error e => simp only [put, h]
      | ok resources =>
          have hobj (fs : Fields Value) : (Value.obj fs).entries = .ok fs := rfl
          simp only [put, h, hobj, Fields.set_set]
  | count item => simp only [put, Fields.set_set]
  | buffs => rfl
  | flag id =>
      cases h : s.flags.setEntryAt id v with
      | error e => simp only [put, h]
      | ok flags =>
          obtain ⟨flags', hagain, hfirst⟩ := setEntryAt_setEntryAt (b := v') h
          simp only [put, h, hagain, hfirst]

/-- Writing to a part leaves the derived view alone. -/
theorem put_view : (s.put v part).stats = s.stats ∧
    (s.put v part).buffInstances = s.buffInstances ∧ (s.put v part).buffTotals = s.buffTotals := by
  cases part with
  | capacity => simp only [put]; split <;> exact ⟨rfl, rfl, rfl⟩
  | flag id => simp only [put]; split <;> exact ⟨rfl, rfl, rfl⟩
  | _ => exact ⟨rfl, rfl, rfl⟩

/-- One of the flags has the property. -/
def anyFlag (p : Value → Bool) : Bool :=
  match s.flags with
  | .obj flags | .inventory flags => flags.any fun f => p f.2
  | .list flags => flags.any p
  | _ => false

/-- One of the flags is the inventory. -/
def flagIsInventory : Bool := s.anyFlag isInventory

/-- One of the flags is the flags themselves. -/
def flagIsFlags : Bool := s.anyFlag isFlags

/-- The state with its flags as formulas read them. -/
def opened : State := { s with flags := s.flags.opened }

variable {s}

/-- Where no flag is the inventory, no flag follows it. -/
theorem withInventory_eq (h : s.flagIsInventory = false) (inventory : Inventory) :
    s.withInventory inventory = { s with inventory } := by
  have hflags : refreshFlags inventory.counts s.flags = s.flags := by
    unfold flagIsInventory anyFlag at h
    cases hf : s.flags with
    | obj flags =>
        rw [hf] at h
        exact congrArg Value.obj (map_entries_eq_self (follow_eq_self _) h)
    | list flags =>
        rw [hf] at h
        exact congrArg Value.list (map_eq_self (follow_eq_self _) h)
    | _ => rfl
  rw [withInventory, hflags]

/-! ### Opened flags -/

section

variable (v : Value) {part : Part}

/-- Where no flag is the flags, the flags read as they are. -/
theorem opened_eq_self (h : s.flagIsFlags = false) : s.opened = s := by
  have hflags : s.flags.opened = s.flags := by
    unfold flagIsFlags anyFlag at h
    cases hf : s.flags with
    | obj fields | inventory counts =>
        rw [hf] at h
        rw [Value.opened, map_entries_eq_self (within_eq_self _) h]
    | list items =>
        rw [hf] at h
        rw [Value.opened, map_eq_self (within_eq_self _) h]
    | _ => rfl
  rw [opened, hflags]

/-- Writing to another part than the flags is the same whether they are opened or not. -/
theorem opened_put (h : ∀ id, part ≠ .flag id) : (s.put v part).opened = s.opened.put v part := by
  cases part with
  | capacity =>
      simp only [put, opened]
      split <;> rfl
  | flag id => exact absurd rfl (h id)
  | _ => rfl

/-- Writing a flag where none is the flags: the other flags read as before. -/
theorem exists_opened_put_flag (h : s.flagIsFlags = false) (id : Value) :
    ∃ read, (s.put v (.flag id)).opened = s.put read (.flag id) := by
  have hkept : ∀ e, (∀ v, s.flags.setEntryAt id v = .error e) →
      ∃ read, (s.put v (.flag id)).opened = s.put read (.flag id) := by
    intro e he
    refine ⟨v, ?_⟩
    simp only [put, he]
    exact opened_eq_self h
  have hflags := h
  unfold flagIsFlags anyFlag at hflags
  cases hf : s.flags with
  | obj fields =>
      rw [hf] at hflags
      cases hk : id.asKey with
      | error e => exact hkept e fun v => by rw [hf, setEntryAt, hk]; rfl
      | ok k =>
          have hset : ∀ v, s.flags.setEntryAt id v = .ok (.obj (Fields.set fields k v)) :=
            fun v => by rw [hf, setEntryAt, hk]; rfl
          refine ⟨v.within (.flags (.obj (Fields.set fields k v))), ?_⟩
          simp only [put, hset, opened, Value.opened, live]
          rw [Fields.map_set fun v : Value => v.within _,
            map_entries_eq_self (within_eq_self _) hflags]
  | list items =>
      rw [hf] at hflags
      cases hi : placeIn items.length id with
      | error e => exact hkept e fun v => by rw [hf, setEntryAt, hi]; rfl
      | ok i =>
          have hset : ∀ v, s.flags.setEntryAt id v = .ok (.list (items.set i v)) :=
            fun v => by rw [hf, setEntryAt, hi]; rfl
          refine ⟨v.within (.flags (.list (items.set i v))), ?_⟩
          simp only [put, hset, opened, Value.opened, live]
          rw [List.map_set, map_eq_self (within_eq_self _) hflags]
  | _ => exact hkept .wrongKind fun v => by rw [hf]; rfl

end

end State

/-! ### Worlds that differ little -/

namespace World

/-- The second world is the first one with another journal. -/
def Annotates (w w' : World) : Prop :=
  w' = { w with state := { w.state with journal := w'.state.journal } }

/-- The second world is the first one with other notes: lines in the journal, warnings, chance that
was used and results that were counted. -/
def Noting (w w' : World) : Prop :=
  w' = { w with
    state := { w.state with journal := w'.state.journal }
    chance := w'.chance
    warnings := w'.warnings
    keptNaNs := w'.keptNaNs }

variable {w w' w'' : World}

theorem Annotates.refl (w : World) : Annotates w w := rfl

theorem Annotates.trans (h : Annotates w w') (h' : Annotates w' w'') : Annotates w w'' := by
  unfold Annotates at *
  rw [h', h]

theorem Annotates.noting (h : Annotates w w') : Noting w w' := by
  unfold Annotates at h
  rw [h]
  rfl

theorem Noting.refl (w : World) : Noting w w := rfl

theorem Noting.trans (h : Noting w w') (h' : Noting w' w'') : Noting w w'' := by
  unfold Noting at *
  rw [h', h]

theorem Noting.state_eq (h : Noting w w') :
    w'.state = { w.state with journal := w'.state.journal } := congrArg World.state h

theorem Noting.book_eq (h : Noting w w') : w'.book = w.book := by
  unfold Noting at h
  rw [h]

theorem Idle.noting (h : Idle w w') : Noting w w' := by
  obtain ⟨failed, c, warnings, rfl⟩ := h
  rfl

/-- The second world is the first one with another value in the part, if there is one, and with
other notes. -/
def Touches (part? : Option State.Part) (w w' : World) : Prop :=
  ∃ s, (s = w.state ∨ ∃ part ∈ part?, ∃ v, s = w.state.put v part) ∧
    Noting { w with state := s } w'

variable {part? : Option State.Part}

theorem Noting.touches (h : Noting w w') : Touches part? w w' := ⟨w.state, .inl rfl, h⟩

theorem Touches.put {part : State.Part} (h : part ∈ part?) (v : Value) :
    Touches part? w { w with state := w.state.put v part } :=
  ⟨_, .inr ⟨part, h, v, rfl⟩, .refl _⟩

theorem Touches.trans (h : Touches part? w w') (h' : Touches part? w' w'') :
    Touches part? w w'' := by
  obtain ⟨s, hs, hnoting⟩ := h
  obtain ⟨s', hs', hnoting'⟩ := h'
  have hstate : w'.state = { s with journal := w'.state.journal } := hnoting.state_eq
  -- the second step starts from the first one's state with another journal
  have hbeside : ∀ t : State, Noting { w with state := t }
      { w' with state := { t with journal := w'.state.journal } } := by
    intro t
    unfold Noting
    rw [hnoting]
  rcases hs' with rfl | ⟨part, hpart, v, rfl⟩
  · exact ⟨s, hs, hnoting.trans hnoting'⟩
  rw [hstate, State.put_journal] at hnoting'
  refine ⟨s.put v part, .inr ⟨part, hpart, ?_⟩, (hbeside _).trans hnoting'⟩
  rcases hs with rfl | ⟨part', hpart', v', rfl⟩
  · exact ⟨v, rfl⟩
  · obtain rfl : part' = part := Option.mem_unique hpart' hpart
    exact ⟨v, State.put_put ..⟩

instance : Std.Refl Annotates := ⟨Annotates.refl⟩

instance : Std.Refl Noting := ⟨Noting.refl⟩

instance : IsTrans World Noting := ⟨fun _ _ _ => Noting.trans⟩

instance : Std.Refl (Touches part?) := ⟨fun w => (Noting.refl w).touches⟩

instance : IsTrans World (Touches part?) := ⟨fun _ _ _ => Touches.trans⟩

/-- Touching a part leaves the derived view, the book and the settings alone. -/
theorem Touches.view_eq (h : Touches part? w w') : w'.state.stats = w.state.stats ∧
    w'.state.buffInstances = w.state.buffInstances ∧
      w'.state.buffTotals = w.state.buffTotals := by
  obtain ⟨s, hs, hnoting⟩ := h
  have hview : s.stats = w.state.stats ∧ s.buffInstances = w.state.buffInstances ∧
      s.buffTotals = w.state.buffTotals := by
    rcases hs with rfl | ⟨part, -, v, rfl⟩
    · exact ⟨rfl, rfl, rfl⟩
    · exact State.put_view ..
  rw [hnoting.state_eq]
  exact hview

/-- The world with its flags as formulas read them. -/
def opened (w : World) : World := { w with state := w.state.opened }

/-- **What a flag reads as** is touched with the flag only, unless one of the flags is the flags and
another one is written. -/
theorem Touches.opened (h : Touches part? w w')
    (hflags : ∀ id, part? = some (.flag id) → w.state.flagIsFlags = false) :
    Touches part? w.opened w'.opened := by
  obtain ⟨s, hs, hnoting⟩ := h
  have hopened : Noting { w with state := s.opened } w'.opened := by
    unfold Noting at *
    rw [hnoting]
    rfl
  refine ⟨s.opened, hs.imp ?_ ?_, hopened⟩
  · rintro rfl
    rfl
  · rintro ⟨part, hpart, v, rfl⟩
    by_cases hflag : ∃ id, part = .flag id
    · obtain ⟨id, rfl⟩ := hflag
      have hnone := hflags id hpart
      obtain ⟨read, hread⟩ := State.exists_opened_put_flag v hnone id
      refine ⟨_, hpart, read, ?_⟩
      rw [hread, World.opened, State.opened_eq_self hnone]
    · exact ⟨part, hpart, v, State.opened_put v fun id hid => hflag ⟨id, hid⟩⟩

/-- Touching a flag leaves the flags of other names alone. -/
theorem Touches.get?_flags {id : Value} {name other : Key} (h : Touches (some (.flag id)) w w')
    (hid : id.asKey = .ok name) (hother : name.same other = false) :
    w'.state.flags.fields?.bind (Fields.get? · other) =
      w.state.flags.fields?.bind (Fields.get? · other) := by
  obtain ⟨s, hs, hnoting⟩ := h
  rw [hnoting.state_eq]
  rcases hs with rfl | ⟨part, ⟨⟩, v, rfl⟩
  · rfl
  simp only [State.put]
  split
  · rename_i flags hset
    cases hflags : w.state.flags with
    | obj fields =>
        rw [hflags, setEntryAt, hid] at hset
        cases hset
        exact Fields.get?_set_of_not_same hother fields v
    | list items =>
        rw [hflags] at hset
        obtain ⟨i, -, hset⟩ := exists_of_bind_eq_ok hset
        cases hset
        rfl
    | _ =>
        rw [hflags] at hset
        cases hset
  · rfl

/-- Touching the count of an item leaves the flags alone. -/
theorem Touches.flags_eq {item : Key} (h : Touches (some (.count item)) w w') :
    w'.state.flags = w.state.flags := by
  obtain ⟨s, hs, hnoting⟩ := h
  rw [hnoting.state_eq]
  rcases hs with rfl | ⟨part, ⟨⟩, v, rfl⟩ <;> rfl

end World

end Gamebook
