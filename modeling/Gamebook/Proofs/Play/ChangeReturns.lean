/-
**Changes that return.**

In a world of the expected shape, what effects do to the stats, the capacity, the items, the buffs
and the flags can only fail for an integer that is too large.  Where the numbers in the state and
the number that is added are in range, it returns: what it writes may be out of range, but it can
still be compared with what was there, and written down.

Main definitions:

* `World.InRange` — worlds whose numbers are in range;
* `World.Ready` — worlds of the expected shape, and strictly with numbers in range.

Main results:

* `Play.updateCur_returns`, `Play.addToMax_returns`, `Play.addToCapacity_returns` — **stats and the
  capacity**;
* `Play.addItem_returns`, `Play.removeItem_returns` — items;
* `Play.addBuff_returns`, `Play.removeBuff_returns`, `Play.setFlag_returns` — buffs and flags, which
  hold no number that could be too large.
-/

import Gamebook.Proofs.Play.EffectChanges
import Gamebook.Proofs.Play.Returns

set_option autoImplicit false

namespace Gamebook

open World Fault Value

variable {loose : Prop}

/-! ### Arithmetic on stored values -/

/-- The number that the value is, if it is one, is in range. -/
def Value.InRange (v : Value) : Prop := ∀ n ∈ v.number?, n.InRange

instance (v : Value) : Decidable v.InRange := inferInstanceAs (Decidable (∀ n ∈ v.number?, _))

theorem Value.InRange.orElse {v w : Value} (hv : v.InRange) (hw : w.InRange) :
    (v.orElse w).InRange := by
  rcases v.orElse_eq w with h | h <;> rw [h] <;> assumption

theorem Value.inRange_num {n : Number} (h : n.InRange) : (Value.num n).InRange := fun m hm => by
  cases hm
  exact h

theorem Value.inRange_int_zero : (Value.int 0).InRange := inRange_num (by decide)

/-- A number can be written that is not much larger than the range. -/
theorem Value.isWritable_of_number {limit : DigitLimit} {v : Value} {n : Number}
    (hlimit : limit.admits DigitLimit.ofRange = true) (hv : v.number? = some n)
    (hn : n.size < 3 * twoTo 1024) : v.isWritable limit = true := by
  cases v with
  | bool b => rfl
  | num m =>
      cases hv
      exact isWritable_num hlimit hn
  | _ => cases hv

section

variable {v w : Value} {n : Number}

theorem isFiniteNumber_allowed (h : ¬ loose → v.InRange) :
    FailsOnly (Allowed loose) v.isFiniteNumber := by
  cases v with
  | num n => exact inRange_allowed fun hl => (h hl n rfl).isSome_isFinite
  | _ => exact .ok false

theorem plus_allowed (hv : v.IsNumber) (hrange : ¬ loose → v.InRange)
    (hn : ¬ loose → n.InRange) : FailsOnly (Allowed loose) (v.plus n) := by
  obtain ⟨a, ha⟩ := hv.exists_number
  unfold Value.plus
  rw [ha]
  refine inRange_allowed fun hl => ?_
  obtain ⟨c, hc⟩ := (hrange hl a ha).exists_combine (hn hl) (· + ·) (· + ·)
  exact Option.isSome_iff_exists.2 ⟨c, hc⟩

/-- A sum is that of the number that the stored value is. -/
theorem exists_of_plus_eq {c : Number} (h : v.plus n = .ok c) :
    ∃ a, v.number? = some a ∧ a.add? n = some c := by
  unfold Value.plus at h
  split at h
  · exact ⟨_, ‹_›, inRange_eq_ok h⟩
  · cases h

theorem minus_eq {a b d : Number} (hv : v.number? = some a) (hw : w.number? = some b)
    (h : a.sub? b = some d) : v.minus w = .ok d := by
  unfold Value.minus
  rw [hv, hw]
  dsimp only
  rw [h]
  rfl

theorem minus_failsOnly (hv : v.IsNumber) (hw : w.IsNumber) :
    FailsOnly IsTooLarge (v.minus w) := by
  obtain ⟨a, ha⟩ := hv.exists_number
  obtain ⟨b, hb⟩ := hw.exists_number
  unfold Value.minus
  rw [ha, hb]
  exact inRange_failsOnly trivial _

theorem displayWithin_allowed {limit : DigitLimit} (h : ¬ loose → v.isWritable limit = true) :
    FailsOnly (Allowed loose) (v.displayWithin limit) :=
  (displayWithin_failsOnly (fun _ => trivial) v).allowed fun hl => ⟨_, if_pos (h hl)⟩

end

/-- What is kept of a change in range follows what was there before. -/
theorem Number.Follows.kept {a n n' : Number} (h : a.Follows n) (ha : a.InRange)
    (hkept : n.KeptAs n') : a.Follows n' := by
  rcases hkept with rfl | ⟨-, k, rfl⟩
  · exact h
  · exact .of_inRange ha (inRange_nan _)

/-! ### Worlds and effects -/

/-- The values of the stat are in range. -/
def Stat.ValuesInRange (s : Stat) : Prop :=
  GivesOnly Value.InRange s.cur ∧ GivesOnly Value.InRange s.max

instance (s : Stat) : Decidable s.ValuesInRange := inferInstanceAs (Decidable (_ ∧ _))

/-- **The numbers in the state are in range**: the values of the stats, the capacity, the counts of
the items and their total. -/
structure World.InRange (w : World) : Prop where
  stats : ∀ f ∈ w.state.baseStats, f.2.ValuesInRange
  capacity : GivesOnly Value.InRange w.state.capacity
  counts : ∀ f ∈ w.state.inventory.counts, f.2.InRange
  exists_total : FailsOnly (fun _ => False) w.state.inventory.total
  total : GivesOnly Number.InRange w.state.inventory.total

instance (w : World) : Decidable w.InRange :=
  decidable_of_iff (_ ∧ _ ∧ _ ∧ _ ∧ _)
    ⟨fun ⟨hs, hc, hi, he, ht⟩ => ⟨hs, hc, hi, he, ht⟩,
      fun h => ⟨h.stats, h.capacity, h.counts, h.exists_total, h.total⟩⟩

theorem World.Idle.inRange {w w' : World} (h : Idle w w') (hw : w.InRange) : w'.InRange := by
  have hs := h.state_eq
  have hcapacity : w'.state.capacity = w.state.capacity := by
    rw [State.capacity, hs]
    rfl
  exact ⟨by rw [hs]; exact hw.stats, by rw [hcapacity]; exact hw.capacity,
    by rw [hs]; exact hw.counts, by rw [hs]; exact hw.exists_total, by rw [hs]; exact hw.total⟩

/-- The world has the expected shape; strictly, its numbers are in range, too, and the digit limit
leaves room for them. -/
structure World.Ready (loose : Prop) (w : World) : Prop where
  shaped : w.IsShaped
  inRange : ¬ loose → w.InRange
  limit : ¬ loose → w.settings.digitLimit.admits DigitLimit.ofRange = true

theorem World.Idle.ready {w w' : World} (h : Idle w w') (hw : w.Ready loose) : w'.Ready loose :=
  ⟨h.isShaped hw.shaped, fun hl => h.inRange (hw.inRange hl),
    fun hl => h.settings_eq ▸ hw.limit hl⟩

namespace Value

/-- The value can name something, or is empty and names nothing. -/
def isId (v : Value) : Bool := !v.holds || v.asKey.toOption.isSome

theorem exists_key_of_isId {v : Value} (h : v.isId = true) (hv : v.holds = true) :
    ∃ k, v.asKey = .ok k := by
  rw [isId, hv] at h
  cases hk : v.asKey with
  | ok k => exact ⟨k, rfl⟩
  | error e =>
      rw [hk] at h
      cases h

end Value

namespace Play

variable {w : World} {extra fields : Fields Value} {stat item id : Value} {n : Number}

/-! ### Stats -/

theorem keep_returns {F : Fault → Prop} (n : Number) :
    Returns F w (keep n) fun n' w' => n.KeptAs n' ∧ w' = { w with keptNaNs := w'.keptNaNs } := by
  have hleads : Leads (Changes (fun _ => True) (fun _ => True) True) w (keep n) fun n' w' =>
      n.KeptAs n' ∧ w' = { w with keptNaNs := w'.keptNaNs } := keep_changes n
  refine ⟨fun e he => ?_, hleads.result⟩
  cases n with
  | nan origin => cases origin <;> cases he
  | _ => cases he

theorem lookup_eq {α : Type} {fs : Fields α} {k : Value} {name : Key} (h : k.asKey = .ok name) :
    Value.lookup fs k = .ok (fs.get? name) := by
  rw [Value.lookup, h]
  rfl

/-- The stat that an effect names is found, or there is none. -/
theorem namedStat_returns (hstat : stat.isId = true) (hn : ¬ loose → n.InRange) :
    Returns (Allowed loose) w (namedStat? stat n) fun found w' =>
      w' = w ∧ ∀ name s, found = some (name, s) → w.state.baseStats.get? name = some s := by
  unfold namedStat?
  refine .ite_not (fun _ => .pure ⟨rfl, nofun⟩) fun hholds => .state_bind ?_
  obtain ⟨name, hname⟩ := exists_key_of_isId hstat hholds
  refine .lift_ok_bind (lookup_eq hname) ?_
  cases hget : w.state.baseStats.get? name with
  | none => exact .pure ⟨rfl, nofun⟩
  | some s =>
      refine .lift_bind (isFiniteNumber_allowed fun hl => inRange_num (hn hl)) fun finite _ => ?_
      split
      · refine .lift_ok_bind hname (.pure ⟨rfl, fun name' s' h => ?_⟩)
        cases h
        exact hget
      · exact .pure ⟨rfl, nofun⟩

theorem log_returns {F : Fault → Prop} (text : Value) :
    Returns F w (log text) fun _ _ => True := .modify trivial

/-- The change of a value can be written to the journal. -/
structure CanBeWritten (limit : DigitLimit) (before after : Value) (delta : Number) : Prop where
  before : before.isWritable limit = true
  after : after.isWritable limit = true
  delta : (Value.num delta).isWritable limit = true

theorem writeChange_returns {name : String} {before after : Value} {rises : Bool} {delta : Number}
    (h : ¬ loose → CanBeWritten w.settings.digitLimit before after delta) :
    Returns (Allowed loose) w (writeChange name before after rises delta) fun _ _ => True := by
  unfold writeChange
  refine .digitLimit_bind <| .lift_bind (displayWithin_allowed fun hl => (h hl).before)
    fun before _ => ?_
  refine .lift_bind (displayWithin_allowed fun hl => (h hl).after) fun after _ => ?_
  exact .lift_bind (displayWithin_allowed fun hl => (h hl).delta) fun delta _ => log_returns _

theorem logChange_returns {change : Option (Key × Value × Value × Number)}
    (h : ∀ name before after delta, change = some (name, before, after, delta) → ¬ loose →
      CanBeWritten w.settings.digitLimit before after delta) :
    Returns (Allowed loose) w (logChange change) fun _ _ => True := by
  unfold logChange
  split
  · exact .pure trivial
  · split
    · exact .pure trivial
    · exact writeChange_returns (h _ _ _ _ rfl)

/-- A change in range can be written down: the value before, the one that follows it, and the
difference. -/
theorem canBeWritten_of_follows {limit : DigitLimit}
    (hlimit : limit.admits DigitLimit.ofRange = true) {before : Value} {a after delta : Number}
    (hbefore : before.number? = some a) (ha : a.InRange) (hafter : a.Follows after)
    (hdelta : delta.size < 3 * twoTo 1024) :
    CanBeWritten limit before (.num after) delta := by
  have hsize := ha.size_lt
  have hsize' := hafter.size_lt
  exact ⟨isWritable_of_number hlimit hbefore (by omega), isWritable_num hlimit (by omega),
    isWritable_num hlimit hdelta⟩

/-- **A current value is updated** and the change can be written down. -/
theorem updateCur_returns (hw : w.Ready loose) (hstat : stat.isId = true)
    (hn : ¬ loose → n.InRange)
    {update : Value → Except Fault Value}
    (hupdate : ∀ v a, v.number? = some a → (¬ loose → a.InRange) →
      FailsOnly (Allowed loose) (update v) ∧
        ∀ u, update v = .ok u → ∃ m, u = .num m ∧ (¬ loose → a.Follows m)) :
    Returns (Allowed loose) w (updateCur stat n update) fun change w' =>
      ∀ name before after delta, change = some (name, before, after, delta) → ¬ loose →
        CanBeWritten w'.settings.digitLimit before after delta := by
  unfold updateCur
  refine (namedStat_returns hstat hn).bind fun found w₁ hfound => ?_
  obtain ⟨rfl, hfound⟩ := hfound
  cases found with
  | none => exact .pure nofun
  | some named =>
      obtain ⟨name, s⟩ := named
      have hget := hfound name s rfl
      obtain ⟨before, hbefore, hnumber⟩ := (Fields.forall_get? hw.shaped.stats hget).cur
      obtain ⟨a, ha⟩ := hnumber.exists_number
      have harange : ¬ loose → a.InRange := fun hl =>
        (Fields.forall_get? (hw.inRange hl).stats hget).1 before hbefore a ha
      obtain ⟨hfails, hresult⟩ := hupdate before a ha harange
      refine .lift_ok_bind hbefore <| .lift_bind hfails fun u hu => ?_
      obtain ⟨m, rfl, hm⟩ := hresult u hu
      have hkeep : Returns (Allowed loose) w₁ (keepValue (.num m)) fun u w₂ =>
          ∃ m', u = .num m' ∧ m.KeptAs m' ∧ w₂ = { w₁ with keptNaNs := w₂.keptNaNs } :=
        (keep_returns m).bind fun m' w₂ h => .pure ⟨m', rfl, h⟩
      refine hkeep.bind fun u w₂ hkept => ?_
      obtain ⟨m', rfl, hkept, hw₂⟩ := hkept
      have hfollows : ¬ loose → a.Follows m' := fun hl => (hm hl).kept (harange hl) hkept
      have hsettings : w₂.settings = w₁.settings := by rw [hw₂]
      have hset : Returns (Allowed loose) w₂ (setStat name (s.setCur (.num m'))) fun _ w₃ =>
          w₃.settings = w₁.settings := .modifyState hsettings
      refine hset.bind fun _ w₃ hw₃ => ?_
      refine .lift_bind ((minus_failsOnly (isNumber_num m') hnumber).allowed fun hl => ?_)
        fun delta hdelta => .pure fun name' before' after' delta' h hl => ?_
      · obtain ⟨d, hd⟩ := (hfollows hl).difference
        exact ⟨d, minus_eq rfl ha hd⟩
      · cases h
        obtain ⟨d, hd⟩ := (hfollows hl).difference
        obtain rfl : d = delta := Except.ok.inj ((minus_eq rfl ha hd).symm.trans hdelta)
        rw [hw₃]
        exact canBeWritten_of_follows (hw.limit hl) ha (harange hl) (hfollows hl)
          ((hfollows hl).size_difference_lt (harange hl) hd)

theorem addToCur_returns (hw : w.Ready loose) (hstat : stat.isId = true)
    (hn : ¬ loose → n.InRange) :
    Returns (Allowed loose) w (addToCur stat n) fun change w' =>
      ∀ name before after delta, change = some (name, before, after, delta) → ¬ loose →
        CanBeWritten w'.settings.digitLimit before after delta := by
  refine updateCur_returns hw hstat hn fun v a ha harange => ⟨?_, fun u hu => ?_⟩
  · have hv : v.IsNumber := Option.isSome_iff_exists.2 ⟨a, ha⟩
    refine FailsOnly.map (plus_allowed hv (fun hl m hm => ?_) hn)
    cases ha.symm.trans hm
    exact harange hl
  · obtain ⟨sum, hsum, hu⟩ := exists_of_bind_eq_ok hu
    cases hu
    obtain ⟨a', ha', hadd⟩ := exists_of_plus_eq hsum
    cases ha.symm.trans ha'
    exact ⟨sum, rfl, fun hl => .add (harange hl) (hn hl) hadd⟩

theorem setCur_returns (hw : w.Ready loose) (hstat : stat.isId = true)
    (hn : ¬ loose → n.InRange) :
    Returns (Allowed loose) w (updateCur stat n fun _ => .ok (.num n)) fun change w' =>
      ∀ name before after delta, change = some (name, before, after, delta) → ¬ loose →
        CanBeWritten w'.settings.digitLimit before after delta := by
  refine updateCur_returns hw hstat hn fun v a _ harange => ⟨.ok _, fun u hu => ?_⟩
  cases hu
  exact ⟨n, rfl, fun hl => .of_inRange (harange hl) (hn hl)⟩

theorem addToMax_returns (hw : w.Ready loose) (hstat : stat.isId = true)
    (hn : ¬ loose → n.InRange) :
    Returns (Allowed loose) w (addToMax stat n) fun _ _ => True := by
  unfold addToMax
  refine (namedStat_returns hstat hn).bind fun found w₁ hfound => ?_
  obtain ⟨rfl, hfound⟩ := hfound
  cases found with
  | none => exact .pure trivial
  | some named =>
      obtain ⟨name, s⟩ := named
      have hget := hfound name s rfl
      obtain ⟨before, hbefore, hnumber⟩ := (Fields.forall_get? hw.shaped.stats hget).max
      have hbeforeRange : ¬ loose → before.InRange := fun hl =>
        (Fields.forall_get? (hw.inRange hl).stats hget).2 before hbefore
      refine .lift_ok_bind hbefore <| .lift_bind (plus_allowed hnumber hbeforeRange hn)
        fun sum hsum => ?_
      obtain ⟨a, ha, hadd⟩ := exists_of_plus_eq hsum
      refine (keep_returns sum).bind fun kept w₂ hkept => ?_
      obtain ⟨hkept, hw₂⟩ := hkept
      have hset : Returns (Allowed loose) w₂ (setStat name (s.setMax (.num kept))) fun _ w₃ =>
          w₃.settings = w₁.settings := .modifyState (by rw [hw₂])
      refine hset.bind fun _ w₃ hw₃ => ?_
      split
      · refine writeChange_returns fun hl => ?_
        have harange := hbeforeRange hl a ha
        have hsize := (hn hl).size_lt
        rw [hw₃]
        exact canBeWritten_of_follows (hw.limit hl) ha harange
          ((Number.Follows.add harange (hn hl) hadd).kept harange hkept) (by omega)
      · exact .pure trivial

theorem addToCapacity_returns (hw : w.Ready loose) (hn : ¬ loose → n.InRange) :
    Returns (Allowed loose) w (addToCapacity n) fun _ _ => True := by
  unfold addToCapacity
  refine .lift_bind (isFiniteNumber_allowed fun hl => inRange_num (hn hl)) fun finite _ => ?_
  refine .ite_not (fun _ => .pure trivial) fun _ => .state_bind ?_
  obtain ⟨capacity, hcapacity, hnumber⟩ := hw.shaped.exists_capacity
  refine .lift_ok_bind hcapacity <| .lift_bind (plus_allowed hnumber (fun hl => ?_) hn)
    fun sum _ => ?_
  · exact ((hw.inRange hl).capacity _ hcapacity).orElse inRange_int_zero
  refine (keep_returns sum).bind fun kept w₁ hkept => .state_bind ?_
  obtain ⟨resources, hresources, -⟩ := hw.shaped.resources
  have hentries : w₁.state.resources.entries = .ok resources := by
    rw [hkept.2]
    change w.state.resources.entries = _
    rw [hresources]
    rfl
  exact .lift_ok_bind hentries (.modifyState trivial)

/-! ### Items -/

theorem sumFrom_failsOnly {vs : List Value} (h : ∀ v ∈ vs, v.IsNumber) (n : Number) :
    FailsOnly IsTooLarge (Inventory.sumFrom n vs) := by
  induction vs generalizing n with
  | nil => exact .ok n
  | cons v vs ih =>
      obtain ⟨hv, hvs⟩ := List.forall_mem_cons.1 h
      have hplus : FailsOnly (Allowed True) (v.plus n) :=
        plus_allowed hv (fun hl => absurd trivial hl) fun hl => absurd trivial hl
      exact (hplus.mono fun _ he => he.2).bind fun m _ => ih hvs m

theorem overflows_allowed (hw : w.Ready loose) (hn : ¬ loose → n.InRange) {capacity : Value}
    (hcapacity : w.state.capacity = .ok capacity) :
    FailsOnly (Allowed loose) (w.state.inventory.overflows n capacity) := by
  have htotal : FailsOnly (Allowed loose) w.state.inventory.total := by
    refine (sumFrom_failsOnly (fun v hv => ?_) _).allowed fun hl => ?_
    · obtain ⟨f, hf, rfl⟩ := List.mem_map.1 hv
      exact hw.shaped.counts f hf
    · exact (hw.inRange hl).exists_total.exists_ok
  unfold Inventory.overflows
  split
  · exact .ok _
  refine (isFiniteNumber_allowed fun hl => (hw.inRange hl).capacity _ hcapacity).bind
    fun finite _ => ?_
  split
  · exact .ok _
  split
  · exact .ok _
  refine htotal.bind fun total ht => FailsOnly.map (inRange_allowed fun hl => ?_)
  obtain ⟨c, hc⟩ := ((hw.inRange hl).total total ht).exists_combine (hn hl) (· + ·) (· + ·)
  exact Option.isSome_iff_exists.2 ⟨c, hc⟩

/-- The count of an item is a number, and in range where the numbers of the world are. -/
theorem stored_of_ready (hw : w.Ready loose) (name : Key) :
    (w.state.inventory.stored name).IsNumber ∧
      (¬ loose → (w.state.inventory.stored name).InRange) := by
  unfold Inventory.stored
  cases hget : w.state.inventory.counts.get? name with
  | none => exact ⟨rfl, fun _ => inRange_int_zero⟩
  | some v =>
      refine ⟨Fields.forall_get? (P := fun v => v.IsNumber) hw.shaped.counts hget, fun hl => ?_⟩
      exact Fields.forall_get? (P := fun v => v.InRange) (hw.inRange hl).counts hget

theorem inventory_add_allowed (hw : w.Ready loose) (hitem : item.isId = true)
    (hn : ¬ loose → n.InRange) {capacity : Value} (hcapacity : w.state.capacity = .ok capacity) :
    FailsOnly (Allowed loose) (w.state.inventory.add item (.num n) capacity) := by
  unfold Inventory.add
  split
  · exact .ok _
  rename_i hholds
  obtain ⟨name, hname⟩ := exists_key_of_isId hitem (by simpa using hholds)
  refine (isFiniteNumber_allowed fun hl => inRange_num (hn hl)).bind fun finite _ => ?_
  split
  · exact .ok _
  refine (overflows_allowed hw hn hcapacity).bind fun full _ => ?_
  split
  · exact .ok _
  refine (FailsOnly.of_exists ⟨name, hname⟩).bind fun name _ => FailsOnly.map ?_
  obtain ⟨hnumber, hrange⟩ := stored_of_ready hw name
  exact plus_allowed hnumber hrange hn

theorem inventory_remove_allowed (hw : w.Ready loose) (hitem : item.isId = true)
    (hn : ¬ loose → n.InRange) :
    FailsOnly (Allowed loose) (w.state.inventory.remove item (.num n)) := by
  unfold Inventory.remove
  split
  · exact .ok _
  rename_i hholds
  obtain ⟨name, hname⟩ := exists_key_of_isId hitem (by simpa using hholds)
  refine (isFiniteNumber_allowed fun hl => inRange_num (hn hl)).bind fun finite _ => ?_
  split
  · exact .ok _
  refine (FailsOnly.of_exists ⟨name, hname⟩).bind fun name _ => FailsOnly.map ?_
  obtain ⟨hnumber, hrange⟩ := stored_of_ready hw name
  refine (minus_failsOnly hnumber (isNumber_num n)).allowed fun hl => ?_
  obtain ⟨a, ha⟩ := hnumber.exists_number
  obtain ⟨d, hd⟩ := (hrange hl a ha).exists_combine (hn hl) (· - ·) (· - ·)
  exact ⟨d, minus_eq ha rfl hd⟩

/-- Whether an id is declared can be told. -/
theorem declares_failsOnly {F : Fault → Prop} {table : Value} (htable : table.IsRecord)
    (hid : id.isId = true) : FailsOnly F (declares table id) := by
  obtain ⟨declared, rfl⟩ := htable
  unfold declares
  split
  · rename_i hholds
    obtain ⟨name, hname⟩ := exists_key_of_isId hid hholds
    exact FailsOnly.map (.of_exists ⟨_, lookup_eq hname⟩)
  · exact .ok _

/-- What is done with a declared item and a finite count, and what is the result otherwise. -/
theorem declaredFinite_returns {α : Type} {a : α} {m : Play α} {Q : α → World → Prop}
    (hw : w.Ready loose) (hitem : item.isId = true) (hn : ¬ loose → n.InRange) (ha : Q a w)
    (hm : Returns (Allowed loose) w m Q) :
    Returns (Allowed loose) w (do
      if !(← declares (← book).items item) then return a
      if !(← (Value.num n).isFiniteNumber) then return a
      m) Q := by
  refine .book_bind <| .lift_bind (declares_failsOnly hw.shaped.items hitem) fun declared _ => ?_
  refine .ite_not (fun _ => .pure ha) fun _ => ?_
  refine .lift_bind (isFiniteNumber_allowed fun hl => inRange_num (hn hl)) fun finite _ => ?_
  exact .ite_not (fun _ => .pure ha) fun _ => hm

/-- **Adding an item returns.** -/
theorem addItem_returns (hw : w.Ready loose) (hitem : item.isId = true)
    (hn : ¬ loose → n.InRange) :
    Returns (Allowed loose) w (addItem item (.num n)) fun _ _ => True := by
  refine declaredFinite_returns hw hitem hn trivial (.state_bind ?_)
  obtain ⟨capacity, hcapacity, -⟩ := hw.shaped.exists_capacity
  refine .lift_ok_bind hcapacity <| .lift_bind (inventory_add_allowed hw hitem hn hcapacity)
    fun added _ => ?_
  obtain ⟨accepted, inventory⟩ := added
  have hset : Returns (Allowed loose) w (modifyState (·.withInventory inventory))
      fun _ _ => True := .modifyState trivial
  refine hset.bind fun _ _ _ => ?_
  dsimp only
  split
  · exact (log_returns _).bind fun _ _ _ => .pure trivial
  · exact .pure trivial

/-- **Removing an item returns.** -/
theorem removeItem_returns (hw : w.Ready loose) (hitem : item.isId = true)
    (hn : ¬ loose → n.InRange) :
    Returns (Allowed loose) w (removeItem item (.num n)) fun _ _ => True := by
  refine declaredFinite_returns hw hitem hn trivial (.state_bind ?_)
  exact .lift_bind (inventory_remove_allowed hw hitem hn) fun inventory _ => .modifyState trivial

/-! ### Buffs and flags -/

/-- What is declared is found. -/
theorem exists_of_declares {declared : Fields Value} (h : declares (.obj declared) id = .ok true) :
    ∃ name v, id.asKey = .ok name ∧ declared.get? name = some v := by
  unfold declares at h
  split at h
  · obtain ⟨found, hfound, h⟩ := exists_of_bind_eq_ok h
    obtain ⟨name, hname, hget⟩ := exists_of_bind_eq_ok hfound
    cases hget
    exact ⟨name, _, hname, Option.eq_some_of_isSome (Except.ok.inj h)⟩
  · cases h

theorem addBuff_returns {F : Fault → Prop} (hw : w.IsShaped) (hid : id.isId = true)
    (value duration : Value) :
    Returns F w (addBuff id value duration) fun _ _ => True := by
  obtain ⟨declared, hdeclared, hrecords⟩ := hw.declaredBuffs
  unfold addBuff
  refine .book_bind <| .lift_bind (declares_failsOnly ⟨declared, hdeclared⟩ hid)
    fun found hfound => ?_
  refine .ite_not (fun _ => .pure trivial) fun hf => ?_
  subst hf
  rw [hdeclared] at hfound ⊢
  obtain ⟨name, definition, hname, hget⟩ := exists_of_declares hfound
  have hentry : (Value.obj declared).entryAt id = .ok definition := by
    simp only [Value.entryAt, hname, bind, Except.bind, Value.required, Value.fields?, hget]
  obtain ⟨definitionFields, hdefinition⟩ :=
    Fields.forall_get? (P := fun v => (v.orElse (.obj [])).IsRecord) hrecords hget
  refine .lift_ok_bind hentry <| .lift_ok_bind (by rw [hdefinition]; rfl) <| .state_bind ?_
  obtain ⟨active, hactive, -⟩ := hw.buffs
  rw [hactive]
  exact .modifyState trivial

theorem exists_withoutId {active : List Value} (h : ∀ buff ∈ active, buff.IsRecord) (id : Value) :
    ∃ rest, withoutId id active = .ok rest := by
  unfold withoutId
  induction active with
  | nil => exact ⟨[], rfl⟩
  | cons buff active ih =>
      obtain ⟨⟨buffFields, rfl⟩, hactive⟩ := List.forall_mem_cons.1 h
      obtain ⟨rest, hrest⟩ := ih hactive
      rw [List.filterMapM_cons, hrest]
      simp only [unlessId, field_obj, bind, Except.bind, pure, Except.pure]
      split <;> exact ⟨_, rfl⟩

theorem removeBuff_returns {F : Fault → Prop} (hw : w.IsShaped) (id : Value) :
    Returns F w (removeBuff id) fun _ _ => True := by
  obtain ⟨active, hactive, hrecords⟩ := hw.buffs
  obtain ⟨rest, hrest⟩ := exists_withoutId hrecords id
  unfold removeBuff
  refine .state_bind <| .lift_ok_bind (by rw [hactive]; rfl) <| .lift_ok_bind hrest ?_
  exact .modifyState trivial

theorem setFlag_returns {F : Fault → Prop} (hw : w.state.flags.IsRecord) {name : Key}
    (hname : id.asKey = .ok name) (v : Value) :
    Returns F w (setFlag id v) fun _ _ => True := by
  have hkeep : Returns F w (keepValue v) fun _ w' => w'.state = w.state := by
    unfold keepValue
    split
    · exact (keep_returns _).bind fun n' w' h => .pure (by rw [h.2])
    · exact .pure rfl
    · exact .pure rfl
  unfold setFlag
  refine hkeep.bind fun v' w' hstate => .state_bind ?_
  obtain ⟨flags, hflags⟩ := hw
  have hset : w'.state.flags.setEntryAt id v' = .ok (.obj (Fields.set flags name v')) := by
    rw [hstate, hflags]
    simp only [Value.setEntryAt, hname, bind, Except.bind, pure, Except.pure]
  exact .lift_ok_bind hset (.modifyState trivial)

end Play

end Gamebook
