/-
**Saving loses nothing.**

Reading a record puts a default in place of every part that is empty, leaves out the lines of the
journal that are none, and keeps only so many of the others as the limit allows.  A saved game of
which reading would change nothing is read back as it is.  So are all saved games that come from
reading, whatever they were read from; and so are the states of all runs of the engine: a run starts
with defaults or with what was read, and no call makes an empty part that is not the default, or an
empty line.

Main definitions:

* `SavedGame.Stable` — saved games that reading does not change;
* `Call`, `Call.run` — the calls of the engine;
* `InRun` — the worlds in runs of the engine with some limit of the journal.

Main results:

* `SavedGame.stable_ofValue` — whatever a saved game is read from, it is stable;
* `World.Lasting.change` — every change keeps the state stable;
* `InRun.lasting` — **the state of every run is stable**;
* `InRun.ofValue_toValue_save` — **saving loses nothing**.
-/

import Gamebook.Proofs.Play.Game
import Gamebook.Proofs.Play.Saving

set_option autoImplicit false

namespace Gamebook

open Play World Value

/-! ### Defaults -/

theorem Value.orElse_eq_self_iff {v w : Value} : v.orElse w = v ↔ v.holds = true ∨ v = w := by
  unfold orElse
  cases hv : v.holds with
  | true => simp
  | false => simp [eq_comm]

/-! ### Saved games that reading does not change -/

namespace SavedGame

/-- No part of the saved game is empty without being its default, and the journal is well kept. -/
structure Stable (limit : Int) (g : SavedGame) : Prop where
  baseStats : g.baseStats.orElse (.obj []) = g.baseStats
  resources : g.resources.orElse (.obj []) = g.resources
  buffs : g.buffs.orElse (.list []) = g.buffs
  flags : g.flags.orElse (.obj []) = g.flags
  journal : g.journal.WellKept limit

variable {limit : Int} {g : SavedGame} {v : Value}

/-- A stable saved game is read back from its own record. -/
theorem Stable.ofValue_toValue (h : g.Stable limit) (digits : DigitLimit) :
    ofValue digits g.toValue limit = .ok g := by
  rw [SavedGame.ofValue_toValue, h.baseStats, h.resources, h.buffs, h.flags,
    h.journal.ofValue_toValue]

/-- Whatever a saved game is read from, it is stable. -/
theorem stable_ofValue (hlimit : 0 ≤ limit) {digits : DigitLimit}
    (h : ofValue digits v limit = .ok g) : g.Stable limit := by
  unfold ofValue at h
  obtain ⟨baseStats, _, h⟩ := exists_of_bind_eq_ok h
  obtain ⟨resources, _, h⟩ := exists_of_bind_eq_ok h
  obtain ⟨items, _, h⟩ := exists_of_bind_eq_ok h
  obtain ⟨inventory, _, h⟩ := exists_of_bind_eq_ok h
  obtain ⟨buffs, _, h⟩ := exists_of_bind_eq_ok h
  obtain ⟨flags, _, h⟩ := exists_of_bind_eq_ok h
  obtain ⟨day, _, h⟩ := exists_of_bind_eq_ok h
  obtain ⟨node, _, h⟩ := exists_of_bind_eq_ok h
  obtain ⟨ending, _, h⟩ := exists_of_bind_eq_ok h
  obtain ⟨log, _, h⟩ := exists_of_bind_eq_ok h
  obtain ⟨journal, hjournal, h⟩ := exists_of_bind_eq_ok h
  obtain rfl := Journal.eq_of_ofValueWithin hjournal
  cases h
  exact ⟨orElse_orElse _ _, orElse_orElse _ _, orElse_orElse _ _, orElse_orElse _ _,
    (Journal.within_ofValue log limit).wellKept hlimit⟩

end SavedGame

/-! ### Calls of the engine -/

/-- A call of the engine: an operation, or one of the parts that operations are made of. -/
inductive Call where
  | operation (op : Operation)
  | evaluate (formula : Value) (extra : Fields Value) (quiet : Bool)
  | conditions (conditions : Value) (extra : Fields Value) (quiet : Bool)
  | effects (effects : Value) (extra : Fields Value)
  | effect (effect : Value) (extra : Fields Value)
  | goto (node : Value)
  | events (trigger : Value) (extra : Fields Value)
  | check (check : Value)
  | periodic (every : Value)
  | tick
  | endings
  | sync
  | log (text : Value)

namespace Call

/-- What a call does. -/
def run : Call → Play Unit
  | operation op => do let _ ← op.run
  | evaluate formula extra quiet => do let _ ← Play.evaluate formula extra quiet
  | conditions cs extra quiet => do let _ ← checkConditions cs extra quiet
  | effects es extra => applyEffects onwards es extra
  | effect e extra => applyEffect onwards e extra
  | goto node => enterNode onwards node
  | events trigger extra => runEvents onwards trigger extra
  | check c => do let _ ← resolveCheck onwards c
  | periodic every => runPeriodic onwards every
  | tick => tickBuffs
  | endings => checkEndings onwards
  | sync => Play.sync
  | log text => Play.log text

end Call

/-- **The worlds in runs of the engine** with some limit of the journal: whatever documents are
opened, whatever records are restored, and however calls end.  The clock may change at any time. -/
inductive InRun (limit : Int) : World → Prop
  | start {settings : Settings} (chance : Chance) :
      settings.logLimit = limit → InRun limit (World.closed settings chance)
  | call {w : World} (c : Call) : InRun limit w → InRun limit (c.run.runFrom w).2
  | later {w : World} (now : Value) :
      InRun limit w → InRun limit { w with settings := { w.settings with now } }

/-! ### States that last -/

namespace World

/-- The journal of the world has the limit, and the state is saved as a stable game. -/
structure Lasting (limit : Int) (w : World) : Prop where
  limit_eq : w.settings.logLimit = limit
  resources : w.state.resources.orElse (.obj []) = w.state.resources
  buffs : w.state.buffs.orElse (.list []) = w.state.buffs
  flags : w.state.flags.orElse (.obj []) = w.state.flags
  journal : w.state.journal.WellKept limit

variable {limit : Int} {w w' : World}

theorem Lasting.stable_save (h : w.Lasting limit) : w.state.save.Stable limit where
  baseStats := by
    change (Stat.allToValue _).orElse _ = Stat.allToValue _
    cases w.state.baseStats <;> rfl
  resources := h.resources
  buffs := h.buffs
  flags := by
    change w.state.flags.detached.orElse (.obj []) = w.state.flags.detached
    rw [orElse_eq_self_iff, holds_detached]
    exact (orElse_eq_self_iff.1 h.flags).imp id fun heq => by rw [heq]; rfl
  journal := h.journal

theorem Lasting.idle (hw : w.Lasting limit) (h : Idle w w') : w'.Lasting limit := by
  obtain ⟨failed, c, ws, rfl⟩ := h
  have hjournal := Journal.noteFailures_of_add (fun _ text now h => h.add text now) hw.journal
  exact ⟨hw.limit_eq, hw.resources, hw.buffs, hw.flags, hjournal _ _⟩

theorem Lasting.resynced (hw : w.Lasting limit) (h : Resynced w w') : w'.Lasting limit := by
  obtain ⟨base, stats, instances, totals, _, hidle⟩ := h
  have hview : ((w.withBaseStats base).withView stats instances totals).Lasting limit :=
    ⟨hw.limit_eq, hw.resources, hw.buffs, hw.flags, hw.journal⟩
  exact hview.idle hidle

/-- Flags that follow the inventory are as empty as before. -/
theorem orElse_refreshFlags {flags : Value} (h : flags.orElse (.obj []) = flags)
    (counts : Fields Value) :
    (refreshFlags counts flags).orElse (.obj []) = refreshFlags counts flags := by
  rw [orElse_eq_self_iff] at h ⊢
  refine h.imp (fun hholds => ?_) fun hempty => by rw [hempty]; rfl
  cases flags with
  | obj fields => simpa [refreshFlags, holds] using hholds
  | list items => simpa [refreshFlags, holds] using hholds
  | _ => exact hholds

/-- Flags are not empty once one has been set. -/
theorem orElse_setEntryAt {flags flags' flag v : Value} (h : flags.orElse (.obj []) = flags)
    (hset : flags.setEntryAt flag v = .ok flags') : flags'.orElse (.obj []) = flags' := by
  rw [orElse_eq_self_iff] at h ⊢
  left
  cases flags with
  | obj fields =>
      obtain ⟨name, _, hset⟩ := exists_of_bind_eq_ok hset
      cases hset
      simpa [holds] using set_ne_nil fields name v
  | list items =>
      obtain ⟨place, _, hset⟩ := exists_of_bind_eq_ok hset
      cases hset
      simpa [holds] using h
  | _ => cases hset

theorem Lasting.withInventory (hw : w.Lasting limit) (inventory : Inventory) :
    (w.withState (w.state.withInventory inventory)).Lasting limit :=
  ⟨hw.limit_eq, hw.resources, hw.buffs, orElse_refreshFlags hw.flags _, hw.journal⟩

theorem orElse_list (items : List Value) : (Value.list items).orElse (.list []) = .list items := by
  cases items <;> rfl

/-- **Every change keeps the state stable.** -/
theorem Lasting.change {P : Value → Prop} {E : Fields Value → Prop} {ends : Prop}
    (hw : w.Lasting limit) (h : Change P E ends w w') : w'.Lasting limit := by
  cases h with
  | idle h => exact hw.idle h
  | sync => exact hw.resynced (sync_leads w).world
  | log text =>
      exact ⟨hw.limit_eq, hw.resources, hw.buffs, hw.flags, hw.journal.add _ _⟩
  -- a capacity was just put there, so the resources are not empty
  | capacity =>
      refine ⟨hw.limit_eq, orElse_eq_self_iff.2 (.inl ?_), hw.buffs, hw.flags, hw.journal⟩
      simpa [withState, holds] using set_ne_nil _ _ _
  | addItem | removeItem => exact hw.withInventory _
  | addBuff | removeBuff | tick =>
      exact ⟨hw.limit_eq, hw.resources, orElse_list _, hw.flags, hw.journal⟩
  | flag _ _ _ _ _ _ _ hset =>
      exact ⟨hw.limit_eq, hw.resources, hw.buffs, orElse_setEntryAt hw.flags hset, hw.journal⟩
  | _ => exact ⟨hw.limit_eq, hw.resources, hw.buffs, hw.flags, hw.journal⟩

/-- What makes changes only keeps the state stable, however it ends. -/
theorem Lasting.of_leads {α : Type} {m : Play α} {Q : α → World → Prop} (hw : w.Lasting limit)
    (h : Leads (Changes (fun _ => True) (fun _ => True) True) w m Q) :
    (m.runFrom w).2.Lasting limit :=
  h.world.preserves (fun _ _ hc hv => hv.change hc) hw

/-! ### Opening and restoring -/

/-- A new state that is stable is synced. -/
theorem Lasting.start {s : State} (hw : (w.withState s).Lasting limit) :
    Leads (fun _ w' => w'.Lasting limit) w (do modifyState fun _ => s; Play.sync)
      fun _ _ => True := by
  refine .modifyState_bind ⟨hw.of_leads sync_changes, fun _ _ => trivial⟩

/-- A book is opened with a stable state. -/
theorem Lasting.load (hw : w.Lasting limit) (document : Value) :
    ((Play.load document).runFrom w).2.Lasting limit := by
  have hload : Leads (fun _ w' => w'.Lasting limit) w (Play.load document) fun _ _ => True := by
    unfold Play.load
    refine (openBook_leads document).bind_to (fun w₁ h₁ => ?_) fun _ w₁ h₁ _ => ?_
    · obtain ⟨b, rfl, _⟩ := h₁
      exact ⟨hw.limit_eq, hw.resources, hw.buffs, hw.flags, hw.journal⟩
    obtain ⟨b, rfl, _⟩ := h₁
    have hopened : ({ w with book := b } : World).Lasting limit :=
      ⟨hw.limit_eq, hw.resources, hw.buffs, hw.flags, hw.journal⟩
    refine initialState_idle.bind_to (fun w₂ h₂ => hopened.idle h₂) fun s w₂ h₂ hs => ?_
    obtain ⟨_, _, _, _, _, _, _, rfl⟩ := hs
    have hlimit : w₂.settings.logLimit = limit := h₂.settings_eq ▸ hw.limit_eq
    refine Lasting.start ⟨hlimit, orElse_orElse _ _, rfl, rfl, ?_⟩
    change Journal.WellKept limit ⟨w.settings.logLimit, []⟩
    rw [hw.limit_eq]
    exact Journal.wellKept_nil limit
  exact hload.world

/-- Going on from a record ends in a stable state, or leaves the state as it was. -/
theorem Lasting.restore (hlimit : 0 ≤ limit) (hw : w.Lasting limit) (record : Value) :
    ((Play.restore record).runFrom w).2.Lasting limit := by
  have hrestore : Leads (fun _ w' => w'.Lasting limit) w (Play.restore record)
      fun _ _ => True := by
    unfold Play.restore
    refine .get_bind <| .lift_bind_of hw fun saved hsaved => ?_
    rw [hw.limit_eq] at hsaved
    have hstable := SavedGame.stable_ofValue hlimit hsaved
    refine (readStats_idle _).bind_to (fun w₁ h₁ => hw.idle h₁) fun stats w₁ h₁ _ => ?_
    have hlimit₁ : w₁.settings.logLimit = limit := h₁.settings_eq ▸ hw.limit_eq
    exact Lasting.start ⟨hlimit₁, hstable.resources, hstable.buffs, hstable.flags, hstable.journal⟩
  exact hrestore.world

theorem Lasting.operation (hlimit : 0 ≤ limit) (hw : w.Lasting limit) (op : Operation) :
    (op.run.runFrom w).2.Lasting limit := by
  have hdone : ∀ m : Play Unit, (m.runFrom w).2.Lasting limit →
      ((do m; return true : Play Bool).runFrom w).2.Lasting limit := fun m hm => by
    rw [runFrom_bind]
    rcases hr : m.runFrom w with ⟨_ | _, w'⟩ <;> rwa [hr] at hm
  cases op with
  | load document => exact hdone _ (hw.load document)
  | reset =>
      refine hdone _ ?_
      rw [show Play.reset.runFrom w = (Play.load w.book.document).runFrom w from
        runFrom_bind_ok (runFrom_book w)]
      exact hw.load _
  | restore record => exact hdone _ (hw.restore hlimit record)
  | _ =>
      exact hw.of_leads (Operation.act_changes Operation.admits_true trivial (fun _ _ => trivial)
        (Operation.book_has_true _))

end World

/-! ### Runs -/

section

variable {limit : Int} {w : World}

/-- A result is thrown away. -/
theorem runFrom_ignored {α : Type} (m : Play α) (w : World) :
    ((do let _ ← m : Play Unit).runFrom w).2 = (m.runFrom w).2 := by
  rw [runFrom_bind]
  rcases m.runFrom w with ⟨_ | _, _⟩ <;> rfl

/-- Every call keeps the state stable. -/
theorem World.Lasting.call (hlimit : 0 ≤ limit) (hw : w.Lasting limit) (c : Call) :
    (c.run.runFrom w).2.Lasting limit := by
  have hP := Operation.admits_true
  have hbook := Operation.book_has_true w.book
  have honward : MakesChanges (fun _ => True) (fun _ => True) True onwards := onwards_changes hP
  cases c with
  | operation op =>
      rw [Call.run, runFrom_ignored]
      exact hw.operation hlimit op
  | evaluate formula extra quiet =>
      rw [Call.run, runFrom_ignored]
      exact hw.idle (evaluate_idle formula extra quiet).world
  | conditions cs extra quiet =>
      rw [Call.run, runFrom_ignored]
      exact hw.idle (checkConditions_idle cs extra quiet).world
  | effects es extra =>
      have hP' := Operation.hereditary_true
      exact hw.of_leads (applyEffects_changes hP' honward trivial trivial hbook)
  | effect e extra => exact hw.of_leads (applyEffect_changes honward trivial trivial hbook)
  | goto node => exact hw.of_leads (enterNode_changes hP honward node hbook)
  | events trigger extra => exact hw.of_leads (runEvents_changes hP honward trigger trivial hbook)
  | check c =>
      rw [Call.run, runFrom_ignored]
      exact hw.of_leads (resolveCheck_changes hP honward trivial hbook)
  | periodic every => exact hw.of_leads (runPeriodic_changes hP honward every hbook)
  | tick => exact hw.of_leads tickBuffs_changes
  | endings => exact hw.of_leads (checkEndings_changes honward hbook)
  | sync => exact hw.of_leads sync_changes
  | log text => exact hw.of_leads (log_changes text)

/-- **The state of every run is stable.** -/
theorem InRun.lasting (hlimit : 0 ≤ limit) (h : InRun limit w) : w.Lasting limit := by
  induction h with
  | @start settings chance hsettings =>
      subst hsettings
      exact ⟨rfl, rfl, rfl, rfl, Journal.wellKept_nil _⟩
  | call c _ ih => exact ih.call hlimit c
  | later now _ ih => exact ⟨ih.limit_eq, ih.resources, ih.buffs, ih.flags, ih.journal⟩

/-- **Saving loses nothing.**  Under a limit of the journal that is not negative the record of every
state that a run of the engine reaches is read as what was saved, and so is the record of whatever
has been read from any record at all. -/
theorem InRun.ofValue_toValue_save (hlimit : 0 ≤ limit) (digits : DigitLimit) :
    (∀ w, InRun limit w →
      SavedGame.ofValue digits w.state.save.toValue limit = .ok w.state.save) ∧
    ∀ record g, SavedGame.ofValue digits record limit = .ok g →
      SavedGame.ofValue digits g.toValue limit = .ok g :=
  ⟨fun _ h => (h.lasting hlimit).stable_save.ofValue_toValue digits,
    fun _ _ h => (SavedGame.stable_ofValue hlimit h).ofValue_toValue digits⟩

/-- A record with empty parts, with items in pairs, and with lines of the journal that are none. -/
def junkRecord : Value :=
  .obj
    [("buffs", .obj []), ("items", .list [.list [.str "gem", .int 2]]),
      ("log", .list [.str "", .int 5, .obj [("text", .str "found a gem")], .str "left home"])]

/-- A run that goes on from this record and writes a line. -/
def junkRun : World :=
  ((Call.log (.str "went on")).run.runFrom
    ((Call.operation (.restore junkRecord)).run.runFrom
      (World.closed { logLimit := 4 } (.constant 1 (.int 0)))).2).2

/-- Two of four lines are left of the journal; with the new one they are saved and read back. -/
theorem InRun.ofValue_toValue_save_junk :
    junkRun.state.journal.texts = ["went on", "found a gem", "left home"] ∧
      SavedGame.ofValue .standard junkRun.state.save.toValue 4 = .ok junkRun.state.save ∧
      ∃ g, SavedGame.ofValue .standard junkRecord 4 = .ok g ∧
        SavedGame.ofValue .standard g.toValue 4 = .ok g := by
  have hrun : InRun 4 junkRun := .call _ (.call _ (.start _ rfl))
  obtain ⟨hworlds, hrecords⟩ :=
    InRun.ofValue_toValue_save (show (0 : Int) ≤ 4 by decide) .standard
  exact ⟨by decide +kernel, hworlds _ hrun, _, rfl, hrecords junkRecord _ rfl⟩

end

end Gamebook
