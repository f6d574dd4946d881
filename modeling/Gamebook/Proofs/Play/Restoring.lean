/-
**How restoring can fail.**

Going on from a record has two parts: the record is read, and the state read from it is put in place
and synced.  While the record is read the world is not touched, and a record that cannot be read
leaves it as it was.  The sync comes too late for that: where it fails the old state is gone, and
what is left is the state of the record, with the view of a sync that has ended early.

Main definitions:

* `State.ofRecord` — the state that a record stands for;
* `World.holding` — a world with this state in place, before it is synced.

Main results:

* `State.exists_ofRecord_iff` — **which records can be read**;
* `Play.runFrom_restore_error`, `Play.runFrom_restore_ok` — restoring is reading and then syncing;
* `Play.restore_cases` — restoring returns, or fails and leaves the world as it was, or the sync of
  the state in the record fails.
-/

import Gamebook.Proofs.Play.Persistence

set_option autoImplicit false

namespace Gamebook

open Play World Value

/-! ### Reading a record -/

/-- The state that a record stands for under some settings, and the names of the fields that are no
stats. -/
def State.ofRecord (record : Value) (settings : Settings) : Except Fault (State × List Key) := do
  let saved ← SavedGame.ofValue settings.digitLimit (record.orElse (.obj [])) settings.logLimit
  let (stats, malformed) ← Stat.readAll saved.baseStats
  return (State.ofSaved saved stats, malformed)

namespace SavedGame

variable {digits : DigitLimit} {fields : Fields Value} {limit : Int}

/-- The texts in the journal of a record can be written. -/
def HasTexts (digits : DigitLimit) (fields : Fields Value) (limit : Int) : Prop :=
  ∀ entry ∈ Journal.savedEntries (ofOption (fields.get? "log")) limit,
    Journal.isWritableEntry digits entry = true

theorem exists_journal_iff :
    (∃ j, Journal.ofValueWithin digits (ofOption (fields.get? "log")) limit = .ok j) ↔
      HasTexts digits fields limit := by
  rw [HasTexts, ← List.all_eq_true, Journal.ofValueWithin]
  split <;> simp_all

/-- A record is a saved game if its items can be read and the texts in its journal can be
written. -/
theorem exists_ofValue_iff :
    (∃ g, ofValue digits (.obj fields) limit = .ok g) ↔
      (∃ inventory, Inventory.ofValue (ofOption (fields.get? "items")) = .ok inventory) ∧
        HasTexts digits fields limit := by
  rw [← exists_journal_iff]
  unfold ofValue
  simp only [field_obj, field?_obj, bind, Except.bind, pure, Except.pure]
  cases Inventory.ofValue (ofOption (fields.get? "items")) with
  | error e => simp
  | ok inventory =>
      cases Journal.ofValueWithin digits (ofOption (fields.get? "log")) limit with
      | error e => simp
      | ok journal => simp

theorem baseStats_ofValue {g : SavedGame} (h : ofValue digits (.obj fields) limit = .ok g) :
    g.baseStats = (ofOption (fields.get? "base_stats")).orElse (.obj []) := by
  unfold ofValue at h
  simp only [field_obj, field?_obj, bind, Except.bind, pure, Except.pure] at h
  cases hitems : Inventory.ofValue (ofOption (fields.get? "items")) with
  | error e => simp [hitems] at h
  | ok inventory =>
      cases hjournal : Journal.ofValueWithin digits (ofOption (fields.get? "log")) limit with
      | error e => simp [hitems, hjournal] at h
      | ok journal =>
          rw [hitems, hjournal] at h
          cases h
          rfl

end SavedGame

/-- Stats are read from a value with fields, or from one that does not hold. -/
theorem Stat.exists_readAll_iff {v : Value} :
    (∃ read, readAll v = .ok read) ↔ (v.orElse (.obj [])).fields?.isSome = true := by
  unfold readAll Value.entries
  cases (v.orElse (.obj [])).fields? <;> simp [bind, Except.bind, pure, Except.pure]

/-- **Which records can be read**: those whose items are counts in an object or in pairs, whose
stats are an object, and whose journal has no text with too many digits; all of them may be
empty. -/
theorem State.exists_ofRecord_iff {fields : Fields Value} {settings : Settings} :
    (∃ read, State.ofRecord (.obj fields) settings = .ok read) ↔
      ((∃ inventory, Inventory.ofValue (ofOption (fields.get? "items")) = .ok inventory) ∧
        SavedGame.HasTexts settings.digitLimit fields settings.logLimit) ∧
          ((ofOption (fields.get? "base_stats")).orElse (.obj [])).fields?.isSome = true := by
  have hrecord : (Value.obj fields).orElse (.obj []) = .obj fields := by cases fields <;> rfl
  unfold State.ofRecord
  rw [hrecord]
  constructor
  · rintro ⟨read, h⟩
    obtain ⟨saved, hsaved, h⟩ := exists_of_bind_eq_ok h
    obtain ⟨stats, hstats, -⟩ := exists_of_bind_eq_ok h
    have hfields := Stat.exists_readAll_iff.1 ⟨stats, hstats⟩
    rw [SavedGame.baseStats_ofValue hsaved, orElse_orElse] at hfields
    exact ⟨SavedGame.exists_ofValue_iff.1 ⟨saved, hsaved⟩, hfields⟩
  · rintro ⟨hitems, hfields⟩
    obtain ⟨saved, hsaved⟩ := SavedGame.exists_ofValue_iff.2 hitems
    rw [← orElse_orElse, ← SavedGame.baseStats_ofValue hsaved] at hfields
    obtain ⟨stats, hstats⟩ := Stat.exists_readAll_iff.2 hfields
    refine ⟨(State.ofSaved saved stats.1, stats.2), ?_⟩
    rw [hsaved]
    change (Stat.readAll saved.baseStats >>= _) = _
    rw [hstats]
    rfl

/-! ### Restoring -/

/-- What the author of the book is told about fields that are no stats. -/
def ignoredStats (malformed : List Key) : List String :=
  malformed.map fun id => "Ignoring malformed stat " ++ id.shown

/-- The world with a state in place that has just been read, before it is synced. -/
def World.holding (w : World) (s : State) (malformed : List Key) : World :=
  { w with state := s, warnings := w.warnings ++ ignoredStats malformed }

/-- A sync leaves the base stats as they were, or cuts them down. -/
theorem World.Resynced.cutStats {w w' : World} (h : Resynced w w') :
    CutStats w.state.baseStats w'.state.baseStats := by
  obtain ⟨base, stats, instances, totals, hcut, failed, c, ws, rfl⟩ := h
  exact hcut

namespace Play

theorem runFrom_forM_warn (malformed : List Key) (w : World) :
    (malformed.forM fun id => warn ("Ignoring malformed stat " ++ id.shown)).runFrom w =
      (.ok ⟨⟩, { w with warnings := w.warnings ++ ignoredStats malformed }) := by
  induction malformed generalizing w with
  | nil => simp [ignoredStats]
  | cons id malformed ih =>
      refine (runFrom_bind_ok (runFrom_modify _ w)).trans ((ih _).trans ?_)
      simp [ignoredStats]

theorem runFrom_readStats {v : Value} {stats : Fields Stat} {malformed : List Key}
    (h : Stat.readAll v = .ok (stats, malformed)) (w : World) :
    (readStats v).runFrom w =
      (.ok stats, { w with warnings := w.warnings ++ ignoredStats malformed }) := by
  unfold readStats
  refine (runFrom_bind_ok (runFrom_liftM_ok h w)).trans ?_
  exact runFrom_bind_ok (runFrom_forM_warn malformed w)

variable {record : Value} {w : World}

/-- A record that cannot be read leaves the world as it was. -/
theorem runFrom_restore_error {e : Fault}
    (h : State.ofRecord record w.settings = .error e) :
    (restore record).runFrom w = (.error e, w) := by
  unfold State.ofRecord at h
  unfold restore
  refine (runFrom_bind_ok (runFrom_get w)).trans ?_
  cases hsaved : SavedGame.ofValue w.settings.digitLimit (record.orElse (.obj []))
      w.settings.logLimit with
  | error e' =>
      rw [hsaved] at h
      cases h
      exact runFrom_bind_error ((runFrom_liftM _ w).trans (by rw [hsaved]))
  | ok saved =>
      refine (runFrom_bind_ok (runFrom_liftM_ok hsaved w)).trans (runFrom_bind_error ?_)
      rw [hsaved] at h
      unfold readStats
      cases hstats : Stat.readAll saved.baseStats with
      | error e' =>
          have he : e' = e := by simpa [bind, Except.bind, hstats] using h
          rw [← he]
          exact runFrom_bind_error (runFrom_liftM (.error e') w)
      | ok read =>
          simp [bind, Except.bind, hstats, pure, Except.pure] at h

/-- **Once a record has been read its state is in place**, and all depends on the sync. -/
theorem runFrom_restore_ok {s : State} {malformed : List Key}
    (h : State.ofRecord record w.settings = .ok (s, malformed)) :
    (restore record).runFrom w = sync.runFrom (w.holding s malformed) := by
  obtain ⟨saved, hsaved, h⟩ := exists_of_bind_eq_ok h
  obtain ⟨⟨stats, malformed'⟩, hstats, h⟩ := exists_of_bind_eq_ok h
  cases h
  unfold restore
  refine (runFrom_bind_ok (runFrom_get w)).trans ?_
  refine (runFrom_bind_ok (runFrom_liftM_ok hsaved w)).trans ?_
  refine (runFrom_bind_ok (runFrom_readStats hstats w)).trans ?_
  exact runFrom_bind_ok (runFrom_modifyState _ _)

/-- **How restoring can end**: it returns; or it fails, and the world is as it was before; or the
state of the record is in place and its sync fails.  Then what is left of the old world is its book
and its settings: the state is that of the record, apart from base stats that have been cut down,
from the view, and from lines in the journal. -/
theorem restore_cases (record : Value) (w : World) :
    (∃ w', (restore record).runFrom w = (.ok (), w')) ∨
    (∃ e, (restore record).runFrom w = (.error e, w)) ∨
    ∃ s malformed e w', State.ofRecord record w.settings = .ok (s, malformed) ∧
      sync.runFrom (w.holding s malformed) = (.error e, w') ∧
      (restore record).runFrom w = (.error e, w') ∧
      w'.book = w.book ∧ w'.settings = w.settings ∧ CutStats s.baseStats w'.state.baseStats ∧
      w'.state = { s with
        baseStats := w'.state.baseStats, stats := w'.state.stats
        buffInstances := w'.state.buffInstances, buffTotals := w'.state.buffTotals
        journal := w'.state.journal } := by
  cases hread : State.ofRecord record w.settings with
  | error e => exact .inr (.inl ⟨e, runFrom_restore_error hread⟩)
  | ok read =>
      obtain ⟨s, malformed⟩ := read
      have hrun := runFrom_restore_ok hread
      rcases hsync : sync.runFrom (w.holding s malformed) with ⟨_ | _, w'⟩
      · have hresynced : Resynced _ _ := (sync_leads (w.holding s malformed)).world_of_run hsync
        refine .inr (.inr ⟨s, malformed, _, w', rfl, hsync, hrun.trans hsync, ?_⟩)
        exact ⟨hresynced.book_eq, hresynced.settings_eq, hresynced.cutStats, hresynced.state_eq⟩
      · exact .inl ⟨w', hrun.trans hsync⟩

/-- A record of a later day, with a buff that is not an object. -/
def unsoundRecord : Value :=
  .obj [("day", .int 9), ("buffs", .list [.str "haste"])]

/-- A game that has just been opened. -/
def freshGame : World :=
  ((Call.operation (.load (.obj []))).run.runFrom
    (World.closed {} (.constant 1 (.int 0)))).2

/-- Restoring can fail and leave another state than before. -/
theorem not_restore_atomic :
    ¬ ∀ w record, InRun 12 w →
      (∃ w', (restore record).runFrom w = (.ok (), w')) ∨
        ∃ e w', (restore record).runFrom w = (.error e, w') ∧ w'.state = w.state := by
  intro h
  have hgame : InRun 12 freshGame := .call _ (.start _ rfl)
  -- the record is read; its buff is looked into only when its day has already come
  have hfails : ((restore unsoundRecord).runFrom freshGame).1 = .error .noFields := by
    decide +kernel
  have hday : ((restore unsoundRecord).runFrom freshGame).2.state.day.eqv (.int 9) = true := by
    decide +kernel
  have hfirst : freshGame.state.day.eqv (.int 9) = false := by decide +kernel
  rcases h freshGame unsoundRecord hgame with ⟨w', hr⟩ | ⟨e, w', hr, hstate⟩
  · rw [hr] at hfails
    cases hfails
  · rw [hr, hstate, hfirst] at hday
    cases hday

end Play

end Gamebook
