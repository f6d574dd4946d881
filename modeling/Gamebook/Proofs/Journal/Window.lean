/-
**The journal as a window on everything that was written.**

Values are written to a journal, and in between the journal may be saved and loaded any number of
times.  None of this shows in the entries: they are always the newest of all entries that were ever
written, as many of them as the limit allows.  A smaller limit for the loaded journal is a smaller
window on the same entries.

An empty value is not written.  A value that cannot be written as text within the digit limit is
refused, and the journal stays as it is.

Main definitions:

* `Journal.Event` — a value is written, or the journal is saved and loaded;
* `Journal.run` — the journal after some events, with nothing in it at first;
* `Journal.newest` — all entries that the events have written, the newest first.

Main results:

* `Journal.addWithin_of_not_holds` — an empty value changes nothing;
* `Journal.entries_run` — **the entries are the newest of those that were written**;
* `Journal.Within.ofValue_toValue` — **loading keeps the newest entries**, times and all;
* `Journal.run_shows_newest` — both, with the events that fail.
-/

import Gamebook.Proofs.Journal
import Gamebook.Proofs.Number.Order
import Mathlib.Data.List.Induction

set_option autoImplicit false

namespace Gamebook

/-! ### Empty values -/

/-- An empty value is written within every limit. -/
theorem Value.isWritable_of_not_holds (digits : DigitLimit) {v : Value} (h : v.holds = false) :
    v.isWritable digits = true := by
  match v with
  | num n =>
      cases n with
      | int n =>
          have hn : n = 0 := Number.isZero_int_iff.1 (by simpa [holds] using h)
          subst hn
          cases digits <;> simp [isWritable, DigitLimit.admitsInt, tenTo_pos]
      | _ => rfl
  | list items =>
      have hempty : items = [] := by simpa [holds] using h
      rw [hempty]
      rfl
  | obj fields | inventory fields =>
      have hempty : fields = [] := by simpa [holds] using h
      rw [hempty]
      rfl
  | flags content =>
      rw [holds, Bool.or_eq_false_iff] at h
      exact isWritable_of_not_holds (v := content) digits h.2
  | null | bool _ | str _ => rfl

namespace Journal

variable {digits : DigitLimit} {limit limit' : Int} {j : Journal}

/-! ### Events -/

/-- What is done to a journal: a value is written at some time, or the journal is saved and what
was saved is loaded. -/
inductive Event where
  | write (text now : Value)
  | reload

namespace Event

/-- The journal after an event, where it does not fail. -/
def run (digits : DigitLimit) (limit : Int) (j : Journal) : Event → Except Fault Journal
  | write text now => j.addWithin digits text now
  | reload => ofValueWithin digits j.toValue limit

/-- Whether an event writes no integer with too many digits. -/
def isWritable (digits : DigitLimit) : Event → Bool
  | write text _ => text.isWritable digits
  | reload => true

/-- The entry that an event writes, if it writes one. -/
def entry? (digits : DigitLimit) : Event → Option JournalEntry
  | write text now =>
      if text.holds && text.isWritable digits then some ⟨text.plainText, now⟩ else none
  | reload => none

theorem run_isOk (digits : DigitLimit) (limit : Int) (j : Journal) (e : Event) :
    (e.run digits limit j).isOk = e.isWritable digits := by
  cases e with
  | write text now =>
      change (j.addWithin digits text now).isOk = text.isWritable digits
      unfold addWithin
      cases text.isWritable digits <;> rfl
  | reload =>
      change (ofValueWithin digits j.toValue limit).isOk = true
      rw [ofValueWithin_toValue]
      rfl

end Event

/-- The journal after an event; one that fails leaves it as it is. -/
def step (digits : DigitLimit) (limit : Int) (j : Journal) (e : Event) : Journal :=
  match e.run digits limit j with
  | .ok j' => j'
  | .error _ => j

/-- **The journal after some events**, with nothing in it before them. -/
def run (digits : DigitLimit) (limit : Int) (events : List Event) : Journal :=
  events.foldl (step digits limit) ⟨limit, []⟩

/-- **All entries that the events have written**, the newest first. -/
def newest (digits : DigitLimit) (events : List Event) : List JournalEntry :=
  (events.filterMap (Event.entry? digits)).reverse

theorem step_write (digits : DigitLimit) (limit : Int) (j : Journal) (text now : Value) :
    step digits limit j (.write text now) =
      if text.isWritable digits then j.add text now else j := by
  simp only [step, Event.run, addWithin]
  cases text.isWritable digits <;> rfl

theorem step_reload (digits : DigitLimit) (limit : Int) (j : Journal) :
    step digits limit j .reload = ofValue j.toValue limit := by
  rw [step, Event.run, ofValueWithin_toValue]

theorem run_concat (digits : DigitLimit) (limit : Int) (events : List Event) (e : Event) :
    run digits limit (events ++ [e]) = step digits limit (run digits limit events) e := by
  simp [run]

theorem newest_concat (digits : DigitLimit) (events : List Event) (e : Event) :
    newest digits (events ++ [e]) = (e.entry? digits).toList ++ newest digits events := by
  cases h : e.entry? digits <;> simp [newest, h]

/-! ### One event -/

/-- An empty value is never refused, and writing it changes nothing. -/
theorem addWithin_of_not_holds (j : Journal) {text : Value} (h : text.holds = false) (now : Value) :
    j.addWithin digits text now = .ok j := by
  rw [addWithin, if_pos (Value.isWritable_of_not_holds digits h), add, h]
  rfl

theorem take_cons_take {α : Type} (n : Nat) (a : α) (l : List α) :
    (a :: l.take n).take n = (a :: l).take n := by
  cases n <;> simp [List.take_take]

/-- **A journal within its limit is loaded** with the newest of its entries. -/
theorem Within.ofValue_toValue (hj : j.Within limit) (h' : 0 ≤ limit') :
    ofValue j.toValue limit' = ⟨limit', j.entries.take limit'.toNat⟩ := by
  have htexts : ∀ e ∈ j.entries.take limit'.toNat, e.text ≠ "" :=
    fun e he => hj.texts e (List.mem_of_mem_take he)
  rw [toValue, ofValue, savedEntries, upTo_map, upTo_eq_take h', filterMap_entryOf? htexts]

theorem Within.step (hj : j.Within limit) (e : Event) : (step digits limit j e).Within limit := by
  cases e with
  | write text now =>
      rw [step_write]
      split
      · exact hj.add text now
      · exact hj
  | reload =>
      rw [step_reload]
      exact within_ofValue _ limit

/-- **One event**: what it writes comes in front, and the window stays as large. -/
theorem entries_step (h : 0 ≤ limit) (hj : j.Within limit) {written : List JournalEntry}
    (hentries : j.entries = written.take limit.toNat) (e : Event) :
    (step digits limit j e).entries =
      ((e.entry? digits).toList ++ written).take limit.toNat := by
  cases e with
  | write text now =>
      rw [step_write, Event.entry?, add]
      cases text.isWritable digits <;> cases text.holds
      case true.true =>
        -- the new entry may push out the oldest one in the window
        simp [hj.limit_eq, upTo_eq_take h, hentries, take_cons_take]
      all_goals simp [hentries]
  | reload =>
      rw [step_reload, (hj.wellKept h).ofValue_toValue]
      exact hentries

/-! ### Any number of events -/

theorem within_run (digits : DigitLimit) (limit : Int) (events : List Event) :
    (run digits limit events).Within limit :=
  List.foldlRecOn events (Journal.step digits limit) (within_nil limit) fun _ hj e _ => hj.step e

/-- **The entries are the newest of all that were written.** -/
theorem entries_run (h : 0 ≤ limit) (events : List Event) :
    (run digits limit events).entries = (newest digits events).take limit.toNat := by
  induction events using List.reverseRecOn with
  | nil => simp [run, newest]
  | append_singleton events e ih =>
      rw [run_concat, newest_concat]
      exact entries_step h (within_run digits limit events) ih e

/-- **A journal shows the newest of all that was ever written to it**, however often it was saved and
loaded.  Only a value with too long an integer fails to be written, and loading with another limit
keeps the newest entries with their times. -/
theorem run_shows_newest (digits : DigitLimit) (h : 0 ≤ limit) (events : List Event) :
    (run digits limit events).texts =
        ((newest digits events).map JournalEntry.text).take limit.toNat ∧
      (∀ e : Event, (e.run digits limit (run digits limit events)).isOk = e.isWritable digits) ∧
      ∀ limit' : Int, 0 ≤ limit' →
        ofValueWithin digits (run digits limit events).toValue limit' =
          .ok ⟨limit', (run digits limit events).entries.take limit'.toNat⟩ := by
  refine ⟨?_, fun e => e.run_isOk digits limit _, fun limit' h' => ?_⟩
  · rw [texts, entries_run h, List.map_take]
  · rw [ofValueWithin_toValue, (within_run digits limit events).ofValue_toValue h']

/-- Two texts and a number around a visit to the save file; a thousand has a digit too many. -/
def sightings : List Event :=
  [.write (.str "A rug.") (.int 1), .write .null (.int 2), .write (.int 7) (.int 3), .reload,
    .write (.int 1000) (.int 4), .write (.str "A door.") (.int 5)]

theorem run_shows_newest_sightings :
    (0 : Int) ≤ 2 ∧ (run (some 3) 2 sightings).texts = ["A door.", "7"] ∧
      ofValueWithin (some 3) (run (some 3) 2 sightings).toValue 1 =
        .ok ⟨1, [⟨"A door.", .int 5⟩]⟩ := by
  obtain ⟨htexts, _, hload⟩ :=
    run_shows_newest (some 3) (show (0 : Int) ≤ 2 by decide) sightings
  refine ⟨by decide, ?_, ?_⟩
  · rw [htexts]
    rfl
  · rw [hload 1 (by decide)]
    rfl

end Journal

end Gamebook
