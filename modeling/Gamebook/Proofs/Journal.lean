/-
**Saving the journal and reading it back.**

A journal that has been written line by line is within its limit and has no empty texts, and such a
journal is read back from its own record.

Main definitions:

* `Journal.WellKept` — a journal that its limit leaves as it is, without empty texts;
* `Journal.Within` — a journal with at most as many entries as its limit, without empty texts.

Main results:

* `Value.plainText_ne_empty` — what holds has a text;
* `Journal.WellKept.add`, `Journal.Within.add` — a line keeps the journal so;
* `Journal.within_ofValue` — whatever a journal is read from, it is within its limit;
* `Journal.WellKept.ofValue_toValue` — **a journal that is well kept is read back**.
-/

import Gamebook.Journal

set_option autoImplicit false

namespace Gamebook

/-! ### Texts of values -/

theorem ofList_ne_empty {cs : List Char} (h : cs ≠ []) : String.ofList cs ≠ "" := by
  intro he
  exact h (by simpa using congrArg String.toList he)

theorem Text.digitsOfNat_ne_nil (n : Nat) : Text.digitsOfNat n ≠ [] := Nat.toDigits_ne_nil

namespace Decimal

theorem positional_ne_nil (digits : List Char) (point : Int) : positional digits point ≠ [] := by
  unfold positional
  split
  · simp
  · split <;> simp

theorem scientific_ne_nil (digits : List Char) (e : Int) : scientific digits e ≠ [] := by
  simp [scientific]

theorem toChars_ne_nil (d : Decimal) : d.toChars ≠ [] := by
  unfold toChars
  dsimp only
  split
  · exact positional_ne_nil _ _
  · exact scientific_ne_nil _ _

end Decimal

theorem floatChars_ne_nil (x : Float) : floatChars x ≠ [] := by
  unfold floatChars
  split
  · simp
  · split <;> simp
  · dsimp only
    split
    · simp
    · split
      · simp
      · exact Decimal.toChars_ne_nil _

theorem Number.toText_ne_empty (n : Number) : n.toText ≠ "" := by
  cases n with
  | int n =>
      refine ofList_ne_empty ?_
      unfold intChars
      split
      · simp
      · exact Text.digitsOfNat_ne_nil _
  | float x => exact ofList_ne_empty (floatChars_ne_nil x)
  | nan _ => simp [toText]

theorem append_ne_empty (s : String) {t : String} (h : t ≠ "") : s ++ t ≠ "" :=
  fun he => h (String.append_eq_empty_iff.1 he).2

/-- What is shown has a text. -/
theorem Value.shown_ne_empty (v : Value) : v.shown ≠ "" := by
  match v with
  | null => simp [shown]
  | bool b => cases b <;> simp [shown]
  | num n => exact n.toText_ne_empty
  | str s => exact ofList_ne_empty (by simp)
  | list items => exact append_ne_empty _ (by simp)
  | obj fields => exact append_ne_empty _ (by simp)
  | inventory counts => exact append_ne_empty _ (by simp)
  | flags content => exact shown_ne_empty content

/-- What holds has a text. -/
theorem Value.plainText_ne_empty {v : Value} (h : v.holds = true) : v.plainText ≠ "" := by
  cases v with
  | str s => simpa [holds, plainText] using h
  | _ => exact shown_ne_empty _

/-! ### Journals -/

namespace Journal

/-- The journal has the limit and is within it, and none of its texts is empty. -/
structure WellKept (limit : Int) (j : Journal) : Prop where
  limit_eq : j.limit = limit
  upTo_eq : upTo limit j.entries = j.entries
  texts : ∀ e ∈ j.entries, e.text ≠ ""

theorem wellKept_nil (limit : Int) : WellKept limit ⟨limit, []⟩ :=
  ⟨rfl, upTo_nil limit, by simp⟩

theorem upTo_upTo_cons {α : Type} {limit : Int} {l : List α} (h : upTo limit l = l) (a : α) :
    upTo limit (upTo limit (a :: l)) = upTo limit (a :: l) := by
  rcases Int.lt_or_le limit 0 with h0 | h0
  · -- Under a negative limit only the empty list is within it.
    have hcut : ∀ l' : List α, upTo limit l' = l'.take (l'.length + limit).toNat :=
      fun l' => if_neg (by omega)
    have hl : l = [] := by
      have hlength := congrArg List.length h
      rw [hcut, List.length_take] at hlength
      exact List.length_eq_zero_iff.1 (by omega)
    subst hl
    have hnil : upTo limit [a] = [] := by
      rw [hcut, List.length_singleton, show ((1 : Nat) + limit).toNat = 0 by omega, List.take_zero]
    rw [hnil, upTo_nil]
  · rw [upTo_eq_take h0, upTo_eq_take h0, List.take_take, Nat.min_self]

theorem mem_of_mem_upTo {α : Type} {limit : Int} {l : List α} {a : α} (h : a ∈ upTo limit l) :
    a ∈ l := by
  unfold upTo at h
  split at h <;> exact List.mem_of_mem_take h

/-- A line keeps the journal well kept. -/
theorem WellKept.add {limit : Int} {j : Journal} (h : j.WellKept limit) (text now : Value) :
    (j.add text now).WellKept limit := by
  unfold Journal.add
  split
  · rename_i hholds
    refine ⟨h.limit_eq, ?_, fun e he => ?_⟩
    · dsimp only
      rw [h.limit_eq]
      exact upTo_upTo_cons h.upTo_eq _
    · rcases List.mem_cons.1 (mem_of_mem_upTo he) with rfl | he
      · exact Value.plainText_ne_empty hholds
      · exact h.texts e he
  · exact h

theorem entryOf?_entryValue {e : JournalEntry} (h : e.text ≠ "") :
    entryOf? (entryValue e) = some e := by
  simp [entryOf?, entryValue, Fields.get?_cons, Value.ofOption, Value.holds, Value.plainText, h]

theorem upTo_map {α β : Type} (f : α → β) (limit : Int) (l : List α) :
    upTo limit (l.map f) = (upTo limit l).map f := by
  unfold upTo
  split <;> simp

theorem filterMap_entryOf? {entries : List JournalEntry} (h : ∀ e ∈ entries, e.text ≠ "") :
    (entries.map entryValue).filterMap entryOf? = entries := by
  induction entries with
  | nil => rfl
  | cons e entries ih =>
      have ⟨he, hentries⟩ := List.forall_mem_cons.1 h
      rw [List.map_cons, List.filterMap_cons, entryOf?_entryValue he, ih hentries]

/-- **A journal that is well kept is read back** from its own record. -/
theorem WellKept.ofValue_toValue {limit : Int} {j : Journal} (h : j.WellKept limit) :
    ofValue j.toValue limit = j := by
  obtain ⟨limit', entries⟩ := j
  obtain ⟨rfl, hupTo, htexts⟩ := h
  rw [toValue, ofValue, savedEntries, upTo_map, hupTo, filterMap_entryOf? htexts]

/-- What a journal has saved can be loaded under every digit limit. -/
theorem ofValueWithin_toValue (digits : DigitLimit) (j : Journal) (limit : Int) :
    ofValueWithin digits j.toValue limit = .ok (ofValue j.toValue limit) := by
  refine if_pos (List.all_eq_true.2 fun v hv => ?_)
  obtain ⟨e, _, rfl⟩ := List.mem_map.1 (mem_of_mem_upTo hv)
  simp [isWritableEntry, entryValue, Fields.get?_cons, Value.ofOption, Value.isWritable]

theorem eq_of_ofValueWithin {digits : DigitLimit} {v : Value} {limit : Int} {j : Journal}
    (h : ofValueWithin digits v limit = .ok j) : j = ofValue v limit := by
  unfold ofValueWithin at h
  split at h
  · exact (Except.ok.inj h).symm
  · cases h

/-! ### Journals within their limit -/

/-- The journal has the limit and, unless that is negative, at most so many entries; none of its
texts is empty. -/
structure Within (limit : Int) (j : Journal) : Prop where
  limit_eq : j.limit = limit
  length_le : 0 ≤ limit → (j.entries.length : Int) ≤ limit
  texts : ∀ e ∈ j.entries, e.text ≠ ""

theorem within_nil (limit : Int) : Within limit ⟨limit, []⟩ := ⟨rfl, fun h => h, by simp⟩

/-- Under a limit that is not negative a journal within it is well kept. -/
theorem Within.wellKept {limit : Int} {j : Journal} (h : j.Within limit) (h0 : 0 ≤ limit) :
    j.WellKept limit := by
  refine ⟨h.limit_eq, ?_, h.texts⟩
  have hlength := h.length_le h0
  rw [upTo_eq_take h0, List.take_of_length_le (by omega)]

theorem Within.add {limit : Int} {j : Journal} (h : j.Within limit) (text now : Value) :
    (j.add text now).Within limit := by
  unfold Journal.add
  split
  · rename_i hholds
    refine ⟨h.limit_eq, fun h0 => ?_, fun e he => ?_⟩
    · dsimp only
      rw [h.limit_eq]
      exact length_upTo_le h0 _
    · rcases List.mem_cons.1 (mem_of_mem_upTo he) with rfl | he
      · exact Value.plainText_ne_empty hholds
      · exact h.texts e he
  · exact h

/-- The entry of a saved value has a text. -/
theorem text_ne_empty_of_entryOf? {v : Value} {e : JournalEntry} (h : entryOf? v = some e) :
    e.text ≠ "" := by
  cases v with
  | obj fields =>
      simp only [entryOf?] at h
      split at h
      · rename_i hholds
        cases h
        exact Value.plainText_ne_empty hholds
      · cases h
  | str s =>
      simp only [entryOf?] at h
      split at h
      · cases h
      · rename_i hs
        cases h
        simpa using hs
  | _ => cases h

/-- Whatever a journal is read from, it is within its limit. -/
theorem within_ofValue (v : Value) (limit : Int) : (ofValue v limit).Within limit := by
  cases v with
  | list items =>
      refine ⟨rfl, fun h0 => ?_, fun e he => ?_⟩
      · have hfilter := List.length_filterMap_le entryOf? (upTo limit items)
        have hupTo := length_upTo_le h0 items
        change ((List.filterMap entryOf? (upTo limit items)).length : Int) ≤ limit
        omega
      · obtain ⟨w, _, hw⟩ := List.mem_filterMap.1 he
        exact text_ne_empty_of_entryOf? hw
  | _ => exact within_nil limit

end Journal

end Gamebook
