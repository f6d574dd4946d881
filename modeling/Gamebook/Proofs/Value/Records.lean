/-
**What holds of every record in a value.**

A document is a value with records inside records.  A test of records that all of them pass, at
every depth, is passed by whatever play takes out of the document.

Main definition: `Value.everyRecord` — all records in a value pass a test.

Main result: `Value.hereditary_everyRecord` — **the parts of a value inherit it**.
-/

import Gamebook.Proofs.Outcome
import Gamebook.Proofs.Play.Change

set_option autoImplicit false

namespace Gamebook

namespace Value

mutual

/-- Whether all records in a value pass a test, the value itself included. -/
def everyRecord (test : Fields Value → Bool) : Value → Bool
  | list vs => everyRecordOfList test vs
  | obj fs => test fs && everyRecordOfFields test fs
  | inventory counts => test counts && everyRecordOfFields test counts
  | flags content => everyRecord test content
  | _ => true

/-- Whether all records in some values pass a test. -/
def everyRecordOfList (test : Fields Value → Bool) : List Value → Bool
  | [] => true
  | v :: vs => everyRecord test v && everyRecordOfList test vs

/-- Whether all records in some fields pass a test. -/
def everyRecordOfFields (test : Fields Value → Bool) : List (Key × Value) → Bool
  | [] => true
  | (_, v) :: fs => everyRecord test v && everyRecordOfFields test fs

end

variable {test : Fields Value → Bool}

theorem everyRecordOfList_iff {vs : List Value} :
    everyRecordOfList test vs = true ↔ ∀ v ∈ vs, everyRecord test v = true := by
  induction vs with
  | nil => simp [everyRecordOfList]
  | cons v vs ih => simp [everyRecordOfList, ih]

theorem everyRecordOfFields_iff {fs : Fields Value} :
    everyRecordOfFields test fs = true ↔ ∀ f ∈ fs, everyRecord test f.2 = true := by
  induction fs with
  | nil => simp [everyRecordOfFields]
  | cons f fs ih => simp [everyRecordOfFields, ih]

mutual

theorem everyRecord_mono {test' : Fields Value → Bool}
    (htest : ∀ fs, test fs = true → test' fs = true)
    (v : Value) (h : everyRecord test v = true) : everyRecord test' v = true := by
  match v with
  | null => rfl
  | bool _ => rfl
  | num _ => rfl
  | str _ => rfl
  | list vs => exact everyRecordOfList_mono htest vs h
  | obj fs =>
      rw [everyRecord, Bool.and_eq_true] at h ⊢
      exact ⟨htest fs h.1, everyRecordOfFields_mono htest fs h.2⟩
  | inventory counts =>
      rw [everyRecord, Bool.and_eq_true] at h ⊢
      exact ⟨htest counts h.1, everyRecordOfFields_mono htest counts h.2⟩
  | flags content => exact everyRecord_mono htest content h

theorem everyRecordOfList_mono {test' : Fields Value → Bool}
    (htest : ∀ fs, test fs = true → test' fs = true) (vs : List Value)
    (h : everyRecordOfList test vs = true) : everyRecordOfList test' vs = true := by
  match vs with
  | [] => rfl
  | v :: vs =>
      rw [everyRecordOfList, Bool.and_eq_true] at h ⊢
      exact ⟨everyRecord_mono htest v h.1, everyRecordOfList_mono htest vs h.2⟩

theorem everyRecordOfFields_mono {test' : Fields Value → Bool}
    (htest : ∀ fs, test fs = true → test' fs = true) (fs : List (Key × Value))
    (h : everyRecordOfFields test fs = true) : everyRecordOfFields test' fs = true := by
  match fs with
  | [] => rfl
  | (_, v) :: fs =>
      rw [everyRecordOfFields, Bool.and_eq_true] at h ⊢
      exact ⟨everyRecord_mono htest v h.1, everyRecordOfFields_mono htest fs h.2⟩

end

/-- A record in which all records pass the test passes it, and so do those in its fields. -/
theorem everyRecord_fields {v : Value} {fs : Fields Value} (h : everyRecord test v = true)
    (hfs : v.fields? = some fs) : test fs = true ∧ ∀ f ∈ fs, everyRecord test f.2 = true := by
  match v with
  | obj fields =>
      cases hfs
      simpa [everyRecord, everyRecordOfFields_iff] using h
  | inventory counts =>
      cases hfs
      simpa [everyRecord, everyRecordOfFields_iff] using h
  | flags content => exact everyRecord_fields (v := content) h hfs
  | null | bool _ | num _ | str _ | list _ => cases hfs

theorem everyRecord_get? {fs : Fields Value} (h : ∀ f ∈ fs, everyRecord test f.2 = true) (k : Key) :
    everyRecord test (ofOption (fs.get? k)) = true := by
  cases hget : fs.get? k with
  | none => rfl
  | some w =>
      obtain ⟨k', hmem⟩ := Fields.exists_mem_of_get? hget
      exact h _ hmem

theorem everyRecord_toValue (k : Key) : everyRecord test k.toValue = true := by
  cases k <;> rfl

/-- What a field holds, by the fields of the record. -/
theorem exists_of_field_eq {v w : Value} {k : Key} (h : v.field k = .ok w) :
    ∃ fs, v.fields? = some fs ∧ w = ofOption (fs.get? k) := by
  obtain ⟨o, ho, hw⟩ := exists_of_bind_eq_ok h
  obtain ⟨fs, hfs, hget⟩ := exists_of_bind_eq_ok ho
  cases hget
  cases hw
  exact ⟨fs, exists_fields_of_entries hfs, rfl⟩

theorem exists_of_fieldAt_eq {v w k : Value} (h : v.fieldAt k = .ok w) :
    ∃ fs name, v.fields? = some fs ∧ w = ofOption (fs.get? name) := by
  obtain ⟨fs, hfs, h⟩ := exists_of_bind_eq_ok h
  obtain ⟨o, ho, hw⟩ := exists_of_bind_eq_ok h
  obtain ⟨name, _, hget⟩ := exists_of_bind_eq_ok ho
  cases hget
  cases hw
  exact ⟨fs, name, exists_fields_of_entries hfs, rfl⟩

/-- The values directly inside a value. -/
def inside : Value → List Value
  | .obj fields => fields.map Prod.snd
  | .inventory counts => counts.map Prod.snd
  | .list items => items
  | .str s => s.toList.map fun c => .str (String.singleton c)
  | .flags content => inside content
  | _ => []

theorem mem_inside_of_fields {v w : Value} {fs : Fields Value} (hfs : v.fields? = some fs)
    (h : w ∈ fs.map Prod.snd) : w ∈ v.inside := by
  match v with
  | obj fields | inventory fields =>
      cases hfs
      exact h
  | flags content => exact mem_inside_of_fields (v := content) hfs h
  | null | bool _ | num _ | str _ | list _ => cases hfs

theorem mem_inside_of_required {v w : Value} {k : Key} (h : v.required k = .ok w) :
    w ∈ v.inside := by
  unfold required at h
  split at h
  · rename_i fields hfields
    split at h
    · rename_i w' hget
      cases h
      obtain ⟨k', hmem⟩ := Fields.exists_mem_of_get? hget
      exact mem_inside_of_fields hfields (List.mem_map_of_mem hmem)
    · cases h
  · cases h

/-- The entry of a value at a name or at a place is inside it, or nothing is there. -/
theorem mem_inside_of_entryAt {v w k : Value} (h : v.entryAt k = .ok w) :
    w ∈ v.inside ∨ w = null := by
  cases v with
  | list items =>
      obtain ⟨place, _, h⟩ := exists_of_bind_eq_ok h
      cases h
      cases hget : items[place]? with
      | none => exact .inr rfl
      | some item => exact .inl (List.mem_of_getElem? hget)
  | str s =>
      obtain ⟨place, _, h⟩ := exists_of_bind_eq_ok h
      cases h
      cases hget : s.toList[place]? with
      | none => exact .inr rfl
      | some c => exact .inl (List.mem_map_of_mem (List.mem_of_getElem? hget))
  | _ =>
      obtain ⟨name, _, h⟩ := exists_of_bind_eq_ok h
      exact .inl (mem_inside_of_required h)

theorem everyRecord_inside {v w : Value} (hv : everyRecord test v = true) (h : w ∈ v.inside) :
    everyRecord test w = true := by
  match v with
  | list items => exact everyRecordOfList_iff.1 hv w h
  | obj fields | inventory fields =>
      obtain ⟨f, hf, rfl⟩ := List.mem_map.1 h
      exact (everyRecord_fields hv rfl).2 f hf
  | str s =>
      obtain ⟨c, _, rfl⟩ := List.mem_map.1 h
      rfl
  | flags content => exact everyRecord_inside (v := content) hv h
  | null | bool _ | num _ => cases h

theorem everyRecord_entryAt {v w k : Value} (hv : everyRecord test v = true)
    (h : v.entryAt k = .ok w) : everyRecord test w = true := by
  rcases mem_inside_of_entryAt h with h | rfl
  · exact everyRecord_inside hv h
  · rfl

/-- **The parts of a value inherit that all records pass a test.** -/
theorem hereditary_everyRecord (test : Fields Value → Bool) (hempty : test [] = true) :
    Hereditary fun v => everyRecord test v = true where
  null := rfl
  empty := by simp [everyRecord, hempty, everyRecordOfFields]
  none := rfl
  field hv h := by
    obtain ⟨fs, hfs, rfl⟩ := exists_of_field_eq h
    exact everyRecord_get? (everyRecord_fields hv hfs).2 _
  fieldAt hv h := by
    obtain ⟨fs, name, hfs, rfl⟩ := exists_of_fieldAt_eq h
    exact everyRecord_get? (everyRecord_fields hv hfs).2 _
  entryAt hv h := everyRecord_entryAt hv h
  element {v vs} hv h w hw := by
    cases v with
    | list items =>
        cases h
        exact everyRecordOfList_iff.1 hv w hw
    | obj fields =>
        cases h
        obtain ⟨f, _, rfl⟩ := List.mem_map.1 hw
        exact everyRecord_toValue f.1
    | inventory counts =>
        cases h
        obtain ⟨f, _, rfl⟩ := List.mem_map.1 hw
        exact everyRecord_toValue f.1
    | str s =>
        cases h
        obtain ⟨c, _, rfl⟩ := List.mem_map.1 hw
        rfl
    | _ => cases h

end Value

end Gamebook
