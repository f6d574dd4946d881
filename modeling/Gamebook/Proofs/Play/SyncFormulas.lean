/-
**The formulas of a sync in the book.**

The formulas that a sync evaluates are the `value_expr` fields of active buffs, of what items give
while they are held, and of the modifiers of buffs.  So what they mention can be read off the book
and the active buffs.

Main definition: `Value.valueAvoids` — a record whose `value_expr` mentions none of some names and
functions.

Main results:

* `World.forContributions_of_avoids`, `Play.forModifiers_of_avoids` — **what holds of all such
  formulas holds in a sync**.
-/

import Gamebook.Proofs.Formula.Agreement
import Gamebook.Proofs.Play.SyncTogether
import Gamebook.Proofs.Value.Records

set_option autoImplicit false

namespace Gamebook

open Formula

/-! ### Formulas with defaults -/

namespace Formula

variable {names calls : List String}

theorem avoids_coalesce {vs : List Value} (h : ∀ v ∈ vs, avoids names calls v = true) :
    avoids names calls (Value.coalesce vs) = true := by
  induction vs with
  | nil => rfl
  | cons v vs ih =>
      have ⟨hv, hvs⟩ := List.forall_mem_cons.1 h
      rw [Value.coalesce_cons]
      split
      · exact ih hvs
      · exact hv

theorem read_one : read (Text.strip "1") = .ok (.literal (.int 1)) := by
  have hstrip : Text.strip "1" = "1" := by rfl
  have htokens : tokenize "1" = .ok [⟨.number (.int 1), 0⟩, ⟨.stop, 1⟩] := by rfl
  rw [hstrip, read_of_tokenize htokens]
  rfl

theorem read_value : read (Text.strip "$value") = .ok (.name "$value") := by
  have hstrip : Text.strip "$value" = "$value" := by rfl
  have htokens : tokenize "$value" = .ok [⟨.name "$value", 0⟩, ⟨.stop, 6⟩] := by rfl
  rw [hstrip, read_of_tokenize htokens]
  rfl

theorem avoids_one : avoids names calls (.str "1") = true := by
  rw [avoids, read_one]
  rfl

theorem avoids_orOne {f : Value} (h : avoids names calls f = true) :
    avoids names calls (Value.coalesce [f, .str "1"]) = true :=
  avoids_coalesce (List.forall_mem_cons.2 ⟨h, List.forall_mem_singleton.2 avoids_one⟩)

theorem avoids_orValue {f : Value} (hnames : "$value" ∉ names) (h : avoids names calls f = true) :
    avoids names calls (Value.coalesce [f, .str "$value"]) = true := by
  refine avoids_coalesce (List.forall_mem_cons.2 ⟨h, List.forall_mem_singleton.2 ?_⟩)
  rw [avoids, read_value]
  simpa [Expr.avoids] using hnames

end Formula

/-! ### Records of the book -/

namespace Value

/-- Whether the `value_expr` of a record mentions none of some names and functions. -/
def valueAvoids (names calls : List String) (fields : Fields Value) : Bool :=
  avoids names calls (ofOption (fields.get? "value_expr"))

variable {names calls : List String}

theorem hereditary_valueAvoids (names calls : List String) :
    Hereditary fun v => everyRecord (valueAvoids names calls) v = true :=
  hereditary_everyRecord _ rfl

theorem everyRecord_entries {test : Fields Value → Bool} {v : Value} {fields : Fields Value}
    (h : everyRecord test v = true) (hfields : v.entries = .ok fields) :
    ∀ f ∈ fields, everyRecord test f.2 = true :=
  (everyRecord_fields h (exists_fields_of_entries hfields)).2

theorem avoids_of_everyRecord {v f : Value} (h : everyRecord (valueAvoids names calls) v = true)
    (hf : v.field "value_expr" = .ok f) : avoids names calls f = true := by
  obtain ⟨fields, hfields, rfl⟩ := exists_of_field_eq hf
  exact (everyRecord_fields h hfields).1

end Value

/-! ### Formulas of a sync -/

namespace Play

open Value

/-- What an item gives while it is held stands in its definition. -/
theorem exists_of_holdsOf_eq {inventory : Inventory} {item : Key} {definition count hold : Value}
    {holds : List Value} (h : holdsOf inventory item definition = .ok (count, holds))
    (hhold : hold ∈ holds) :
    ∃ field vs, (definition.orElse (.obj [])).field "hold_buffs" = .ok field ∧
      field.elements = .ok vs ∧ hold ∈ vs := by
  obtain ⟨count', _, h⟩ := exists_of_bind_eq_ok h
  obtain ⟨field, hfield, h⟩ := exists_of_bind_eq_ok h
  have hnone : ∀ {c : Value},
      (Except.ok (c, ([] : List Value)) : Except Fault _) ≠ .ok (count, holds) := by
    rintro c ⟨⟩
    cases hhold
  split at h
  · exact absurd h hnone
  obtain ⟨finite, _, h⟩ := exists_of_bind_eq_ok h
  split at h
  · exact absurd h hnone
  split at h
  · exact absurd h hnone
  obtain ⟨vs, hvs, h⟩ := exists_of_bind_eq_ok h
  cases h
  exact ⟨field, _, hfield, hvs, hhold⟩

/-- The modifiers of a buff stand in its definition. -/
theorem exists_of_modifiersOf_eq {buffs id : Value} {modifiers : List Value}
    (h : modifiersOf buffs id = .ok modifiers) :
    ∃ definition field, buffs.fieldAt id = .ok definition ∧
      (definition.orElse (.obj [])).field "modifiers" = .ok field ∧
      (field.orElse (.list [])).elements = .ok modifiers := by
  obtain ⟨definition, hdefinition, h⟩ := exists_of_bind_eq_ok h
  obtain ⟨field, hfield, h⟩ := exists_of_bind_eq_ok h
  exact ⟨definition, field, hdefinition, hfield, h⟩

end Play

namespace World

open Value Play

variable {names calls : List String} {w : World}

/-- **What holds of all formulas that avoid some names and functions holds of those that give
contributions**, when the items and the active buffs mention none of these. -/
theorem forContributions_of_avoids {F : Value → Fields Value → Prop}
    (hitems : everyRecord (valueAvoids names calls) w.book.items = true)
    (hactive : ∀ buffs, w.state.buffs.elements = .ok buffs → ∀ buff ∈ buffs, ∀ f,
      buff.field "value_expr" = .ok f → avoids names calls f = true)
    (hF : ∀ formula extra, avoids names calls formula = true → F formula extra) :
    w.ForContributions F where
  active hbuffs hbuff hf := hF _ _ (avoids_orOne (hactive _ hbuffs _ hbuff _ hf))
  held {items item count hold f holds} hentries hitem hheld hhold hf := by
    obtain ⟨field, vs, hfield, hvs, hmem⟩ := exists_of_holdsOf_eq hheld hhold
    have hP := hereditary_valueAvoids names calls
    have hdefinition := hP.orElse_empty (everyRecord_entries hitems hentries item hitem)
    have hrecord := hP.element (hP.field hdefinition hfield) hvs hold hmem
    exact hF _ _ (avoids_orOne (avoids_of_everyRecord hrecord hf))

end World

namespace Play

open Value

variable {names calls : List String}

/-- **What holds of all formulas that avoid some names and functions holds of those of modifiers**,
when the buffs mention none of these. -/
theorem forModifiers_of_avoids {F : Value → Value → Prop} {buffs : Value}
    (hbuffs : everyRecord (valueAvoids names calls) buffs = true) (hnames : "$value" ∉ names)
    (hF : ∀ formula value, avoids names calls formula = true → F formula value)
    (instances : List BuffInstance) : ForModifiers F buffs instances := by
  intro i _ modifiers hmodifiers modifier hmodifier f hf
  obtain ⟨definition, field, hdefinition, hfield, hvs⟩ := exists_of_modifiersOf_eq hmodifiers
  have hP := hereditary_valueAvoids names calls
  have hpart := hP.orElse_empty (hP.fieldAt hbuffs hdefinition)
  have hrecord := hP.element (hP.orElse_none (hP.field hpart hfield)) hvs modifier hmodifier
  exact hF _ _ (avoids_orValue hnames (avoids_of_everyRecord hrecord hf))

end Play

end Gamebook
