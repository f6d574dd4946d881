/-
**Named entries.**

What is found under a name, in one list of entries and in two lists that have the same names.

Main definition: `Fields.Paired` — fields with the same names and related entries.
-/

import Gamebook.Value.Access
import Mathlib.Data.List.Forall2

set_option autoImplicit false

namespace Gamebook

/-- Of two lists whose elements are related, each element of the second one has a partner. -/
theorem exists_mem_of_forall₂ {α β : Type} {R : α → β → Prop} {l : List α} {l' : List β}
    (h : List.Forall₂ R l l') {b : β} (hb : b ∈ l') : ∃ a ∈ l, R a b := by
  induction h with
  | nil => simp at hb
  | cons hR _ ih =>
      rcases List.mem_cons.1 hb with rfl | hb
      · exact ⟨_, List.mem_cons_self .., hR⟩
      · obtain ⟨a, ha, hR⟩ := ih hb
        exact ⟨a, List.mem_cons_of_mem _ ha, hR⟩

/-! ### Entries -/

namespace Fields

variable {α : Type}

theorem exists_mem_of_get? {fs : Fields α} {k : Key} {a : α} (h : fs.get? k = some a) :
    ∃ k', (k', a) ∈ fs := by
  induction fs with
  | nil => cases h
  | cons f fs ih =>
      obtain ⟨k₀, a₀⟩ := f
      rw [get?_cons] at h
      split at h
      · cases h
        exact ⟨k₀, List.mem_cons_self ..⟩
      · obtain ⟨k', hk⟩ := ih h
        exact ⟨k', List.mem_cons_of_mem _ hk⟩

theorem has_of_get? {fs : Fields α} {k : Key} {a : α} (h : fs.get? k = some a) :
    fs.has k = true := by
  cases hk : fs.has k with
  | true => rfl
  | false =>
      rw [get?_eq_none_iff.2 hk] at h
      cases h

theorem forall_set {P : α → Prop} {fs : Fields α} {k : Key} {a : α} (h : ∀ f ∈ fs, P f.2)
    (ha : P a) : ∀ f ∈ fs.set k a, P f.2 := by
  induction fs with
  | nil => simpa [set] using ha
  | cons f fs ih =>
      obtain ⟨k₀, a₀⟩ := f
      obtain ⟨h₀, hrest⟩ := List.forall_mem_cons.1 h
      unfold set
      split
      · exact List.forall_mem_cons.2 ⟨ha, hrest⟩
      · exact List.forall_mem_cons.2 ⟨h₀, ih hrest⟩

theorem keys_eq_of_forall₂ {β : Type} {fs : Fields α} {gs : Fields β}
    (h : List.Forall₂ (fun f g => g.1 = f.1) fs gs) : gs.keys = fs.keys := by
  induction h with
  | nil => rfl
  | cons hk _ ih => simpa [keys, hk] using ih

theorem get?_congr {k k' : Key} (h : k.same k' = true) (fs : Fields α) :
    fs.get? k = fs.get? k' := by
  induction fs with
  | nil => rfl
  | cons f fs ih =>
      rw [get?_cons, get?_cons, ih, Key.same_comm f.1 k, Key.same_left h, Key.same_comm f.1 k']

theorem get?_set (fs : Fields α) (k k' : Key) (a : α) :
    (fs.set k a).get? k' = if k.same k' then some a else fs.get? k' := by
  split
  · rename_i h
    rw [← get?_congr h, get?_set_self]
  · rename_i h
    exact get?_set_of_not_same (Bool.eq_false_iff.2 h) fs a

theorem set_set (fs : Fields α) (k : Key) (a b : α) : (fs.set k a).set k b = fs.set k b := by
  induction fs with
  | nil => simp [set, Key.same_refl]
  | cons f fs ih =>
      obtain ⟨k', c⟩ := f
      cases hk : k'.same k <;> simp [set, hk, ih]

theorem get?_map {β : Type} (f : α → β) (fs : Fields α) (k : Key) :
    get? (fs.map fun g => (g.1, f g.2)) k = (fs.get? k).map f := by
  induction fs with
  | nil => rfl
  | cons g fs ih =>
      rw [List.map_cons, get?_cons, get?_cons, ih]
      split <;> rfl

theorem map_set {β : Type} (f : α → β) (fs : Fields α) (k : Key) (a : α) :
    (fs.set k a).map (fun g => (g.1, f g.2)) = set (fs.map fun g => (g.1, f g.2)) k (f a) := by
  induction fs with
  | nil => rfl
  | cons g fs ih =>
      obtain ⟨k', b⟩ := g
      cases hk : k'.same k <;> simp [set, hk, ih]

/-- Writing what is there already changes nothing. -/
theorem set_of_get? {fs : Fields α} {k : Key} {a : α} (h : fs.get? k = some a) :
    fs.set k a = fs := by
  induction fs with
  | nil => cases h
  | cons f fs ih =>
      obtain ⟨k', a'⟩ := f
      rw [get?_cons] at h
      unfold set
      split
      · rename_i hk
        rw [if_pos hk] at h
        cases h
        rfl
      · rename_i hk
        rw [if_neg hk] at h
        rw [ih h]

/-- Of two lists with the same names, what the second one has under a name is the partner of what
the first one has under it. -/
theorem get?_of_forall₂ {β : Type} {R : Key → α → β → Prop} {fs : Fields α} {gs : Fields β}
    (h : List.Forall₂ (fun f g => g.1 = f.1 ∧ R f.1 f.2 g.2) fs gs) {k : Key} {a : α}
    (ha : fs.get? k = some a) :
    ∃ k' b, k'.same k = true ∧ gs.get? k = some b ∧ R k' a b := by
  induction h with
  | nil => cases ha
  | @cons f g fs gs hfg _ ih =>
      obtain ⟨k₀, a₀⟩ := f
      obtain ⟨k₁, b₀⟩ := g
      obtain ⟨rfl, hR⟩ := hfg
      rw [get?_cons] at ha
      split at ha
      · rename_i hk
        cases ha
        exact ⟨k₁, b₀, hk, by rw [get?_cons, if_pos hk], hR⟩
      · rename_i hk
        obtain ⟨k', b, hk', hb, hR'⟩ := ih ha
        exact ⟨k', b, hk', by rw [get?_cons, if_neg hk, hb], hR'⟩

theorem exists_get?_of_keys_eq {β : Type} {fs : Fields α} {gs : Fields β} (h : gs.keys = fs.keys)
    {k : Key} {a : α} (ha : fs.get? k = some a) : ∃ b, gs.get? k = some b := by
  cases hb : gs.get? k with
  | some b => exact ⟨b, rfl⟩
  | none =>
      have hhas : fs.has k = false := by
        rw [has, ← h]
        exact get?_eq_none_iff.1 hb
      rw [get?_eq_none_iff.2 hhas] at ha
      cases ha

theorem exists_get?_of_mem {fs : Fields α} {f : Key × α} (h : f ∈ fs) :
    ∃ b, fs.get? f.1 = some b := by
  cases hb : fs.get? f.1 with
  | some b => exact ⟨b, rfl⟩
  | none =>
      have hno := get?_eq_none_iff.1 hb
      rw [has, keys, List.any_map, List.any_eq_false] at hno
      exact absurd (Key.same_refl f.1) (hno f h)

theorem forall_get? {P : α → Prop} {fs : Fields α} (h : ∀ f ∈ fs, P f.2) {k : Key} {a : α}
    (ha : fs.get? k = some a) : P a := by
  obtain ⟨k', hk⟩ := exists_mem_of_get? ha
  exact h _ hk

theorem get?_append (fs gs : Fields α) (k : Key) :
    get? (fs ++ gs) k = (fs.get? k).or (gs.get? k) := by
  induction fs with
  | nil => rfl
  | cons f fs ih =>
      obtain ⟨k', a⟩ := f
      rw [List.cons_append, get?_cons, get?_cons, ih]
      split <;> rfl

end Fields

theorem Value.lookup_eq_some {α : Type} {fs : Fields α} {k : Value} {a : α}
    (h : Value.lookup fs k = .ok (some a)) :
    ∃ name, k.asKey = .ok name ∧ fs.get? name = some a := by
  cases hk : k.asKey with
  | error e => simp [Value.lookup, hk, bind, Except.bind] at h
  | ok name =>
      simp only [Value.lookup, hk, bind, Except.bind, pure, Except.pure, Except.ok.injEq] at h
      exact ⟨name, rfl, h⟩

theorem Value.exists_fields_of_entries {v : Value} {fs : Fields Value} (h : v.entries = .ok fs) :
    v.fields? = some fs := by
  unfold entries at h
  split at h
  · cases h
    assumption
  · cases h

/-- A member of a value with fields is the name of one of them. -/
theorem Value.has_of_contains {v k : Value} {fs : Fields Value} {name : Key}
    (hv : v.entries = .ok fs) (hname : k.asKey = .ok name) (h : v.contains k = .ok true) :
    fs.has name = true := by
  have hfields := exists_fields_of_entries hv
  have hfound : ∀ gs : Fields Value, (do return (← lookup gs k).isSome : Except Fault Bool) =
      .ok true → gs.has name = true := by
    intro gs hgs
    simp only [lookup, hname, bind, Except.bind, pure, Except.pure, Except.ok.injEq] at hgs
    obtain ⟨a, ha⟩ := Option.isSome_iff_exists.1 hgs
    exact Fields.has_of_get? ha
  cases v with
  | obj fields =>
      cases hfields
      exact hfound _ h
  | inventory counts =>
      cases hfields
      exact hfound _ h
  | flags content => cases h
  | _ => cases hfields

theorem Value.eq_null_of_isNull {v : Value} (h : v.isNull = true) : v = .null := by
  cases v with
  | null => rfl
  | _ => cases h

theorem Value.isNull_coalesce {v w : Value} (hw : w.isNull = false) :
    (coalesce [v, w]).isNull = false := by
  rw [coalesce_cons, coalesce_cons]
  cases hv : v.isNull <;> simp [hv, hw]

/-! ### Related fields -/

/-- Fields with the same names and related entries. -/
def Fields.Paired {α β : Type} (T : α → β → Prop) (fs : Fields α) (gs : Fields β) : Prop :=
  List.Forall₂ (fun f g => f.1 = g.1 ∧ T f.2 g.2) fs gs

namespace Fields.Paired

variable {α β : Type} {T : α → β → Prop} {fs : Fields α} {gs : Fields β}

theorem refl {T : α → α → Prop} (hT : ∀ a, T a a) (fs : Fields α) : Fields.Paired T fs fs :=
  List.forall₂_same.2 fun _ _ => ⟨rfl, hT _⟩

theorem eq {fs gs : Fields α} (h : Fields.Paired Eq fs gs) : fs = gs := by
  induction h with
  | nil => rfl
  | @cons f g fs gs hfg _ ih => rw [ih, Prod.ext hfg.1 hfg.2]

theorem get? (h : Fields.Paired T fs gs) (k : Key) : Option.Rel T (fs.get? k) (gs.get? k) := by
  induction h with
  | nil => exact .none
  | @cons f g fs gs hfg _ ih =>
      obtain ⟨k', a⟩ := f
      obtain ⟨k'', b⟩ := g
      obtain ⟨rfl, hab⟩ := hfg
      rw [get?_cons, get?_cons]
      split
      · exact .some hab
      · exact ih

theorem set (h : Fields.Paired T fs gs) (k : Key) {a : α} {b : β} (hab : T a b) :
    Fields.Paired T (fs.set k a) (gs.set k b) := by
  induction h with
  | nil => exact .cons ⟨rfl, hab⟩ .nil
  | @cons f g fs gs hfg hrest ih =>
      obtain ⟨k', a'⟩ := f
      obtain ⟨k'', b'⟩ := g
      obtain ⟨rfl, hab'⟩ := hfg
      unfold Fields.set
      dsimp only
      split
      · exact .cons ⟨rfl, hab⟩ hrest
      · exact .cons ⟨rfl, hab'⟩ ih

end Fields.Paired

end Gamebook
