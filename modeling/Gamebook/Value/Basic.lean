/-
**Values of game documents and formulas.**

Everything a game document holds, a formula computes or a save file keeps is a value: null, a truth
value, a number, a text, a list or an object whose fields keep the order in which they were
written.  A formula can also have the inventory itself as its value; it reads like an object with
the counts of the items.  It can have the flags themselves as its value, too: they read like what
they hold, and when they have been kept in a flag they hold themselves.

Main definitions:

* `Value` — the type;
* `Fields` — named entries in order, with `Fields.get?` and `Fields.set`;
* `Value.fields?` — the fields of an object, of the inventory or of the flags;
* `Value.detached` — a value that no longer follows the inventory;
* `Value.within` — a part of a whole that may be the whole itself;
* `Value.holds` — the emptiness test that content is read with;
* `Value.orElse` — a default for what is empty.

Main results:

* `Fields.get?_set_self`, `Fields.get?_set_of_not_same` — reading after writing;
* `Fields.keys_set_of_has`, `Fields.has_set` — the names after writing.
-/

import Gamebook.Value.Key

set_option autoImplicit false

namespace Gamebook

/-- A value.  The names of the fields of an object are distinct. -/
inductive Value where
  | null
  | bool (b : Bool)
  | num (n : Number)
  | str (s : String)
  | list (items : List Value)
  | obj (fields : List (Key × Value))
  /-- The inventory, with the counts of its items. -/
  | inventory (counts : List (Key × Value))
  /-- The flags, with what they hold.  Among the flags they stand without it: there they hold
  themselves, and the content is null. -/
  | flags (content : Value)
  deriving Inhabited

/-- An integer as a value. -/
@[match_pattern] abbrev Value.int (n : Int) : Value := .num (.int n)

/-- A float as a value. -/
abbrev Value.float (x : Float) : Value := .num (.ofFloat x)

/-! ### Named entries -/

/-- Entries under distinct names, in the order in which the names came. -/
abbrev Fields (α : Type) := List (Key × α)

namespace Fields

variable {α : Type}

/-- The entry under a name. -/
def get? (fs : Fields α) (k : Key) : Option α :=
  match fs with
  | [] => none
  | (k', a) :: rest => if k'.same k then some a else get? rest k

/-- Writes an entry: in place of the one under the same name, which keeps its form, or at the
end. -/
def set (fs : Fields α) (k : Key) (a : α) : Fields α :=
  match fs with
  | [] => [(k, a)]
  | (k', a') :: rest => if k'.same k then (k', a) :: rest else (k', a') :: set rest k a

/-- The names. -/
def keys (fs : Fields α) : List Key := fs.map Prod.fst

/-- Whether there is an entry under a name. -/
def has (fs : Fields α) (k : Key) : Bool := fs.keys.any (·.same k)

/-- Writes the entries of the second list over those of the first. -/
def merge (fs : Fields α) (gs : Fields α) : Fields α :=
  gs.foldl (fun fs g => fs.set g.1 g.2) fs

@[simp] theorem get?_nil (k : Key) : get? ([] : Fields α) k = none := rfl

theorem get?_cons (k k' : Key) (a : α) (fs : Fields α) :
    get? ((k', a) :: fs) k = if k'.same k then some a else get? fs k := rfl

@[simp] theorem has_nil (k : Key) : has ([] : Fields α) k = false := rfl

theorem has_cons (k k' : Key) (a : α) (fs : Fields α) :
    has ((k', a) :: fs) k = (k'.same k || fs.has k) := rfl

@[simp] theorem get?_set_self (fs : Fields α) (k : Key) (a : α) :
    (fs.set k a).get? k = some a := by
  induction fs with
  | nil => simp [set, get?]
  | cons f fs ih =>
      obtain ⟨k', a'⟩ := f
      cases h : k'.same k <;> simp [set, get?_cons, h, ih]

theorem get?_set_of_not_same {k k' : Key} (h : k.same k' = false) (fs : Fields α) (a : α) :
    (fs.set k a).get? k' = fs.get? k' := by
  induction fs with
  | nil => simp [set, get?_cons, h]
  | cons f fs ih =>
      obtain ⟨k₀, a₀⟩ := f
      cases h₀ : k₀.same k
      · simp [set, get?_cons, h₀, ih]
      · simp [set, get?_cons, h₀, Key.same_left h₀ k', h]

theorem get?_eq_none_iff {k : Key} {fs : Fields α} : fs.get? k = none ↔ fs.has k = false := by
  induction fs with
  | nil => simp
  | cons f fs ih =>
      obtain ⟨k₀, a₀⟩ := f
      cases h : k₀.same k <;> simp [get?_cons, has_cons, h, ih]

theorem keys_set_of_has {k : Key} {fs : Fields α} (h : fs.has k = true) (a : α) :
    (fs.set k a).keys = fs.keys := by
  induction fs with
  | nil => simp at h
  | cons f fs ih =>
      obtain ⟨k₀, a₀⟩ := f
      cases h₀ : k₀.same k
      · have hk : has fs k = true := by simpa [has_cons, h₀] using h
        simpa [set, keys, h₀] using ih hk
      · simp [set, keys, h₀]

/-- After writing there is an entry under the name written and under those that had one. -/
theorem has_set {k k' : Key} {fs : Fields α} {a : α} :
    (fs.set k a).has k' = (k.same k' || fs.has k') := by
  induction fs with
  | nil => simp [set, has_cons]
  | cons f fs ih =>
      obtain ⟨k₀, a₀⟩ := f
      cases h₀ : k₀.same k
      · simp only [set, h₀, has_cons, ih, Bool.false_eq_true, if_false]
        cases k₀.same k' <;> simp
      · simp [set, h₀, has_cons, Key.same_left h₀ k']

end Fields

namespace Value

/-! ### Objects, the inventory and the flags -/

/-- The fields of an object, of the inventory or of the flags. -/
def fields? : Value → Option (Fields Value)
  | obj fields => some fields
  | inventory counts => some counts
  | flags content => fields? content
  | _ => none

/-- The elements of a list, or of flags that are one. -/
def items? : Value → Option (List Value)
  | list items => some items
  | flags content => items? content
  | _ => none

/-- The value is the flags. -/
def isFlags : Value → Bool
  | flags _ => true
  | _ => false

mutual

/-- The value with an object in place of the inventory wherever it holds it. -/
def detached : Value → Value
  | list items => list (detachedList items)
  | obj fields => obj (detachedFields fields)
  | inventory counts => obj (detachedFields counts)
  | flags content => flags (detached content)
  | v => v

/-- The elements of a list with objects in place of the inventory. -/
def detachedList : List Value → List Value
  | [] => []
  | v :: vs => detached v :: detachedList vs

/-- The fields of an object with objects in place of the inventory. -/
def detachedFields : List (Key × Value) → List (Key × Value)
  | [] => []
  | (k, v) :: fs => (k, detached v) :: detachedFields fs

end

/-- The inventory with new counts; any other value stays as it is. -/
def follow (counts : Fields Value) : Value → Value
  | inventory _ => inventory counts
  | v => v

/-- A part of a whole: the flags as a part of the flags are the whole again. -/
def within (v whole : Value) : Value :=
  match v with
  | flags _ => whole
  | v => v

/-- What stands for the flags in a formula.  What has no parts stands for itself. -/
def live (v : Value) : Value :=
  match v with
  | list _ | obj _ | inventory _ => flags v
  | v => v

/-! ### Emptiness -/

/-- Whether the value is null. -/
def isNull : Value → Bool
  | null => true
  | _ => false

/-- Whether a value counts as present where content has an optional part: null, false, zero and
whatever is empty do not.  Flags that hold themselves are not empty. -/
def holds : Value → Bool
  | null => false
  | bool b => b
  | num n => !n.isZero
  | str s => !s.isEmpty
  | list items => !items.isEmpty
  | obj fields => !fields.isEmpty
  | inventory counts => !counts.isEmpty
  | flags content => content.isNull || holds content

/-- The value, or another one in place of what does not hold. -/
def orElse (v w : Value) : Value := if v.holds then v else w

/-- The first value that is not null, or null. -/
def coalesce : List Value → Value
  | [] => null
  | v :: vs => if v.isNull then coalesce vs else v

/-- An absent value is null. -/
def ofOption : Option Value → Value
  | some v => v
  | none => null

@[simp] theorem coalesce_nil : coalesce [] = null := rfl

theorem coalesce_cons (v : Value) (vs : List Value) :
    coalesce (v :: vs) = if v.isNull then coalesce vs else v := rfl

end Value

end Gamebook
