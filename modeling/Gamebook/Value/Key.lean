/-
**The names of entries.**

The entries of an object are named.  The names in a document are texts, but in a game an entry is
also named by an id, which may be null, a truth value or a number.  Names that are equal as values
are one and the same: `1`, `1.0` and the truth value for one name the same entry, and the text `1`
names another.

Main definitions:

* `Key` — a name;
* `Key.canon` — the form that equal names share;
* `Key.same` — whether two names are one and the same.

Main results:

* `Key.same_refl`, `Key.same_comm`, `Key.same_trans` — sameness is an equivalence;
* `Key.same_text` — two texts are the same name only when they are the same text.
-/

import Gamebook.Number.Basic

set_option autoImplicit false

namespace Gamebook

/-- The name of an entry. -/
inductive Key where
  | text (s : String)
  | null
  | bool (b : Bool)
  | num (n : Number)
  deriving Inhabited, DecidableEq

instance : Coe String Key := ⟨Key.text⟩

namespace Key

/-- The form that equal names share: a truth value is the integer it counts as, and an integral
float is an integer. -/
def canon : Key → Key
  | bool b => num (.int (if b then 1 else 0))
  | num n => num n.normalize
  | k => k

/-- Whether two names are one and the same. -/
def same (k k' : Key) : Bool := k.canon = k'.canon

@[simp] theorem same_iff {k k' : Key} : k.same k' = true ↔ k.canon = k'.canon := by simp [same]

theorem same_refl (k : Key) : k.same k = true := by simp

theorem same_comm (k k' : Key) : k.same k' = k'.same k := by simp [same, eq_comm]

theorem same_trans {k k' k'' : Key} (h : k.same k' = true) (h' : k'.same k'' = true) :
    k.same k'' = true := by
  rw [same_iff] at *; exact h.trans h'

/-- A name has the sameness of every name it is the same as. -/
theorem same_left {k k' : Key} (h : k.same k' = true) (k'' : Key) : k.same k'' = k'.same k'' := by
  rw [same_iff] at h; simp [same, h]

@[simp] theorem canon_text (s : String) : (text s).canon = text s := rfl

theorem same_text {s t : String} : (text s).same (text t) = true ↔ s = t := by simp

end Key

end Gamebook
