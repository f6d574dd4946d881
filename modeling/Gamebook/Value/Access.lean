/-
**Reaching into values.**

Content is read by asking a value for a field, an element or a member.  What a value of the wrong
shape answers is fixed here once: a value without fields is a fault of its own kind, and so is a
list or an object used as a name.

Main definitions:

* `Value.field?`, `Value.field` — a field that may be missing, and null in its place;
* `Value.required` — a field that has to be there;
* `Value.asKey`, `Value.fieldAt` — a value as a name, and the field under it;
* `Value.entryAt`, `Value.setEntryAt` — the part of a value at a name or a place;
* `Value.elements`, `Value.entries` — the parts of a value in order;
* `Value.contains` — whether a value has a member.
-/

import Gamebook.Value.Order

set_option autoImplicit false

namespace Gamebook

/-- A name as a value. -/
def Key.toValue : Key → Value
  | text s => .str s
  | null => .null
  | bool b => .bool b
  | num n => .num n

namespace Value

/-! ### Fields -/

/-- The fields of an object; other values have none. -/
def entries (v : Value) : Except Fault (Fields Value) :=
  match v.fields? with
  | some fields => .ok fields
  | none => .error .noFields

/-- A field that may be missing. -/
def field? (v : Value) (k : Key) : Except Fault (Option Value) := do
  return (← v.entries).get? k

/-- A field, or null where it is missing. -/
def field (v : Value) (k : Key) : Except Fault Value := do
  return ofOption (← v.field? k)

/-- A field that has to be there. -/
def required (v : Value) (k : Key) : Except Fault Value :=
  match v.fields? with
  | some fields =>
      match fields.get? k with
      | some w => .ok w
      | none => .error .missingField
  | none => .error .wrongKind

/-! ### Names and places -/

/-- The name a value stands for.  Lists and objects are no names. -/
def asKey : Value → Except Fault Key
  | null => .ok .null
  | bool b => .ok (.bool b)
  | num n => .ok (.num n)
  | str s => .ok (.text s)
  | _ => .error .wrongKind

/-- The entry under a name given by a value. -/
def lookup {α : Type} (fs : Fields α) (k : Value) : Except Fault (Option α) := do
  return fs.get? (← k.asKey)

/-- A field under a name given by a value, or null where it is missing. -/
def fieldAt (v : Value) (k : Value) : Except Fault Value := do
  return ofOption (← lookup (← v.entries) k)

/-- The place that a value names in a list of some length: an integer or a truth value, counted
from the end when it is negative. -/
def placeIn (length : Nat) (k : Value) : Except Fault Nat :=
  match k.number? with
  | some (.int i) =>
      let place := if i < 0 then i + length else i
      if 0 ≤ place ∧ place < length then .ok place.toNat else .error .noSuchPlace
  | _ => .error .wrongKind

/-- The part of a value at a name or at a place. -/
def entryAt (v : Value) (k : Value) : Except Fault Value :=
  match v with
  | list items => do return (items[← placeIn items.length k]?).getD null
  | str s => do
      let chars := s.toList
      return ofOption (chars[← placeIn chars.length k]?.map fun c => str (String.singleton c))
  | v => do v.required (← k.asKey)

/-- The value with another part at a name or at a place.  A name may be new, a place may not. -/
def setEntryAt (v : Value) (k w : Value) : Except Fault Value :=
  match v with
  | obj fields => do return obj (Fields.set fields (← k.asKey) w)
  | list items => do return list (items.set (← placeIn items.length k) w)
  | _ => .error .wrongKind

/-! ### Parts -/

/-- The elements of a value in order: those of a list, the names of an object, the characters of a
text. -/
def elements : Value → Except Fault (List Value)
  | list items => .ok items
  | obj fields => .ok (fields.map fun f => f.1.toValue)
  | inventory counts => .ok (counts.map fun c => c.1.toValue)
  | str s => .ok (s.toList.map fun c => .str (String.singleton c))
  | _ => .error .wrongKind

/-- Whether some characters occur in others without a gap. -/
def occursIn (cs : List Char) : List Char → Bool
  | [] => cs.isEmpty
  | d :: ds => cs.isPrefixOf (d :: ds) || occursIn cs ds

/-- Whether the value has a member: a name in an object, an element in a list, a part of a text. -/
def contains (v : Value) (k : Value) : Except Fault Bool :=
  match v with
  | obj fields => do return (← lookup fields k).isSome
  | inventory counts => do return (← lookup counts k).isSome
  | list items => .ok (items.any (alike · k))
  | str s =>
      match k with
      | str t => .ok (occursIn t.toList s.toList)
      | _ => .error .wrongKind
  | _ => .error .wrongKind

@[simp] theorem field?_obj (fs : Fields Value) (k : Key) :
    (obj fs).field? k = .ok (Fields.get? fs k) := rfl

@[simp] theorem field_obj (fs : Fields Value) (k : Key) :
    (obj fs).field k = .ok (ofOption (Fields.get? fs k)) := rfl

end Value

end Gamebook
