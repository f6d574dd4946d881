/-
**Values that follow the inventory read like those that do not.**

The inventory as a value reads like an object with the same counts, also deep inside other values.
So whatever asks a value something gets the same answer from the value with objects in place of the
inventory, and whatever reaches into it reaches the same part, with objects in place of the
inventory.

Main definition: `Value.Like` — two values that differ only in what follows the inventory.

Main results:

* `Value.eqv_detached`, `Value.shown_detached`, … — **questions get the same answer**;
* `Formula.member_detached` — members are members.
-/

import Gamebook.Formula.Operator

set_option autoImplicit false

namespace Gamebook

namespace Value

/-- The two values differ only in what follows the inventory. -/
def Like (v w : Value) : Prop := v.detached = w.detached

theorem Like.refl (v : Value) : Like v v := rfl

theorem Like.of_eq {v w : Value} (h : v = w) : Like v w := congrArg detached h

/-! ### Parts -/

theorem detachedList_eq_map (vs : List Value) : detachedList vs = vs.map detached := by
  induction vs with
  | nil => rfl
  | cons v vs ih => rw [detachedList, ih, List.map_cons]

theorem detachedFields_eq_map (fs : Fields Value) :
    detachedFields fs = fs.map fun f => (f.1, f.2.detached) := by
  induction fs with
  | nil => rfl
  | cons f fs ih => rw [detachedFields, ih, List.map_cons]

theorem get?_detachedFields (fs : Fields Value) (k : Key) :
    Fields.get? (detachedFields fs) k = (Fields.get? fs k).map detached := by
  induction fs with
  | nil => rfl
  | cons f fs ih =>
      obtain ⟨k', v⟩ := f
      rw [detachedFields, Fields.get?_cons, Fields.get?_cons, ih]
      split <;> rfl

@[simp] theorem length_detachedFields (fs : Fields Value) :
    (detachedFields fs).length = fs.length := by
  rw [detachedFields_eq_map, List.length_map]

@[simp] theorem length_detachedList (vs : List Value) : (detachedList vs).length = vs.length := by
  rw [detachedList_eq_map, List.length_map]

theorem fields?_detached (v : Value) : v.detached.fields? = v.fields?.map detachedFields := by
  match v with
  | flags content => exact fields?_detached content
  | null | bool _ | num _ | str _ | list _ | obj _ | inventory _ => rfl

theorem items?_detached (v : Value) : v.detached.items? = v.items?.map detachedList := by
  match v with
  | flags content => exact items?_detached content
  | null | bool _ | num _ | str _ | list _ | obj _ | inventory _ => rfl

theorem detached_ofOption (o : Option Value) :
    (ofOption o).detached = ofOption (o.map detached) := by
  cases o <;> rfl

mutual

theorem detached_detached (v : Value) : v.detached.detached = v.detached := by
  match v with
  | null => rfl
  | bool _ => rfl
  | num _ => rfl
  | str _ => rfl
  | list vs => rw [detached, detached, detachedList_detachedList vs]
  | obj fs => rw [detached, detached, detachedFields_detachedFields fs]
  | inventory fs => rw [detached, detached, detachedFields_detachedFields fs]
  | flags content => rw [detached, detached, detached_detached content]

theorem detachedList_detachedList (vs : List Value) :
    detachedList (detachedList vs) = detachedList vs := by
  match vs with
  | [] => rfl
  | v :: vs =>
      rw [detachedList, detachedList, detached_detached v, detachedList_detachedList vs]

theorem detachedFields_detachedFields (fs : List (Key × Value)) :
    detachedFields (detachedFields fs) = detachedFields fs := by
  match fs with
  | [] => rfl
  | (k, v) :: fs =>
      rw [detachedFields, detachedFields, detached_detached v, detachedFields_detachedFields fs]

end

theorem Like.detached (v : Value) : Like v v.detached := (detached_detached v).symm

/-! ### Kinds and numbers -/

@[simp] theorem isNull_detached (v : Value) : v.detached.isNull = v.isNull := by cases v <;> rfl

@[simp] theorem isFlags_detached (v : Value) : v.detached.isFlags = v.isFlags := by
  cases v <;> rfl

theorem detached_live (v : Value) : v.live.detached = v.detached.live := by cases v <;> rfl

theorem Like.live {v w : Value} (h : Like v w) : Like v.live w.live := by
  rw [Like, detached_live, detached_live, h]

theorem detached_within (v whole : Value) :
    (v.within whole).detached = v.detached.within whole.detached := by
  cases v <;> rfl

@[simp] theorem number?_detached (v : Value) : v.detached.number? = v.number? := by
  cases v <;> rfl

@[simp] theorem toNumber_detached (v : Value) : v.detached.toNumber = v.toNumber := by
  cases v <;> rfl

@[simp] theorem isTrue_detached (v : Value) : v.detached.isTrue = v.isTrue := by cases v <;> rfl

@[simp] theorem asKey_detached (v : Value) : v.detached.asKey = v.asKey := by cases v <;> rfl

theorem holds_detached (v : Value) : v.detached.holds = v.holds := by
  match v with
  | list items => cases items <;> rfl
  | obj fields | inventory fields => rcases fields with _ | ⟨⟨k, v⟩, rest⟩ <;> rfl
  | flags content => simp only [detached, holds, isNull_detached, holds_detached content]
  | null | bool _ | num _ | str _ => rfl

@[simp] theorem identical_detached (v w : Value) :
    v.detached.identical w.detached = v.identical w := by
  cases v <;> cases w <;> rfl

/-! ### Equality -/

mutual

/-- **Equality gets the same answer.** -/
theorem eqv_detached (v w : Value) : v.detached.eqv w.detached = v.eqv w := by
  match v with
  | null => simp [detached, eqv]
  | bool b => simp [detached, eqv]
  | num n => simp [detached, eqv]
  | str s => cases w <;> simp [detached, eqv]
  | list vs =>
      rw [detached, eqv, eqv, items?_detached]
      cases w.items? with
      | none => rfl
      | some ws => exact eqvList_detached vs ws
  | obj fs | inventory fs =>
      rw [detached, eqv, eqv, fields?_detached]
      cases w.fields? with
      | none => rfl
      | some gs => simp [eqvFields_detached fs gs]
  | flags content => simp [detached, eqv, eqv_detached content w]

theorem eqvList_detached (vs ws : List Value) :
    eqvList (detachedList vs) (detachedList ws) = eqvList vs ws := by
  match vs, ws with
  | [], [] => rfl
  | [], _ :: _ => rfl
  | _ :: _, [] => rfl
  | v :: vs, w :: ws => simp [detachedList, eqvList, eqv_detached v w, eqvList_detached vs ws]

theorem eqvFields_detached (fs gs : List (Key × Value)) :
    eqvFields (detachedFields fs) (detachedFields gs) = eqvFields fs gs := by
  match fs with
  | [] => rfl
  | (k, v) :: fs =>
      rw [detachedFields, eqvFields, eqvFields, get?_detachedFields, eqvFields_detached fs gs]
      cases Fields.get? gs k with
      | none => rfl
      | some w => simp [eqv_detached v w]

end

/-! ### Texts -/

mutual

/-- **A value is shown as the same text.** -/
theorem shown_detached (v : Value) : v.detached.shown = v.shown := by
  match v with
  | null => rfl
  | bool b => rfl
  | num n => rfl
  | str s => rfl
  | list vs => simp [detached, shown, shownList_detached vs]
  | obj fs => simp [detached, shown, shownFields_detached fs]
  | inventory fs => simp [detached, shown, shownFields_detached fs]
  | flags content => simp [detached, shown, shown_detached content]

theorem shownList_detached (vs : List Value) : shownList (detachedList vs) = shownList vs := by
  match vs with
  | [] => rfl
  | v :: vs =>
      have hv := shown_detached v
      have hvs := shownList_detached vs
      cases v <;> simp_all [detachedList, detached, shownList]

theorem shownFields_detached (fs : List (Key × Value)) :
    shownFields (detachedFields fs) = shownFields fs := by
  match fs with
  | [] => rfl
  | (k, v) :: fs =>
      have hv := shown_detached v
      have hfs := shownFields_detached fs
      cases v <;> simp_all [detachedFields, detached, shownFields]

end

mutual

theorem isWritable_detached (limit : DigitLimit) (v : Value) :
    v.detached.isWritable limit = v.isWritable limit := by
  match v with
  | null => rfl
  | bool b => rfl
  | num n => rfl
  | str s => rfl
  | list vs => simp [detached, isWritable, isWritableList_detached limit vs]
  | obj fs => simp [detached, isWritable, isWritableFields_detached limit fs]
  | inventory fs => simp [detached, isWritable, isWritableFields_detached limit fs]
  | flags content => simp [detached, isWritable, isWritable_detached limit content]

theorem isWritableList_detached (limit : DigitLimit) (vs : List Value) :
    isWritableList limit (detachedList vs) = isWritableList limit vs := by
  match vs with
  | [] => rfl
  | v :: vs =>
      simp [detachedList, isWritableList, isWritable_detached limit v,
        isWritableList_detached limit vs]

theorem isWritableFields_detached (limit : DigitLimit) (fs : List (Key × Value)) :
    isWritableFields limit (detachedFields fs) = isWritableFields limit fs := by
  match fs with
  | [] => rfl
  | (k, v) :: fs =>
      simp [detachedFields, isWritableFields, isWritable_detached limit v,
        isWritableFields_detached limit fs]

end

theorem display_detached (v : Value) : v.detached.display = v.display := by
  cases v with
  | list vs => exact shown_detached (list vs)
  | obj fs => exact shown_detached (obj fs)
  | inventory fs => exact shown_detached (inventory fs)
  | flags content => exact shown_detached content
  | _ => rfl

@[simp] theorem displayWithin_detached (limit : DigitLimit) (v : Value) :
    v.detached.displayWithin limit = v.displayWithin limit := by
  rw [displayWithin, displayWithin, isWritable_detached, display_detached]

end Value

/-! ### Operators -/

namespace Formula

open Value

theorem operand_detached (op : Symbol) (v : Value) : operand op v.detached = operand op v := by
  cases v <;> rfl

theorem arithmetic_detached (op : Symbol) (f : Number → Number → Option Number) (v w : Value) :
    arithmetic op f v.detached w.detached = arithmetic op f v w := by
  simp only [arithmetic, operands, operand_detached]

theorem add_detached (limit : DigitLimit) (v w : Value) :
    add limit v.detached w.detached = add limit v w := by
  have hv := displayWithin_detached limit v
  have hw := displayWithin_detached limit w
  have ha := arithmetic_detached .plus Number.add? v w
  cases v <;> cases w <;> simp_all [add, detached]

theorem comparison_detached (onText : String → String → Bool) (onNumber : Number → Number → Bool)
    (v w : Value) :
    comparison onText onNumber v.detached w.detached = comparison onText onNumber v w := by
  have hv := toNumber_detached v
  have hw := toNumber_detached w
  cases v <;> cases w <;> simp_all [comparison, detached]

/-- **A binary operator gives the same.** -/
theorem binary_detached (limit : DigitLimit) (op : BinaryOp) (v w : Value) :
    op.apply limit v.detached w.detached = op.apply limit v w := by
  cases op <;>
    simp only [BinaryOp.apply, add_detached, arithmetic_detached, comparison_detached,
      eqv_detached]

theorem unary_detached (op : UnaryOp) (v : Value) : op.apply v.detached = op.apply v := by
  cases op <;> simp only [UnaryOp.apply, operand_detached, isTrue_detached]

theorem elementAt_detached (items : List Value) (i : Int) :
    elementAt (detachedList items) i = (elementAt items i).detached := by
  unfold elementAt
  split
  · rw [detachedList_eq_map, List.getElem?_map]
    cases items[i.toNat]? <;> rfl
  · rfl

theorem memberOfRow_detached (items : List Value) (key : Value) :
    memberOfRow (detachedList items) key.detached = (memberOfRow items key).map detached := by
  cases key with
  | str k =>
      simp only [memberOfRow, detached, length_detachedList, Except.map]
      split <;> rfl
  | num n =>
      simp only [memberOfRow, detached]
      cases indexOf? (.num n) with
      | error e => rfl
      | ok i =>
          cases i with
          | none => rfl
          | some i => exact congrArg Except.ok (elementAt_detached items i)
  | _ => rfl

theorem memberOfObject_detached (limit : DigitLimit) (fields : Fields Value) (key : Value) :
    memberOfObject limit (detachedFields fields) key.detached =
      (memberOfObject limit fields key).map detached := by
  unfold memberOfObject
  rw [displayWithin_detached]
  cases key.displayWithin limit with
  | error e => rfl
  | ok k =>
      refine congrArg Except.ok ?_
      rw [get?_detachedFields, detached_ofOption]

/-- **A member is a member.** -/
theorem member_detached (limit : DigitLimit) (v key : Value) :
    member limit v.detached key.detached = (member limit v key).map detached := by
  match v with
  | .null =>
      simp only [member, detached, displayWithin_detached]
      cases key.displayWithin limit <;> rfl
  | .obj fields => exact memberOfObject_detached limit fields key
  | .inventory counts => exact memberOfObject_detached limit counts key
  | .list items => exact memberOfRow_detached items key
  | .str s =>
      have hrow : detachedList (s.toList.map fun c => .str (String.singleton c)) =
          s.toList.map fun c => .str (String.singleton c) := by
        rw [detachedList_eq_map, List.map_map]
        rfl
      have h := memberOfRow_detached (s.toList.map fun c => .str (String.singleton c)) key
      rwa [hrow] at h
  | .flags content =>
      have h := member_detached limit content key
      rw [detached, member, member, h]
      cases member limit content key with
      | error e => rfl
      | ok w => exact congrArg Except.ok (detached_within w (.flags content)).symm
  | .bool _ | .num _ => rfl

end Formula

end Gamebook
