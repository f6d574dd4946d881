/-
**What a range covers, and when it can be read.**

A range whose numbers are within the digit limit covers the values of the die between its ends.
What is no range covers nothing and can always be read.

Main definitions:

* `Band.RangeText.isWithin` — the digit limit for a range;
* `Band.isLegible` — which values can be read as a range;
* `Band.covered` — the die values that a range covers, however many digits it has.

Main results:

* `Band.parseRange_eq` — **reading a range** gives what it covers, or a fault;
* `Band.isLegible_digits` — too many digits cannot be read;
* `Band.mem_covered_le` — what a range covers are values of the die.
-/

import Gamebook.Band.Range
import Gamebook.Proofs.Outcome
import Gamebook.Proofs.Text

set_option autoImplicit false

namespace Gamebook

namespace Band

variable {limit : DigitLimit}

/-- The number of an end, however many digits it has. -/
def EndText.number (e : EndText) : Int := Binary64.signed e.negative (Text.natOfDigits e.digits)

/-- The last end of a range; a single number is both ends. -/
def RangeText.last (t : RangeText) : EndText := t.second.getD t.first

/-- Whether the numbers of a range are within the digit limit. -/
def RangeText.isWithin (limit : DigitLimit) (t : RangeText) : Bool :=
  limit.admits t.first.digits.length && limit.admits t.last.digits.length

/-- The range that a value is written as, if it is one. -/
def rangeText? (range : Value) : Option RangeText :=
  RangeText.split (Text.stripChars range.plainText.toList)

/-- Whether a value can be read as a range.  What is no range can be read, and covers nothing. -/
def isLegible (limit : DigitLimit) (range : Value) : Bool :=
  range.isNull || (range.isWritable limit && (rangeText? range).all (·.isWithin limit))

/-- The die values that a range covers, however many digits it has. -/
def covered (range : Value) (bounds : Bounds) : DieSet :=
  if range.isNull then []
  else (rangeText? range).elim [] fun t => between t.first.number t.last.number bounds

/-- A row of digits is a range with a single number. -/
theorem split_digits {ds : List Char} (hne : ds ≠ []) (h : ∀ c ∈ ds, Text.isDigit c) :
    RangeText.split ds = some ⟨⟨false, ds⟩, none⟩ := by
  have hend : takeEnd ds = some (⟨false, ds⟩, []) := by
    have hdigits := Dice.takeDigits_eq_self hne h
    unfold takeEnd
    split
    · have hstroke : Text.isDigit '-' = false := by decide +kernel
      exact (Bool.false_ne_true (hstroke.symm.trans (h '-' (List.mem_cons_self ..)))).elim
    · rw [hdigits]
      rfl
  unfold RangeText.split
  rw [hend]
  rfl

/-- A row of digits can be read when there are not too many of them. -/
theorem isLegible_digits {ds : List Char} (hne : ds ≠ []) (h : ∀ c ∈ ds, Text.isDigit c) :
    isLegible limit (.str (String.ofList ds)) = limit.admits ds.length := by
  have hrange : rangeText? (.str (String.ofList ds)) = some ⟨⟨false, ds⟩, none⟩ := by
    unfold rangeText? Value.plainText
    rw [String.toList_ofList, Text.stripChars_digits h, split_digits hne h]
  simp [isLegible, hrange, Value.isNull, Value.isWritable, RangeText.isWithin, RangeText.last]

theorem EndText.value_eq (e : EndText) :
    e.value limit =
      if limit.admits e.digits.length then .ok e.number else .error .tooManyDigits := by
  unfold EndText.value DigitLimit.readNat
  split <;> rfl

theorem readRange_eq (cs : List Char) :
    readRange limit cs =
      if (RangeText.split cs).all (·.isWithin limit) then
        .ok ((RangeText.split cs).map fun t => (t.first.number, t.last.number))
      else .error .tooManyDigits := by
  unfold readRange
  cases RangeText.split cs with
  | none => rfl
  | some t =>
      obtain ⟨first, second⟩ := t
      cases second with
      | none =>
          simp only [EndText.value_eq, RangeText.isWithin, RangeText.last, Option.getD_none,
            Bool.and_self, Option.all_some]
          split <;> rfl
      | some second =>
          simp only [EndText.value_eq, RangeText.isWithin, RangeText.last, Option.getD_some,
            Option.all_some]
          by_cases h : limit.admits first.digits.length <;>
            by_cases h' : limit.admits second.digits.length <;> simp [h, h'] <;> rfl

/-- **Reading a range** gives what it covers, or a fault where the digit limit is passed. -/
theorem parseRange_eq (range : Value) (bounds : Bounds) :
    parseRange limit range bounds =
      if isLegible limit range then .ok (covered range bounds) else .error .tooManyDigits := by
  unfold isLegible covered
  cases range with
  | null => rfl
  | _ =>
      simp only [parseRange, Value.plainTextWithin, Value.isNull, Bool.false_or]
      split
      · rename_i hwritable
        simp only [bind, Except.bind, readRange_eq, rangeText?, hwritable, Bool.true_and]
        generalize RangeText.split _ = t?
        cases t? with
        | none => rfl
        | some t => by_cases h : t.isWithin limit <;> simp [h, pure, Except.pure]
      · rename_i hwritable
        simp only [hwritable, Bool.false_and]
        rfl

theorem mem_between {a b v : Int} {bounds : Bounds} :
    v ∈ between a b bounds ↔ (min a b ≤ v ∧ v ≤ max a b) ∧ bounds.min ≤ v ∧ v ≤ bounds.max := by
  simp only [between, Bounds.mem_values, Int.max_le, Int.le_min]
  grind

/-- What a range covers are values of the die. -/
theorem mem_covered_le {range : Value} {bounds : Bounds} {v : Int}
    (h : v ∈ covered range bounds) : bounds.min ≤ v ∧ v ≤ bounds.max := by
  unfold covered at h
  split at h
  · cases h
  · cases ht : rangeText? range with
    | none =>
        rw [ht] at h
        cases h
    | some t =>
        rw [ht] at h
        exact (mem_between.1 h).2

end Band

end Gamebook
