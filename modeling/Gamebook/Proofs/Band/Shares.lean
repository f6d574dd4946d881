/-
**Who gets the values that no band claims.**

The remaining values are put in order and cut once.  Where neither success nor failure is declared
the cut is in the middle and the lower part fails; where one of them is declared there is no cut,
and the other one takes everything; where both are declared the lower part succeeds.

Main definition: `Band.AreLowest` — the lowest values of a set.

Main results:

* `DieSet.lt_of_mem_take_of_mem_drop` — what lies before a cut is below what lies behind it;
* `Band.areLowest_take` — the part before a cut is the lowest values;
* `Band.allocateRemainder_divides` — **the remaining values are divided** between the two, by the
  rule for the sets that are declared.
-/

import Gamebook.Proofs.Band.Allocation
import Mathlib.Data.List.Nodup

set_option autoImplicit false

namespace Gamebook

/-! ### Values in order -/

namespace DieSet

theorem pairwise_insertSorted {a : Int} {l : List Int} (h : l.Pairwise (· ≤ ·)) :
    (insertSorted a l).Pairwise (· ≤ ·) := by
  induction l with
  | nil => simp [insertSorted]
  | cons b l ih =>
      obtain ⟨hb, hl⟩ := List.pairwise_cons.1 h
      simp only [insertSorted]
      split
      · rename_i hab
        refine List.pairwise_cons.2 ⟨fun c hc => ?_, h⟩
        rcases List.mem_cons.1 hc with rfl | hc
        · exact hab
        · exact Int.le_trans hab (hb c hc)
      · rename_i hab
        refine List.pairwise_cons.2 ⟨fun c hc => ?_, ih hl⟩
        rcases mem_insertSorted.1 hc with rfl | hc
        · omega
        · exact hb c hc

theorem pairwise_sorted (l : List Int) : (sorted l).Pairwise (· ≤ ·) := by
  induction l with
  | nil => exact .nil
  | cons a l ih => exact pairwise_insertSorted ih

variable {l : List Int}

theorem nodup_sorted (h : l.Nodup) : (sorted l).Nodup := (sorted_perm l).nodup_iff.2 h

/-- What lies before a cut is below what lies behind it. -/
theorem lt_of_mem_take_of_mem_drop (h : l.Nodup) (n : Nat) {v w : Int}
    (hv : v ∈ (sorted l).take n) (hw : w ∈ (sorted l).drop n) : v < w := by
  have hsorted := pairwise_sorted l
  have hnodup := nodup_sorted h
  rw [← List.take_append_drop n (sorted l)] at hsorted hnodup
  have hle : v ≤ w := (List.pairwise_append.1 hsorted).2.2 v hv w hw
  have hne : v ≠ w := (List.nodup_append.1 hnodup).2.2 v hv w hw
  omega

theorem nodup_ofList (l : List Int) : (ofList l).Nodup :=
  (pairwise_ofList l).imp Int.ne_of_lt

/-- A set has as many elements as a list of them without repetitions. -/
theorem length_ofList (h : l.Nodup) : (ofList l).length = l.length := by
  refine ((List.perm_ext_iff_of_nodup (nodup_ofList l) h).2 fun v => ?_).length_eq
  exact mem_ofList

theorem isEmpty_ofList (h : l ≠ []) : (ofList l).isEmpty = false := by
  obtain ⟨a, ha⟩ := List.exists_mem_of_ne_nil l h
  exact List.isEmpty_eq_false_iff.2 (List.ne_nil_of_mem (mem_ofList.2 ha))

end DieSet

namespace Band

open DieSet

/-- The lower values are the `n` lowest ones of a set: there are `n` of them, and all the others
are above them. -/
structure AreLowest (n : Nat) (lower values : List Int) : Prop where
  subset : lower ⊆ values
  nodup : lower.Nodup
  length_eq : lower.length = n
  lt : ∀ v ∈ lower, ∀ w ∈ values, w ∉ lower → v < w

/-- The part before a cut is the lowest values. -/
theorem areLowest_take {l : List Int} (h : l.Nodup) {n : Nat} (hn : n ≤ l.length) :
    AreLowest n (ofList ((sorted l).take n)) l where
  subset v hv := mem_sorted.1 (List.mem_of_mem_take (mem_ofList.1 hv))
  nodup := nodup_ofList _
  length_eq := by
    have hnodup : ((sorted l).take n).Nodup := (List.take_sublist _ _).nodup (nodup_sorted h)
    rw [length_ofList hnodup, List.length_take, length_sorted]
    omega
  lt v hv w hw hout := by
    rw [mem_ofList] at hv hout
    have hdrop : w ∈ (sorted l).drop n := by
      have hsorted := mem_sorted.2 hw
      rw [← List.take_append_drop n (sorted l)] at hsorted
      exact (List.mem_append.1 hsorted).resolve_left hout
    exact lt_of_mem_take_of_mem_drop h n hv hdrop

variable {success fail remaining : List Int}

/-! ### The rule, case by case -/

/-- Where neither is declared the lower half fails. -/
theorem allocateRemainder_nil_nil (remaining : List Int) :
    allocateRemainder [] [] remaining =
      ⟨ofList ((sorted remaining).drop (remaining.length / 2)),
        ofList ((sorted remaining).take (remaining.length / 2))⟩ := by
  rw [← length_sorted remaining]
  rfl

/-- Where only failure is declared the rest succeeds. -/
theorem allocateRemainder_nil (h : fail ≠ []) (remaining : List Int) :
    allocateRemainder [] fail remaining = ⟨ofList (sorted remaining), ofList fail⟩ := by
  unfold allocateRemainder
  simp only [isEmpty_ofList h]
  rfl

/-- Where only success is declared the rest fails. -/
theorem allocateRemainder_of_fail_nil (h : success ≠ []) (remaining : List Int) :
    allocateRemainder success [] remaining = ⟨ofList success, ofList (sorted remaining)⟩ := by
  unfold allocateRemainder
  simp only [isEmpty_ofList h]
  rfl

/-- Where both are declared the lower part succeeds. -/
theorem exists_share (h : success ≠ []) (h' : fail ≠ []) (remaining : List Int) :
    ∃ share, allocateRemainder success fail remaining =
      ⟨(ofList success).union ((sorted remaining).take share),
        (ofList fail).union ((sorted remaining).drop share)⟩ := by
  unfold allocateRemainder
  simp only [isEmpty_ofList h, isEmpty_ofList h']
  exact ⟨_, rfl⟩

/-! ### The two shares -/

/-- The results are sets. -/
theorem pairwise_allocateRemainder (success fail remaining : List Int) :
    (allocateRemainder success fail remaining).success.Pairwise (· < ·) ∧
      (allocateRemainder success fail remaining).fail.Pairwise (· < ·) := by
  obtain ⟨succeeding, failing, -, heq⟩ := exists_allocateRemainder success fail remaining
  rw [heq]
  exact ⟨pairwise_union (pairwise_ofList success) succeeding,
    pairwise_union (pairwise_ofList fail) failing⟩

/-- Where both are declared, what succeeds of the rest is below what fails of it. -/
theorem lt_of_both_declared (hremaining : remaining.Nodup) (hsuccess : success.Disjoint remaining)
    (hfail : fail.Disjoint remaining) (h : success ≠ []) (h' : fail ≠ []) {v w : Int}
    (hv : v ∈ remaining) (hw : w ∈ remaining)
    (hv' : v ∈ (allocateRemainder success fail remaining).success)
    (hw' : w ∈ (allocateRemainder success fail remaining).fail) : v < w := by
  obtain ⟨share, heq⟩ := exists_share h h' remaining
  rw [heq] at hv' hw'
  have hlower := (mem_union.1 hv').resolve_left fun hin => hsuccess (mem_ofList.1 hin) hv
  have hupper := (mem_union.1 hw').resolve_left fun hin => hfail (mem_ofList.1 hin) hw
  exact lt_of_mem_take_of_mem_drop hremaining share hlower hupper

/-- **The remaining values are divided.**  When no value is claimed twice, success and failure end
as disjoint sets with what they have claimed, and together they are all the values.  Where neither
is declared the lower half of the rest fails and the others succeed; where one of them is declared
the other one takes the whole rest; where both are, the part of the rest that succeeds is below the
part that fails. -/
theorem allocateRemainder_divides (hremaining : remaining.Nodup) (hclaims : success.Disjoint fail)
    (hsuccess : success.Disjoint remaining) (hfail : fail.Disjoint remaining) :
    let split := allocateRemainder success fail remaining
    (split.success.Pairwise (· < ·) ∧ split.fail.Pairwise (· < ·)) ∧
    split.success.Disjoint split.fail ∧ success ⊆ split.success ∧ fail ⊆ split.fail ∧
    (∀ v, v ∈ split.success ∨ v ∈ split.fail ↔ v ∈ success ∨ v ∈ fail ∨ v ∈ remaining) ∧
    (success = [] → fail = [] → AreLowest (remaining.length / 2) split.fail remaining ∧
      ∀ v, v ∈ split.success ↔ v ∈ remaining ∧ v ∉ split.fail) ∧
    (success = [] → fail ≠ [] → ∀ v, v ∈ split.success ↔ v ∈ remaining) ∧
    (success ≠ [] → fail = [] → ∀ v, v ∈ split.fail ↔ v ∈ remaining) ∧
    (success ≠ [] → fail ≠ [] → ∀ v ∈ remaining, ∀ w ∈ remaining,
      v ∈ split.success → w ∈ split.fail → v < w) := by
  intro split
  have hdisjoint : split.success.Disjoint split.fail := fun v hv hv' =>
    have hboth := mem_both_of_mem_both hremaining hsuccess hfail hv hv'
    hclaims hboth.1 hboth.2
  have hunion : ∀ v, v ∈ split.success ∨ v ∈ split.fail ↔
      v ∈ success ∨ v ∈ fail ∨ v ∈ remaining := fun v => mem_allocateRemainder
  refine ⟨pairwise_allocateRemainder _ _ _, hdisjoint, subset_success_allocateRemainder,
    subset_fail_allocateRemainder, hunion, ?_, ?_, ?_, ?_⟩
  · rintro rfl rfl
    have hlowest : AreLowest (remaining.length / 2) split.fail remaining := by
      have hhalf : remaining.length / 2 ≤ remaining.length := Nat.div_le_self _ _
      have heq : split = _ := allocateRemainder_nil_nil remaining
      rw [heq]
      exact areLowest_take hremaining hhalf
    refine ⟨hlowest, fun v => ⟨fun hv => ⟨?_, hdisjoint hv⟩, fun ⟨hv, hout⟩ => ?_⟩⟩
    · simpa using (hunion v).1 (.inl hv)
    · exact ((hunion v).2 (.inr (.inr hv))).resolve_right hout
  · rintro rfl h v
    have heq : split = _ := allocateRemainder_nil h remaining
    rw [heq, mem_ofList, mem_sorted]
  · rintro h rfl v
    have heq : split = _ := allocateRemainder_of_fail_nil h remaining
    rw [heq, mem_ofList, mem_sorted]
  · intro h h' v hv w hw hv' hw'
    exact lt_of_both_declared hremaining hsuccess hfail h h' hv hw hv' hw'

/-- With ten for success and one for failure, four and five of the other three values succeed and
six fails. -/
theorem allocateRemainder_divides_three :
    let success : List Int := [10]
    let fail : List Int := [1]
    let remaining : List Int := [6, 4, 5]
    remaining.Nodup ∧ success.Disjoint fail ∧ success.Disjoint remaining ∧
    fail.Disjoint remaining ∧
    allocateRemainder success fail remaining = ⟨[4, 5, 10], [1, 6]⟩ ∧
    ∀ v ∈ remaining, ∀ w ∈ remaining, v ∈ [4, 5, 10] → w ∈ [1, 6] → v < w := by
  intro success fail remaining
  have hremaining : remaining.Nodup := by decide
  have hclaims : success.Disjoint fail := by simp [success, fail]
  have hsuccess : success.Disjoint remaining := by simp [success, remaining]
  have hfail : fail.Disjoint remaining := by simp [fail, remaining]
  have hsplit : allocateRemainder success fail remaining = ⟨[4, 5, 10], [1, 6]⟩ := by decide
  obtain ⟨-, -, -, -, -, -, -, -, hlt⟩ :=
    allocateRemainder_divides hremaining hclaims hsuccess hfail
  rw [hsplit] at hlt
  exact ⟨hremaining, hclaims, hsuccess, hfail, hsplit, hlt (by simp [success]) (by simp [fail])⟩

end Band

end Gamebook
