/-
**What becomes of the values that no band claims.**

Whatever the rule by which they are handed out, each of the remaining values goes to success or to
failure, and to one of the two only, while what was claimed stays where it is.

Main results:

* `Band.exists_allocateRemainder` — **the remaining values are divided in two parts**;
* `Band.mem_allocateRemainder` — nothing is lost and nothing is added;
* `Band.mem_both_of_mem_both` — only values that both have claimed go to both.
-/

import Gamebook.Band.Allocation
import Mathlib.Data.List.Perm.Basic

set_option autoImplicit false

namespace Gamebook

namespace DieSet

theorem insertSorted_perm (a : Int) (l : List Int) : (insertSorted a l).Perm (a :: l) := by
  induction l with
  | nil => exact .refl _
  | cons b l ih =>
      simp only [insertSorted]
      split
      · exact .refl _
      · exact (ih.cons b).trans (.swap a b l)

theorem sorted_perm (l : List Int) : (sorted l).Perm l := by
  induction l with
  | nil => exact .refl _
  | cons a l ih => exact (insertSorted_perm a (sorted l)).trans (ih.cons a)

end DieSet

namespace Band

variable {success fail remaining : List Int}

/-- **The remaining values are divided in two parts**, one for success and one for failure. -/
theorem exists_allocateRemainder (success fail remaining : List Int) :
    ∃ succeeding failing : List Int, (succeeding ++ failing).Perm remaining ∧
      allocateRemainder success fail remaining =
        ⟨(DieSet.ofList success).union succeeding, (DieSet.ofList fail).union failing⟩ := by
  have hperm := DieSet.sorted_perm remaining
  have hparts : ∀ n, ((DieSet.sorted remaining).take n ++ (DieSet.sorted remaining).drop n).Perm
      remaining := fun n => by
    rw [List.take_append_drop]
    exact hperm
  unfold allocateRemainder
  dsimp only
  split
  · exact ⟨_, _, List.perm_append_comm.trans (hparts _), rfl⟩
  · split
    · exact ⟨_, [], by rwa [List.append_nil], rfl⟩
    · split
      · exact ⟨[], _, by rwa [List.nil_append], rfl⟩
      · exact ⟨_, _, hparts _, rfl⟩

/-- Nothing is lost and nothing is added. -/
theorem mem_allocateRemainder {v : Int} :
    (v ∈ (allocateRemainder success fail remaining).success ∨
        v ∈ (allocateRemainder success fail remaining).fail) ↔
      v ∈ success ∨ v ∈ fail ∨ v ∈ remaining := by
  obtain ⟨succeeding, failing, hperm, heq⟩ := exists_allocateRemainder success fail remaining
  rw [heq, ← hperm.mem_iff, List.mem_append]
  simp only [DieSet.mem_union, DieSet.mem_ofList]
  grind

theorem subset_success_allocateRemainder :
    success ⊆ (allocateRemainder success fail remaining).success := by
  obtain ⟨succeeding, failing, -, heq⟩ := exists_allocateRemainder success fail remaining
  intro v hv
  rw [heq]
  simp [hv]

theorem subset_fail_allocateRemainder :
    fail ⊆ (allocateRemainder success fail remaining).fail := by
  obtain ⟨succeeding, failing, -, heq⟩ := exists_allocateRemainder success fail remaining
  intro v hv
  rw [heq]
  simp [hv]

/-- What succeeds was claimed for success or remained. -/
theorem mem_of_mem_success {v : Int}
    (h : v ∈ (allocateRemainder success fail remaining).success) :
    v ∈ success ∨ v ∈ remaining := by
  obtain ⟨succeeding, failing, hperm, heq⟩ := exists_allocateRemainder success fail remaining
  rw [heq] at h
  rw [← hperm.mem_iff]
  simp only [DieSet.mem_union, DieSet.mem_ofList] at h
  exact h.imp_right (List.mem_append_left failing)

/-- What fails was claimed for failure or remained. -/
theorem mem_of_mem_fail {v : Int}
    (h : v ∈ (allocateRemainder success fail remaining).fail) :
    v ∈ fail ∨ v ∈ remaining := by
  obtain ⟨succeeding, failing, hperm, heq⟩ := exists_allocateRemainder success fail remaining
  rw [heq] at h
  rw [← hperm.mem_iff]
  simp only [DieSet.mem_union, DieSet.mem_ofList] at h
  exact h.imp_right (List.mem_append_right succeeding)

/-- **Only values that both have claimed go to both.** -/
theorem mem_both_of_mem_both {v : Int} (hremaining : remaining.Nodup)
    (hsuccess : success.Disjoint remaining) (hfail : fail.Disjoint remaining)
    (h : v ∈ (allocateRemainder success fail remaining).success)
    (h' : v ∈ (allocateRemainder success fail remaining).fail) : v ∈ success ∧ v ∈ fail := by
  obtain ⟨succeeding, failing, hperm, heq⟩ := exists_allocateRemainder success fail remaining
  have hparts := (List.nodup_append.1 (hperm.nodup_iff.2 hremaining)).2.2
  have hsucceeding : ∀ v ∈ succeeding, v ∈ remaining := fun v hv =>
    hperm.mem_iff.1 (List.mem_append_left failing hv)
  have hfailing : ∀ v ∈ failing, v ∈ remaining := fun v hv =>
    hperm.mem_iff.1 (List.mem_append_right succeeding hv)
  rw [heq] at h h'
  simp only [DieSet.mem_union, DieSet.mem_ofList] at h h'
  rcases h with h | h <;> rcases h' with h' | h'
  · exact ⟨h, h'⟩
  · exact (hsuccess h (hfailing v h')).elim
  · exact (hfail h' (hsucceeding v h)).elim
  · exact (hparts v h v h' rfl).elim

end Band

end Gamebook
