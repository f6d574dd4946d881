/-
**Sets of die values.**

A set of integers is kept as its elements in increasing order.

Main definitions:

* `DieSet.insert`, `DieSet.ofList`, `DieSet.union` — building sets;
* `DieSet.sorted` — a list in increasing order, repetitions kept.

Main results:

* `DieSet.mem_insert`, `DieSet.mem_ofList`, `DieSet.mem_union` — the elements of the results;
* `DieSet.pairwise_ofList`, `DieSet.pairwise_union` — they are in increasing order.
-/

set_option autoImplicit false

namespace Gamebook

/-- A set of integers: its elements in increasing order. -/
abbrev DieSet := List Int

namespace DieSet

/-- The set with one more element. -/
def insert (a : Int) : DieSet → DieSet
  | [] => [a]
  | b :: s => if a < b then a :: b :: s else if a = b then b :: s else b :: insert a s

/-- The set of the elements of a list. -/
def ofList (l : List Int) : DieSet := l.foldr insert []

/-- The union of a set with the elements of a list. -/
def union (s : DieSet) (l : List Int) : DieSet := l.foldr insert s

/-- A list with one more element in front of the first one that is not smaller. -/
def insertSorted (a : Int) : List Int → List Int
  | [] => [a]
  | b :: l => if a ≤ b then a :: b :: l else b :: insertSorted a l

/-- The elements of a list in increasing order. -/
def sorted (l : List Int) : List Int := l.foldr insertSorted []

@[simp] theorem mem_insert {a b : Int} {s : DieSet} : b ∈ insert a s ↔ b = a ∨ b ∈ s := by
  induction s with
  | nil => simp [insert]
  | cons c s ih =>
      simp only [insert]
      split
      · simp
      · split
        · rename_i h; subst h; simp
        · simp only [List.mem_cons, ih]; grind

@[simp] theorem mem_ofList {b : Int} {l : List Int} : b ∈ ofList l ↔ b ∈ l := by
  induction l with
  | nil => simp [ofList]
  | cons a l ih =>
      have h : ofList (a :: l) = insert a (ofList l) := rfl
      simp only [h, mem_insert, ih, List.mem_cons]

@[simp] theorem mem_union {b : Int} {s : DieSet} {l : List Int} :
    b ∈ union s l ↔ b ∈ s ∨ b ∈ l := by
  induction l with
  | nil => simp [union]
  | cons a l ih =>
      have h : union s (a :: l) = insert a (union s l) := rfl
      simp only [h, mem_insert, ih, List.mem_cons]; grind

theorem pairwise_insert {a : Int} {s : DieSet} (h : s.Pairwise (· < ·)) :
    (insert a s).Pairwise (· < ·) := by
  induction s with
  | nil => simp [insert]
  | cons b s ih =>
      obtain ⟨hb, hs⟩ := List.pairwise_cons.mp h
      simp only [insert]
      split
      · rename_i hab
        exact List.pairwise_cons.mpr
          ⟨fun c hc => (List.mem_cons.mp hc).elim (fun e => e ▸ hab)
            (fun hc => Int.lt_trans hab (hb c hc)), h⟩
      · split
        · exact h
        · refine List.pairwise_cons.mpr ⟨fun c hc => ?_, ih hs⟩
          rcases mem_insert.mp hc with rfl | hc
          · omega
          · exact hb c hc

theorem pairwise_union {s : DieSet} (h : s.Pairwise (· < ·)) (l : List Int) :
    (union s l).Pairwise (· < ·) := by
  induction l with
  | nil => exact h
  | cons a l ih => exact pairwise_insert ih

theorem pairwise_ofList (l : List Int) : (ofList l).Pairwise (· < ·) :=
  pairwise_union List.Pairwise.nil l

@[simp] theorem mem_insertSorted {a b : Int} {l : List Int} :
    b ∈ insertSorted a l ↔ b = a ∨ b ∈ l := by
  induction l with
  | nil => simp [insertSorted]
  | cons c l ih =>
      simp only [insertSorted]
      split
      · simp
      · simp only [List.mem_cons, ih]; grind

@[simp] theorem mem_sorted {b : Int} {l : List Int} : b ∈ sorted l ↔ b ∈ l := by
  induction l with
  | nil => simp [sorted]
  | cons a l ih =>
      have h : sorted (a :: l) = insertSorted a (sorted l) := rfl
      simp only [h, mem_insertSorted, ih, List.mem_cons]

theorem length_insertSorted (a : Int) (l : List Int) :
    (insertSorted a l).length = l.length + 1 := by
  induction l with
  | nil => rfl
  | cons b l ih =>
      simp only [insertSorted]
      split <;> simp [ih]

@[simp] theorem length_sorted (l : List Int) : (sorted l).length = l.length := by
  induction l with
  | nil => rfl
  | cons a l ih => simp [sorted, length_insertSorted, ← ih]

end DieSet

end Gamebook
