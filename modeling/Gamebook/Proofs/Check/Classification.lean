/-
**Bands that decide every roll.**

A roll is rounded to a value of the die, and the first of the four sets that has the value gives the
outcome.  When success or failure is declared the sets cover the die, so every roll of the die has
its outcome from them, whatever the total and the difficulty are.

The sets are built from ranges that are written by hand.  A range that is no range covers nothing;
but a number with too many digits in it is a fault, and then there are no sets.

Main results:

* `Check.bandResult_eq_find?` — the outcome is that of the first set with the value;
* `Check.classify_of_bandResult` — it does not depend on the total and the difficulty;
* `Check.exists_classify_eq` — **the bands decide every roll** of the die;
* `Check.not_exists_classify_eq` — a range may have too many digits for that.
-/

import Gamebook.Proofs.Band.Sets

set_option autoImplicit false

namespace Gamebook

namespace Check

open Band

variable {limit : DigitLimit} {bands : Fields Value} {bounds : Bounds}
  {onCritFail onCritSuccess : Bool} {s : Sets} {roll : Value} {v : Int}

/-- A finite roll stands for the integer that it is rounded to. -/
theorem dieValue_eq (hfinite : roll.toNumber.isFinite? = some true)
    (hround : roll.toNumber.round? = some (.int v)) : dieValue roll = .ok (some v) := by
  simp only [dieValue, hfinite, hround]
  rfl

/-- The outcome of a die value is that of the first set that has it. -/
theorem bandResult_eq_find? (hexplicit : s.explicit) :
    bandResult s v = CheckResult.inOrder.find? fun r => (s.of r).contains v := by
  simp only [bandResult, hexplicit, Bool.true_and, CheckResult.inOrder, List.find?, Sets.of]
  cases s.critFail.contains v <;> cases s.critSuccess.contains v <;>
    cases s.success.contains v <;> cases s.fail.contains v <;> rfl

/-- **The outcome that the bands give** does not depend on the total and the difficulty. -/
theorem classify_of_bandResult {r : CheckResult} (hroll : dieValue roll = .ok (some v))
    (h : bandResult s v = some r) (total dc : Value) :
    classify roll total dc (some s) = .ok r := by
  simp only [classify, hroll, bind, Except.bind, Option.bind, h]
  rfl

/-- Every value of the die has its outcome from sets whose claims are values of the die. -/
theorem exists_bandResult_filled (hclaims : ∀ r, s.of r ⊆ bounds.values) (hexplicit : s.explicit)
    (hmin : bounds.min ≤ v) (hmax : v ≤ bounds.max) :
    ∃ r, CheckResult.inOrder.find? (fun r => ((s.filled bounds).of r).contains v) = some r ∧
      bandResult (s.filled bounds) v = some r := by
  obtain ⟨r, hr⟩ := (Sets.exists_mem_filled_iff hclaims hexplicit).2 ⟨hmin, hmax⟩
  have hsome : (CheckResult.inOrder.find? fun r =>
      ((s.filled bounds).of r).contains v).isSome :=
    List.find?_isSome.2 ⟨r, CheckResult.mem_inOrder r, List.contains_iff_mem.2 hr⟩
  obtain ⟨r', hr'⟩ := Option.isSome_iff_exists.1 hsome
  exact ⟨r', hr', (bandResult_eq_find? (Sets.explicit_filled.trans hexplicit)).trans hr'⟩

/-- **The bands decide every roll of the die** when success or failure is declared and the ranges
can be read: the four sets cover the die, and the first of them that has the rounded roll gives the
outcome for all totals and difficulties. -/
theorem exists_classify_eq (hbounds : bounds.min ≤ bounds.max) (hbands : AreRecords bands)
    (hdeclared : (bandOf bands .success).holds ∨ (bandOf bands .fail).holds)
    (hlegible : areLegible limit bands) :
    ∃ s, computeSets limit (.obj bands) bounds onCritFail onCritSuccess = .ok s ∧
      (∀ v, (∃ r, v ∈ s.of r) ↔ bounds.min ≤ v ∧ v ≤ bounds.max) ∧
      ∀ (roll : Value) (v : Int), roll.toNumber.isFinite? = some true →
        roll.toNumber.round? = some (.int v) → bounds.min ≤ v → v ≤ bounds.max →
        ∃ r, CheckResult.inOrder.find? (fun r => (s.of r).contains v) = some r ∧
          ∀ total dc, classify roll total dc (some s) = .ok r := by
  have hclaims : ∀ r, (claimedSets bands bounds onCritFail onCritSuccess).of r ⊆ bounds.values :=
    claimedSets_subset hbounds
  have hexplicit : (claimedSets bands bounds onCritFail onCritSuccess).explicit :=
    Bool.or_eq_true_iff.2 hdeclared
  refine ⟨_, (computeSets_eq_ok_iff hbands).2 ⟨hlegible, rfl⟩,
    fun v => Sets.exists_mem_filled_iff hclaims hexplicit, ?_⟩
  intro roll v hfinite hround hmin hmax
  obtain ⟨r, hfind, hr⟩ := exists_bandResult_filled hclaims hexplicit hmin hmax
  exact ⟨r, hfind, classify_of_bandResult (dieValue_eq hfinite hround) hr⟩

/-- With success from eleven on, a twelve succeeds and a five fails, and neither the total nor the
difficulty is asked. -/
theorem exists_classify_eq_twelve :
    let bands : Fields Value := [("success", .obj [("range", .str "11-20")])]
    AreRecords bands ∧ (bandOf bands .success).holds ∧ areLegible .standard bands ∧
      ∃ s, computeSets .standard (.obj bands) ⟨1, 20⟩ false false = .ok s ∧
        (∀ total dc, classify (.int 12) total dc (some s) = .ok .success) ∧
        ∀ total dc, classify (.int 5) total dc (some s) = .ok .fail := by
  intro bands
  have hbands : AreRecords bands := by decide +kernel
  have hdeclared : (bandOf bands .success).holds := by decide +kernel
  have hlegible : areLegible .standard bands := by decide +kernel
  obtain ⟨s, hs, -, hclassify⟩ := @exists_classify_eq _ _ ⟨1, 20⟩ false false (by decide) hbands
    (.inl hdeclared) hlegible
  refine ⟨hbands, hdeclared, hlegible, s, hs, ?_⟩
  obtain ⟨r, hr, htwelve⟩ := hclassify (.int 12) 12 (by decide +kernel) (by decide +kernel)
    (by decide) (by decide)
  obtain ⟨r', hr', hfive⟩ := hclassify (.int 5) 5 (by decide +kernel) (by decide +kernel)
    (by decide) (by decide)
  obtain ⟨-, rfl⟩ := (computeSets_eq_ok_iff hbands).1 hs
  have hsuccess : some r = some CheckResult.success := hr.symm.trans (by decide +kernel)
  have hfail : some r' = some CheckResult.fail := hr'.symm.trans (by decide +kernel)
  cases hsuccess
  cases hfail
  exact ⟨htwelve, hfive⟩

/-! ### Too many digits -/

/-- A range may have too many digits, and then the bands decide nothing. -/
theorem not_exists_classify_eq :
    ¬ ∀ (bands : Fields Value) (bounds : Bounds) (onCritFail onCritSuccess : Bool),
      bounds.min ≤ bounds.max → AreRecords bands →
      ((bandOf bands .success).holds ∨ (bandOf bands .fail).holds) →
      ∃ s, computeSets .standard (.obj bands) bounds onCritFail onCritSuccess = .ok s := by
  intro h
  obtain ⟨nines, hlength, hnines⟩ : ∃ ds : List Char, ds.length = 4301 ∧ ∀ c ∈ ds, c = '9' :=
    ⟨List.replicate 4301 '9', List.length_replicate, fun c hc => List.eq_of_mem_replicate hc⟩
  have hne : nines ≠ [] := List.ne_nil_of_length_pos (by omega)
  have hdigits : ∀ c ∈ nines, Text.isDigit c := fun c hc => by
    rw [hnines c hc]
    decide +kernel
  have hrange : isLegible .standard (.str (String.ofList nines)) = false := by
    rw [isLegible_digits hne hdigits, hlength]
    decide
  let bands : Fields Value := [("success", .obj [("range", .str (String.ofList nines))])]
  have hbands : AreRecords bands := by
    intro r
    cases r with
    | success => exact fun _ => rfl
    | _ => exact nofun
  obtain ⟨s, hs⟩ := h bands ⟨1, 20⟩ false false (by decide) hbands (.inl rfl)
  have hlegible := ((computeSets_eq_ok_iff hbands).1 hs).1
  have hsuccess := List.all_eq_true.1 hlegible .success (CheckResult.mem_inOrder .success)
  exact Bool.false_ne_true (hrange.symm.trans hsuccess)

end Check

end Gamebook
