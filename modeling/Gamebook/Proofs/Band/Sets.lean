/-
**How the bands of a check divide its die.**

The sets of a check are built in two steps.  Every outcome claims the values of its range, a
critical one without a range the extreme of its branch; then, where success or failure is declared,
the values that nobody has claimed are handed out.  The first step subtracts nothing, so values that
two outcomes have claimed belong to both of them; the second step gives every value to one of the
two only.

Main definitions:

* `Band.Sets.of` — the set of an outcome;
* `Band.AreRecords`, `Band.areLegible` — bands that can be read;
* `Band.claimedSets` — what the outcomes claim;
* `Band.Sets.filled` — the sets with what is left handed out.

Main results:

* `Band.computeSets_eq` — the two steps;
* `Band.Sets.exists_mem_filled_iff` — **the sets cover the die** when success or failure is
  declared;
* `Band.computeSets_partition` — **the sets are disjoint** as far as the claims are;
* `Band.not_computeSets_disjoint` — claims that overlap are not kept apart.
-/

import Gamebook.Check.Classification
import Gamebook.Proofs.Band.Allocation
import Gamebook.Proofs.Band.Range
import Gamebook.Proofs.Dice.Roll
import Mathlib.Data.List.Nodup

set_option autoImplicit false

namespace Gamebook

/-- The outcomes in the order in which the bands are asked for a die value. -/
def CheckResult.inOrder : List CheckResult := [critFail, critSuccess, success, fail]

theorem CheckResult.mem_inOrder (r : CheckResult) : r ∈ inOrder := by cases r <;> decide

/-- What is said of all outcomes can be checked for one after the other. -/
instance CheckResult.decidableForall (p : CheckResult → Prop) [DecidablePred p] :
    Decidable (∀ r, p r) :=
  decidable_of_iff (∀ r ∈ inOrder, p r) ⟨fun h r => h r (mem_inOrder r), fun h r _ => h r⟩

namespace Band

/-- The set of an outcome. -/
def Sets.of (s : Sets) : CheckResult → DieSet
  | .critFail => s.critFail
  | .critSuccess => s.critSuccess
  | .success => s.success
  | .fail => s.fail

/-- No value belongs to two outcomes. -/
def Sets.AreDisjoint (s : Sets) : Prop := ∀ r r', r ≠ r' → ∀ v ∈ s.of r, v ∉ s.of r'

instance Sets.decidableAreDisjoint (s : Sets) : Decidable s.AreDisjoint :=
  inferInstanceAs (Decidable (∀ r r', r ≠ r' → ∀ v ∈ s.of r, v ∉ s.of r'))

/-! ### Bands that can be read -/

variable {limit : DigitLimit} {bands : Fields Value} {bounds : Bounds}
  {onCritFail onCritSuccess : Bool}

/-- The band of an outcome; null when it is missing. -/
def bandOf (bands : Fields Value) (r : CheckResult) : Value := .ofOption (bands.get? r.name)

/-- The range of a band; null when it is missing. -/
def rangeIn (band : Value) : Value := .ofOption ((band.fields?.getD []).get? "range")

/-- Every band that is declared is a record. -/
def AreRecords (bands : Fields Value) : Prop :=
  ∀ r, (bandOf bands r).holds → (bandOf bands r).fields?.isSome

instance decidableAreRecords (bands : Fields Value) : Decidable (AreRecords bands) :=
  inferInstanceAs (Decidable (∀ r, (bandOf bands r).holds → (bandOf bands r).fields?.isSome))

/-- Whether a band is missing or has a range that can be read. -/
def isLegibleBand (limit : DigitLimit) (band : Value) : Bool :=
  !band.holds || isLegible limit (rangeIn band)

/-- Whether the ranges of all bands can be read. -/
def areLegible (limit : DigitLimit) (bands : Fields Value) : Bool :=
  CheckResult.inOrder.all fun r => isLegibleBand limit (bandOf bands r)

/-- What an outcome claims: the values of its range, or other ones when its band is missing. -/
def claim (band : Value) (bounds : Bounds) (natural : DieSet) : DieSet :=
  if band.holds then covered (rangeIn band) bounds else natural

/-- What the outcomes claim. -/
def claimedSets (bands : Fields Value) (bounds : Bounds) (onCritFail onCritSuccess : Bool) :
    Sets where
  critFail := claim (bandOf bands .critFail) bounds (if onCritFail then [bounds.min] else [])
  critSuccess :=
    claim (bandOf bands .critSuccess) bounds (if onCritSuccess then [bounds.max] else [])
  success := claim (bandOf bands .success) bounds []
  fail := claim (bandOf bands .fail) bounds []
  explicit := (bandOf bands .success).holds || (bandOf bands .fail).holds

/-- The die values that no outcome has. -/
def Sets.unclaimed (s : Sets) (bounds : Bounds) : List Int :=
  bounds.values.filter fun v =>
    !(s.critFail.contains v || s.critSuccess.contains v || s.success.contains v ||
      s.fail.contains v)

/-- The sets with the values that no outcome has handed out to success and failure, when one of them
is declared. -/
def Sets.filled (s : Sets) (bounds : Bounds) : Sets :=
  if s.explicit then
    let split := allocateRemainder s.success s.fail (s.unclaimed bounds)
    { s with success := split.success, fail := split.fail }
  else s

theorem rangeOf_eq {band : Value} (h : band.fields?.isSome) :
    rangeOf limit band bounds =
      if isLegible limit (rangeIn band) then .ok (covered (rangeIn band) bounds)
      else .error .tooManyDigits := by
  obtain ⟨fields, hfields⟩ := Option.isSome_iff_exists.1 h
  have hrange : band.field "range" = .ok (rangeIn band) := by
    simp only [Value.field, Value.field?, Value.entries, rangeIn, hfields]
    rfl
  unfold rangeOf
  rw [hrange]
  exact parseRange_eq (rangeIn band) bounds

/-- What an outcome claims is found, when its band can be read. -/
theorem claim_eq {band : Value} (natural : DieSet) (h : band.holds → band.fields?.isSome) :
    (if band.holds then rangeOf limit band bounds else .ok natural) =
      if isLegibleBand limit band then .ok (claim band bounds natural)
      else .error .tooManyDigits := by
  unfold isLegibleBand claim
  split
  · rename_i hholds
    rw [rangeOf_eq (h hholds)]
    simp only [hholds, Bool.not_true, Bool.false_or]
  · rename_i hholds
    simp [hholds]

theorem critSet_eq (hbands : AreRecords bands) {r : CheckResult} {branch : Bool} {extreme : Int} :
    critSet limit (.obj bands) r.name bounds branch extreme =
      if isLegibleBand limit (bandOf bands r) then
        .ok (claim (bandOf bands r) bounds (if branch then [extreme] else []))
      else .error .tooManyDigits :=
  claim_eq _ (hbands r)

theorem plainSet_eq (hbands : AreRecords bands) {r : CheckResult} :
    plainSet limit (.obj bands) r.name bounds =
      if isLegibleBand limit (bandOf bands r) then .ok (claim (bandOf bands r) bounds [])
      else .error .tooManyDigits :=
  claim_eq _ (hbands r)

theorem isExplicit_eq :
    isExplicit (.obj bands) =
      .ok ((bandOf bands .success).holds || (bandOf bands .fail).holds) := by
  have h : isExplicit (.obj bands) =
      if (bandOf bands .success).holds then .ok true else .ok (bandOf bands .fail).holds := rfl
  rw [h]
  cases (bandOf bands .success).holds <;> rfl

/-- **The sets of a check** are what the outcomes claim, with what is left handed out.  There is a
fault where a range passes the digit limit. -/
theorem computeSets_eq (hbands : AreRecords bands) :
    computeSets limit (.obj bands) bounds onCritFail onCritSuccess =
      if areLegible limit bands then
        .ok ((claimedSets bands bounds onCritFail onCritSuccess).filled bounds)
      else .error .tooManyDigits := by
  have hself : (Value.obj bands).orElse (.obj []) = .obj bands := by
    cases bands <;> rfl
  unfold computeSets
  simp only [hself, isExplicit_eq]
  rw [show "crit_fail" = CheckResult.critFail.name from rfl,
    show "crit_success" = CheckResult.critSuccess.name from rfl,
    show "success" = CheckResult.success.name from rfl,
    show "fail" = CheckResult.fail.name from rfl]
  simp only [critSet_eq hbands, plainSet_eq hbands]
  have hlegible : areLegible limit bands = (isLegibleBand limit (bandOf bands .critFail) &&
      (isLegibleBand limit (bandOf bands .critSuccess) &&
        (isLegibleBand limit (bandOf bands .success) &&
          isLegibleBand limit (bandOf bands .fail)))) := by
    simp [areLegible, CheckResult.inOrder]
  rw [hlegible]
  by_cases hcritFail : isLegibleBand limit (bandOf bands .critFail)
  case neg => simp [hcritFail]; rfl
  by_cases hcritSuccess : isLegibleBand limit (bandOf bands .critSuccess)
  case neg => simp [hcritFail, hcritSuccess]; rfl
  simp only [hcritFail, hcritSuccess, Bool.true_and, if_true]
  cases hexplicit : (bandOf bands .success).holds || (bandOf bands .fail).holds with
  | false =>
      obtain ⟨hsuccess, hfail⟩ := Bool.or_eq_false_iff.1 hexplicit
      simp only [isLegibleBand, claimedSets, Sets.filled, claim, hsuccess, hfail]
      rfl
  | true =>
      have hfilled : ((claimedSets bands bounds onCritFail onCritSuccess).filled bounds) =
          let s := claimedSets bands bounds onCritFail onCritSuccess
          let split := allocateRemainder s.success s.fail (s.unclaimed bounds)
          { s with success := split.success, fail := split.fail } :=
        if_pos hexplicit
      rw [hfilled]
      by_cases hsuccess : isLegibleBand limit (bandOf bands .success)
      case neg => simp [hsuccess]; rfl
      by_cases hfail : isLegibleBand limit (bandOf bands .fail)
      case neg => simp [hsuccess, hfail]; rfl
      simp only [hsuccess, hfail, claimedSets, hexplicit]
      rfl

/-- There are sets exactly when the ranges can be read. -/
theorem computeSets_eq_ok_iff (hbands : AreRecords bands) {s : Sets} :
    computeSets limit (.obj bands) bounds onCritFail onCritSuccess = .ok s ↔
      areLegible limit bands ∧
        (claimedSets bands bounds onCritFail onCritSuccess).filled bounds = s := by
  rw [computeSets_eq hbands]
  split <;> simp [*]

/-! ### What is claimed and what is handed out -/

/-- What a band claims are values of the die, when its natural values are. -/
theorem claim_subset {band : Value} {natural : DieSet} (h : natural ⊆ bounds.values) :
    claim band bounds natural ⊆ bounds.values := by
  unfold claim
  split
  · exact fun v hv => Bounds.mem_values.2 (mem_covered_le hv)
  · exact h

/-- What the outcomes claim are values of the die. -/
theorem claimedSets_subset (hbounds : bounds.min ≤ bounds.max) (r : CheckResult) :
    (claimedSets bands bounds onCritFail onCritSuccess).of r ⊆ bounds.values := by
  have hextreme : ∀ (branch : Bool) (v : Int), bounds.min ≤ v → v ≤ bounds.max →
      (if branch then [v] else []) ⊆ bounds.values := by
    intro branch v hmin hmax
    cases branch with
    | false => exact List.nil_subset _
    | true => exact List.cons_subset.2 ⟨Bounds.mem_values.2 ⟨hmin, hmax⟩, List.nil_subset _⟩
  cases r with
  | critFail => exact claim_subset (hextreme _ _ (Int.le_refl _) hbounds)
  | critSuccess => exact claim_subset (hextreme _ _ hbounds (Int.le_refl _))
  | success => exact claim_subset (List.nil_subset _)
  | fail => exact claim_subset (List.nil_subset _)

namespace Sets

variable {s : Sets}

theorem mem_unclaimed {v : Int} :
    v ∈ s.unclaimed bounds ↔ v ∈ bounds.values ∧ ∀ r, v ∉ s.of r := by
  simp only [unclaimed, List.mem_filter, Bool.not_eq_true', Bool.or_eq_false_iff,
    List.contains_eq_mem, decide_eq_false_iff_not]
  refine and_congr_right fun _ =>
    ⟨?_, fun h => ⟨⟨⟨h .critFail, h .critSuccess⟩, h .success⟩, h .fail⟩⟩
  rintro ⟨⟨⟨hcritFail, hcritSuccess⟩, hsuccess⟩, hfail⟩ r
  cases r <;> assumption

theorem nodup_unclaimed : (s.unclaimed bounds).Nodup := by
  refine List.Nodup.filter _ (List.Nodup.map ?_ List.nodup_range)
  intro i j hij
  exact Int.ofNat.inj (Int.add_left_cancel hij)

/-- What is claimed stays. -/
theorem subset_filled (r : CheckResult) : s.of r ⊆ (s.filled bounds).of r := by
  unfold filled
  split
  · cases r with
    | critFail | critSuccess => exact List.Subset.refl _
    | success => exact subset_success_allocateRemainder
    | fail => exact subset_fail_allocateRemainder
  · exact List.Subset.refl _

@[simp] theorem critFail_filled : (s.filled bounds).critFail = s.critFail := by
  unfold filled
  split <;> rfl

@[simp] theorem critSuccess_filled : (s.filled bounds).critSuccess = s.critSuccess := by
  unfold filled
  split <;> rfl

@[simp] theorem explicit_filled : (s.filled bounds).explicit = s.explicit := by
  unfold filled
  split <;> rfl

/-- What an outcome has was claimed for it, or was left and has been handed out to it. -/
theorem mem_of_mem_filled {r : CheckResult} {v : Int} (h : v ∈ (s.filled bounds).of r) :
    v ∈ s.of r ∨ v ∈ s.unclaimed bounds ∧ (r = .success ∨ r = .fail) := by
  unfold filled at h
  split at h
  · cases r with
    | critFail | critSuccess => exact .inl h
    | success => exact (mem_of_mem_success h).imp_right fun h => ⟨h, .inl rfl⟩
    | fail => exact (mem_of_mem_fail h).imp_right fun h => ⟨h, .inr rfl⟩
  · exact .inl h

/-- The sets are values of the die, when the claims are. -/
theorem filled_subset (h : ∀ r, s.of r ⊆ bounds.values) (r : CheckResult) :
    (s.filled bounds).of r ⊆ bounds.values := fun _ hv =>
  (mem_of_mem_filled hv).elim (fun hv => h r hv) fun hv => (mem_unclaimed.1 hv.1).1

/-- **The sets cover the die** when success or failure is declared. -/
theorem exists_mem_filled_iff (h : ∀ r, s.of r ⊆ bounds.values) (hexplicit : s.explicit)
    {v : Int} :
    (∃ r, v ∈ (s.filled bounds).of r) ↔ bounds.min ≤ v ∧ v ≤ bounds.max := by
  rw [← Bounds.mem_values]
  refine ⟨fun ⟨r, hr⟩ => filled_subset h r hr, fun hv => ?_⟩
  by_cases hclaimed : ∃ r, v ∈ s.of r
  · obtain ⟨r, hr⟩ := hclaimed
    exact ⟨r, subset_filled r hr⟩
  · have hleft : v ∈ s.unclaimed bounds :=
      mem_unclaimed.2 ⟨hv, fun r hr => hclaimed ⟨r, hr⟩⟩
    have hfilled : s.filled bounds = _ := if_pos hexplicit
    rw [hfilled]
    rcases mem_allocateRemainder.2 (.inr (.inr hleft)) with hsuccess | hfail
    · exact ⟨.success, hsuccess⟩
    · exact ⟨.fail, hfail⟩

/-- Success and failure have a value together only when both have claimed it. -/
theorem mem_both_of_mem_filled {v : Int} (h : v ∈ (s.filled bounds).of .success)
    (h' : v ∈ (s.filled bounds).of .fail) : v ∈ s.of .success ∧ v ∈ s.of .fail := by
  have hleft : ∀ r, (s.of r).Disjoint (s.unclaimed bounds) := fun r v hv hv' =>
    (mem_unclaimed.1 hv').2 r hv
  by_cases hexplicit : s.explicit
  · rw [filled, if_pos hexplicit] at h h'
    exact mem_both_of_mem_both nodup_unclaimed (hleft .success) (hleft .fail) h h'
  · rw [filled, if_neg hexplicit] at h h'
    exact ⟨h, h'⟩

/-- Two outcomes have a value together exactly when both have claimed it. -/
theorem mem_filled_both_iff {r r' : CheckResult} (hne : r ≠ r') {v : Int} :
    v ∈ (s.filled bounds).of r ∧ v ∈ (s.filled bounds).of r' ↔ v ∈ s.of r ∧ v ∈ s.of r' := by
  refine ⟨fun ⟨hv, hv'⟩ => ?_, fun ⟨hv, hv'⟩ => ⟨subset_filled r hv, subset_filled r' hv'⟩⟩
  rcases mem_of_mem_filled hv with hr | ⟨hleft, hr⟩
  · rcases mem_of_mem_filled hv' with hr' | ⟨hleft', -⟩
    · exact ⟨hr, hr'⟩
    · exact ((mem_unclaimed.1 hleft').2 r hr).elim
  · rcases mem_of_mem_filled hv' with hr' | ⟨-, hr'⟩
    · exact ((mem_unclaimed.1 hleft).2 r' hr').elim
    · -- What was left is only handed out to success and failure, and only to one of them.
      have hboth : ¬ (v ∈ (s.filled bounds).of .success ∧ v ∈ (s.filled bounds).of .fail) :=
        fun ⟨hsuccess, hfail⟩ =>
          (mem_unclaimed.1 hleft).2 .success (mem_both_of_mem_filled hsuccess hfail).1
      rcases hr with rfl | rfl <;> rcases hr' with rfl | rfl
      · exact (hne rfl).elim
      · exact (hboth ⟨hv, hv'⟩).elim
      · exact (hboth ⟨hv', hv⟩).elim
      · exact (hne rfl).elim

/-- **The sets are disjoint** exactly when the claims are. -/
theorem areDisjoint_filled_iff : (s.filled bounds).AreDisjoint ↔ s.AreDisjoint := by
  constructor
  · intro h r r' hne v hv hv'
    exact h r r' hne v (subset_filled r hv) (subset_filled r' hv')
  · intro h r r' hne v hv hv'
    obtain ⟨hr, hr'⟩ := (mem_filled_both_iff hne).1 ⟨hv, hv'⟩
    exact h r r' hne v hr hr'

end Sets

/-! ### The die and its four sets -/

/-- **The sets of a check divide its die**: they hold values of the die, the critical ones just what
is claimed for them and the other two at least that, and no value belongs to two of them unless both
have claimed it. -/
theorem computeSets_partition {d : Dice} (hsides : 0 < d.sides) (hbands : AreRecords bands)
    (hlegible : areLegible limit bands) :
    ∃ s, computeSets limit (.obj bands) d.bounds onCritFail onCritSuccess = .ok s ∧
      (∀ r, s.of r ⊆ d.bounds.values) ∧
      let claims := claimedSets bands d.bounds onCritFail onCritSuccess
      s.critFail = claims.critFail ∧ s.critSuccess = claims.critSuccess ∧
      (∀ r, claims.of r ⊆ s.of r) ∧
      (∀ r r', r ≠ r' → ∀ v, v ∈ s.of r ∧ v ∈ s.of r' ↔ v ∈ claims.of r ∧ v ∈ claims.of r') ∧
      (s.AreDisjoint ↔ claims.AreDisjoint) := by
  have hclaims : ∀ r,
      (claimedSets bands d.bounds onCritFail onCritSuccess).of r ⊆ d.bounds.values :=
    claimedSets_subset (Dice.min_le_max_bounds hsides)
  exact ⟨_, (computeSets_eq_ok_iff hbands).2 ⟨hlegible, rfl⟩, Sets.filled_subset hclaims,
    Sets.critFail_filled, Sets.critSuccess_filled, Sets.subset_filled,
    fun r r' hne v => Sets.mem_filled_both_iff hne, Sets.areDisjoint_filled_iff⟩

/-- On a die with twenty sides the lowest five may fail badly and the next five succeed. -/
theorem computeSets_partition_twenty :
    let bands : Fields Value := [("crit_fail", .obj [("range", .str "1-5")]),
      ("success", .obj [("range", .str "6-10")])]
    AreRecords bands ∧ areLegible .standard bands ∧
      (claimedSets bands ⟨1, 20⟩ false false).AreDisjoint ∧
      ∃ s, computeSets .standard (.obj bands) ⟨1, 20⟩ false false = .ok s ∧
        (∀ r, s.of r ⊆ Bounds.values ⟨1, 20⟩) ∧ s.AreDisjoint := by
  intro bands
  have hbands : AreRecords bands := by decide +kernel
  have hlegible : areLegible .standard bands := by decide +kernel
  have hclaims : (claimedSets bands ⟨1, 20⟩ false false).AreDisjoint := by decide +kernel
  obtain ⟨s, hs, hsubset, -, -, -, -, hdisjoint⟩ :=
    @computeSets_partition _ _ false false ⟨1, 20, 0⟩ (by decide) hbands hlegible
  exact ⟨hbands, hlegible, hclaims, s, hs, hsubset, hdisjoint.2 hclaims⟩

/-- Claims that overlap are not kept apart. -/
theorem not_computeSets_disjoint :
    ¬ ∀ (limit : DigitLimit) (bands : Fields Value) (d : Dice) (onCritFail onCritSuccess : Bool)
      (s : Sets), 0 < d.sides → AreRecords bands →
      computeSets limit (.obj bands) d.bounds onCritFail onCritSuccess = .ok s →
      s.AreDisjoint := by
  intro h
  let bands : Fields Value := [("crit_fail", .obj [("range", .str "1-5")]),
    ("success", .obj [("range", .str "1-10")])]
  have hbands : AreRecords bands := by decide +kernel
  have hlegible : areLegible .standard bands := by decide +kernel
  have hdisjoint := h .standard bands ⟨1, 20, 0⟩ false false _ (by decide) hbands
    ((computeSets_eq_ok_iff hbands).2 ⟨hlegible, rfl⟩)
  rw [Sets.areDisjoint_filled_iff] at hdisjoint
  exact hdisjoint .critFail .success nofun 1 (by decide +kernel) (by decide +kernel)

end Band

end Gamebook
