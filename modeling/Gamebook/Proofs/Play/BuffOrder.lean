/-
**The order of buffs.**

A modifier reads the base stats and the contribution that it belongs to, never what other modifiers
have done.  So each contribution stands for some adjustments of stats that are known beforehand, and
the derived stats are the base stats after all adjustments, cut to their ranges.  Adjustments can be
made in any order, and so can the sums of the contributions to a buff be taken: neither the derived
stats nor the sums depend on the order of the contributions.

This holds for an evaluator whose results for modifiers are integers that are known beforehand.  It
may do other things besides, such as writing to the journal, as long as it stays among worlds in
which the results are these.

Main definitions:

* `Play.Ends` — what an action ends with from every world of some kind;
* `Play.HasInteger` — a formula that has the same integer in every world of some kind;
* `Play.adjustmentsOf`, `Play.instanceAdjustments` — the adjustments of a modifier and of a
  contribution;
* `BuffInstance.sumAt` — the sum of contributions to one buff.

Main results:

* `Play.derive_ends` — **the derived stats are the base stats after all adjustments**;
* `BuffInstance.aggregate_eq` — the sums are taken one by one;
* `Play.derive_aggregate_perm` — **the order of the contributions does not matter**.
-/

import Gamebook.Play.Setup
import Gamebook.Proofs.Adjustment
import Gamebook.Proofs.Number.Range
import Gamebook.Proofs.Play.SyncTogether
import Gamebook.Proofs.Play.Twins

set_option autoImplicit false

namespace Gamebook

namespace Play

variable {α β γ δ : Type} {S : World → Prop}

/-! ### Actions among worlds of some kind -/

/-- From every world of some kind the action ends in one, and its outcome goes together with
another one. -/
def Ends (S : World → Prop) (m : Play α) (r : Except Fault β) (Q : α → β → Prop) : Prop :=
  ∀ w, S w → S (m.runFrom w).2 ∧ Paired False Q (m.runFrom w).1 r

namespace Ends

variable {m : Play α} {r : Except Fault β} {P : α → β → Prop} {Q : γ → δ → Prop}

theorem pure {a : α} {b : β} (h : P a b) : Ends S (pure a) (.ok b) P := fun _ hw => ⟨hw, .ok h⟩

/-- What is done with the result of an action that has one in any case. -/
theorem run_bind {f : α → Play γ} {r : Except Fault δ} {P : α → Prop}
    (hm : ∀ w, S w → ∃ a w', m.runFrom w = (.ok a, w') ∧ S w' ∧ P a)
    (hf : ∀ a, P a → Ends S (f a) r Q) : Ends S (m >>= f) r Q := fun w hw => by
  obtain ⟨a, w', hrun, hw', ha⟩ := hm w hw
  rw [runFrom_bind_ok hrun]
  exact hf a ha w' hw'

theorem bind {f : α → Play γ} {g : β → Except Fault δ} (hm : Ends S m r P)
    (hf : ∀ a b, P a b → Ends S (f a) (g b) Q) : Ends S (m >>= f) (r >>= g) Q := fun w hw => by
  obtain ⟨hw', h⟩ := hm w hw
  rcases hrun : m.runFrom w with ⟨o, w'⟩
  rw [hrun] at hw' h
  dsimp only at hw' h
  cases h with
  | ok h =>
      rw [runFrom_bind_ok hrun]
      exact hf _ _ h w' hw'
  | error e =>
      rw [runFrom_bind_error hrun]
      exact ⟨hw', .error e⟩
  | left hno => exact hno.elim
  | right hno => exact hno.elim

theorem lift_bind {r : Except Fault α} {r' : Except Fault β} {f : α → Play γ}
    {g : β → Except Fault δ} (h : Paired False P r r')
    (hf : ∀ a b, r = .ok a → P a b → Ends S (f a) (g b) Q) :
    Ends S (liftM r >>= f) (r' >>= g) Q := by
  cases h with
  | ok h => exact hf _ _ rfl h
  | error e => exact fun w hw => ⟨hw, .error e⟩
  | left hno => exact hno.elim
  | right hno => exact hno.elim

/-- Both go on with the result of the same computation. -/
theorem same_bind {r : Except Fault α} {f : α → Play γ} {g : α → Except Fault δ}
    (hf : ∀ a, r = .ok a → Ends S (f a) (g a) Q) : Ends S (liftM r >>= f) (r >>= g) Q :=
  lift_bind (.of_eq rfl) fun a b ha hab => by
    subst hab
    exact hf a ha

/-- The action goes on with a result that is known. -/
theorem ok_bind {e : Except Fault α} {a : α} {f : α → Play γ} {r : Except Fault δ}
    (he : e = .ok a) (hf : Ends S (f a) r Q) : Ends S (liftM e >>= f) r Q :=
  run_bind (P := (· = a)) (fun w hw => ⟨a, w, runFrom_liftM_ok he w, hw, rfl⟩) fun _ ha =>
    ha ▸ hf

theorem mapM {f : α → Play γ} {g : α → Except Fault γ} {l : List α}
    (h : ∀ a, Ends S (f a) (g a) Eq) : Ends S (l.mapM f) (l.mapM g) Eq := by
  induction l with
  | nil => exact pure rfl
  | cons a l ih =>
      rw [List.mapM_cons, List.mapM_cons]
      refine (h a).bind fun c d hcd => ih.bind fun cs ds hcds => ?_
      subst hcd hcds
      exact pure rfl

/-- **Steps that each make some adjustments** of stats with integer values. -/
theorem foldlM_adjust {base : Fields Stat} {f : Fields Stat → α → Play (Fields Stat)}
    {g : α → Except Fault (List Adjustment)} {l : List α}
    (h : ∀ a ∈ l, ∀ stats, Stat.IntegerLike base stats →
      Ends S (f stats a) (g a) fun stats' as => stats' = Adjustment.applyAll as stats)
    {stats : Fields Stat} (hstats : Stat.IntegerLike base stats) :
    Ends S (l.foldlM f stats) (l.mapM g) fun stats' ass =>
      stats' = Adjustment.applyAll ass.flatten stats := by
  induction l generalizing stats with
  | nil => exact pure rfl
  | cons a l ih =>
      rw [List.foldlM_cons, List.mapM_cons]
      refine (h a (List.mem_cons_self ..) stats hstats).bind fun stats' as hstats' => ?_
      subst hstats'
      have hrest := ih (fun b hb => h b (List.mem_cons_of_mem a hb)) (hstats.applyAll as)
      rw [← bind_pure (l.foldlM f _)]
      refine hrest.bind fun stats' ass hstats' => pure ?_
      rw [hstats', List.flatten_cons, Adjustment.applyAll_append]

end Ends

/-! ### Modifiers -/

/-- Worlds stay of this kind when the author of the book is warned. -/
def ToleratesWarnings (S : World → Prop) : Prop :=
  ∀ w text, S w → S { w with warnings := w.warnings ++ [text] }

/-- From every world of some kind the formula has this number, whatever else its evaluation does
within worlds of this kind; the number is an integer below `10 ^ 300` in magnitude. -/
structure HasInteger (S : World → Prop) (evaluate : Evaluator) (formula : Value)
    (extra : Fields Value) (n : Int) : Prop where
  small : n.natAbs < tenTo 300
  run : ∀ w, S w → ∃ v w', (evaluate formula extra).runFrom w = (.ok v, w') ∧ S w' ∧
    v.toNumber = .int n

/-- What a modifier of a buff in effect adds to the stats, when the results of formulas with the
contribution as their value are known. -/
def adjustmentsOf (result : Value → Value → Int) (base : Fields Stat) (i : BuffInstance)
    (modifier : Value) : Except Fault (List Adjustment) := do
  let target ← modifier.field "stat"
  match ← Value.lookup base target with
  | none => return []
  | some _ => do
      let n := result (Value.coalesce [← modifier.field "value_expr", .str "$value"]) i.value
      let kind ← modifier.field "type"
      let name ← target.asKey
      if kind.eqv (.str "stat_add_max") then return [⟨name, .max, n⟩]
      else if kind.eqv (.str "stat_add") then return [⟨name, .cur, n⟩]
      else return []

/-- What the modifiers of a buff in effect add to the stats. -/
def instanceAdjustments (result : Value → Value → Int) (buffs : Value) (base : Fields Stat)
    (i : BuffInstance) : Except Fault (List Adjustment) := do
  let definition := (← buffs.fieldAt i.id).orElse (.obj [])
  let modifiers ← ((← definition.field "modifiers").orElse (.list [])).elements
  let adjustments ← modifiers.mapM (adjustmentsOf result base i)
  return adjustments.flatten

variable {evaluate : Evaluator} {result : Value → Value → Int} {buffs : Value}
  {base derived : Fields Stat} {i : BuffInstance}

theorem lookup_integerLike (h : Stat.IntegerLike base derived) (target : Value) :
    Paired False (fun o o' => o.isSome = o'.isSome) (Value.lookup derived target)
      (Value.lookup base target) := by
  unfold Value.lookup
  refine (Paired.of_eq rfl).bind fun name name' hname => ?_
  subst hname
  refine .ok ?_
  have hhas : derived.has name = base.has name := by rw [Fields.has, Fields.has, h.keys]
  cases hb : Fields.get? base name with
  | none =>
      rw [Fields.get?_eq_none_iff.2 (hhas.trans (Fields.get?_eq_none_iff.1 hb))]
  | some s =>
      obtain ⟨s', hs'⟩ := Fields.exists_get?_of_keys_eq h.keys hb
      rw [hs']
      rfl

/-- **A modifier makes its adjustments**, whatever the other modifiers have made of the stats. -/
theorem applyModifier_ends (hS : ToleratesWarnings S)
    (hderived : Stat.IntegerLike base derived) {modifier : Value}
    (h : ∀ f, modifier.field "value_expr" = .ok f →
      HasInteger S evaluate (Value.coalesce [f, .str "$value"]) (modifierNames i.value base)
        (result (Value.coalesce [f, .str "$value"]) i.value)) :
    Ends S (applyModifier evaluate base i derived modifier) (adjustmentsOf result base i modifier)
      fun stats as => stats = Adjustment.applyAll as derived := by
  unfold applyModifier adjustmentsOf
  refine .same_bind fun target _ => ?_
  refine .lift_bind (lookup_integerLike hderived target) fun o o' ho hsome => ?_
  cases o with
  | none =>
      cases o' with
      | none => exact .pure rfl
      | some s => cases hsome
  | some stat =>
      cases o' with
      | none => cases hsome
      | some s =>
          obtain ⟨name, hname, hget⟩ := Value.lookup_eq_some ho
          obtain ⟨c, m, hc, hm⟩ : stat.IsInteger := Fields.forall_get? hderived.integer hget
          refine .same_bind fun f hf => ?_
          obtain ⟨hsmall, hrun⟩ := h f hf
          refine .run_bind hrun fun v hv => ?_
          dsimp only
          rw [hv]
          refine .ok_bind (Value.isFiniteNumber_int hsmall) ?_
          rw [Bool.not_true, if_neg Bool.false_ne_true]
          refine .same_bind fun kind _ => .same_bind fun name' hname' => ?_
          cases hname.symm.trans hname'
          split
          · refine .ok_bind hm (.ok_bind rfl (.pure ?_))
            rw [Adjustment.applyAll_singleton, Adjustment.apply_max hget hm]
          · split
            · refine .ok_bind hc (.ok_bind rfl (.pure ?_))
              rw [Adjustment.applyAll_singleton, Adjustment.apply_cur hget hc]
            · refine .run_bind (P := fun _ => True) (fun w hw => ⟨_, _, rfl, hS w _ hw, trivial⟩)
                fun _ _ => .pure rfl

variable {instances : List BuffInstance}

/-- A contribution makes the adjustments of its modifiers. -/
theorem applyInstance_ends (hS : ToleratesWarnings S)
    (hderived : Stat.IntegerLike base derived)
    (h : ∀ modifiers, modifiersOf buffs i.id = .ok modifiers → ∀ modifier ∈ modifiers,
      ∀ f, modifier.field "value_expr" = .ok f →
        HasInteger S evaluate (Value.coalesce [f, .str "$value"]) (modifierNames i.value base)
          (result (Value.coalesce [f, .str "$value"]) i.value)) :
    Ends S (applyInstance evaluate buffs base derived i) (instanceAdjustments result buffs base i)
      fun stats as => stats = Adjustment.applyAll as derived := by
  unfold applyInstance instanceAdjustments
  refine .same_bind fun buff hbuff => .same_bind fun field hfield => ?_
  refine .same_bind fun modifiers hmodifiers => ?_
  have hof : modifiersOf buffs i.id = .ok modifiers := by
    simp only [modifiersOf, hbuff, bind, Except.bind, hfield, hmodifiers]
  rw [← bind_pure (List.foldlM _ _ _)]
  refine (Ends.foldlM_adjust (fun modifier hmodifier stats hstats => ?_) hderived).bind
    fun stats ass hstats => .pure hstats
  exact applyModifier_ends hS hstats (h modifiers hof modifier hmodifier)

/-- Some stats cut to their ranges. -/
def clampEach (stats : Fields Stat) : Except Fault (Fields Stat) :=
  stats.mapM fun (id, s) => do return (id, ← s.clamp)

/-- **The derived stats are the base stats after all adjustments**, cut to their ranges. -/
theorem derive_ends (hS : ToleratesWarnings S)
    (hbase : Stat.AllInteger base)
    (h : ForModifiers (fun formula value =>
      HasInteger S evaluate formula (modifierNames value base) (result formula value)) buffs
      instances) :
    Ends S (derive evaluate buffs base instances)
      (instances.mapM (instanceAdjustments result buffs base) >>= fun ass =>
        clampEach (Adjustment.applyAll ass.flatten base)) Eq := by
  unfold derive
  refine (Ends.foldlM_adjust (fun i hi stats hstats => ?_) ⟨rfl, hbase⟩).bind
    fun stats ass hstats => ?_
  · exact applyInstance_ends hS hstats (h i hi)
  · subst hstats
    exact .mapM fun entry => .same_bind fun s _ => .pure rfl

/-- Stats with integer values can be cut to their ranges. -/
theorem exists_clampEach {stats : Fields Stat} (h : Stat.AllInteger stats) :
    ∃ derived, clampEach stats = .ok derived :=
  exists_mapM fun entry hentry => by
    obtain ⟨s, hs, -⟩ := (h entry hentry).isProper.clamp
    refine ⟨(entry.1, s), ?_⟩
    dsimp only
    rw [hs]
    rfl

end Play

/-! ### Buffs that can be read -/

/-- A modifier is a record that names a stat. -/
def Value.IsModifier (modifier : Value) : Prop :=
  ∃ fields name, modifier = .obj fields ∧
    (Value.ofOption (Fields.get? fields "stat")).asKey = .ok name

/-- The buff of a contribution has a name, and its modifiers can be read. -/
structure BuffInstance.IsReadable (buffs : Value) (i : BuffInstance) : Prop where
  name : ∃ name, i.id.asKey = .ok name
  modifiers : ∃ modifiers, Play.modifiersOf buffs i.id = .ok modifiers ∧
    ∀ modifier ∈ modifiers, modifier.IsModifier

namespace Play

variable {result : Value → Value → Int} {buffs : Value} {base : Fields Stat} {i : BuffInstance}

theorem exists_adjustmentsOf {modifier : Value} (h : modifier.IsModifier) :
    ∃ as, adjustmentsOf result base i modifier = .ok as := by
  obtain ⟨fields, name, rfl, hname⟩ := h
  unfold adjustmentsOf
  rw [Value.field_obj, Value.field_obj, Value.field_obj]
  simp only [bind, Except.bind, Value.lookup, hname, pure, Except.pure]
  split
  · exact ⟨_, rfl⟩
  · split
    · exact ⟨_, rfl⟩
    · split <;> exact ⟨_, rfl⟩

theorem exists_instanceAdjustments (h : i.IsReadable buffs) :
    ∃ as, instanceAdjustments result buffs base i = .ok as := by
  obtain ⟨modifiers, hmodifiers, hall⟩ := h.modifiers
  obtain ⟨buff, hbuff, hmodifiers⟩ := exists_of_bind_eq_ok hmodifiers
  obtain ⟨field, hfield, hmodifiers⟩ := exists_of_bind_eq_ok hmodifiers
  have hadjust : ∀ modifier ∈ modifiers, ∃ as, adjustmentsOf result base i modifier = .ok as :=
    fun modifier hmodifier => exists_adjustmentsOf (hall modifier hmodifier)
  obtain ⟨ass, hass⟩ := exists_mapM hadjust
  refine ⟨ass.flatten, ?_⟩
  unfold instanceAdjustments
  simp only [hbuff, hfield, hmodifiers, hass, bind, Except.bind, pure, Except.pure]

end Play

/-! ### Sums -/

/-- The value is an integer below `10 ^ 300` in magnitude. -/
def Value.IsSmallInteger (v : Value) : Prop := ∃ n : Int, n.natAbs < tenTo 300 ∧ v = .int n

namespace BuffInstance

/-- The integer that a contribution is worth. -/
def amount (i : BuffInstance) : Int :=
  match i.value with
  | .num (.int n) => n
  | _ => 0

/-- The name of the buff that a contribution goes to, and the integer that it is worth. -/
def named (i : BuffInstance) : Except Fault (Key × Int) := do return (← i.id.asKey, i.amount)

/-- The sum for one buff after a further contribution.  Before the first one there is none. -/
def sumAt (k : Key) (sum : Option Int) (c : Key × Int) : Option Int :=
  if c.1.same k then some (sum.getD 0 + c.2) else sum

/-- Two contributions can change places. -/
theorem sumAt_comm (k : Key) (sum : Option Int) (c d : Key × Int) :
    sumAt k (sumAt k sum c) d = sumAt k (sumAt k sum d) c := by
  cases hc : c.1.same k <;> cases hd : d.1.same k <;> simp [sumAt, hc, hd, Int.add_right_comm]

theorem add_eq {totals : BuffTotals} {sums : Key → Option Int}
    (hsums : ∀ k, totals.get? k = (sums k).map Number.int) {id : Value} {name : Key}
    (hname : id.asKey = .ok name) (n : Int) :
    totals.add id (.int n) = .ok (totals.set name (.int ((sums name).getD 0 + n))) := by
  have hsum : (totals.get? name).getD (.int 0) = .int ((sums name).getD 0) := by
    rw [hsums]
    cases sums name <;> rfl
  rw [BuffTotals.add, hname]
  dsimp only [bind, Except.bind]
  rw [hsum]
  rfl

/-- A contribution is added to the sum for its buff. -/
theorem get?_add {totals : BuffTotals} {sums : Key → Option Int}
    (hsums : ∀ k, totals.get? k = (sums k).map Number.int) (name k : Key) (n : Int) :
    (totals.set name (.int ((sums name).getD 0 + n))).get? k =
      (sumAt k (sums k) (name, n)).map Number.int := by
  rw [Fields.get?_set, sumAt]
  split
  · rename_i hsame
    have hsum : sums name = sums k := by
      refine Option.map_injective (fun a b h => Number.int.inj h) ?_
      rw [← hsums, ← hsums, Fields.get?_congr hsame]
    rw [hsum]
    rfl
  · exact hsums k

/-- **The sums are taken one by one**: there are sums exactly if every contribution goes to a buff
that has a name, and then they are the sums of what the contributions to each buff are worth. -/
theorem aggregateFrom_paired {instances : List BuffInstance}
    (h : ∀ i ∈ instances, i.value.IsSmallInteger) {totals : BuffTotals} {sums : Key → Option Int}
    (hsums : ∀ k, totals.get? k = (sums k).map Number.int) :
    Paired False (fun t cs => ∀ k, t.get? k = (List.foldl (sumAt k) (sums k) cs).map Number.int)
      (aggregateFrom totals instances) (instances.mapM named) := by
  induction instances generalizing totals sums with
  | nil => exact .ok hsums
  | cons i rest ih =>
      obtain ⟨⟨n, hsmall, hn⟩, hrest⟩ := List.forall_mem_cons.1 h
      have hamount : i.amount = n := by rw [amount, hn]
      rw [aggregateFrom, List.mapM_cons, named, hamount, hn, Value.isFiniteNumber_int hsmall]
      change Paired False _ (totals.add i.id (.int n) >>= fun t => aggregateFrom t rest) _
      cases hname : i.id.asKey with
      | error e =>
          rw [BuffTotals.add, hname]
          exact .error e
      | ok name =>
          rw [add_eq hsums hname n]
          change Paired False _ (aggregateFrom _ rest)
            (rest.mapM named >>= fun cs => Except.ok ((name, n) :: cs))
          rw [← bind_pure (aggregateFrom _ rest)]
          refine (ih hrest fun k => get?_add hsums name k n).bind fun t cs ht => ?_
          exact .ok ht

theorem aggregate_paired {instances : List BuffInstance}
    (h : ∀ i ∈ instances, i.value.IsSmallInteger) :
    Paired False (fun t cs => ∀ k, t.get? k = (List.foldl (sumAt k) none cs).map Number.int)
      (aggregate instances) (instances.mapM named) :=
  aggregateFrom_paired h fun _ => rfl

end BuffInstance

/-! ### The order of the contributions -/

namespace Play

variable {α : Type} {S : World → Prop} {evaluate : Evaluator} {result : Value → Value → Int}
  {buffs : Value} {base : Fields Stat} {instances instances' : List BuffInstance}

/-- The two computations have the same results, apart from a relation: where one of them has a
result, so has the other. -/
def SameResults (Q : α → α → Prop) (r r' : Except Fault α) : Prop :=
  (∀ a, r = .ok a → ∃ b, r' = .ok b ∧ Q a b) ∧ ∀ b, r' = .ok b → ∃ a, r = .ok a ∧ Q a b

theorem forModifiers_perm {F : Value → Value → Prop} (h : instances.Perm instances')
    (hF : ForModifiers F buffs instances) : ForModifiers F buffs instances' := fun i hi =>
  hF i (h.mem_iff.2 hi)

theorem exists_derived (hbase : Stat.AllInteger base)
    (h : ∀ i ∈ instances, ∃ as, instanceAdjustments result buffs base i = .ok as) :
    ∃ stats, (instances.mapM (instanceAdjustments result buffs base) >>= fun ass =>
      clampEach (Adjustment.applyAll ass.flatten base)) = .ok stats := by
  obtain ⟨ass, hass⟩ := exists_mapM h
  have hadjusted : Stat.IntegerLike base base := ⟨rfl, hbase⟩
  obtain ⟨stats, hstats⟩ := exists_clampEach (hadjusted.applyAll ass.flatten).integer
  refine ⟨stats, ?_⟩
  rw [hass]
  exact hstats

theorem exists_aggregate (hvalues : ∀ i ∈ instances, i.value.IsSmallInteger)
    (hnames : ∀ i ∈ instances, ∃ name, i.id.asKey = .ok name) :
    ∃ totals, BuffInstance.aggregate instances = .ok totals := by
  obtain ⟨cs, hcs⟩ : ∃ cs, instances.mapM BuffInstance.named = .ok cs := exists_mapM fun i hi => by
    obtain ⟨name, hname⟩ := hnames i hi
    refine ⟨(name, i.amount), ?_⟩
    rw [BuffInstance.named, hname]
    rfl
  have hsums := (BuffInstance.aggregate_paired hvalues).symm
  rw [hcs] at hsums
  obtain ⟨totals, htotals, -⟩ := hsums.exists_of_ok
  exact ⟨totals, htotals⟩

/-- The derived stats that contributions give they give in every order. -/
theorem derived_perm (h : instances.Perm instances') {stats : Fields Stat}
    (hstats : (instances.mapM (instanceAdjustments result buffs base) >>= fun ass =>
      clampEach (Adjustment.applyAll ass.flatten base)) = .ok stats) :
    (instances'.mapM (instanceAdjustments result buffs base) >>= fun ass =>
      clampEach (Adjustment.applyAll ass.flatten base)) = .ok stats := by
  obtain ⟨ass, hass, hclamp⟩ := exists_of_bind_eq_ok hstats
  obtain ⟨ass', hass', hperm⟩ := mapM_perm h hass
  rw [hass']
  dsimp only [bind, Except.bind]
  rwa [← Adjustment.applyAll_perm hperm.flatten]

/-- The sums that contributions have they have in every order. -/
theorem aggregate_perm (hvalues : ∀ i ∈ instances, i.value.IsSmallInteger)
    (h : instances.Perm instances') {totals : BuffTotals}
    (htotals : BuffInstance.aggregate instances = .ok totals) :
    ∃ totals', BuffInstance.aggregate instances' = .ok totals' ∧
      ∀ k, totals.get? k = totals'.get? k := by
  have hvalues' : ∀ i ∈ instances', i.value.IsSmallInteger := fun i hi =>
    hvalues i (h.mem_iff.2 hi)
  have hsums := BuffInstance.aggregate_paired hvalues
  rw [htotals] at hsums
  obtain ⟨cs, hcs, hget⟩ := hsums.exists_of_ok
  obtain ⟨cs', hcs', hperm⟩ := mapM_perm h hcs
  have hsums' := (BuffInstance.aggregate_paired hvalues').symm
  rw [hcs'] at hsums'
  obtain ⟨totals', htotals', hget'⟩ := hsums'.exists_of_ok
  refine ⟨totals', htotals', fun k => ?_⟩
  rw [hget, hget', hperm.foldl_eq' fun c _ d _ sum => BuffInstance.sumAt_comm k sum c d]

/-- **The order of the contributions does not matter.**  Let the base stats, the contributions and
the results of the modifiers be integers, the results being determined by the formula and by the
value of the contribution, beside the base stats.  Then the derived stats are the same for the
contributions in another order, whatever worlds the two derivations start from, and so is the sum of
the contributions to each buff.  Where the buffs can be read there are derived stats and sums. -/
theorem derive_aggregate_perm (hS : ToleratesWarnings S) (hbase : Stat.AllInteger base)
    (hvalues : ∀ i ∈ instances, i.value.IsSmallInteger)
    (hresults : ForModifiers (fun formula value =>
      HasInteger S evaluate formula (modifierNames value base) (result formula value)) buffs
      instances)
    (horder : instances.Perm instances') {w w' : World} (hw : S w) (hw' : S w') :
    SameResults Eq ((derive evaluate buffs base instances).runFrom w).1
        ((derive evaluate buffs base instances').runFrom w').1 ∧
      SameResults (fun totals totals' => ∀ k, totals.get? k = totals'.get? k)
        (BuffInstance.aggregate instances) (BuffInstance.aggregate instances') ∧
      ((∀ i ∈ instances, i.IsReadable buffs) →
        (∃ stats, ((derive evaluate buffs base instances).runFrom w).1 = .ok stats) ∧
          ∃ totals, BuffInstance.aggregate instances = .ok totals) := by
  have hderive := (derive_ends hS hbase hresults w hw).2.eq
  have hresults' := forModifiers_perm horder hresults
  have hderive' := (derive_ends hS hbase hresults' w' hw').2.eq
  have hvalues' : ∀ i ∈ instances', i.value.IsSmallInteger := fun i hi =>
    hvalues i (horder.mem_iff.2 hi)
  refine ⟨?_, ⟨fun totals h => aggregate_perm hvalues horder h, fun totals' h => ?_⟩,
    fun hreadable => ⟨?_, exists_aggregate hvalues fun i hi => (hreadable i hi).name⟩⟩
  · rw [hderive, hderive']
    exact ⟨fun stats h => ⟨stats, derived_perm horder h, rfl⟩,
      fun stats h => ⟨stats, derived_perm horder.symm h, rfl⟩⟩
  · obtain ⟨totals, htotals, hget⟩ := aggregate_perm hvalues' horder.symm h
    exact ⟨totals, htotals, fun k => (hget k).symm⟩
  · rw [hderive]
    exact exists_derived hbase fun i hi => exists_instanceAdjustments (hreadable i hi)

/-! ### Formulas of the game -/

theorem idle_seenAlike {w w' : World} (h : World.Idle w w') :
    World.SeenAlike [] Formula.chanceCalls w w' where
  digitLimit := by rw [h.settings_eq]
  resources := by rw [h.state_eq]
  day := by rw [h.state_eq]
  node := by rw [h.state_eq]
  inventory := by rw [h.state_eq]
  flags := .of_eq (by rw [h.state_eq])
  stats := .inr (by rw [h.state_eq])
  buffTotals := .inr (by rw [h.state_eq])
  buffInstances := .inr (by rw [h.state_eq])
  roll := by simp [Formula.chanceCalls]
  random := by simp [Formula.chanceCalls]

theorem toleratesWarnings_idle (w : World) : ToleratesWarnings (World.Idle w) := fun v text h =>
  h.trans (.warn v text)

/-- The integer that a formula has in a world, if it has one. -/
def integerIn (w : World) (formula : Value) (extra : Fields Value) : Option Int :=
  match ((evaluator formula extra).runFrom w).1 with
  | .ok v =>
      match v.toNumber with
      | .int n => some n
      | _ => none
  | .error _ => none

/-- A formula without chance that has an integer in a world has it after looking, too. -/
theorem hasInteger_evaluator {w : World} {formula : Value} {extra : Fields Value} {n : Int}
    (hchance : Formula.avoids [] Formula.chanceCalls formula = true) (hn : n.natAbs < tenTo 300)
    (h : integerIn w formula extra = some n) :
    HasInteger (World.Idle w) evaluator formula extra n where
  small := hn
  run w' hw' := by
    unfold integerIn at h
    split at h
    · rename_i v hv
      split at h
      · rename_i m hm
        cases h
        have hextra (k : String) (_ : k ∉ []) := Eq.refl (Fields.get? extra k)
        have halike := (evaluate_alike (idle_seenAlike hw') hextra hchance false).1
        rw [show ((evaluate formula extra false).runFrom w).1 = .ok v from hv] at halike
        obtain ⟨v', hv', hlike⟩ := halike.exists_of_ok
        refine ⟨v', _, runFrom_eq hv', hw'.trans (evaluate_idle formula extra false).world, ?_⟩
        rw [← Formula.toNumber_like hlike, hm]
      · cases h
    · cases h

/-- Two stances that change the armor by what it is. -/
def stances : Value :=
  .obj
    [("berserk", .obj [("modifiers", .list [.obj
      [("type", .str "stat_add"), ("stat", .str "armor"),
        ("value_expr", .str "$stat.armor.cur * $value")]])]),
    ("shield_wall", .obj [("modifiers", .list [.obj
      [("type", .str "stat_add"), ("stat", .str "armor"),
        ("value_expr", .str "$value - $stat.armor.cur")]])])]

/-- One contribution to each stance. -/
def bothStances : List BuffInstance :=
  [⟨.str "berserk", .int 2, "active"⟩, ⟨.str "shield_wall", .int 1, "active"⟩]

/-- A stat that both stances read and change. -/
def armored : Fields Stat := [("armor", Stat.ofInts 5 20)]

/-- A world in which the two stances are taken. -/
def stancesWorld : World := World.closed {} (.constant 1 (.int 0))

theorem bothStances_hasInteger :
    ForModifiers (fun formula value =>
      HasInteger (World.Idle stancesWorld) evaluator formula (modifierNames value armored)
        ((integerIn stancesWorld formula (modifierNames value armored)).getD 0)) stances
      bothStances := by
  intro i hi modifiers hmodifiers modifier hmodifier f hf
  simp only [bothStances, List.mem_cons, List.not_mem_nil, or_false] at hi
  rcases hi with rfl | rfl
  all_goals
    cases hmodifiers
    obtain rfl := List.mem_singleton.1 hmodifier
    cases hf
    exact hasInteger_evaluator (by decide +kernel) (by decide +kernel) (by decide +kernel)

/-- The armor is the same whichever stance was taken first. -/
theorem derive_aggregate_perm_stances :
    ∃ stats totals totals',
      ((derive evaluator stances armored bothStances).runFrom stancesWorld).1 = .ok stats ∧
      ((derive evaluator stances armored bothStances.reverse).runFrom stancesWorld).1 = .ok stats ∧
      BuffInstance.aggregate bothStances = .ok totals ∧
      BuffInstance.aggregate bothStances.reverse = .ok totals' ∧
      ∀ k, totals.get? k = totals'.get? k := by
  have hvalues : ∀ i ∈ bothStances, i.value.IsSmallInteger := by
    simp only [bothStances, List.forall_mem_cons]
    exact ⟨⟨2, by decide +kernel, rfl⟩, ⟨1, by decide +kernel, rfl⟩, nofun⟩
  have hbase : Stat.AllInteger armored :=
    List.forall_mem_singleton.2 (Stat.isInteger_ofInts 5 20)
  obtain ⟨hderive, haggregate, hreturns⟩ := derive_aggregate_perm
    (toleratesWarnings_idle stancesWorld) hbase hvalues bothStances_hasInteger
    (List.reverse_perm bothStances).symm (.refl stancesWorld) (.refl stancesWorld)
  obtain ⟨⟨stats, hstats⟩, totals, htotals⟩ := hreturns fun i hi => by
    simp only [bothStances, List.mem_cons, List.not_mem_nil, or_false] at hi
    rcases hi with rfl | rfl
    all_goals
      exact ⟨⟨_, rfl⟩, _, rfl, List.forall_mem_singleton.2 ⟨_, _, rfl, rfl⟩⟩
  obtain ⟨_, hstats', rfl⟩ := hderive.1 stats hstats
  obtain ⟨totals', htotals', hget⟩ := haggregate.1 totals htotals
  exact ⟨stats, totals, totals', hstats, hstats', htotals, htotals', hget⟩

end Play

end Gamebook
