/-
**Effects that return.**

A plain effect names what it changes, has a formula that rolls no dice, and moves neither to another
node nor to another day.  In a world of the expected shape, applying plain effects can only fail for
an integer that is too large.  Where no integer on the way is, it returns, and an effect whose
amount or count is not finite changes nothing.

Main definitions:

* `Value.quantityFormula?`, `Value.contentFormula?` — the formula of an effect;
* `Value.IsPlainEffect` — plain effects;
* `Play.EffectsInRange` — effects that meet no integer that is too large.

Main results:

* `Play.applyEffects_returns` — **applying plain effects returns**;
* `Play.applyEffect_skipped` — **an effect whose amount or count is not finite is skipped**.
-/

import Gamebook.Proofs.Play.Capacity
import Gamebook.Proofs.Play.ChangeReturns

set_option autoImplicit false

namespace Gamebook

open World Fault Value

variable {loose : Prop} {w : World} {extra fields : Fields Value} {kind : String}

/-! ### The formulas of effects -/

namespace Value

/-- The formula for the amount of an effect. -/
def amountFormula (fields : Fields Value) : Value :=
  coalesce [ofOption (fields.get? "value_expr"), ofOption (fields.get? "value"), .int 0]

/-- The kinds of effects that have an amount. -/
def amountKinds : List String :=
  ["stat_add", "stat_set", "stat_add_max", "money_add", "capacity_add"]

/-- The kinds of effects that have a count. -/
def countKinds : List String := ["item_add", "item_remove"]

/-- The formula of an effect with an amount or a count. -/
def quantityFormula? (kind : String) (fields : Fields Value) : Option Value :=
  if kind ∈ amountKinds then some (amountFormula fields)
  else if kind ∈ countKinds then some (countFormula fields)
  else none

/-- The formula of an effect that sets a flag or writes to the journal. -/
def contentFormula? (kind : String) (fields : Fields Value) : Option Value :=
  if kind = "flag_set" then
    if (ofOption (fields.get? "flag")).holds then
      some (coalesce
        [ofOption (fields.get? "value_expr"), ofOption (fields.get? "value"), .bool true])
    else none
  else if kind = "log" then
    if (ofOption (fields.get? "text_expr")).holds then some (ofOption (fields.get? "text_expr"))
    else none
  else none

/-- The kind of an effect and its fields; what is no record with a text for its type is none. -/
def effectOf? : Value → Option (String × Fields Value)
  | .obj fields =>
      match ofOption (Fields.get? fields "type") with
      | .str kind => some (kind, fields)
      | _ => none
  | _ => none

/-- An effect of the kind leads to no node and no day, names what it changes, and has a formula that
rolls no dice. -/
structure IsPlain (kind : String) (fields : Fields Value) : Prop where
  ne_goto : kind ≠ "goto"
  ne_advance_day : kind ≠ "advance_day"
  isId : ∀ k ∈ ["stat", "item", "buff", "flag"], (ofOption (fields.get? (.text k))).isId = true
  quantity : ∀ f ∈ quantityFormula? kind fields, Formula.avoids [] Play.diceCalls f = true
  content : ∀ f ∈ contentFormula? kind fields, Formula.avoids [] Play.diceCalls f = true

instance (kind : String) (fields : Fields Value) : Decidable (IsPlain kind fields) :=
  decidable_of_iff (_ ∧ _ ∧ _ ∧ _ ∧ _)
    ⟨fun ⟨hgoto, hdays, hid, hq, hc⟩ => ⟨hgoto, hdays, hid, hq, hc⟩,
      fun h => ⟨h.ne_goto, h.ne_advance_day, h.isId, h.quantity, h.content⟩⟩

/-- The value is a plain effect, or none that does anything. -/
def IsPlainEffect (effect : Value) : Prop := ∀ e ∈ effectOf? effect, IsPlain e.1 e.2

instance (effect : Value) : Decidable effect.IsPlainEffect :=
  inferInstanceAs (Decidable (∀ e ∈ effectOf? effect, IsPlain e.1 e.2))

theorem quantityFormula_of_amountKind (h : kind ∈ amountKinds) :
    quantityFormula? kind fields = some (amountFormula fields) := if_pos h

theorem quantityFormula_of_countKind (h : kind ∉ amountKinds) (h' : kind ∈ countKinds) :
    quantityFormula? kind fields = some (countFormula fields) := by
  rw [quantityFormula?, if_neg h, if_pos h']

end Value

/-! ### Single effects -/

namespace Play

/-- The formula of an effect meets no integer that is too large: none with too many digits on the
way to its value; an amount or a count is not beyond the floats, and a line for the journal can be
written. -/
structure FormulaInRange (extra : Fields Value) (kind : String) (fields : Fields Value)
    (w : World) : Prop where
  quantity : ∀ f ∈ quantityFormula? kind fields,
    Gives w extra false f fun v => v.toNumber.InRange
  content : ∀ f ∈ contentFormula? kind fields,
    Gives w extra false f fun v => kind = "log" → v.isWritable w.settings.digitLimit = true

instance (extra : Fields Value) (kind : String) (fields : Fields Value) (w : World) :
    Decidable (FormulaInRange extra kind fields w) :=
  decidable_of_iff (_ ∧ _) ⟨fun ⟨hq, hc⟩ => ⟨hq, hc⟩, fun h => ⟨h.quantity, h.content⟩⟩

/-- The value of a formula, taken for a number. -/
def quantityOf (extra : Fields Value) (formula : Value) : Play Number := do
  return (← evaluator formula extra).toNumber

theorem amountOf_eq (fields extra : Fields Value) :
    amountOf (.obj fields) extra (.int 0) = quantityOf extra (amountFormula fields) := rfl

theorem countOf_eq (fields extra : Fields Value) :
    countOf (.obj fields) extra = quantityOf extra (countFormula fields) := rfl

theorem quantityOf_returns (hw : w.Ready loose) {formula : Value}
    (hformula : Formula.avoids [] diceCalls formula = true)
    (h : ¬ loose → Gives w extra false formula fun v => v.toNumber.InRange) :
    Returns (Allowed loose) w (quantityOf extra formula) fun n w' =>
      w'.Ready loose ∧ (¬ loose → n.InRange) := by
  unfold quantityOf evaluator
  refine (evaluate_returns hw.shaped hformula h).bind fun v w' hv => .pure ?_
  exact ⟨hv.2.1.ready hw, hv.2.2⟩

/-- The amount or the count of a plain effect, whichever it has. -/
theorem quantityOf_effect_returns (hw : w.Ready loose) (hplain : IsPlain kind fields)
    (h : ¬ loose → FormulaInRange extra kind fields w) {formula : Value}
    (hformula : quantityFormula? kind fields = some formula) :
    Returns (Allowed loose) w (quantityOf extra formula) fun n w' =>
      w'.Ready loose ∧ (¬ loose → n.InRange) :=
  quantityOf_returns hw (hplain.quantity _ hformula) fun hl => (h hl).quantity _ hformula

theorem applyNamed_returns (onward : Onward) (hw : w.Ready loose) (hplain : IsPlain kind fields)
    (h : ¬ loose → FormulaInRange extra kind fields w) :
    Returns (Allowed loose) w (applyNamed onward kind (.obj fields) extra) fun _ _ => True := by
  have hstat := hplain.isId "stat" (by simp)
  have hitem := hplain.isId "item" (by simp)
  have hbuff := hplain.isId "buff" (by simp)
  have hflag := hplain.isId "flag" (by simp)
  have hamount : kind ∈ amountKinds → Returns (Allowed loose) w
      (amountOf (.obj fields) extra (.int 0)) fun n w' =>
        w'.Ready loose ∧ (¬ loose → n.InRange) := fun hkind =>
    quantityOf_effect_returns hw hplain h (quantityFormula_of_amountKind hkind)
  have hcount : kind ∉ amountKinds → kind ∈ countKinds → Returns (Allowed loose) w
      (countOf (.obj fields) extra) fun n w' =>
        w'.Ready loose ∧ (¬ loose → n.InRange) := fun hkind hkind' =>
    quantityOf_effect_returns hw hplain h (quantityFormula_of_countKind hkind hkind')
  unfold applyNamed
  split
  -- stats, money and the capacity
  · refine (hamount (by decide)).bind fun n w₁ hn => .lift_ok_bind rfl ?_
    exact (addToCur_returns hn.1 hstat hn.2).bind fun _ _ hchange => logChange_returns hchange
  · refine (hamount (by decide)).bind fun n w₁ hn => .lift_ok_bind rfl ?_
    exact (setCur_returns hn.1 hstat hn.2).bind fun _ _ hchange => logChange_returns hchange
  · refine (hamount (by decide)).bind fun n w₁ hn => .lift_ok_bind rfl ?_
    exact addToMax_returns hn.1 hstat hn.2
  · refine (hamount (by decide)).bind fun n w₁ hn => ?_
    exact (addToCur_returns hn.1 rfl hn.2).bind fun _ _ _ => .pure trivial
  · exact (hamount (by decide)).bind fun n w₁ hn => addToCapacity_returns hn.1 hn.2
  -- items, buffs and flags
  · refine (hcount (by decide) (by decide)).bind fun n w₁ hn => .lift_ok_bind rfl ?_
    exact (addItem_returns hn.1 hitem hn.2).bind fun _ _ _ => .pure trivial
  · refine (hcount (by decide) (by decide)).bind fun n w₁ hn => .lift_ok_bind rfl ?_
    exact removeItem_returns hn.1 hitem hn.2
  · refine .lift_ok_bind rfl <| .lift_ok_bind rfl <| .lift_ok_bind rfl <| .lift_ok_bind rfl ?_
    exact addBuff_returns hw.shaped hbuff _ _
  · exact .lift_ok_bind rfl (removeBuff_returns hw.shaped _)
  · refine .lift_ok_bind rfl ?_
    split
    · rename_i hholds
      have hformula : contentFormula? "flag_set" fields = some (coalesce
          [ofOption (fields.get? "value_expr"), ofOption (fields.get? "value"), .bool true]) := by
        rw [contentFormula?, if_pos rfl, if_pos hholds]
      obtain ⟨name, hname⟩ := exists_key_of_isId hflag hholds
      refine .lift_ok_bind rfl <| .lift_ok_bind rfl ?_
      refine (evaluate_returns hw.shaped (hplain.content _ hformula)
        fun hl => (h hl).content _ hformula).bind fun v w₁ hv => ?_
      exact setFlag_returns (hv.2.1.isShaped hw.shaped).flags hname v
    · exact .pure trivial
  -- the journal, and what is not known
  · exact absurd rfl hplain.ne_advance_day
  · exact absurd rfl hplain.ne_goto
  · refine .lift_ok_bind rfl ?_
    split
    · rename_i hholds
      have hformula : contentFormula? "log" fields =
          some (ofOption (fields.get? "text_expr")) := by
        rw [contentFormula?, if_neg (by decide), if_pos rfl, if_pos hholds]
      refine (evaluate_returns hw.shaped (hplain.content _ hformula)
        fun hl => (h hl).content _ hformula).bind fun v w₁ hv => .digitLimit_bind ?_
      refine .lift_bind (displayWithin_allowed fun hl => ?_) fun text _ => log_returns _
      rw [hv.2.1.settings_eq]
      exact hv.2.2 hl rfl
    · exact .lift_ok_bind rfl (log_returns _)
  · exact .modify trivial

/-- The formula of the effect, if it has one, meets no integer that is too large. -/
def EffectInRange (extra : Fields Value) (effect : Value) (w : World) : Prop :=
  ∀ e ∈ effectOf? effect, FormulaInRange extra e.1 e.2 w

instance (extra : Fields Value) (effect : Value) (w : World) :
    Decidable (EffectInRange extra effect w) :=
  inferInstanceAs (Decidable (∀ e ∈ effectOf? effect, FormulaInRange extra e.1 e.2 w))

/-- What is no effect does nothing, or warns the author. -/
theorem applyEffect_of_none (onward : Onward) (extra : Fields Value) {effect : Value}
    (h : effectOf? effect = none) :
    (applyEffect onward effect extra = pure ()) ∨
      ∃ text, applyEffect onward effect extra = warn text := by
  cases effect with
  | obj fields =>
      simp only [effectOf?] at h
      unfold applyEffect
      dsimp only
      generalize ofOption (Fields.get? fields "type") = type at h
      cases hholds : type.holds with
      | false => exact .inl rfl
      | true =>
          cases type with
          | str kind => cases h
          | _ => exact .inr ⟨_, rfl⟩
  | _ => exact .inl rfl

/-- An effect does what its kind says; an empty kind says nothing. -/
theorem applyEffect_of_some (onward : Onward) (extra : Fields Value) {effect : Value}
    (h : effectOf? effect = some (kind, fields)) :
    effect = .obj fields ∧ applyEffect onward effect extra =
      if kind.isEmpty then pure () else applyNamed onward kind (.obj fields) extra := by
  cases effect with
  | obj fields =>
      simp only [effectOf?] at h
      split at h
      · rename_i kind' htype
        cases h
        refine ⟨rfl, ?_⟩
        unfold applyEffect
        dsimp only
        rw [htype]
        simp only [Value.holds, Bool.not_not]
      · cases h
  | _ => cases h

/-- **A plain effect returns.** -/
theorem applyEffect_returns (onward : Onward) (hw : w.Ready loose) {effect : Value}
    (hplain : effect.IsPlainEffect) (h : ¬ loose → EffectInRange extra effect w) :
    Returns (Allowed loose) w (applyEffect onward effect extra) fun _ _ => True := by
  cases heffect : effectOf? effect with
  | none =>
      rcases applyEffect_of_none onward extra heffect with h | ⟨text, h⟩
      · rw [h]
        exact .pure trivial
      · rw [h]
        exact .modify trivial
  | some e =>
      obtain ⟨kind, fields⟩ := e
      rw [(applyEffect_of_some onward extra heffect).2]
      split
      · exact .pure trivial
      · exact applyNamed_returns onward hw (hplain _ heffect) fun hl => h hl _ heffect

/-! ### Effects one after the other -/

theorem applyNamed_congr (onward onward' : Onward) {effect : Value} (hgoto : kind ≠ "goto")
    (hdays : kind ≠ "advance_day") :
    applyNamed onward kind effect extra = applyNamed onward' kind effect extra := by
  unfold applyNamed
  split <;> first | rfl | exact absurd rfl hgoto | exact absurd rfl hdays

/-- A plain effect does not go on to a node or a day. -/
theorem applyEffect_congr (onward onward' : Onward) {effect : Value}
    (hplain : effect.IsPlainEffect) :
    applyEffect onward effect extra = applyEffect onward' effect extra := by
  cases effect with
  | obj fields =>
      unfold applyEffect
      dsimp only
      cases htype : ofOption (Fields.get? fields "type") with
      | str kind =>
          have hkind : IsPlain kind fields :=
            hplain (kind, fields) (by rw [effectOf?, htype]; rfl)
          dsimp only
          rw [applyNamed_congr onward onward' hkind.ne_goto hkind.ne_advance_day]
      | _ => rfl
  | _ => rfl

/-- Nodes and days that nothing happens at. -/
def still : Onward := ⟨fun _ => pure (), fun _ => pure ()⟩

theorem makesChanges_still :
    MakesChanges (fun _ => True) (fun _ => True) True still :=
  ⟨fun _ _ _ => .pure trivial, fun _ _ _ => .pure trivial⟩

/-- A plain effect makes changes only, so the world after it has the shape of the one before. -/
theorem isShaped_after (onward : Onward) {effect : Value} (hplain : effect.IsPlainEffect)
    (extra : Fields Value) (hw : w.IsShaped) :
    ((applyEffect onward effect extra).runFrom w).2.IsShaped ∧
      ((applyEffect onward effect extra).runFrom w).2.settings = w.settings := by
  have hchanges : Leads (Changes (fun _ => True) (fun _ => True) True) w
      (applyEffect still effect extra) fun _ _ => True :=
    applyEffect_changes makesChanges_still trivial trivial (Operation.book_has_true _)
  rw [applyEffect_congr onward still hplain]
  exact ⟨isShaped_of_leads hchanges hw, hchanges.world.settings_eq⟩

/-- **No effect meets an integer that is too large**: in the world where it is applied the numbers
of the state and its formula are in range. -/
def EffectsInRange (onward : Onward) (extra : Fields Value) : List Value → World → Prop
  | [], _ => True
  | effect :: effects, w =>
      w.InRange ∧ EffectInRange extra effect w ∧
        EffectsInRange onward extra effects ((applyEffect onward effect extra).runFrom w).2

instance decidableEffectsInRange (onward : Onward) (extra : Fields Value) :
    (effects : List Value) → (w : World) → Decidable (EffectsInRange onward extra effects w)
  | [], _ => .isTrue trivial
  | _ :: effects, _ =>
      have (w' : World) := decidableEffectsInRange onward extra effects w'
      inferInstanceAs (Decidable (_ ∧ _ ∧ _))

/-- **Applying plain effects returns.** -/
theorem applyEffects_returns (onward : Onward) {effects : List Value}
    (hplain : ∀ effect ∈ effects, effect.IsPlainEffect) (hw : w.IsShaped)
    (hlimit : ¬ loose → w.settings.digitLimit.admits DigitLimit.ofRange = true)
    (h : ¬ loose → EffectsInRange onward extra effects w) :
    Returns (Allowed loose) w (applyEffects onward (.list effects) extra) fun _ _ => True := by
  have helements : ((Value.list effects).orElse (.list [])).elements = .ok effects := by
    cases effects <;> rfl
  unfold applyEffects
  refine .lift_ok_bind helements ?_
  clear helements
  induction effects generalizing w with
  | nil => exact .pure trivial
  | cons effect effects ih =>
      obtain ⟨heffect, heffects⟩ := List.forall_mem_cons.1 hplain
      have hready : w.Ready loose := ⟨hw, fun hl => (h hl).1, hlimit⟩
      obtain ⟨hshaped, hsettings⟩ := isShaped_after onward heffect extra hw
      have hreturns := applyEffect_returns onward hready heffect fun hl => (h hl).2.1
      refine Returns.bind (P := fun _ w' => w' = ((applyEffect onward effect extra).runFrom w).2)
        ⟨hreturns.fault, fun _ _ => rfl⟩ fun _ w' hw' => ?_
      subst hw'
      exact ih heffects hshaped (fun hl => by rw [hsettings]; exact hlimit hl)
        fun hl => (h hl).2.2

/-! ### Effects that are skipped -/

theorem namedStat_of_not_finite {stat : Value} {n : Number} (hstat : stat.isId = true)
    (hn : (Value.num n).isFiniteNumber = .ok false) :
    (namedStat? stat n).runFrom w = (.ok none, w) := by
  unfold namedStat?
  cases hholds : stat.holds with
  | false => rfl
  | true =>
      obtain ⟨name, hname⟩ := exists_key_of_isId hstat hholds
      refine (runFrom_bind_ok (runFrom_state w)).trans ?_
      refine (runFrom_bind_ok (runFrom_liftM_ok (lookup_eq hname) w)).trans ?_
      cases w.state.baseStats.get? name with
      | none => rfl
      | some s => exact (runFrom_bind_ok (runFrom_liftM_ok hn w)).trans rfl

theorem updateCur_of_not_finite {stat : Value} {n : Number} (hstat : stat.isId = true)
    (hn : (Value.num n).isFiniteNumber = .ok false) (update : Value → Except Fault Value) :
    (updateCur stat n update).runFrom w = (.ok none, w) :=
  (runFrom_bind_ok (namedStat_of_not_finite hstat hn)).trans rfl

theorem addToMax_of_not_finite {stat : Value} {n : Number} (hstat : stat.isId = true)
    (hn : (Value.num n).isFiniteNumber = .ok false) :
    (addToMax stat n).runFrom w = (.ok (), w) :=
  (runFrom_bind_ok (namedStat_of_not_finite hstat hn)).trans rfl

theorem addToCapacity_of_not_finite {n : Number}
    (hn : (Value.num n).isFiniteNumber = .ok false) :
    (addToCapacity n).runFrom w = (.ok (), w) :=
  (runFrom_bind_ok (runFrom_liftM_ok hn w)).trans rfl

theorem exists_declares {table id : Value} (htable : table.IsRecord) (hid : id.isId = true) :
    ∃ declared, declares table id = .ok declared :=
  (declares_failsOnly (F := fun _ => False) htable hid).exists_ok

/-- Nothing is done with a count that is not finite, whether the item is declared or not. -/
theorem declaredFinite_of_not_finite {α : Type} {a : α} {m : Play α} {item : Value} {n : Number}
    (hw : w.IsShaped) (hitem : item.isId = true)
    (hn : (Value.num n).isFiniteNumber = .ok false) :
    (do
      if !(← declares (← book).items item) then return a
      if !(← (Value.num n).isFiniteNumber) then return a
      m : Play α).runFrom w = (.ok a, w) := by
  obtain ⟨declared, hdeclared⟩ := exists_declares hw.items hitem
  refine (runFrom_bind_ok (runFrom_book w)).trans ?_
  refine (runFrom_bind_ok (runFrom_liftM_ok hdeclared w)).trans ?_
  cases declared with
  | false => rfl
  | true => exact (runFrom_bind_ok (runFrom_liftM_ok hn w)).trans rfl

theorem addItem_of_not_finite {item : Value} {n : Number} (hw : w.IsShaped)
    (hitem : item.isId = true) (hn : (Value.num n).isFiniteNumber = .ok false) :
    (addItem item (.num n)).runFrom w = (.ok true, w) :=
  declaredFinite_of_not_finite hw hitem hn

theorem removeItem_of_not_finite {item : Value} {n : Number} (hw : w.IsShaped)
    (hitem : item.isId = true) (hn : (Value.num n).isFiniteNumber = .ok false) :
    (removeItem item (.num n)).runFrom w = (.ok (), w) :=
  declaredFinite_of_not_finite hw hitem hn

/-- **An effect whose amount or count is not finite is skipped**: the world is left as evaluating
the formula left it. -/
theorem applyEffect_skipped (onward : Onward) (hw : w.IsShaped) {effect formula v : Value}
    {w' : World} (heffect : effectOf? effect = some (kind, fields)) (hplain : IsPlain kind fields)
    (hformula : quantityFormula? kind fields = some formula)
    (hrun : (evaluator formula extra).runFrom w = (.ok v, w'))
    (hv : (Value.num v.toNumber).isFiniteNumber = .ok false) :
    (applyEffect onward effect extra).runFrom w = (.ok (), w') := by
  have hw' : w'.IsShaped := ((evaluator_idle formula extra).world_of_run hrun).isShaped hw
  have hstat := hplain.isId "stat" (by simp)
  have hitem := hplain.isId "item" (by simp)
  have hquantity : (quantityOf extra formula).runFrom w = (.ok v.toNumber, w') :=
    runFrom_bind_ok hrun
  obtain ⟨-, happly⟩ := applyEffect_of_some onward extra heffect
  rw [happly]
  unfold quantityFormula? at hformula
  split at hformula
  · rename_i hkind
    cases hformula
    rw [← amountOf_eq] at hquantity
    simp only [amountKinds, List.mem_cons, List.not_mem_nil, or_false] at hkind
    rcases hkind with rfl | rfl | rfl | rfl | rfl
    · refine (runFrom_bind_ok hquantity).trans <|
        (runFrom_bind_ok (runFrom_liftM_ok rfl w')).trans ?_
      exact (runFrom_bind_ok (updateCur_of_not_finite hstat hv _)).trans rfl
    · refine (runFrom_bind_ok hquantity).trans <|
        (runFrom_bind_ok (runFrom_liftM_ok rfl w')).trans ?_
      exact (runFrom_bind_ok (updateCur_of_not_finite hstat hv _)).trans rfl
    · refine (runFrom_bind_ok hquantity).trans <|
        (runFrom_bind_ok (runFrom_liftM_ok rfl w')).trans ?_
      exact addToMax_of_not_finite hstat hv
    · refine (runFrom_bind_ok hquantity).trans ?_
      exact (runFrom_bind_ok (updateCur_of_not_finite rfl hv _)).trans rfl
    · exact (runFrom_bind_ok hquantity).trans (addToCapacity_of_not_finite hv)
  split at hformula
  · rename_i hkind
    cases hformula
    rw [← countOf_eq] at hquantity
    simp only [countKinds, List.mem_cons, List.not_mem_nil, or_false] at hkind
    rcases hkind with rfl | rfl
    · refine (runFrom_bind_ok hquantity).trans <|
        (runFrom_bind_ok (runFrom_liftM_ok rfl w')).trans ?_
      exact (runFrom_bind_ok (addItem_of_not_finite hw' hitem hv)).trans rfl
    · refine (runFrom_bind_ok hquantity).trans <|
        (runFrom_bind_ok (runFrom_liftM_ok rfl w')).trans ?_
      exact removeItem_of_not_finite hw' hitem hv
  · cases hformula

end Play

end Gamebook
