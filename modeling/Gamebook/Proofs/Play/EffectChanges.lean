/-
**Effects make changes only.**

Every effect makes changes of the kinds that a world can undergo, whatever its formulas evaluate to
and also when it ends in a fault, as long as the nodes and days it leads to do so.

Main definition: `Play.MakesChanges` — nodes and days that make changes only.

Main results:

* `Play.sync_changes`, `Play.updateCur_changes`, `Play.addItem_changes`, … — the parts;
* `Play.applyEffects_changes` — **applying effects makes changes only**.
-/

import Gamebook.Proofs.Play.Change

set_option autoImplicit false

namespace Gamebook

namespace Play

open World Value

variable {P : Value → Prop} {E : Fields Value → Prop} {ends : Prop} {w : World}

/-- What only looks makes changes at most. -/
theorem Leads.changes {α : Type} {m : Play α} {Q : α → World → Prop} (h : Leads Idle w m Q) :
    Leads (Changes P E ends) w m Q :=
  h.mono (fun _ h => h.changes) fun _ _ _ h => h

/-- That it only looked may be kept in mind. -/
theorem Leads.idle_changes {α : Type} {m : Play α} {Q : α → World → Prop}
    (h : Leads Idle w m Q) : Leads (Changes P E ends) w m fun a w' => Idle w w' ∧ Q a w' :=
  h.mono (fun _ h => h.changes) fun _ _ hidle h => ⟨hidle, h⟩

theorem log_changes (text : Value) : Leads (Changes P E ends) w (log text) fun _ _ => True :=
  .modify (Change.log text).changes True.intro

theorem warn_changes (text : String) : Leads (Changes P E ends) w (warn text) fun _ _ => True :=
  .modify (Idle.warn w text).changes True.intro

theorem sync_changes : Leads (Changes P E ends) w sync fun _ _ => True :=
  ⟨Change.sync.changes, fun _ _ => True.intro⟩

theorem keep_changes (n : Number) :
    Leads (Changes P E ends) w (keep n) fun n' w' =>
      n.KeptAs n' ∧ w' = { w with keptNaNs := w'.keptNaNs } := by
  unfold keep
  split
  · refine .get_bind ?_
    have hset : Leads (Changes P E ends) w (set { w with keptNaNs := w.keptNaNs + 1 } : Play PUnit)
        fun _ w' => w' = { w with keptNaNs := w'.keptNaNs } :=
      .of_runFrom (runFrom_set w _) Change.keep.changes fun _ _ => rfl
    exact hset.bind fun _ w' _ hw => .pure ⟨.inr ⟨rfl, _, rfl⟩, hw⟩
  · exact .pure ⟨.inl rfl, rfl⟩

theorem keepValue_changes (v : Value) :
    Leads (Changes P E ends) w (keepValue v) fun v' w' =>
      v.KeptAs v' ∧ w' = { w with keptNaNs := w'.keptNaNs } := by
  unfold keepValue
  split
  · rename_i n
    refine (keep_changes n).bind fun n' w' _ h => .pure ⟨?_, h.2⟩
    exact .inr (.inl ⟨n, n', rfl, rfl, h.1⟩)
  · exact .pure ⟨.inr (.inr ⟨_, rfl, rfl⟩), rfl⟩
  · exact .pure ⟨.inl rfl, rfl⟩

/-- What was just found is still so when a result got a name since. -/
theorem Found.keep {α : Type} {look : Fields Value → Play α} {found : α} {w' : World}
    (h : w.Found E look found) (hw : w' = { w with keptNaNs := w'.keptNaNs }) :
    w'.Found E look found := by
  obtain ⟨extra, before, after, hextra, hrun, hafter⟩ := h
  refine ⟨extra, before, after, hextra, hrun, ?_⟩
  rw [hw, hafter]

/-! ### Stats -/

theorem writeChange_changes (name : String) (before after : Value) (rises : Bool)
    (delta : Number) :
    Leads (Changes P E ends) w (writeChange name before after rises delta) fun _ _ => True := by
  unfold writeChange
  refine .digitLimit_bind <| .lift_bind fun before _ => .lift_bind fun after _ => ?_
  exact .lift_bind fun delta _ => log_changes _

/-- A stat that is found has the name, and the amount is finite. -/
theorem namedStat_leads {R : World → World → Prop} [Std.Refl R] (stat : Value) (amount : Number) :
    Leads R w (namedStat? stat amount) fun found w' =>
      w' = w ∧ ∀ name s, found = some (name, s) → stat.holds = true ∧ stat.asKey = .ok name ∧
        w.state.baseStats.get? name = some s ∧
          (Value.num amount).isFiniteNumber = .ok true := by
  unfold namedStat?
  refine .ite_not (fun _ => .pure ⟨rfl, by simp⟩) fun hholds => ?_
  refine .state_bind <| .lift_bind fun found hfound => ?_
  cases found with
  | none => exact .pure ⟨rfl, by simp⟩
  | some s =>
      refine .lift_bind fun finite hfinite => ?_
      split
      · rename_i hf
        refine .lift_bind fun name hname => .pure ⟨rfl, fun name' s' h => ?_⟩
        cases h
        obtain ⟨k, hk, hget⟩ := Value.lookup_eq_some hfound
        obtain rfl : k = name := Except.ok.inj (hk.symm.trans hname)
        exact ⟨hholds, hname, hget, by rw [hfinite, hf]⟩
      · exact .pure ⟨rfl, by simp⟩

theorem updateCur_changes {effect stat : Value} {amount : Number}
    {update : Value → Except Fault Value} (hamount : w.FoundAmount E effect amount)
    (hupdate : ∀ before v, update before = .ok v →
      ∃ after, v = .num after ∧ effect.Updates P stat amount before after) :
    Leads (Changes P E ends) w (updateCur stat amount update) fun _ _ => True := by
  unfold updateCur
  refine (namedStat_leads stat amount).bind fun found w' _ hfound => ?_
  obtain ⟨rfl, hfound⟩ := hfound
  cases found with
  | none => exact .pure True.intro
  | some named =>
      obtain ⟨name, s⟩ := named
      obtain ⟨-, hname, hget, hfinite⟩ := hfound name s rfl
      refine .lift_bind fun before hbefore => .lift_bind fun v hv => ?_
      obtain ⟨after, rfl, hafter⟩ := hupdate before v hv
      -- keeping a result that is no number counts it, and leaves the rest of the world as it is
      have hkeep : Leads (Changes P E ends) w' (keepValue (.num after)) fun v' w'' =>
          ∃ kept, v' = .num kept ∧ after.KeptAs kept ∧ w'' = { w' with keptNaNs := w''.keptNaNs } :=
        (keep_changes after).bind fun kept w'' _ h => .pure ⟨kept, rfl, h⟩
      refine hkeep.bind fun v' w'' _ hkept => ?_
      obtain ⟨kept, rfl, hkept, hw''⟩ := hkept
      have hchange : Change P E ends w'' (w''.withState { w''.state with
          baseStats := w''.state.baseStats.set name (s.setCur (.num kept)) }) :=
        .cur (Found.keep hamount hw'') hname (by rw [hw'']; exact hget) hbefore hfinite hafter hkept
      have hset : Leads (Changes P E ends) w'' (setStat name (s.setCur (.num kept)))
          fun _ _ => True := .modifyState hchange.changes True.intro
      exact hset.bind fun _ _ _ _ => .lift_bind fun delta _ => .pure True.intro

theorem logChange_changes (change : Option (Key × Value × Value × Number)) :
    Leads (Changes P E ends) w (logChange change) fun _ _ => True := by
  unfold logChange
  split
  · exact .pure True.intro
  · split
    · exact .pure True.intro
    · exact writeChange_changes _ _ _ _ _

theorem addToCur_changes {effect stat : Value} {amount : Number}
    (hamount : w.FoundAmount E effect amount)
    (hadd : ∀ before after, before.plus amount = .ok after →
      effect.Updates P stat amount before after) :
    Leads (Changes P E ends) w (addToCur stat amount) fun _ _ => True := by
  refine updateCur_changes hamount fun before v hv => ?_
  obtain ⟨after, hafter, hv⟩ := exists_of_bind_eq_ok hv
  exact ⟨after, (Except.ok.inj hv).symm, hadd before after hafter⟩

theorem addToMax_changes {effect stat : Value} {amount : Number}
    (heffect : effect.IsEffect P "stat_add_max") (hstat : effect.field "stat" = .ok stat)
    (hamount : w.FoundAmount E effect amount) :
    Leads (Changes P E ends) w (addToMax stat amount) fun _ _ => True := by
  unfold addToMax
  refine (namedStat_leads stat amount).bind fun found w' _ hfound => ?_
  obtain ⟨rfl, hfound⟩ := hfound
  cases found with
  | none => exact .pure True.intro
  | some named =>
      obtain ⟨name, s⟩ := named
      obtain ⟨-, hname, hget, hfinite⟩ := hfound name s rfl
      refine .lift_bind fun before hbefore => .lift_bind fun after hafter => ?_
      refine (keep_changes after).bind fun kept w'' _ hkept => ?_
      obtain ⟨hkept, hw''⟩ := hkept
      have hchange : Change P E ends w'' (w''.withState { w''.state with
          baseStats := w''.state.baseStats.set name (s.setMax (.num kept)) }) :=
        .max heffect hstat (Found.keep hamount hw'') hname (by rw [hw'']; exact hget) hbefore
          hfinite
          hafter hkept
      have hset : Leads (Changes P E ends) w'' (setStat name (s.setMax (.num kept)))
          fun _ _ => True := .modifyState hchange.changes True.intro
      refine hset.bind fun _ _ _ _ => ?_
      split
      · exact writeChange_changes _ _ _ _ _
      · exact .pure True.intro

theorem addToCapacity_changes {effect : Value} {amount : Number}
    (heffect : effect.IsEffect P "capacity_add") (hamount : w.FoundAmount E effect amount) :
    Leads (Changes P E ends) w (addToCapacity amount) fun _ _ => True := by
  unfold addToCapacity
  refine .lift_bind fun finite hfinite => ?_
  refine .ite_not (fun _ => .pure True.intro) fun hf => ?_
  subst hf
  refine .state_bind <| .lift_bind fun capacity hcapacity => .lift_bind fun after hafter => ?_
  refine (keep_changes after).bind fun kept w' _ hkept => ?_
  obtain ⟨hkept, hw'⟩ := hkept
  refine .state_bind <| .lift_bind fun resources hresources => ?_
  have hsame : w'.state.capacity = .ok capacity := by
    rw [hw']
    exact hcapacity
  exact .modifyState (Change.capacity heffect (Found.keep hamount hw') hsame hresources hfinite
    hafter hkept).changes True.intro

/-! ### Items, buffs and flags -/

/-- Nothing is done where the item is not declared or the count is not finite. -/
theorem declaredFinite_leads {R : World → World → Prop} [Std.Refl R] {α : Type} {a : α}
    {m : Play α} {item count : Value}
    (hm : declares w.book.items item = .ok true → count.isFiniteNumber = .ok true →
      Leads R w m fun _ _ => True) :
    Leads R w (do
      if !(← declares (← book).items item) then return a
      if !(← count.isFiniteNumber) then return a
      m) fun _ _ => True := by
  refine .book_bind <| .lift_bind fun declared hdeclared => ?_
  refine .ite_not (fun _ => .pure True.intro) fun hd => ?_
  subst hd
  refine .lift_bind fun finite hfinite => .ite_not (fun _ => .pure True.intro) fun hf => ?_
  subst hf
  exact hm hdeclared hfinite

theorem addItem_changes {effect item count : Value} (heffect : effect.IsEffect P "item_add")
    (hitem : effect.field "item" = .ok item) (hcount : w.FoundCount E effect count) :
    Leads (Changes P E ends) w (addItem item count) fun _ _ => True := by
  unfold addItem
  refine declaredFinite_leads fun hdeclared hfinite => ?_
  refine .state_bind <| .lift_bind fun capacity hcapacity => .lift_bind fun added hadd => ?_
  obtain ⟨accepted, inventory⟩ := added
  have hset : Leads (Changes P E ends) w (modifyState (·.withInventory inventory))
      fun _ _ => True :=
    .modifyState (Change.addItem heffect hitem hcount hdeclared hfinite hcapacity hadd).changes
      True.intro
  refine hset.bind fun _ _ _ _ => ?_
  dsimp only
  split
  · exact (log_changes _).bind fun _ _ _ _ => .pure True.intro
  · exact .pure True.intro

theorem removeItem_changes {item count : Value}
    (hcause : (∃ effect : Value, effect.IsEffect P "item_remove" ∧
      effect.field "item" = .ok item ∧ w.FoundCount E effect count) ∨ count = .int 1) :
    Leads (Changes P E ends) w (removeItem item count) fun _ _ => True := by
  unfold removeItem
  refine declaredFinite_leads fun hdeclared hfinite => ?_
  refine .state_bind <| .lift_bind fun inventory hremove => ?_
  exact .modifyState (Change.removeItem hcause hdeclared hfinite hremove).changes True.intro

theorem addBuff_changes {effect buff given givenValue duration : Value}
    (heffect : effect.IsEffect P "buff_add") (hbuff : effect.field "buff" = .ok buff)
    (hgiven : effect.field "value_expr" = .ok given)
    (hvalue : effect.field "value" = .ok givenValue)
    (hduration : effect.field "duration_days" = .ok duration) :
    Leads (Changes P E ends) w (addBuff buff (Value.coalesce [given, givenValue]) duration)
      fun _ _ => True := by
  unfold addBuff
  refine .book_bind <| .lift_bind fun declared hdeclared => ?_
  refine .ite_not (fun _ => .pure True.intro) fun hd => ?_
  subst hd
  refine .lift_bind fun definition hdefinition => .lift_bind fun formula hformula => ?_
  refine .state_bind ?_
  split
  · rename_i active hactive
    exact .modifyState (Change.addBuff heffect hbuff hdeclared hgiven hvalue hdefinition hformula
      rfl hduration hactive).changes True.intro
  · exact .throw

theorem removeBuff_changes {effect id : Value} (heffect : effect.IsEffect P "buff_remove")
    (hbuff : effect.field "buff" = .ok id) :
    Leads (Changes P E ends) w (removeBuff id) fun _ _ => True := by
  unfold removeBuff
  refine .state_bind <| .lift_bind fun active hactive => .lift_bind fun rest hrest => ?_
  exact .modifyState (Change.removeBuff heffect hbuff hactive hrest).changes True.intro

theorem setFlag_changes {effect flag given givenValue value : Value}
    (heffect : effect.IsEffect P "flag_set") (hflag : effect.field "flag" = .ok flag)
    (hholds : flag.holds = true) (hgiven : effect.field "value_expr" = .ok given)
    (hvalue : effect.field "value" = .ok givenValue)
    (hfound : w.Found E (evaluator (coalesce [given, givenValue, .bool true])) value) :
    Leads (Changes P E ends) w (setFlag flag value) fun _ _ => True := by
  unfold setFlag
  refine (keepValue_changes value).bind fun kept w' _ hkept => ?_
  obtain ⟨hkept, hw'⟩ := hkept
  refine .state_bind <| .lift_bind fun flags hflags => ?_
  exact .modifyState (Change.flag heffect hflag hholds hgiven hvalue (Found.keep hfound hw') hkept
    hflags).changes True.intro

/-! ### Effects -/

theorem amountOf_idle (effect : Value) (extra : Fields Value) (default : Value) :
    Leads Idle w (amountOf effect extra default) fun _ _ => True := by
  unfold amountOf
  refine .lift_bind fun _ _ => .lift_bind fun _ _ => ?_
  exact (evaluator_idle _ _).bind fun _ _ _ _ => .pure True.intro

theorem countOf_idle (effect : Value) (extra : Fields Value) :
    Leads Idle w (countOf effect extra) fun _ _ => True := by
  unfold countOf
  refine .lift_bind fun _ _ => .lift_bind fun _ _ => .lift_bind fun _ _ => ?_
  exact (evaluator_idle _ _).bind fun _ _ _ _ => .pure True.intro

/-- What looking gives is found where it leads to. -/
theorem Leads.found {α : Type} (look : Fields Value → Play α) {extra : Fields Value}
    (h : Leads Idle w (look extra) fun _ _ => True) (hextra : E extra) :
    Leads (Changes P E ends) w (look extra) fun a w' => Idle w w' ∧ w'.Found E look a :=
  h.with_run.mono (fun _ h => h.changes) fun _ w' hidle h =>
    ⟨hidle, extra, w, w', hextra, h.1, rfl⟩

/-- Nodes and days make changes only, in worlds whose books have the property. -/
structure MakesChanges (P : Value → Prop) (E : Fields Value → Prop) (ends : Prop)
    (onward : Onward) : Prop where
  goto (w : World) (id : Value) :
    w.book.Has P → Leads (Changes P E ends) w (onward.goto id) fun _ _ => True
  days (w : World) (amount : Value) :
    w.book.Has P → Leads (Changes P E ends) w (onward.days amount) fun _ _ => True

theorem applyNamed_changes {onward : Onward} (honward : MakesChanges P E ends onward)
    {kind : String} {effect : Value} (heffect : effect.IsEffect P kind) {extra : Fields Value}
    (hextra : E extra) (hbook : w.book.Has P) :
    Leads (Changes P E ends) w (applyNamed onward kind effect extra) fun _ _ => True := by
  have hamount : Leads (Changes P E ends) w (amountOf effect extra (.int 0)) fun amount w' =>
      Idle w w' ∧ w'.FoundAmount E effect amount :=
    Leads.found (fun extra => amountOf effect extra (.int 0)) (amountOf_idle effect extra _) hextra
  have hcount : Leads (Changes P E ends) w (countOf effect extra) fun count w' =>
      Idle w w' ∧ w'.Found E (countOf effect) count :=
    Leads.found (countOf effect) (countOf_idle effect extra) hextra
  unfold applyNamed
  split
  -- stats, money and the capacity
  · refine hamount.bind fun amount w₁ _ hamount => .lift_bind fun stat hstat => ?_
    exact (addToCur_changes hamount.2 fun _ _ h => .add heffect hstat h).bind
      fun change _ _ _ => logChange_changes change
  · refine hamount.bind fun amount w₁ _ hamount => .lift_bind fun stat hstat => ?_
    have hset : Leads (Changes P E ends) w₁ (updateCur stat amount fun _ => .ok (.num amount))
        fun _ _ => True :=
      updateCur_changes hamount.2 fun before v hv =>
        ⟨amount, (Except.ok.inj hv).symm, .set heffect hstat⟩
    exact hset.bind fun change _ _ _ => logChange_changes change
  · refine hamount.bind fun amount w₁ _ hamount => .lift_bind fun stat hstat => ?_
    exact addToMax_changes heffect hstat hamount.2
  · refine hamount.bind fun amount w₁ _ hamount => ?_
    exact (addToCur_changes hamount.2 fun _ _ h => .money heffect rfl h).bind
      fun _ _ _ _ => .pure True.intro
  · exact hamount.bind fun amount w₁ _ hamount => addToCapacity_changes heffect hamount.2
  -- items, buffs and flags
  · refine hcount.bind fun count w₁ _ hcount => .lift_bind fun item hitem => ?_
    exact (addItem_changes heffect hitem ⟨count, hcount.2, rfl⟩).bind
      fun _ _ _ _ => .pure True.intro
  · refine hcount.bind fun count w₁ _ hcount => .lift_bind fun item hitem => ?_
    exact removeItem_changes (.inl ⟨effect, heffect, hitem, count, hcount.2, rfl⟩)
  · refine .lift_bind fun given hgiven => .lift_bind fun value hvalue => ?_
    refine .lift_bind fun buff hbuff => .lift_bind fun duration hduration => ?_
    exact addBuff_changes heffect hbuff hgiven hvalue hduration
  · exact .lift_bind fun buff hbuff => removeBuff_changes heffect hbuff
  · refine .lift_bind fun flag hflag => ?_
    split
    · rename_i hholds
      refine .lift_bind fun given hgiven => .lift_bind fun value hvalue => ?_
      exact (Leads.found (evaluator _) (evaluator_idle _ extra) hextra).bind fun v _ _ hfound =>
        setFlag_changes heffect hflag hholds hgiven hvalue hfound.2
    · exact .pure True.intro
  -- days, nodes, the journal, and what is not known
  · refine (amountOf_idle effect extra _).changes.bind fun amount w' hw _ => ?_
    exact honward.days w' _ (hw.book_eq ▸ hbook)
  · exact .lift_bind fun node _ => honward.goto w node hbook
  · refine .lift_bind fun formula _ => ?_
    split
    · refine (evaluator_idle _ _).changes.bind fun v _ _ _ => .digitLimit_bind ?_
      exact .lift_bind fun text _ => log_changes _
    · exact .lift_bind fun text _ => log_changes text
  · exact warn_changes _

theorem applyEffect_changes {onward : Onward} (honward : MakesChanges P E ends onward)
    {effect : Value} (heffect : P effect) {extra : Fields Value} (hextra : E extra)
    (hbook : w.book.Has P) :
    Leads (Changes P E ends) w (applyEffect onward effect extra) fun _ _ => True := by
  unfold applyEffect
  split
  · rename_i fields
    dsimp only
    split
    · exact .pure True.intro
    · split
      · rename_i kind hkind
        exact applyNamed_changes honward ⟨heffect, by rw [field_obj, hkind]⟩ hextra hbook
      · exact warn_changes _
  · exact .pure True.intro

/-- **Applying effects makes changes only.** -/
theorem applyEffects_changes (hP : Hereditary P) {onward : Onward}
    (honward : MakesChanges P E ends onward) {effects : Value} (heffects : P effects)
    {extra : Fields Value} (hextra : E extra) (hbook : w.book.Has P) :
    Leads (Changes P E ends) w (applyEffects onward effects extra) fun _ _ => True := by
  unfold applyEffects
  refine .lift_bind fun es hes => .forM fun effect hmem w' hw => ?_
  exact applyEffect_changes honward (hP.element (hP.orElse_none heffects) hes effect hmem) hextra
    (hw.book_eq ▸ hbook)

end Play

end Gamebook
