/-
**Actions that concur.**

The same action can be carried out with other ways to go on to nodes and days.  Where these concur
in every world with a book, so does what is put together from them: both end with the same outcome
in the same world, in which the book is still the same, and they do not end for their depth.  An
action that does not go on to nodes and days concurs with itself.

Main definitions:

* `Play.Concur` — two actions that end alike, and not for their depth, in worlds with a book;
* `Onward.ConcurFor`, `Onward.Concur` — ways to go on that concur, for an effect and for all.

Main results:

* `Play.Concur.bind` — **two actions, each followed by another one**;
* `Play.evaluate_concur`, `Play.sync_concur` — formulas and syncs concur with themselves;
* `Play.applyEffects_concur` — effects concur over ways to go on that concur for each of them;
* `Play.takeChoice_concur`, `Play.takeEntry_concur`, `Play.consume_concur`,
  `Play.acting_concur` — so do the actions of the player.
-/

import Gamebook.Proofs.Play.EffectReturns
import Gamebook.Proofs.Play.Shallow

set_option autoImplicit false

namespace Gamebook

namespace Play

variable {α β : Type} {b : Book}

/-- **In worlds with the book the two actions end alike**, keep the book and do not end for their
depth. -/
def Concur (b : Book) (m m' : Play α) : Prop :=
  ∀ w : World, w.book = b →
    m.runFrom w = m'.runFrom w ∧ (m.runFrom w).2.book = b ∧ Shallow (m.runFrom w).1

namespace Concur

variable {m m' : Play α}

/-- An action concurs with itself when it keeps the book and does not end for its depth. -/
theorem self (h : ∀ w : World, w.book = b → (m.runFrom w).2.book = b ∧ Shallow (m.runFrom w).1) :
    Concur b m m := fun w hw => ⟨rfl, h w hw⟩

theorem pure (a : α) : Concur b (pure a) (pure a) := .self fun _ hw => ⟨hw, .ok a⟩

theorem throw {e : Fault} (h : e.IsShallow) : Concur b (throw e : Play α) (throw e) :=
  .self fun _ hw => ⟨hw, .error h⟩

theorem modify {f : World → World} (h : ∀ w, (f w).book = w.book) :
    Concur b (modify f : Play PUnit) (modify f) :=
  .self fun w hw => ⟨(h w).trans hw, .ok _⟩

theorem modifyState (f : State → State) : Concur b (modifyState f) (modifyState f) :=
  modify fun _ => rfl

/-- **Two actions, each followed by another one.** -/
theorem bind {f f' : α → Play β} (hm : Concur b m m') (hf : ∀ a, Concur b (f a) (f' a)) :
    Concur b (m >>= f) (m' >>= f') := fun w hw => by
  obtain ⟨heq, hbook, hshallow⟩ := hm w hw
  rw [runFrom_bind, runFrom_bind, ← heq]
  generalize m.runFrom w = r at hbook hshallow ⊢
  obtain ⟨r, w'⟩ := r
  cases r with
  | error e => exact ⟨rfl, hbook, .error (hshallow e rfl)⟩
  | ok a => exact hf a w' hbook

theorem lift_bind {e : Except Fault α} {f f' : α → Play β} (he : Shallow e)
    (hf : ∀ a, e = .ok a → Concur b (f a) (f' a)) :
    Concur b (liftM e >>= f) (liftM e >>= f') := fun w hw => by
  rw [runFrom_bind, runFrom_bind, runFrom_liftM]
  cases e with
  | error e => exact ⟨rfl, hw, .error (he e rfl)⟩
  | ok a => exact hf a rfl w hw

theorem get_bind {f f' : World → Play β} (h : ∀ w, w.book = b → Concur b (f w) (f' w)) :
    Concur b (get >>= f) (get >>= f') := fun w hw => by
  rw [runFrom_bind_ok (runFrom_get w), runFrom_bind_ok (runFrom_get w)]
  exact h w hw w hw

theorem book_bind {f f' : Book → Play β} (h : Concur b (f b) (f' b)) :
    Concur b (book >>= f) (book >>= f') := fun w hw => by
  rw [runFrom_bind_ok (runFrom_book w), runFrom_bind_ok (runFrom_book w), hw]
  exact h w hw

theorem state_bind {f f' : State → Play β} (h : ∀ s, Concur b (f s) (f' s)) :
    Concur b (state >>= f) (state >>= f') := fun w hw => by
  rw [runFrom_bind_ok (runFrom_state w), runFrom_bind_ok (runFrom_state w)]
  exact h w.state w hw

theorem digitLimit_bind {f f' : DigitLimit → Play β} (h : ∀ limit, Concur b (f limit) (f' limit)) :
    Concur b (digitLimit >>= f) (digitLimit >>= f') := fun w hw => by
  rw [runFrom_bind_ok (runFrom_digitLimit w), runFrom_bind_ok (runFrom_digitLimit w)]
  exact h w.settings.digitLimit w hw

theorem ite {c : Prop} [Decidable c] {n n' : Play α} (h : c → Concur b m m')
    (h' : ¬ c → Concur b n n') : Concur b (if c then m else n) (if c then m' else n') := by
  split
  · exact h ‹c›
  · exact h' ‹¬ c›

/-! ### Lists -/

theorem forM {f f' : α → Play PUnit} {l : List α} (h : ∀ a ∈ l, Concur b (f a) (f' a)) :
    Concur b (l.forM f) (l.forM f') := by
  induction l with
  | nil => exact pure _
  | cons a l ih =>
      obtain ⟨ha, hl⟩ := List.forall_mem_cons.1 h
      exact ha.bind fun _ => ih hl

theorem foldlM {f f' : β → α → Play β} {l : List α} (h : ∀ a x, Concur b (f x a) (f' x a))
    (x : β) : Concur b (l.foldlM f x) (l.foldlM f' x) := by
  induction l generalizing x with
  | nil => exact pure _
  | cons a l ih =>
      rw [List.foldlM_cons, List.foldlM_cons]
      exact (h a x).bind ih

theorem mapM {f f' : α → Play β} {l : List α} (h : ∀ a, Concur b (f a) (f' a)) :
    Concur b (l.mapM f) (l.mapM f') := by
  induction l with
  | nil =>
      rw [List.mapM_nil, List.mapM_nil]
      exact pure _
  | cons a l ih =>
      rw [List.mapM_cons, List.mapM_cons]
      exact (h a).bind fun _ => ih.bind fun _ => pure _

theorem filterMapM {f f' : α → Play (Option β)} {l : List α} (h : ∀ a, Concur b (f a) (f' a)) :
    Concur b (l.filterMapM f) (l.filterMapM f') := by
  induction l with
  | nil =>
      rw [List.filterMapM_nil, List.filterMapM_nil]
      exact pure _
  | cons a l ih =>
      rw [List.filterMapM_cons, List.filterMapM_cons]
      refine (h a).bind fun x? => ?_
      cases x? with
      | none => exact ih
      | some x => exact ih.bind fun _ => pure _

end Concur

open Value

/-! ### Formulas and conditions -/

theorem evaluate_concur (formula : Value) (extra : Fields Value) (quiet : Bool) :
    Concur b (evaluate formula extra quiet) (evaluate formula extra quiet) :=
  .self fun w hw => ⟨(evaluate_idle formula extra quiet).world.book_eq.trans hw,
    evaluate_shallow formula extra quiet w⟩

theorem evaluator_concur (formula : Value) (extra : Fields Value) :
    Concur b (evaluator formula extra) (evaluator formula extra) :=
  evaluate_concur formula extra false

theorem checkConditions_concur (conditions : Value) (extra : Fields Value) (quiet : Bool) :
    Concur b (checkConditions conditions extra quiet) (checkConditions conditions extra quiet) := by
  have hall (cs : List Value) : Concur b (allHold extra quiet cs) (allHold extra quiet cs) := by
    induction cs with
    | nil => exact .pure _
    | cons c cs ih =>
        refine (evaluate_concur c extra quiet).bind fun v => ?_
        exact .lift_bind (isTrue_shallow v) fun _ _ => .ite (fun _ => ih) fun _ => .pure _
  unfold checkConditions
  refine .ite (fun _ => .pure _) fun _ => ?_
  cases conditions <;> exact hall _

theorem keep_concur (n : Number) : Concur b (keep n) (keep n) := by
  unfold keep
  split <;> exact .self fun _ hw => ⟨hw, .ok _⟩

theorem keepValue_concur (v : Value) : Concur b (keepValue v) (keepValue v) := by
  cases v with
  | num n => exact (keep_concur n).bind fun _ => .pure _
  | _ => exact .pure _

theorem log_concur (text : Value) : Concur b (log text) (log text) := .modify fun _ => rfl

theorem warn_concur (text : String) : Concur b (warn text) (warn text) := .modify fun _ => rfl

/-! ### The derived view -/

theorem buffInstances_concur : Concur b (buffInstances evaluator) (buffInstances evaluator) := by
  unfold buffInstances
  refine .state_bind fun s => .lift_bind (elements_shallow _) fun active _ => ?_
  refine Concur.bind (.filterMapM fun buff => ?_) fun active => ?_
  · unfold activeInstance?
    refine .lift_bind (field_shallow buff _) fun formula _ => ?_
    refine (evaluator_concur _ _).bind fun v => ?_
    refine .lift_bind (isFiniteNumber_shallow _) fun finite _ => .ite (fun _ => .pure _) fun _ => ?_
    exact .lift_bind (field_shallow buff _) fun id _ => .pure _
  refine .book_bind <| .lift_bind (entries_shallow _) fun items _ => ?_
  refine Concur.bind (.mapM fun item => ?_) fun held => .pure _
  unfold itemInstances
  refine .state_bind fun s => .lift_bind (holdsOf_shallow _ _ _) fun held _ => ?_
  refine .filterMapM fun hold => ?_
  unfold holdInstance?
  refine .lift_bind (field_shallow hold _) fun formula _ => (evaluator_concur _ _).bind fun v => ?_
  refine .lift_bind (isFiniteNumber_shallow _) fun finite _ => .ite (fun _ => .pure _) fun _ => ?_
  exact .lift_bind (field_shallow hold _) fun id _ => .pure _

theorem derive_concur (buffs : Value) (base : Fields Stat) (instances : List BuffInstance) :
    Concur b (derive evaluator buffs base instances) (derive evaluator buffs base instances) := by
  unfold derive
  refine Concur.bind (.foldlM (fun i derived => ?_) base) fun derived => ?_
  · unfold applyInstance
    refine .lift_bind (fieldAt_shallow _ _) fun definition _ => ?_
    refine .lift_bind (field_shallow _ _) fun modifiers _ => ?_
    refine .lift_bind (elements_shallow _) fun modifiers _ => ?_
    refine .foldlM (fun modifier derived => ?_) derived
    unfold applyModifier
    refine .lift_bind (field_shallow modifier _) fun target _ => ?_
    refine .lift_bind (lookup_shallow target _) fun found _ => ?_
    cases found with
    | none => exact .pure _
    | some stat =>
        refine .lift_bind (field_shallow modifier _) fun formula _ => ?_
        refine (evaluator_concur _ _).bind fun v => ?_
        refine .lift_bind (isFiniteNumber_shallow _) fun finite _ => ?_
        refine .ite (fun _ => .pure _) fun _ => ?_
        refine .lift_bind (field_shallow modifier _) fun kind _ => ?_
        refine .lift_bind (asKey_shallow target) fun name _ => .ite (fun _ => ?_) fun _ => ?_
        · refine .lift_bind stat.max_shallow fun top _ => ?_
          exact .lift_bind (plus_shallow top _) fun _ _ => .pure _
        refine .ite (fun _ => ?_) fun _ => (warn_concur _).bind fun _ => .pure _
        refine .lift_bind stat.cur_shallow fun cur _ => ?_
        exact .lift_bind (plus_shallow cur _) fun _ _ => .pure _
  · exact .mapM fun entry => .lift_bind entry.2.clamp_shallow fun _ _ => .pure _

/-- **A sync concurs with itself.** -/
theorem sync_concur : Concur b sync sync := by
  unfold sync
  refine (Concur.modifyState _).bind fun _ => buffInstances_concur.bind fun instances => ?_
  refine .lift_bind (BuffInstance.aggregateFrom_shallow _ _) fun totals _ => .book_bind ?_
  refine .state_bind fun s => (derive_concur _ _ _).bind fun first => .state_bind fun s' => ?_
  refine .lift_bind (Stat.clampAll_shallow _ _) fun clamped _ => ?_
  refine (Concur.modifyState _).bind fun _ => (derive_concur _ _ _).bind fun second => ?_
  exact .modifyState _

/-! ### Stats and the capacity -/

theorem writeChange_concur (name : String) (before after : Value) (rises : Bool) (delta : Number) :
    Concur b (writeChange name before after rises delta)
      (writeChange name before after rises delta) := by
  unfold writeChange
  refine .digitLimit_bind fun limit => .lift_bind (displayWithin_shallow _ _) fun _ _ => ?_
  refine .lift_bind (displayWithin_shallow _ _) fun _ _ => ?_
  exact .lift_bind (displayWithin_shallow _ _) fun _ _ => log_concur _

theorem namedStat_concur (stat : Value) (amount : Number) :
    Concur b (namedStat? stat amount) (namedStat? stat amount) := by
  unfold namedStat?
  refine .ite (fun _ => .pure _) fun _ => .state_bind fun s => ?_
  refine .lift_bind (lookup_shallow stat _) fun found _ => ?_
  cases found with
  | none => exact .pure _
  | some s =>
      refine .lift_bind (isFiniteNumber_shallow _) fun finite _ => ?_
      refine .ite (fun _ => ?_) fun _ => .pure _
      exact .lift_bind (asKey_shallow stat) fun _ _ => .pure _

theorem updateCur_concur (stat : Value) (amount : Number) {update : Value → Except Fault Value}
    (hupdate : ∀ v, Shallow (update v)) :
    Concur b (updateCur stat amount update) (updateCur stat amount update) := by
  unfold updateCur
  refine (namedStat_concur stat amount).bind fun found => ?_
  cases found with
  | none => exact .pure _
  | some named =>
      refine .lift_bind named.2.cur_shallow fun before _ => ?_
      refine .lift_bind (hupdate before) fun v _ => ?_
      refine (keepValue_concur v).bind fun after => (Concur.modifyState _).bind fun _ => ?_
      exact .lift_bind (minus_shallow after before) fun _ _ => .pure _

theorem addToCur_concur (stat : Value) (amount : Number) :
    Concur b (addToCur stat amount) (addToCur stat amount) :=
  updateCur_concur stat amount fun v => (plus_shallow v amount).map

theorem logChange_concur (change : Option (Key × Value × Value × Number)) :
    Concur b (logChange change) (logChange change) := by
  unfold logChange
  split
  · exact .pure _
  · exact .ite (fun _ => .pure _) fun _ => writeChange_concur _ _ _ _ _

theorem addToMax_concur (stat : Value) (amount : Number) :
    Concur b (addToMax stat amount) (addToMax stat amount) := by
  unfold addToMax
  refine (namedStat_concur stat amount).bind fun found => ?_
  cases found with
  | none => exact .pure _
  | some named =>
      refine .lift_bind named.2.max_shallow fun before _ => ?_
      refine .lift_bind (plus_shallow before amount) fun sum _ => (keep_concur sum).bind fun n => ?_
      refine (Concur.modifyState _).bind fun _ => ?_
      exact .ite (fun _ => writeChange_concur _ _ _ _ _) fun _ => .pure _

theorem addToCapacity_concur (amount : Number) :
    Concur b (addToCapacity amount) (addToCapacity amount) := by
  unfold addToCapacity
  refine .lift_bind (isFiniteNumber_shallow _) fun finite _ => .ite (fun _ => .pure _) fun _ => ?_
  refine .state_bind fun s => .lift_bind (field_shallow s.resources _) fun capacity _ => ?_
  refine .lift_bind (plus_shallow _ amount) fun sum _ => (keep_concur sum).bind fun n => ?_
  refine .state_bind fun s => .lift_bind (entries_shallow _) fun resources _ => ?_
  exact .modifyState _

/-! ### Items, buffs and flags -/

theorem addItem_concur (item count : Value) :
    Concur b (addItem item count) (addItem item count) := by
  unfold addItem
  refine .book_bind <| .lift_bind (declares_shallow _ item) fun declared _ => ?_
  refine .ite (fun _ => .pure _) fun _ => ?_
  refine .lift_bind (isFiniteNumber_shallow count) fun finite _ => ?_
  refine .ite (fun _ => .pure _) fun _ => .state_bind fun s => ?_
  refine .lift_bind (field_shallow s.resources _) fun capacity _ => ?_
  refine .lift_bind (s.inventory.add_shallow item count capacity) fun added _ => ?_
  refine (Concur.modifyState _).bind fun _ => ?_
  exact .ite (fun _ => (log_concur _).bind fun _ => .pure _) fun _ => .pure _

theorem removeItem_concur (item count : Value) :
    Concur b (removeItem item count) (removeItem item count) := by
  unfold removeItem
  refine .book_bind <| .lift_bind (declares_shallow _ item) fun declared _ => ?_
  refine .ite (fun _ => .pure _) fun _ => ?_
  refine .lift_bind (isFiniteNumber_shallow count) fun finite _ => ?_
  refine .ite (fun _ => .pure _) fun _ => .state_bind fun s => ?_
  exact .lift_bind (s.inventory.remove_shallow item count) fun _ _ => .modifyState _

theorem addBuff_concur (buff value duration : Value) :
    Concur b (addBuff buff value duration) (addBuff buff value duration) := by
  unfold addBuff
  refine .book_bind <| .lift_bind (declares_shallow _ buff) fun declared _ => ?_
  refine .ite (fun _ => .pure _) fun _ => ?_
  refine .lift_bind (entryAt_shallow _ buff) fun definition _ => ?_
  refine .lift_bind (field_shallow _ _) fun formula _ => .state_bind fun s => ?_
  split
  · exact .modifyState _
  · exact .throw trivial

theorem removeBuff_concur (id : Value) : Concur b (removeBuff id) (removeBuff id) := by
  unfold removeBuff
  refine .state_bind fun s => .lift_bind (elements_shallow _) fun active _ => ?_
  exact .lift_bind (withoutId_shallow id active) fun _ _ => .modifyState _

theorem setFlag_concur (flag value : Value) :
    Concur b (setFlag flag value) (setFlag flag value) := by
  unfold setFlag
  refine (keepValue_concur value).bind fun kept => .state_bind fun s => ?_
  exact .lift_bind (setEntryAt_shallow _ flag kept) fun _ _ => .modifyState _

theorem amountOf_concur (effect : Value) (extra : Fields Value) (default : Value) :
    Concur b (amountOf effect extra default) (amountOf effect extra default) := by
  unfold amountOf
  refine .lift_bind (field_shallow effect _) fun _ _ => ?_
  refine .lift_bind (field_shallow effect _) fun _ _ => ?_
  exact (evaluator_concur _ extra).bind fun _ => .pure _

theorem countOf_concur (effect : Value) (extra : Fields Value) :
    Concur b (countOf effect extra) (countOf effect extra) := by
  unfold countOf
  refine .lift_bind (field_shallow effect _) fun _ _ => ?_
  refine .lift_bind (field_shallow effect _) fun _ _ => ?_
  refine .lift_bind (field_shallow effect _) fun _ _ => ?_
  exact (evaluator_concur _ extra).bind fun _ => .pure _

end Play

/-! ### Effects -/

namespace Value

/-- The node that an effect moves to, if it moves to one. -/
def gotoTarget? (effect : Value) : Option Value :=
  (effectOf? effect).bind fun e =>
    if e.1 = "goto" then some (ofOption (Fields.get? e.2 "node")) else none

/-- Whether an effect lets days pass. -/
def letsDaysPass (effect : Value) : Bool := (effectOf? effect).any fun e => e.1 = "advance_day"

/-- The effects in a value, which may be none. -/
def effectsIn (v : Value) : List Value :=
  match (v.orElse (.list [])).elements with
  | .ok effects => effects
  | .error _ => []

end Value

namespace Onward

variable {b : Book} {o o' : Onward}

/-- The two ways to go on concur where the effect goes on. -/
structure ConcurFor (b : Book) (o o' : Onward) (effect : Value) : Prop where
  goto : ∀ id ∈ effect.gotoTarget?, Play.Concur b (o.goto id) (o'.goto id)
  days : effect.letsDaysPass = true → ∀ amount, Play.Concur b (o.days amount) (o'.days amount)

/-- The two ways to go on concur. -/
structure Concur (b : Book) (o o' : Onward) : Prop where
  goto (id : Value) : Play.Concur b (o.goto id) (o'.goto id)
  days (amount : Value) : Play.Concur b (o.days amount) (o'.days amount)

theorem Concur.concurFor (h : Concur b o o') (effect : Value) : ConcurFor b o o' effect :=
  ⟨fun id _ => h.goto id, fun _ => h.days⟩

end Onward

namespace Play

open Value Onward

variable {b : Book} {o o' : Onward}

theorem applyNamed_concur {kind : String} {fields : Fields Value}
    (hkind : effectOf? (.obj fields) = some (kind, fields)) (h : ConcurFor b o o' (.obj fields))
    (extra : Fields Value) :
    Concur b (applyNamed o kind (.obj fields) extra) (applyNamed o' kind (.obj fields) extra) := by
  have hfield (k : Key) : Shallow (Value.field (.obj fields) k) := field_shallow _ k
  unfold applyNamed
  split
  -- stats, money and the capacity
  · refine (amountOf_concur _ extra _).bind fun amount => .lift_bind (hfield _) fun stat _ => ?_
    exact (addToCur_concur stat amount).bind logChange_concur
  · refine (amountOf_concur _ extra _).bind fun amount => .lift_bind (hfield _) fun stat _ => ?_
    exact (updateCur_concur stat amount fun _ => .ok _).bind logChange_concur
  · refine (amountOf_concur _ extra _).bind fun amount => .lift_bind (hfield _) fun stat _ => ?_
    exact addToMax_concur stat amount
  · refine (amountOf_concur _ extra _).bind fun amount => ?_
    exact (addToCur_concur _ amount).bind fun _ => .pure _
  · exact (amountOf_concur _ extra _).bind addToCapacity_concur
  -- items, buffs and flags
  · refine (countOf_concur _ extra).bind fun count => .lift_bind (hfield _) fun item _ => ?_
    exact (addItem_concur item _).bind fun _ => .pure _
  · refine (countOf_concur _ extra).bind fun count => .lift_bind (hfield _) fun item _ => ?_
    exact removeItem_concur item _
  · refine .lift_bind (hfield _) fun _ _ => .lift_bind (hfield _) fun _ _ => ?_
    refine .lift_bind (hfield _) fun buff _ => .lift_bind (hfield _) fun duration _ => ?_
    exact addBuff_concur buff _ duration
  · exact .lift_bind (hfield _) fun buff _ => removeBuff_concur buff
  · refine .lift_bind (hfield _) fun flag _ => .ite (fun _ => ?_) fun _ => .pure _
    refine .lift_bind (hfield _) fun _ _ => .lift_bind (hfield _) fun _ _ => ?_
    exact (evaluator_concur _ extra).bind fun v => setFlag_concur flag v
  -- days, nodes, the journal, and what is not known
  · exact (amountOf_concur _ extra _).bind fun amount => h.days (by simp [letsDaysPass, hkind]) _
  · refine .lift_bind (hfield _) fun node hnode => h.goto node ?_
    cases hnode
    simp [gotoTarget?, hkind]
  · refine .lift_bind (hfield _) fun formula _ => .ite (fun _ => ?_) fun _ => ?_
    · refine (evaluator_concur _ extra).bind fun v => .digitLimit_bind fun limit => ?_
      exact .lift_bind (displayWithin_shallow v limit) fun _ _ => log_concur _
    · exact .lift_bind (hfield _) fun text _ => log_concur text
  · exact warn_concur _

theorem applyEffect_concur {effect : Value} (h : ConcurFor b o o' effect) (extra : Fields Value) :
    Concur b (applyEffect o effect extra) (applyEffect o' effect extra) := by
  unfold applyEffect
  cases effect with
  | obj fields =>
      dsimp only
      refine .ite (fun _ => .pure _) fun _ => ?_
      generalize hkind : ofOption (Fields.get? fields "type") = kind
      cases kind with
      | str kind => exact applyNamed_concur (by simp only [effectOf?, hkind]) h extra
      | _ => exact warn_concur _
  | _ => exact .pure _

/-- **Effects concur** over ways to go on that concur for each of them. -/
theorem applyEffects_concur {effects : Value}
    (h : ∀ effect ∈ effects.effectsIn, ConcurFor b o o' effect) (extra : Fields Value) :
    Concur b (applyEffects o effects extra) (applyEffects o' effects extra) := by
  unfold applyEffects
  refine .lift_bind (elements_shallow _) fun es hes => .forM fun effect he => ?_
  refine applyEffect_concur (h effect ?_) extra
  rw [effectsIn, hes]
  exact he

/-! ### Checks and endings -/

theorem followBranch_concur (h : Onward.Concur b o o') (branch : Value) (extra : Fields Value) :
    Concur b (followBranch o branch extra) (followBranch o' branch extra) := by
  unfold followBranch
  refine .lift_bind (field_shallow branch _) fun effects _ => ?_
  refine (applyEffects_concur (fun effect _ => h.concurFor effect) extra).bind fun _ => ?_
  refine .lift_bind (field_shallow branch _) fun node _ => ?_
  exact .ite (fun _ => h.goto node) fun _ => .pure _

theorem resolve_concur (buffs : Value) (settings : Settings) (check : Value) :
    Concur b (Check.resolve evaluator buffs settings check)
      (Check.resolve evaluator buffs settings check) := by
  have hstep (formula : Value) (extra : Fields Value) :
      Concur b (do keep (← evaluator formula extra).toNumber)
        (do keep (← evaluator formula extra).toNumber) :=
    (evaluator_concur formula extra).bind fun v => keep_concur _
  have hformula (name default : String) : Shallow (Check.formulaOr check name default) :=
    (field_shallow check _).map
  unfold Check.resolve
  refine .lift_bind (Check.rollExpression_shallow check _) fun _ _ => ?_
  refine (hstep _ _).bind fun roll => ?_
  refine .lift_bind (hformula _ _) fun _ _ => (hstep _ _).bind fun base => ?_
  refine .lift_bind (hformula _ _) fun _ _ => (hstep _ _).bind fun buff => ?_
  refine .lift_bind (hformula _ _) fun _ _ => (hstep _ _).bind fun total => ?_
  refine .lift_bind (field_shallow check _) fun _ _ => (hstep _ _).bind fun dc => ?_
  refine .lift_bind (Check.bandSetsFor_shallow _ check _) fun sets _ => ?_
  refine .lift_bind (Check.classify_shallow _ _ _ sets) fun result _ => ?_
  exact .lift_bind (field_shallow check _) fun name _ => .pure _

theorem resolveCheck_concur (h : Onward.Concur b o o') (check : Value) :
    Concur b (resolveCheck o check) (resolveCheck o' check) := by
  unfold resolveCheck
  refine .get_bind fun w _ => (resolve_concur _ _ check).bind fun outcome => ?_
  refine .lift_bind (Check.logLineWithin_shallow _ outcome) fun line _ => ?_
  refine (log_concur _).bind fun _ => ?_
  refine .lift_bind (Check.selectBranch_shallow check _) fun branch _ => ?_
  refine .ite (fun _ => ?_) fun _ => .pure _
  exact (followBranch_concur h branch _).bind fun _ => .pure _

theorem findEnding_concur (endings current : Value) :
    Concur b (findEnding endings current fun c => checkConditions c [] false)
      (findEnding endings current fun c => checkConditions c [] false) := by
  unfold findEnding
  refine .ite (fun _ => .pure _) fun _ => .lift_bind (elements_shallow endings) fun es hes => ?_
  clear hes
  induction es with
  | nil => exact .pure _
  | cons e es ih =>
      refine .lift_bind (field_shallow e _) fun conditions _ => ?_
      refine (checkConditions_concur conditions [] false).bind fun holds => ?_
      exact .ite (fun _ => .pure _) fun _ => ih

theorem checkEndings_concur (h : Onward.Concur b o o') :
    Concur b (checkEndings o) (checkEndings o') := by
  unfold checkEndings
  refine .book_bind <| .state_bind fun s => (findEnding_concur _ _).bind fun found => ?_
  cases found with
  | none => exact .pure _
  | some ending =>
      refine .lift_bind (field_shallow ending _) fun node _ => ?_
      refine .lift_bind (field_shallow ending _) fun id _ => (Concur.modifyState _).bind fun _ => ?_
      exact .ite (fun _ => (h.goto node).bind fun _ => sync_concur) fun _ => .pure _

/-! ### Actions -/

theorem afterAction_concur (h : Onward.Concur b o o') :
    Concur b (afterAction o) (afterAction o') :=
  sync_concur.bind fun _ => checkEndings_concur h

theorem acting_concur (h : Onward.Concur b o o') {m m' : Play Bool} (hm : Concur b m m') :
    Concur b (acting m o) (acting m' o') :=
  hm.bind fun _ =>
    .ite (fun _ => (afterAction_concur h).bind fun _ => .pure _) fun _ => .pure _

theorem takeChoice_concur (h : Onward.Concur b o o') (choice : Value) :
    Concur b (takeChoice choice o) (takeChoice choice o') := by
  unfold takeChoice
  refine .ite (fun _ => .pure _) fun _ => .lift_bind (field_shallow choice _) fun conditions _ => ?_
  refine (checkConditions_concur conditions [] false).bind fun holds => ?_
  refine .ite (fun _ => .pure _) fun _ => .lift_bind (field_shallow choice _) fun check _ => ?_
  refine .ite (fun _ => ?_) fun _ => ?_
  · exact (resolveCheck_concur h check).bind fun _ => .pure _
  · exact (followBranch_concur h choice []).bind fun _ => .pure _

theorem currentNode_concur : Concur b currentNode currentNode := by
  unfold currentNode
  exact .book_bind <| .state_bind fun s => .lift_bind (fieldAt_shallow _ _) fun _ _ => .pure _

theorem currentChoices_concur : Concur b currentChoices currentChoices := by
  unfold currentChoices
  refine currentNode_concur.bind fun node => .lift_bind (isEnding_shallow node) fun ending _ => ?_
  refine .lift_bind (field_shallow node _) fun choices _ => ?_
  refine .lift_bind (elements_shallow _) fun choices _ => .mapM fun choice => ?_
  unfold choiceView
  refine .lift_bind (field_shallow choice _) fun text _ => .ite (fun _ => .pure _) fun _ => ?_
  refine .lift_bind (field_shallow choice _) fun conditions _ => ?_
  exact (checkConditions_concur conditions [] true).bind fun _ => .pure _

theorem takeIndex_concur (h : Onward.Concur b o o') (index : Int) :
    Concur b (takeIndex index o) (takeIndex index o') := by
  unfold takeIndex
  refine currentChoices_concur.bind fun choices => .ite (fun _ => .pure _) fun _ => ?_
  cases choices[index.toNat]? with
  | none => exact .pure _
  | some view =>
      refine .ite (fun _ => .pure _) fun _ => currentNode_concur.bind fun node => ?_
      refine .lift_bind (field_shallow node _) fun choices _ => ?_
      exact .lift_bind (elements_shallow choices) fun all _ => takeChoice_concur h _

theorem takeAt_concur (h : Onward.Concur b o o') (place : Value) :
    Concur b (takeAt place o) (takeAt place o') := by
  unfold takeAt
  cases place.number? with
  | none => exact currentChoices_concur.bind fun _ => .throw trivial
  | some n =>
      cases n with
      | int index => exact takeIndex_concur h index
      | _ =>
          exact currentChoices_concur.bind fun choices =>
            .ite (fun _ => .throw trivial) fun _ => .pure _

theorem takeEntry_concur (h : Onward.Concur b o o') (shop item : Value) :
    Concur b (takeEntry shop item o) (takeEntry shop item o') := by
  unfold takeEntry
  refine .book_bind <| .lift_bind (fieldAt_shallow _ shop) fun shop _ => ?_
  refine .ite (fun _ => .pure _) fun _ => .lift_bind (field_shallow shop _) fun entries _ => ?_
  refine .lift_bind (elements_shallow _) fun entries _ => ?_
  refine .lift_bind (entryWithId_shallow item entries) fun found _ => ?_
  cases found with
  | none => exact .pure _
  | some entry =>
      refine .lift_bind (field_shallow entry _) fun conditions _ => ?_
      refine (checkConditions_concur conditions [] false).bind fun holds => ?_
      refine .ite (fun _ => .pure _) fun _ => .lift_bind (field_shallow entry _) fun effects _ => ?_
      refine (applyEffects_concur (fun effect _ => h.concurFor effect) []).bind fun _ => .pure _

theorem consume_concur (h : Onward.Concur b o o') (item : Value) :
    Concur b (consume item o) (consume item o') := by
  unfold consume
  refine .book_bind <| .lift_bind (contains_shallow _ item) fun known _ => ?_
  refine .ite (fun _ => .pure _) fun _ => .state_bind fun s => ?_
  refine .lift_bind (s.inventory.quantity_shallow item) fun quantity _ => ?_
  refine .lift_bind (le_shallow quantity _) fun empty _ => .ite (fun _ => .pure _) fun _ => ?_
  refine .lift_bind (entryAt_shallow _ item) fun definition _ => ?_
  refine .lift_bind (field_shallow _ _) fun effects _ => ?_
  refine (applyEffects_concur (fun effect _ => h.concurFor effect) []).bind fun _ => ?_
  exact (removeItem_concur item _).bind fun _ => .pure _

end Play

end Gamebook
