/-
**What a single effect changes.**

An effect that neither moves to a node nor lets days pass names one part of the state: a value of a
stat, the capacity, the count of an item, the active buffs or a flag.  That part may get another
value.  Everything else stays as it is, apart from what is noted on the way: lines of the journal,
warnings, the chance that formulas used.  In particular the derived view stays as it is.  This is so
whether the effect returns or ends in a fault.

There are two exceptions.  A flag can be the inventory itself, and such a flag has the counts of the
inventory also after an item effect.  And a flag can be the flags themselves: whoever reads it finds
every flag that was set since.  So for item effects the statement is about states without a flag of
the first kind, and for effects that set a flag about states without one of the second kind.

Main definitions:

* `Value.part?` — the part that an effect names;
* `Value.IsSimple` — effects that lead neither to a node nor to another day;
* `Play.Skips` — the reasons for which an effect changes nothing.

Main results:

* `Play.applyEffect_touches` — **an effect touches the part that it names at most**;
* `Play.applyEffect_noting` — **an effect that is skipped leaves notes only**;
* `Play.applyEffect_frame` — both, for every effect, and the same for what formulas read;
* `Play.not_applyEffect_frame`, `Play.not_touches_opened` — the two exceptions.
-/

import Gamebook.Proofs.Play.Parts
import Gamebook.Proofs.Play.Robustness

set_option autoImplicit false

namespace Gamebook

open Value

/-! ### The part that an effect names -/

namespace Value

/-- The kinds of effects that there are. -/
def effectKinds : List String :=
  amountKinds ++ countKinds ++
    ["buff_add", "buff_remove", "flag_set", "advance_day", "goto", "log"]

/-- The stat that an effect of the kind names. -/
def statOf? (kind : String) (fields : Fields Value) : Option Value :=
  if kind ∈ ["stat_add", "stat_set", "stat_add_max"] then some (ofOption (fields.get? "stat"))
  else if kind = "money_add" then some (.str "money")
  else none

/-- The part of the state that an effect of the kind names. -/
def partOf? (kind : String) (fields : Fields Value) : Option State.Part :=
  match kind with
  | "stat_add" | "stat_set" => (ofOption (fields.get? "stat")).asKey.toOption.map .cur
  | "stat_add_max" => (ofOption (fields.get? "stat")).asKey.toOption.map .max
  | "money_add" => some (.cur "money")
  | "capacity_add" => some .capacity
  | "item_add" | "item_remove" => (ofOption (fields.get? "item")).asKey.toOption.map .count
  | "buff_add" | "buff_remove" => some .buffs
  | "flag_set" => some (.flag (ofOption (fields.get? "flag")))
  | _ => none

/-- The part of the state that an effect names. -/
def part? (effect : Value) : Option State.Part :=
  (effectOf? effect).bind fun e => partOf? e.1 e.2

/-- An effect that leads neither to a node nor to another day. -/
def IsSimple (effect : Value) : Prop :=
  ∀ e ∈ effectOf? effect, e.1 ≠ "goto" ∧ e.1 ≠ "advance_day"

theorem isSimple_of_kind {effect : Value} {kind : String} {fields : Fields Value}
    (h : effectOf? effect = some (kind, fields)) (hgoto : kind ≠ "goto")
    (hdays : kind ≠ "advance_day") : effect.IsSimple := by
  intro e he
  cases h.symm.trans he
  exact ⟨hgoto, hdays⟩

/-- An effect that adds or removes items. -/
def IsItemEffect (effect : Value) : Prop := ∃ e ∈ effectOf? effect, e.1 ∈ countKinds

/-- An effect that sets a flag. -/
def IsFlagEffect (effect : Value) : Prop := ∃ e ∈ effectOf? effect, e.1 = "flag_set"

/-- Who names a flag sets it. -/
theorem isFlagEffect_of_part? {effect id : Value} (h : effect.part? = some (.flag id)) :
    effect.IsFlagEffect := by
  obtain ⟨⟨kind, fields⟩, heffect, hpart⟩ := Option.bind_eq_some_iff.1 h
  refine ⟨_, heffect, ?_⟩
  unfold partOf? at hpart
  split at hpart
  case h_10 => assumption
  all_goals simp at hpart

end Value

/-- One of the base stats has the name. -/
def State.HasStat (s : State) (stat : Value) : Prop :=
  stat.holds = true ∧ ∃ name, stat.asKey = .ok name ∧ (s.baseStats.get? name).isSome = true

namespace Play

open World

variable {w : World} {part? : Option State.Part} {extra fields : Fields Value} {kind : String}

/-! ### Notes -/

theorem Leads.noting {α : Type} {m : Play α} {Q : α → World → Prop} (h : Leads Idle w m Q) :
    Leads Noting w m Q :=
  h.mono (fun _ h => h.noting) fun _ _ _ h => h

theorem Leads.touches {α : Type} {m : Play α} {Q : α → World → Prop} (h : Leads Noting w m Q) :
    Leads (Touches part?) w m fun a w' => Noting w w' ∧ Q a w' :=
  h.mono (fun _ h => h.touches) fun _ _ hnoting h => ⟨hnoting, h⟩

theorem Leads.annotates {α : Type} {m : Play α} {Q : α → World → Prop} (h : Leads Annotates w m Q) :
    Leads Noting w m Q :=
  h.mono (fun _ h => h.noting) fun _ _ _ h => h

theorem log_annotates (text : Value) : Leads Annotates w (log text) fun _ _ => True :=
  .modify rfl trivial

theorem writeChange_annotates (name : String) (before after : Value) (rises : Bool)
    (delta : Number) :
    Leads Annotates w (writeChange name before after rises delta) fun _ _ => True := by
  unfold writeChange
  refine .digitLimit_bind <| .lift_bind fun before _ => .lift_bind fun after _ => ?_
  exact .lift_bind fun delta _ => log_annotates _

theorem logChange_annotates (change : Option (Key × Value × Value × Number)) :
    Leads Annotates w (logChange change) fun _ _ => True := by
  unfold logChange
  split
  · exact .pure trivial
  · split
    · exact .pure trivial
    · exact writeChange_annotates ..

theorem warn_noting (text : String) : Leads Noting w (warn text) fun _ _ => True :=
  .modify rfl trivial

theorem keep_noting (n : Number) : Leads Noting w (keep n) fun _ _ => True := by
  unfold keep
  split
  · refine .get_bind ?_
    have hset : Leads Noting w (set { w with keptNaNs := w.keptNaNs + 1 } : Play PUnit)
        fun _ _ => True := .of_runFrom (runFrom_set w _) rfl fun _ _ => trivial
    exact hset.bind fun _ _ _ _ => .pure trivial
  · exact .pure trivial

theorem keepValue_noting (v : Value) : Leads Noting w (keepValue v) fun _ _ => True := by
  unfold keepValue
  split
  · exact (keep_noting _).bind fun _ _ _ _ => .pure trivial
  · exact .pure trivial
  · exact .pure trivial

theorem quantityOf_noting (extra : Fields Value) (formula : Value) :
    Leads Noting w (quantityOf extra formula) fun _ _ => True := by
  unfold quantityOf
  exact (evaluator_idle _ _).noting.bind fun _ _ _ _ => .pure trivial

/-! ### Touching a part -/

/-- Writing what is made of a stat that is there, some notes after it was found. -/
theorem setStat_touches {w' : World} {name : Key} {s : Stat} {part : State.Part} {v : Value}
    (f : Stat → Stat)
    (hput : ∀ st : State, st.put v part = { st with baseStats := st.baseStats.adjust name f })
    (hpart : part ∈ part?) (hnoting : Noting w w')
    (hget : w.state.baseStats.get? name = some s) :
    Leads (Touches part?) w' (setStat name (f s)) fun _ _ => True := by
  have hget' : w'.state.baseStats.get? name = some s := by
    rw [hnoting.state_eq]
    exact hget
  refine .modifyState ?_ trivial
  rw [Fields.set_eq_adjust hget' f, ← hput]
  exact .put hpart v

theorem updateCur_touches {stat : Value} (amount : Number) (update : Value → Except Fault Value)
    (hpart : ∀ name, stat.asKey = .ok name → .cur name ∈ part?) :
    Leads (Touches part?) w (updateCur stat amount update) fun _ _ => True := by
  unfold updateCur
  refine (namedStat_leads stat amount).bind fun found w₁ _ hfound => ?_
  obtain ⟨rfl, hfound⟩ := hfound
  cases found with
  | none => exact .pure trivial
  | some named =>
      obtain ⟨name, s⟩ := named
      obtain ⟨-, hname, hget, -⟩ := hfound name s rfl
      refine .lift_bind fun before _ => .lift_bind fun v _ => ?_
      refine (keepValue_noting v).touches.bind fun after w₂ _ hkept => ?_
      have hset : Leads (Touches part?) w₂ (setStat name (s.setCur after)) fun _ _ => True :=
        setStat_touches (fun s => s.setCur after) (fun _ => rfl) (hpart name hname) hkept.1 hget
      refine hset.bind fun _ _ _ _ => ?_
      exact .lift_bind fun delta _ => .pure trivial

theorem addToMax_touches {stat : Value} (amount : Number)
    (hpart : ∀ name, stat.asKey = .ok name → .max name ∈ part?) :
    Leads (Touches part?) w (addToMax stat amount) fun _ _ => True := by
  unfold addToMax
  refine (namedStat_leads stat amount).bind fun found w₁ _ hfound => ?_
  obtain ⟨rfl, hfound⟩ := hfound
  cases found with
  | none => exact .pure trivial
  | some named =>
      obtain ⟨name, s⟩ := named
      obtain ⟨-, hname, hget, -⟩ := hfound name s rfl
      refine .lift_bind fun before _ => .lift_bind fun sum _ => ?_
      refine (keep_noting sum).touches.bind fun after w₂ _ hkept => ?_
      have hset : Leads (Touches part?) w₂ (setStat name (s.setMax (.num after)))
          fun _ _ => True :=
        setStat_touches (fun s => s.setMax (.num after)) (fun _ => rfl) (hpart name hname) hkept.1
          hget
      refine hset.bind fun _ _ _ _ => ?_
      split
      · exact (writeChange_annotates ..).annotates.touches.trivial
      · exact .pure trivial

theorem addToCapacity_touches (amount : Number) (hpart : .capacity ∈ part?) :
    Leads (Touches part?) w (addToCapacity amount) fun _ _ => True := by
  unfold addToCapacity
  refine .lift_bind fun finite _ => .ite_not (fun _ => .pure trivial) fun _ => .state_bind ?_
  refine .lift_bind fun capacity _ => .lift_bind fun sum _ => ?_
  refine (keep_noting sum).touches.bind fun after w₁ _ _ => .state_bind ?_
  refine .lift_bind fun resources hresources => .modifyState ?_ trivial
  have hput : w₁.state.put (.num after) .capacity =
      { w₁.state with resources := .obj (resources.set "capacity" (.num after)) } := by
    simp only [State.put, hresources]
  rw [← hput]
  exact .put hpart _

/-- What an item effect makes of the inventory, where no flag is the inventory. -/
theorem withInventory_touches {item : Value} {inventory : Inventory}
    (hflags : w.state.flagIsInventory = false)
    (hpart : ∀ name, item.asKey = .ok name → .count name ∈ part?)
    (h : inventory = w.state.inventory ∨ ∃ name n, item.asKey = .ok name ∧
      inventory = w.state.inventory.written name n) :
    Leads (Touches part?) w (modifyState (·.withInventory inventory)) fun _ _ => True := by
  refine .modifyState ?_ trivial
  rw [State.withInventory_eq hflags]
  rcases h with rfl | ⟨name, n, hname, rfl⟩
  · exact Std.Refl.refl w
  · exact .put (hpart name hname) (Inventory.atLeastZero n)

theorem addItem_touches {item : Value} (count : Value) (hflags : w.state.flagIsInventory = false)
    (hpart : ∀ name, item.asKey = .ok name → .count name ∈ part?) :
    Leads (Touches part?) w (addItem item count) fun _ _ => True := by
  unfold addItem
  refine declaredFinite_leads fun _ _ => .state_bind ?_
  refine .lift_bind fun capacity _ => .lift_bind fun added hadd => ?_
  obtain ⟨accepted, inventory⟩ := added
  have hcases : inventory = w.state.inventory ∨ ∃ name n, item.asKey = .ok name ∧
      inventory = w.state.inventory.written name n :=
    (Inventory.add_cases hadd).imp_right fun ⟨name, n, hname, _, _, h⟩ => ⟨name, n, hname, h⟩
  refine (withInventory_touches hflags hpart hcases).bind fun _ _ _ _ => ?_
  dsimp only
  split
  · exact (log_annotates _).annotates.touches.bind fun _ _ _ _ => .pure trivial
  · exact .pure trivial

theorem removeItem_touches {item : Value} (count : Value) (hflags : w.state.flagIsInventory = false)
    (hpart : ∀ name, item.asKey = .ok name → .count name ∈ part?) :
    Leads (Touches part?) w (removeItem item count) fun _ _ => True := by
  unfold removeItem
  refine declaredFinite_leads fun _ _ => .state_bind ?_
  refine .lift_bind fun inventory hremove => withInventory_touches hflags hpart ?_
  exact (Inventory.remove_cases hremove).imp_right fun ⟨name, n, hname, _, h⟩ => ⟨name, n, hname, h⟩

theorem addBuff_touches (buff value duration : Value) (hpart : .buffs ∈ part?) :
    Leads (Touches part?) w (addBuff buff value duration) fun _ _ => True := by
  unfold addBuff
  refine .book_bind <| .lift_bind fun declared _ => .ite_not (fun _ => .pure trivial) fun _ => ?_
  refine .lift_bind fun definition _ => .lift_bind fun formula _ => .state_bind ?_
  split
  · exact .modifyState (.put hpart _) trivial
  · exact .throw

theorem removeBuff_touches (id : Value) (hpart : .buffs ∈ part?) :
    Leads (Touches part?) w (removeBuff id) fun _ _ => True := by
  unfold removeBuff
  refine .state_bind <| .lift_bind fun active _ => .lift_bind fun rest _ => ?_
  exact .modifyState (.put hpart _) trivial

theorem setFlag_touches (flag value : Value) (hpart : .flag flag ∈ part?) :
    Leads (Touches part?) w (setFlag flag value) fun _ _ => True := by
  unfold setFlag
  refine (keepValue_noting value).touches.bind fun kept w₁ _ _ => .state_bind ?_
  refine .lift_bind fun flags hflags => .modifyState ?_ trivial
  have hput : w₁.state.put kept (.flag flag) = { w₁.state with flags } := by
    simp only [State.put, hflags]
  rw [← hput]
  exact .put hpart kept

/-- **An effect touches the part that it names at most**, by its kind. -/
theorem applyNamed_touches (onward : Onward) (hgoto : kind ≠ "goto") (hdays : kind ≠ "advance_day")
    (hflags : kind ∈ countKinds → w.state.flagIsInventory = false) :
    Leads (Touches (partOf? kind fields)) w (applyNamed onward kind (.obj fields) extra)
      fun _ _ => True := by
  -- a name that is one gives the part
  have hnamed {k : Key} {f : Key → State.Part} : ∀ name,
      (ofOption (Fields.get? fields k)).asKey = .ok name →
        f name ∈ (ofOption (Fields.get? fields k)).asKey.toOption.map f := fun name hname => by
    rw [hname]
    rfl
  have hstill {w' : World} (hnoting : Noting w w') (hflags : w.state.flagIsInventory = false) :
      w'.state.flagIsInventory = false := by
    rw [hnoting.state_eq]
    exact hflags
  have hamount : Leads (Touches (partOf? kind fields)) w (amountOf (.obj fields) extra (.int 0))
      fun _ _ => True := (quantityOf_noting extra (amountFormula fields)).touches.trivial
  have hcount : Leads (Touches (partOf? kind fields)) w (countOf (.obj fields) extra)
      fun _ w' => Noting w w' ∧ True := (quantityOf_noting extra (countFormula fields)).touches
  unfold applyNamed
  split
  -- stats, money and the capacity
  · refine hamount.bind fun amount w₁ _ _ => .lift_bind fun stat hstat => ?_
    cases hstat
    exact (updateCur_touches amount _ hnamed).bind fun change _ _ _ =>
      (logChange_annotates change).annotates.touches.trivial
  · refine hamount.bind fun amount w₁ _ _ => .lift_bind fun stat hstat => ?_
    cases hstat
    exact (updateCur_touches amount _ hnamed).bind fun change _ _ _ =>
      (logChange_annotates change).annotates.touches.trivial
  · refine hamount.bind fun amount w₁ _ _ => .lift_bind fun stat hstat => ?_
    cases hstat
    exact addToMax_touches amount hnamed
  · refine hamount.bind fun amount w₁ _ _ => ?_
    have hmoney : ∀ name, (Value.str "money").asKey = .ok name →
        .cur name ∈ partOf? "money_add" fields := fun name hname => by
      cases hname
      rfl
    exact (updateCur_touches amount _ hmoney).bind fun _ _ _ _ => .pure trivial
  · exact hamount.bind fun amount w₁ _ _ => addToCapacity_touches amount rfl
  -- items, buffs and flags
  · refine hcount.bind fun count w₁ _ hw₁ => .lift_bind fun item hitem => ?_
    cases hitem
    exact (addItem_touches _ (hstill hw₁.1 (hflags (by decide))) hnamed).bind
      fun _ _ _ _ => .pure trivial
  · refine hcount.bind fun count w₁ _ hw₁ => .lift_bind fun item hitem => ?_
    cases hitem
    exact removeItem_touches _ (hstill hw₁.1 (hflags (by decide))) hnamed
  · refine .lift_bind fun given _ => .lift_bind fun value _ => ?_
    exact .lift_bind fun buff _ => .lift_bind fun duration _ => addBuff_touches _ _ _ rfl
  · exact .lift_bind fun buff _ => removeBuff_touches _ rfl
  · refine .lift_bind fun flag hflag => ?_
    cases hflag
    split
    · refine .lift_bind fun given _ => .lift_bind fun value _ => ?_
      exact (evaluator_idle _ extra).noting.touches.bind fun v _ _ _ => setFlag_touches _ v rfl
    · exact .pure trivial
  -- the journal, and what is not known
  · exact absurd rfl hdays
  · exact absurd rfl hgoto
  · refine .lift_bind fun formula _ => ?_
    split
    · refine (evaluator_idle _ _).noting.touches.bind fun v _ _ _ => .digitLimit_bind ?_
      exact .lift_bind fun text _ => (log_annotates _).annotates.touches.trivial
    · exact .lift_bind fun text _ => (log_annotates text).annotates.touches.trivial
  · exact (warn_noting _).touches.trivial

/-- **An effect touches the part that it names at most.** -/
theorem applyEffect_touches (onward : Onward) (extra : Fields Value) {effect : Value}
    (hsimple : effect.IsSimple) (hflags : effect.IsItemEffect → w.state.flagIsInventory = false) :
    Leads (Touches effect.part?) w (applyEffect onward effect extra) fun _ _ => True := by
  cases heffect : effectOf? effect with
  | none =>
      rcases applyEffect_of_none onward extra heffect with h | ⟨text, h⟩
      · rw [h]
        exact .pure trivial
      · rw [h]
        exact (warn_noting text).touches.trivial
  | some e =>
      obtain ⟨kind, fields⟩ := e
      have hpart : effect.part? = partOf? kind fields := by rw [part?, heffect]; rfl
      obtain ⟨hgoto, hdays⟩ := hsimple _ heffect
      rw [(applyEffect_of_some onward extra heffect).2, hpart]
      split
      · exact .pure trivial
      · exact applyNamed_touches onward hgoto hdays fun hkind => hflags ⟨_, heffect, hkind⟩

/-! ### Effects that are skipped -/

/-- **The reasons for which an effect changes nothing**: it is of no known kind, the stat that it
names is none of the base stats, its item or the buff that it adds is not declared, or its amount or
count is not finite. -/
inductive Skips (w : World) (extra : Fields Value) (effect : Value) : Prop
  | unknown : (∀ e ∈ effectOf? effect, e.1 ∉ effectKinds) → Skips w extra effect
  | stat {kind : String} {fields : Fields Value} {stat : Value} :
      effectOf? effect = some (kind, fields) → statOf? kind fields = some stat →
      ¬ w.state.HasStat stat → Skips w extra effect
  | item {kind : String} {fields : Fields Value} :
      effectOf? effect = some (kind, fields) → kind ∈ countKinds →
      declares w.book.items (ofOption (fields.get? "item")) = .ok false → Skips w extra effect
  | buff {fields : Fields Value} : effectOf? effect = some ("buff_add", fields) →
      declares w.book.buffs (ofOption (fields.get? "buff")) = .ok false → Skips w extra effect
  | notFinite {kind : String} {fields : Fields Value} {formula : Value} {n : Number} {w' : World} :
      effectOf? effect = some (kind, fields) → quantityFormula? kind fields = some formula →
      (quantityOf extra formula).runFrom w = (.ok n, w') →
      (Value.num n).isFiniteNumber = .ok false → Skips w extra effect

/-- No stat is found by a value that names none, or with an amount that is not finite. -/
theorem namedStat_noting {stat : Value} {amount : Number}
    (h : w.state.HasStat stat → (Value.num amount).isFiniteNumber ≠ .ok true) :
    Leads Noting w (namedStat? stat amount) fun found _ => found = none := by
  refine (namedStat_leads stat amount).mono (fun _ h => h) fun found w₁ _ hfound => ?_
  cases found with
  | none => rfl
  | some named =>
      obtain ⟨hholds, hname, hget, hfinite⟩ := hfound.2 named.1 named.2 rfl
      exact absurd hfinite (h ⟨hholds, named.1, hname, by rw [hget]; rfl⟩)

theorem updateCur_noting {stat : Value} {amount : Number} (update : Value → Except Fault Value)
    (h : w.state.HasStat stat → (Value.num amount).isFiniteNumber ≠ .ok true) :
    Leads Noting w (updateCur stat amount update) fun change _ => change = none := by
  unfold updateCur
  refine (namedStat_noting h).bind fun found _ _ hfound => ?_
  subst hfound
  exact .pure rfl

theorem updateCur_logChange_noting {stat : Value} {amount : Number}
    (update : Value → Except Fault Value)
    (h : w.state.HasStat stat → (Value.num amount).isFiniteNumber ≠ .ok true) :
    Leads Noting w (updateCur stat amount update >>= logChange) fun _ _ => True := by
  refine (updateCur_noting update h).bind fun change _ _ hchange => ?_
  subst hchange
  exact .pure trivial

theorem addToMax_noting {stat : Value} {amount : Number}
    (h : w.state.HasStat stat → (Value.num amount).isFiniteNumber ≠ .ok true) :
    Leads Noting w (addToMax stat amount) fun _ _ => True := by
  unfold addToMax
  refine (namedStat_noting h).bind fun found _ _ hfound => ?_
  subst hfound
  exact .pure trivial

/-- An effect on a stat that is none of the base stats, or with an amount that is not finite. -/
theorem statEffect_noting (onward : Onward) {stat : Value} (hstat : statOf? kind fields = some stat)
    (h : ∀ n w', (quantityOf extra (amountFormula fields)).runFrom w = (.ok n, w') →
      w.state.HasStat stat → (Value.num n).isFiniteNumber ≠ .ok true) :
    Leads Noting w (applyNamed onward kind (.obj fields) extra) fun _ _ => True := by
  have hamount : Leads Noting w (amountOf (.obj fields) extra (.int 0)) fun n w' =>
      w'.state.HasStat stat → (Value.num n).isFiniteNumber ≠ .ok true :=
    (quantityOf_noting extra _).with_run.mono (fun _ h => h) fun n w' hnoting hrun => by
      rw [hnoting.state_eq]
      exact h n w' hrun.1
  unfold statOf? at hstat
  split at hstat
  · rename_i hkind
    cases hstat
    simp only [List.mem_cons, List.not_mem_nil, or_false] at hkind
    rcases hkind with rfl | rfl | rfl
    · refine hamount.bind fun n w₁ _ hn => .lift_bind fun stat hstat => ?_
      cases hstat
      exact updateCur_logChange_noting _ hn
    · refine hamount.bind fun n w₁ _ hn => .lift_bind fun stat hstat => ?_
      cases hstat
      exact updateCur_logChange_noting _ hn
    · refine hamount.bind fun n w₁ _ hn => .lift_bind fun stat hstat => ?_
      cases hstat
      exact addToMax_noting hn
  · split at hstat
    · rename_i hkind
      subst hkind
      cases hstat
      exact hamount.bind fun n w₁ _ hn =>
        (updateCur_noting _ hn).bind fun _ _ _ _ => .pure trivial
    · cases hstat

/-- An effect on an item that is not declared, or with a count that is not finite. -/
theorem itemEffect_noting (onward : Onward) (hkind : kind ∈ countKinds)
    (h : ∀ n w', (quantityOf extra (countFormula fields)).runFrom w = (.ok n, w') →
      declares w.book.items (ofOption (fields.get? "item")) = .ok true →
        (Value.num n).isFiniteNumber ≠ .ok true) :
    Leads Noting w (applyNamed onward kind (.obj fields) extra) fun _ _ => True := by
  have hcount : Leads Noting w (countOf (.obj fields) extra) fun n w' =>
      declares w'.book.items (ofOption (fields.get? "item")) = .ok true →
        (Value.num n).isFiniteNumber ≠ .ok true :=
    (quantityOf_noting extra _).with_run.mono (fun _ h => h) fun n w' hnoting hrun => by
      rw [hnoting.book_eq]
      exact h n w' hrun.1
  simp only [countKinds, List.mem_cons, List.not_mem_nil, or_false] at hkind
  rcases hkind with rfl | rfl
  · refine hcount.bind fun n w₁ _ hn => .lift_bind fun item hitem => ?_
    cases hitem
    have hskip : Leads Noting w₁ (addItem _ (.num n)) fun _ _ => True :=
      declaredFinite_leads fun hdeclared hfinite => absurd hfinite (hn hdeclared)
    exact hskip.bind fun _ _ _ _ => .pure trivial
  · refine hcount.bind fun n w₁ _ hn => .lift_bind fun item hitem => ?_
    cases hitem
    exact declaredFinite_leads fun hdeclared hfinite => absurd hfinite (hn hdeclared)

/-- An effect whose amount or count is not finite. -/
theorem notFinite_noting (onward : Onward) {formula : Value} {n : Number} {w' : World}
    (hformula : quantityFormula? kind fields = some formula)
    (hrun : (quantityOf extra formula).runFrom w = (.ok n, w'))
    (hn : (Value.num n).isFiniteNumber = .ok false) :
    Leads Noting w (applyNamed onward kind (.obj fields) extra) fun _ _ => True := by
  have honly : ∀ n' w'', (quantityOf extra formula).runFrom w = (.ok n', w'') →
      (Value.num n').isFiniteNumber ≠ .ok true := fun n' w'' hrun' => by
    rw [hrun] at hrun'
    cases hrun'
    rw [hn]
    nofun
  unfold quantityFormula? at hformula
  split at hformula
  · rename_i hkind
    cases hformula
    by_cases hcapacity : kind = "capacity_add"
    · subst hcapacity
      have hamount : Leads Noting w (amountOf (.obj fields) extra (.int 0)) fun n _ =>
          (Value.num n).isFiniteNumber ≠ .ok true :=
        (quantityOf_noting extra _).with_run.mono (fun _ h => h) fun n w' _ hrun =>
          honly n w' hrun.1
      refine hamount.bind fun n' w₁ _ hn' => .lift_bind fun finite hfinite => ?_
      refine .ite_not (fun _ => .pure trivial) fun hf => ?_
      subst hf
      exact absurd hfinite hn'
    · obtain ⟨stat, hstat⟩ : ∃ stat, statOf? kind fields = some stat := by
        simp only [amountKinds, List.mem_cons, List.not_mem_nil, or_false] at hkind
        rcases hkind with rfl | rfl | rfl | rfl | rfl
        any_goals exact ⟨_, rfl⟩
        exact absurd rfl hcapacity
      exact statEffect_noting onward hstat fun n' w'' hrun' _ => honly n' w'' hrun'
  · split at hformula
    · rename_i hkind
      cases hformula
      exact itemEffect_noting onward hkind fun n' w'' hrun' _ => honly n' w'' hrun'
    · cases hformula

/-- An effect of no known kind warns the author. -/
theorem applyNamed_of_unknown (onward : Onward) (effect : Value) (h : kind ∉ effectKinds) :
    applyNamed onward kind effect extra = warn ("Unknown effect: " ++ kind) := by
  unfold applyNamed
  split <;> first | rfl | exact absurd (by decide) h

/-- **An effect that is skipped leaves notes only.** -/
theorem applyEffect_noting (onward : Onward) {effect : Value} (h : Skips w extra effect) :
    Leads Noting w (applyEffect onward effect extra) fun _ _ => True := by
  cases heffect : effectOf? effect with
  | none =>
      rcases applyEffect_of_none onward extra heffect with h | ⟨text, h⟩
      · rw [h]
        exact .pure trivial
      · rw [h]
        exact warn_noting text
  | some e =>
      obtain ⟨kind, fields⟩ := e
      rw [(applyEffect_of_some onward extra heffect).2]
      split
      · exact .pure trivial
      cases h with
      | unknown h =>
          rw [applyNamed_of_unknown onward _ (h _ heffect)]
          exact warn_noting _
      | stat h hstat hnone =>
          cases heffect.symm.trans h
          exact statEffect_noting onward hstat fun _ _ _ hhas => absurd hhas hnone
      | item h hkind hdeclared =>
          cases heffect.symm.trans h
          refine itemEffect_noting onward hkind fun _ _ _ h => ?_
          rw [hdeclared] at h
          cases h
      | buff h hdeclared =>
          cases heffect.symm.trans h
          refine .lift_bind fun given _ => .lift_bind fun value _ => .lift_bind fun buff hbuff => ?_
          cases hbuff
          refine .lift_bind fun duration _ => .book_bind <| .lift_bind fun declared h => ?_
          refine .ite_not (fun _ => .pure trivial) fun hd => ?_
          rw [hdeclared, hd] at h
          cases h
      | notFinite h hformula hrun hn =>
          cases heffect.symm.trans h
          exact notFinite_noting onward hformula hrun hn

/-! ### The frame of an effect -/

/-- **What an effect changes**: the part that it names at most, also as formulas read the flags,
never the derived view, and nothing but notes where it is skipped. -/
theorem applyEffect_frame (onward : Onward) {effect : Value} (hsimple : effect.IsSimple)
    (hitem : effect.IsItemEffect → w.state.flagIsInventory = false)
    (hflag : effect.IsFlagEffect → w.state.flagIsFlags = false)
    {r : Except Fault Unit} {w' : World}
    (hrun : (applyEffect onward effect extra).runFrom w = (r, w')) :
    Touches effect.part? w w' ∧ Touches effect.part? w.opened w'.opened ∧
      (w'.state.stats = w.state.stats ∧ w'.state.buffInstances = w.state.buffInstances ∧
        w'.state.buffTotals = w.state.buffTotals) ∧
      (Skips w extra effect → Noting w w') := by
  have htouches : Touches effect.part? w w' :=
    (applyEffect_touches onward extra hsimple hitem).world_of_run hrun
  have hopened : Touches effect.part? w.opened w'.opened :=
    htouches.opened fun _ hpart => hflag (isFlagEffect_of_part? hpart)
  exact ⟨htouches, hopened, htouches.view_eq,
    fun h => (applyEffect_noting onward h).world_of_run hrun⟩

/-- Finding more gems the more hit points are left. -/
def searchCamp : Value :=
  .obj [("type", .str "item_add"), ("item", .str "gem"), ("count_expr", .str "$stat.hp.cur - 8")]

theorem part?_searchCamp : searchCamp.part? = some (.count "gem") := rfl

theorem isSimple_searchCamp : searchCamp.IsSimple := isSimple_of_kind rfl (by decide) (by decide)

/-- The effect that sets a flag to the value of a formula. -/
def flagSet (flag formula : String) : Value :=
  .obj [("type", .str "flag_set"), ("flag", .str flag), ("value_expr", .str formula)]

theorem isSimple_flagSet (flag formula : String) : (flagSet flag formula).IsSimple :=
  isSimple_of_kind rfl (by decide) (by decide)

/-- In the camp, searching changes the count of gems only, camping changes one flag only, also as
formulas read it, and resting forever changes nothing. -/
theorem applyEffect_frame_camp :
    camp.state.flagIsInventory = false ∧ camp.state.flagIsFlags = false ∧
    searchCamp.IsSimple ∧ (flagSet "camped" "$day").IsSimple ∧ restForever.IsSimple ∧
    Skips camp [] restForever ∧
    Touches (some (.count "gem")) camp ((applyEffect onwards searchCamp []).runFrom camp).2 ∧
    Touches (some (.flag (.str "camped"))) camp.opened
      ((applyEffect onwards (flagSet "camped" "$day") []).runFrom camp).2.opened ∧
    Noting camp ((applyEffect onwards restForever []).runFrom camp).2 := by
  have hitems : camp.state.flagIsInventory = false := by decide +kernel
  have hflags : camp.state.flagIsFlags = false := by decide +kernel
  have hrest : restForever.IsSimple := isSimple_of_kind rfl (by decide) (by decide)
  have hskips : Skips camp [] restForever := by
    have hvalue : FailsOnly (fun _ => False)
        ((quantityOf [] (.str "1 / 0")).runFrom camp).1 := by decide +kernel
    have hinfinite : GivesOnly (fun n => (Value.num n).isFiniteNumber = .ok false)
        ((quantityOf [] (.str "1 / 0")).runFrom camp).1 := by decide +kernel
    obtain ⟨n, hn⟩ := hvalue.exists_ok
    exact .notFinite rfl rfl (runFrom_eq hn) (hinfinite n hn)
  refine ⟨hitems, hflags, isSimple_searchCamp, isSimple_flagSet _ _, hrest, hskips, ?_, ?_, ?_⟩
  · rw [← part?_searchCamp]
    exact (applyEffect_frame onwards isSimple_searchCamp (fun _ => hitems) (fun _ => hflags)
      (runFrom_eq rfl)).1
  · exact (applyEffect_frame onwards (isSimple_flagSet "camped" "$day") (fun _ => hitems)
      (fun _ => hflags) (runFrom_eq rfl)).2.1
  · exact (applyEffect_frame onwards hrest (fun _ => hitems) (fun _ => hflags)
      (runFrom_eq rfl)).2.2.2 hskips

/-- The camp after the inventory was kept in a flag. -/
def packedCamp : World :=
  ((applyEffect onwards (flagSet "bag" "$item") []).runFrom camp).2

/-- How many gems there are in the bag, if there is one. -/
def gemsInBag (flags : Value) : Option Number := do
  let bag ← (← flags.fields?).get? "bag"
  return (← (← bag.fields?).get? "gem").toNumber

/-- A flag that is the inventory changes along with it. -/
theorem not_applyEffect_frame :
    ¬ ∀ (w : World) (effect : Value) (w' : World), effect.IsSimple →
      (applyEffect onwards effect []).runFrom w = (.ok (), w') → Touches effect.part? w w' := by
  intro h
  have hrun : ((applyEffect onwards searchCamp []).runFrom packedCamp).1 = .ok () := by
    decide +kernel
  have hdiffer : gemsInBag ((applyEffect onwards searchCamp []).runFrom packedCamp).2.state.flags ≠
      gemsInBag packedCamp.state.flags := by decide +kernel
  have htouches := h packedCamp searchCamp _ isSimple_searchCamp (runFrom_eq hrun)
  rw [part?_searchCamp] at htouches
  exact hdiffer (congrArg gemsInBag htouches.flags_eq)

/-- The camp after the flags were kept in a flag. -/
def mirroredCamp : World := ((applyEffect onwards (flagSet "all" "$flag") []).runFrom camp).2

/-- How many flags there are in the flag with the name, as formulas read it. -/
def flagsIn (name : Key) (w : World) : Option Nat :=
  (w.opened.state.flags.fields?.bind (Fields.get? · name)).bind (·.fields?.map List.length)

/-- A flag that is the flags changes along with every other one. -/
theorem not_touches_opened :
    ¬ ∀ (w : World) (effect : Value) (w' : World), effect.IsSimple →
      (applyEffect onwards effect []).runFrom w = (.ok (), w') →
      Touches effect.part? w.opened w'.opened := by
  intro h
  have hrun : ((applyEffect onwards (flagSet "camped" "1") []).runFrom mirroredCamp).1 =
      .ok () := by decide +kernel
  have hdiffer : flagsIn "all" ((applyEffect onwards (flagSet "camped" "1") []).runFrom
      mirroredCamp).2 ≠ flagsIn "all" mirroredCamp := by decide +kernel
  have htouches := h mirroredCamp _ _ (isSimple_flagSet _ _) (runFrom_eq hrun)
  have hapart : Key.same "camped" "all" = false := by decide
  exact hdiffer (by rw [flagsIn, flagsIn, htouches.get?_flags rfl hapart])

end Play

end Gamebook
