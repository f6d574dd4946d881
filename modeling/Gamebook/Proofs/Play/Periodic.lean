/-
**Periodic effects add up.**

The contributions to the buffs in effect are computed before any periodic effect is applied, and
each of them is bound to a name for its own effect.  So where every periodic effect adds the value
of its buff to a stat, each contribution makes its addition, once, with the value that it had at the
start; what the effects before it did to the state does not matter.  A stat rises by the sum of the
contributions whose buffs raise it, however many of them there are and in whatever order they stand.

A day's effects can only fail to return where an integer is too large for its line in the journal,
or where a contribution goes to a buff without a name.

Main definitions:

* `Book.RaisesDaily` — books whose periodic effects add the values of the buffs to stats;
* `Book.raises`, `Book.dailyRise` — whether a buff raises a stat, and the sum for a stat;
* `Book.additionsOf` — what a contribution adds to which stat.

Main results:

* `Play.runPeriodicOf_addition` — **a contribution makes its addition**;
* `Play.runPeriodic_additions` — so do all of them, one after the other;
* `Play.runPeriodic_sums` — **every stat rises by the sum of its contributions**.
-/

import Gamebook.Proofs.Play.Batch
import Gamebook.Proofs.Play.SyncFormulas

set_option autoImplicit false

namespace Gamebook

open Value World Fault

/-! ### Books whose periodic effects add up -/

/-- The stat to which an effect adds the value of its buff, when that is what the effect does. -/
def Value.raisedStat? (effect : Value) : Option String :=
  match effectOf? effect with
  | some ("stat_add", fields) =>
      match ofOption (fields.get? "stat"), ofOption (fields.get? "value_expr") with
      | .str s, .str "$value" => some s
      | _, _ => none
  | _ => none

/-- The stat that a periodic part raises day by day, without conditions and by one effect. -/
def Value.dailyStat? (periodic : Value) : Option String :=
  match periodic.field "every", periodic.field "conditions", periodic.field "effects" with
  | .ok (.str "day"), .ok conditions, .ok (.list [effect]) =>
      if conditions.holds then none else effect.raisedStat?
  | _, _, _ => none

namespace Book

/-- The periodic part of a buff. -/
def periodicOf (b : Book) (id : Value) : Except Fault Value := do
  ((← b.buffs.fieldAt id).orElse (.obj [])).field "periodic"

/-- **Every buff of the book that has a periodic part raises a stat by it**, day by day. -/
def RaisesDaily (b : Book) : Prop :=
  ∀ id periodic, b.periodicOf id = .ok periodic → periodic.holds = true →
    periodic.dailyStat?.isSome = true

/-- The stat that a buff raises day by day. -/
def raisedBy? (b : Book) (id : Value) : Option String :=
  match b.periodicOf id with
  | .ok periodic => if periodic.holds then periodic.dailyStat? else none
  | .error _ => none

/-- Whether a buff raises a stat.  No stat has the empty name. -/
def raises (b : Book) (name : Key) (id : Value) : Bool :=
  (b.raisedBy? id).any fun s => !s.isEmpty && (Key.text s).same name

/-- The sum of the contributions whose buffs raise a stat. -/
def dailyRise (b : Book) (instances : List BuffInstance) (name : Key) : Int :=
  ((instances.filter (b.raises name ·.id)).map (·.amount)).sum

/-- What a contribution adds to which stat. -/
def additionsOf (b : Book) (i : BuffInstance) : List Adjustment :=
  match b.raisedBy? i.id with
  | some s => additionTo (.str s) .cur i.amount
  | none => []

end Book

/-- A book is of this kind when all its buffs are. -/
theorem Book.RaisesDaily.of_fields {b : Book} {fields : Fields Value}
    (hbuffs : b.buffs = .obj fields)
    (h : ∀ entry ∈ fields, GivesOnly
      (fun periodic => periodic.holds = true → periodic.dailyStat?.isSome = true)
      ((entry.2.orElse (.obj [])).field "periodic")) : b.RaisesDaily := by
  intro id periodic hperiodic hholds
  obtain ⟨definition, hdefinition, hpart⟩ := exists_of_bind_eq_ok hperiodic
  obtain ⟨fs, name, hfs, rfl⟩ := exists_of_fieldAt_eq hdefinition
  obtain rfl : fields = fs := Option.some.inj ((congrArg Value.fields? hbuffs).symm.trans hfs)
  cases hname : fields.get? name with
  | none =>
      rw [hname] at hpart
      cases hpart
      cases hholds
  | some definition =>
      rw [hname] at hpart
      have hdaily := Fields.forall_get? (P := fun definition => GivesOnly
        (fun periodic => periodic.holds = true → periodic.dailyStat?.isSome = true)
        ((definition.orElse (.obj [])).field "periodic")) h hname
      exact hdaily periodic hpart hholds

/-- What a periodic part that raises a stat is made of. -/
theorem Value.exists_of_dailyStat? {periodic : Value} {s : String}
    (h : periodic.dailyStat? = some s) :
    periodic.field "every" = .ok (.str "day") ∧
    (∃ conditions, periodic.field "conditions" = .ok conditions ∧ conditions.holds = false) ∧
    ∃ effect fields, periodic.field "effects" = .ok (.list [effect]) ∧
      effectOf? effect = some ("stat_add", fields) ∧ ofOption (fields.get? "stat") = .str s ∧
      ofOption (fields.get? "value_expr") = .str "$value" := by
  unfold dailyStat? at h
  split at h
  · rename_i conditions effect hevery hconditions heffects
    split at h
    · cases h
    · rename_i hholds
      unfold raisedStat? at h
      split at h
      · rename_i fields heffect
        split at h
        · rename_i hstat hvalue
          cases h
          exact ⟨hevery, ⟨conditions, hconditions, by simpa using hholds⟩, effect, fields, heffects,
            heffect, hstat, hvalue⟩
        · cases h
      · cases h
  · cases h

/-- A text names a stat, or it is empty and names none. -/
theorem Value.namesStat_of_str {effect : Value} {fields : Fields Value} {s : String}
    (heffect : effectOf? effect = some ("stat_add", fields))
    (hstat : ofOption (fields.get? "stat") = .str s) : effect.NamesStat := by
  intro e he stat hstat'
  cases heffect.symm.trans he
  obtain rfl : stat = .str s := (Option.some.inj hstat').symm.trans hstat
  cases hs : s.isEmpty <;> simp [isId, holds, asKey, hs, Except.toOption]

namespace Book

variable {b : Book} {i : BuffInstance} {instances : List BuffInstance} {name : Key}

theorem part_additionsOf : ∀ a ∈ b.additionsOf i, a.part = .cur := by
  intro a ha
  unfold additionsOf at ha
  split at ha
  · unfold additionTo at ha
    split at ha
    · split at ha
      · rw [List.mem_singleton.1 ha]
      · cases ha
    · cases ha
  · cases ha

/-- What a contribution adds to a stat is its value, if its buff raises the stat. -/
theorem sumFor_additionsOf (b : Book) (i : BuffInstance) (name : Key) :
    Adjustment.sumFor (b.additionsOf i) name = if b.raises name i.id then i.amount else 0 := by
  unfold additionsOf raises
  cases b.raisedBy? i.id with
  | none => rfl
  | some s =>
      cases hempty : s.isEmpty with
      | true => simp [additionTo, holds, hempty, Adjustment.sumFor]
      | false =>
          cases hname : (Key.text s).same name <;>
            simp [additionTo, holds, hempty, asKey, Adjustment.sumFor, hname]

/-- **The additions to a stat are those of the contributions whose buffs raise it.** -/
theorem sumFor_flatMap (b : Book) (instances : List BuffInstance) (name : Key) :
    Adjustment.sumFor (instances.flatMap b.additionsOf) name = b.dailyRise instances name := by
  induction instances with
  | nil => rfl
  | cons i instances ih =>
      rw [List.flatMap_cons, Adjustment.sumFor_append, sumFor_additionsOf, ih, dailyRise, dailyRise,
        List.filter_cons]
      cases b.raises name i.id <;> simp

/-- What a contribution adds is what the effect of its buff does. -/
theorem additionsOf_eq {periodic effect : Value} {fields : Fields Value} {s : String}
    (hpart : b.periodicOf i.id = .ok periodic) (hholds : periodic.holds = true)
    (hs : periodic.dailyStat? = some s) (heffect : effectOf? effect = some ("stat_add", fields))
    (hstat : ofOption (fields.get? "stat") = .str s) :
    b.additionsOf i = additions effect i.amount := by
  simp only [additionsOf, raisedBy?, hpart, hholds, hs, additions, heffect, statOf?]
  rw [hstat]
  rfl

theorem additionsOf_of_not_holds {periodic : Value} (hpart : b.periodicOf i.id = .ok periodic)
    (hholds : periodic.holds = false) : b.additionsOf i = [] := by
  simp [additionsOf, raisedBy?, hpart, hholds]

/-- What a contribution adds is what some effect does. -/
theorem exists_additions_eq (b : Book) (i : BuffInstance) :
    ∃ effect, b.additionsOf i = additions effect i.amount := by
  unfold additionsOf
  cases b.raisedBy? i.id with
  | none => exact ⟨.null, rfl⟩
  | some s => exact ⟨.obj [("type", .str "stat_add"), ("stat", .str s)], rfl⟩

end Book

namespace Play

variable {w w' : World} {c : Value} {i : BuffInstance} {instances : List BuffInstance}
  {room readable : Prop}

/-! ### One contribution -/

/-- A contribution that is bound to a name is the value of that name. -/
theorem runFrom_evaluator_value (hcapacity : w.state.capacity = .ok c) (v : Value) :
    (evaluator (.str "$value") [("$value", v)]).runFrom w = (.ok v, w) := by
  obtain ⟨names, hscope⟩ : ∃ names, w.scope [("$value", v)] =
      .ok ⟨("$value", v) :: names, w.builtins, w.settings.digitLimit⟩ := by
    simp only [World.scope, hcapacity, bind, Except.bind]
    exact ⟨_, rfl⟩
  have hvalue : (Formula.evaluate ⟨("$value", v) :: names, w.builtins, w.settings.digitLimit⟩
      (.str "$value")).run.run w.chance = (.ok v, w.chance) := by
    have hempty : (Text.strip "$value").isEmpty = false := by decide +kernel
    simp only [Formula.evaluate, Formula.evaluateText, hempty, Formula.read_value]
    rfl
  unfold evaluator
  rw [runFrom_evaluate, hscope]
  simp only [hvalue]

/-- An effect that adds the value of its buff adds the contribution that is bound to it. -/
theorem isAddition_value {effect : Value} {fields : Fields Value}
    (hcapacity : w.state.capacity = .ok c) (hi : i.value.IsSmallInteger)
    (heffect : effectOf? effect = some ("stat_add", fields))
    (hvalue : ofOption (fields.get? "value_expr") = .str "$value") :
    IsAddition w [("$value", i.value)] effect ∧
      amountIn w [("$value", i.value)] effect = i.amount := by
  obtain ⟨n, hsmall, hn⟩ := hi
  have hamountOf : i.amount = n := by rw [BuffInstance.amount, hn]
  obtain ⟨rfl, -⟩ := applyEffect_of_some onwards [] heffect
  have hformula : amountFormula fields = .str "$value" := by rw [amountFormula, hvalue]; rfl
  have hamount : ((amountOf (.obj fields) [("$value", i.value)] (.int 0)).runFrom w).1 =
      .ok (.int n) := by
    have hrun : (quantityOf [("$value", i.value)] (amountFormula fields)).runFrom w =
        (.ok (.int n), w) := by
      rw [quantityOf, hformula, runFrom_bind_ok (runFrom_evaluator_value hcapacity i.value), hn]
      rfl
    exact congrArg Prod.fst hrun
  have havoids : Formula.avoids [] Formula.chanceCalls (amountFormula fields) = true := by
    rw [hformula, Formula.avoids, Formula.read_value]
    rfl
  refine ⟨⟨"stat_add", fields, heffect, by decide, havoids, n, hamount, hsmall⟩, ?_⟩
  rw [hamountOf, amountIn, hamount]

/-- **A contribution makes its addition**: it adds its value to the stat that its buff raises, if
there is one. -/
theorem runPeriodicOf_addition (on : Onward) (hbook : w.book.RaisesDaily)
    (hcapacity : w.state.capacity = .ok c) (hi : i.value.IsSmallInteger) (hbase : Rebased w w')
    (hstats : Stat.AllInteger w'.state.baseStats) (hroom : room → w'.HasRoom i.amount.natAbs)
    (hreadable : readable → ∃ periodic, w.book.periodicOf i.id = .ok periodic) :
    Returns (fun e => Allowed (¬ room) e ∨ ¬ readable) w' (runPeriodicOf on (.str "day") i)
      fun _ w'' => Annotates (w'.withBaseStats
        (Adjustment.applyAll (w.book.additionsOf i) w'.state.baseStats)) w'' := by
  have hsame : w'.book = w.book := by rw [hbase]
  unfold runPeriodicOf
  refine .book_bind ?_
  rw [hsame]
  refine .lift_bind (fun e he => .inr fun hr => ?_) fun definition hdefinition => ?_
  · obtain ⟨periodic, hperiodic⟩ := hreadable hr
    obtain ⟨definition, hdefinition, -⟩ := exists_of_bind_eq_ok hperiodic
    cases he.symm.trans hdefinition
  have hpart : w.book.periodicOf i.id = (definition.orElse (.obj [])).field "periodic" := by
    rw [Book.periodicOf, hdefinition]
    rfl
  refine .lift_bind (fun e he => .inr fun hr => ?_) fun periodic hperiodic => ?_
  · obtain ⟨periodic, hperiodic⟩ := hreadable hr
    cases he.symm.trans (hpart.symm.trans hperiodic)
  rw [hperiodic] at hpart
  cases hholds : periodic.holds with
  | false =>
      rw [Book.additionsOf_of_not_holds hpart hholds]
      exact .pure (.refl _)
  | true =>
      obtain ⟨s, hs⟩ := Option.isSome_iff_exists.1 (hbook _ _ hpart hholds)
      obtain ⟨hevery, ⟨conditions, hconditions, hnone⟩, effect, fields, heffects, heffect, hstat,
        hvalue⟩ := exists_of_dailyStat? hs
      obtain ⟨hadd, hamount⟩ := isAddition_value hcapacity hi heffect hvalue
      have hnamed : True → effect.NamesStat := fun _ => namesStat_of_str heffect hstat
      have hmakes := applyEffect_addition on hadd hbase hstats hnamed (hamount ▸ hroom)
      rw [hamount, ← Book.additionsOf_eq hpart hholds hs heffect hstat] at hmakes
      have hcheck : (checkConditions conditions [("$value", i.value)] false).runFrom w' =
          (.ok true, w') := by
        unfold checkConditions
        rw [if_pos (by rw [hnone]; rfl)]
        rfl
      refine .lift_ok_bind hevery ?_
      rw [if_pos (by rfl)]
      refine .lift_ok_bind hconditions <| .run_bind hcheck ?_
      rw [if_pos rfl]
      refine .lift_ok_bind heffects <| .lift_ok_bind (a := [effect]) rfl ?_
      refine Returns.bind ⟨hmakes.fault.mono fun e he => ?_, hmakes.result⟩ fun _ _ h => .pure h
      exact he.imp_right fun h => absurd trivial h.2

/-! ### All contributions -/

/-- **All contributions make their additions**, one after the other. -/
theorem runPeriodicOf_additions (on : Onward) (hbook : w.book.RaisesDaily)
    (hcapacity : w.state.capacity = .ok c) (hvalues : ∀ i ∈ instances, i.value.IsSmallInteger)
    (hbase : Rebased w w') (hstats : Stat.AllInteger w'.state.baseStats)
    (hroom : room → w'.HasRoom (instances.map (·.amount.natAbs)).sum)
    (hreadable : readable → ∀ i ∈ instances, ∃ periodic, w.book.periodicOf i.id = .ok periodic) :
    Returns (fun e => Allowed (¬ room) e ∨ ¬ readable) w'
      (instances.forM (runPeriodicOf on (.str "day"))) fun _ w'' => Rebased w w'' ∧
        w''.state.baseStats = Adjustment.applyAll (instances.flatMap w.book.additionsOf)
          w'.state.baseStats := by
  -- by induction on the contributions; between two of them only base stats have changed
  induction instances generalizing w' with
  | nil => exact .pure ⟨hbase, rfl⟩
  | cons i instances ih =>
      obtain ⟨hi, hinstances⟩ := List.forall_mem_cons.1 hvalues
      rw [List.map_cons, List.sum_cons] at hroom
      rw [List.flatMap_cons, Adjustment.applyAll_append]
      have hfirst : room → w'.HasRoom i.amount.natAbs := fun hr entry hentry =>
        (hroom hr entry hentry).mono (by omega)
      refine (runPeriodicOf_addition on hbook hcapacity hi hbase hstats hfirst
        fun h => hreadable h i (List.mem_cons_self ..)).bind fun _ w₁ hw₁ => ?_
      have hstats₁ : w₁.state.baseStats = Adjustment.applyAll (w.book.additionsOf i)
          w'.state.baseStats := hw₁.baseStats_eq
      rw [← hstats₁]
      refine ih hinstances ((hbase.set _).annotates hw₁) ?_ (fun hr => ?_)
        fun h j hj => hreadable h j (List.mem_cons_of_mem _ hj)
      · rw [hstats₁]
        exact ((⟨rfl, hstats⟩ : Stat.IntegerLike _ _).applyAll _).integer
      · obtain ⟨effect, heffect⟩ := w.book.exists_additions_eq i
        rw [World.HasRoom, hstats₁, heffect, hw₁.settings_eq]
        exact hasRoom_after hstats (hroom hr)

/-! ### The day's effects -/

/-- A formula has a value only where there is a capacity to be seen. -/
theorem evaluator_capacity (formula : Value) (extra : Fields Value) :
    Leads Idle w (evaluator formula extra) fun _ _ => ∃ c, w.state.capacity = .ok c := by
  refine (evaluator_idle formula extra).with_run.mono (fun _ h => h) fun v w' _ h => ?_
  have hrun := h.1
  unfold evaluator at hrun
  rw [runFrom_evaluate] at hrun
  cases hscope : w.scope extra with
  | error e =>
      rw [hscope] at hrun
      cases hrun
  | ok scope =>
      obtain ⟨c, hc, -⟩ := exists_of_bind_eq_ok hscope
      exact ⟨c, hc⟩

/-- Where there is a contribution there is a capacity: its value is that of a formula. -/
theorem buffInstances_capacity :
    Leads Idle w (buffInstances evaluator) fun is _ => ∀ i ∈ is, ∃ c, w.state.capacity = .ok c := by
  have hlook : ∀ {w₁ : World}, Idle w w₁ → ∀ (formula : Value) (extra : Fields Value),
      Leads Idle w₁ (evaluator formula extra) fun _ _ => ∃ c, w.state.capacity = .ok c :=
    fun {w₁} h formula extra => by
      have hsame : w₁.state.capacity = w.state.capacity := by rw [h.state_eq]; rfl
      rw [← hsame]
      exact evaluator_capacity formula extra
  unfold buffInstances
  refine .state_bind <| .lift_bind fun buffs _ => ?_
  refine (Leads.filterMapM (P := fun _ => ∃ c, w.state.capacity = .ok c)
    fun buff _ w₁ h₁ => ?_).bind fun active w₁ h₁ hactive => ?_
  · refine .lift_bind fun given _ => (hlook h₁ _ _).bind fun v w₂ _ hc => .lift_bind fun _ _ => ?_
    split
    · exact .pure nofun
    · exact .lift_bind fun id _ => .pure fun _ _ => hc
  refine .book_bind <| .lift_bind fun items _ => ?_
  refine (Leads.mapM (P := fun _ is => ∀ i ∈ is, ∃ c, w.state.capacity = .ok c)
    fun item _ w₂ h₂ => ?_).bind fun held w₂ _ hheld => .pure fun i hi => ?_
  · refine .state_bind <| .lift_bind fun given _ => .filterMapM fun hold _ w₃ h₃ => ?_
    refine .lift_bind fun formula _ => ?_
    refine (hlook ((h₁.trans h₂).trans h₃) _ _).bind fun v w₄ _ hc => .lift_bind fun _ _ => ?_
    split
    · exact .pure nofun
    · exact .lift_bind fun id _ => .pure fun _ _ => hc
  · rcases List.mem_append.1 hi with hi | hi
    · exact hactive i hi
    · obtain ⟨is, his, hi⟩ := List.mem_flatten.1 hi
      obtain ⟨_, _, h⟩ := exists_mem_of_forall₂ hheld his
      exact h i hi

/-- The additions of all contributions are made to base stats, and nothing else changes but the
journal. -/
theorem runPeriodic_additions (room readable : Prop) (on : Onward) (hbook : w.book.RaisesDaily)
    (hstats : Stat.AllInteger w.state.baseStats) {w₁ : World}
    (hinstances : (buffInstances evaluator).runFrom w = (.ok instances, w₁))
    (hvalues : ∀ i ∈ instances, i.value.IsSmallInteger)
    (hroom : room → w.HasRoom (instances.map (·.amount.natAbs)).sum)
    (hreadable : readable → ∀ i ∈ instances, ∃ periodic, w.book.periodicOf i.id = .ok periodic) :
    Returns (fun e => Allowed (¬ room) e ∨ ¬ readable) w (runPeriodic on (.str "day"))
      fun _ w' => w'.state = { w.state with
          baseStats := Adjustment.applyAll (instances.flatMap w.book.additionsOf) w.state.baseStats
          journal := w'.state.journal } := by
  have hidle : Idle w w₁ := buffInstances_idle.world_of_run hinstances
  have hstate : w₁.state = { w.state with journal := w₁.state.journal } := hidle.noting.state_eq
  have hstats₁ : w₁.state.baseStats = w.state.baseStats := by rw [hstate]
  refine .run_bind hinstances ?_
  cases hnil : instances with
  | nil => exact .pure hstate
  | cons i rest =>
      rw [← hnil]
      obtain ⟨c, hc⟩ := buffInstances_capacity.result_of_run hinstances i
        (hnil ▸ List.mem_cons_self ..)
      have hcapacity : w₁.state.capacity = .ok c := by rw [hstate]; exact hc
      have hroom₁ : room → w₁.HasRoom (instances.map (·.amount.natAbs)).sum := fun h => by
        rw [World.HasRoom, hstats₁, hidle.settings_eq]
        exact hroom h
      refine (runPeriodicOf_additions on (hidle.book_eq ▸ hbook) hcapacity hvalues (.refl w₁)
        (hstats₁ ▸ hstats) hroom₁ (hidle.book_eq ▸ hreadable)).mono fun _ w' h => ?_
      obtain ⟨hbase, hsum⟩ := h
      have hafter : w'.state = { w₁.state with
          baseStats := w'.state.baseStats, journal := w'.state.journal } :=
        congrArg World.state hbase
      rw [hsum, hstats₁, hidle.book_eq] at hafter
      exact hafter.trans (by rw [hstate])

/-- **Every stat rises by the sum of its contributions.**  When the day's effects return, the
current value of every base stat has risen by the sum of the contributions whose buffs raise it, and
nothing else but the journal has changed.  They return when there is room for all integers, and the
buffs of the contributions can be looked up. -/
theorem runPeriodic_sums (on : Onward) (hbook : w.book.RaisesDaily)
    (hstats : Stat.AllInteger w.state.baseStats) {w₁ : World}
    (hinstances : (buffInstances evaluator).runFrom w = (.ok instances, w₁))
    (hvalues : ∀ i ∈ instances, i.value.IsSmallInteger) {r : Except Fault Unit}
    (hrun : (runPeriodic on (.str "day")).runFrom w = (r, w')) :
    (r = .ok () →
      w'.state = { w.state with
        baseStats := w'.state.baseStats, journal := w'.state.journal } ∧
      w'.state.baseStats.keys = w.state.baseStats.keys ∧
      ∀ name s, w.state.baseStats.get? name = some s → ∃ c : Int, s.cur = .ok (.int c) ∧
        w'.state.baseStats.get? name =
          some (s.setCur (.int (c + w.book.dailyRise instances name)))) ∧
    (w.HasRoom (instances.map (·.amount.natAbs)).sum →
      (∀ i ∈ instances, ∃ periodic, w.book.periodicOf i.id = .ok periodic) → r = .ok ()) := by
  have hreturns := runPeriodic_additions (w.HasRoom (instances.map (·.amount.natAbs)).sum)
    (∀ i ∈ instances, ∃ periodic, w.book.periodicOf i.id = .ok periodic) on hbook hstats hinstances
    hvalues (fun h => h) (fun h => h)
  have hfault := hreturns.fault
  have hresult := hreturns.result
  rw [hrun] at hfault hresult
  refine ⟨fun hr => ?_, fun hroom hreadable => ?_⟩
  · have hafter := hresult () hr
    have hsum : w'.state.baseStats = Adjustment.applyAll (instances.flatMap w.book.additionsOf)
        w.state.baseStats := congrArg State.baseStats hafter
    have hlike := (⟨rfl, hstats⟩ : Stat.IntegerLike w.state.baseStats _).applyAll
      (instances.flatMap w.book.additionsOf)
    have hcur : ∀ a ∈ instances.flatMap w.book.additionsOf, a.part = .cur := fun a ha => by
      obtain ⟨i, -, ha⟩ := List.mem_flatMap.1 ha
      exact Book.part_additionsOf a ha
    refine ⟨hsum ▸ hafter, hsum ▸ hlike.keys, fun name s hget => ?_⟩
    obtain ⟨c, m, hc, -⟩ : s.IsInteger := Fields.forall_get? hstats hget
    refine ⟨c, hc, ?_⟩
    rw [hsum, Adjustment.get?_applyAll_cur hcur, hget, Book.sumFor_flatMap, Option.map_some,
      Stat.setCur_eq_add hc]
  · cases r with
    | ok a => rfl
    | error e =>
        rcases hfault e rfl with ⟨hno, -⟩ | hno
        · exact absurd hroom hno
        · exact absurd hreadable hno

/-! ### At the springs -/

instance (v : Value) : Decidable v.IsSmallInteger :=
  match v with
  | .num (.int n) =>
      decidable_of_iff (n.natAbs < tenTo 300)
        ⟨fun h => ⟨n, h, rfl⟩, fun ⟨_, h, hn⟩ => by cases hn; exact h⟩
  | .num (.float _) | .num (.nan _) | .null | .bool _ | .str _ | .list _ | .obj _ | .inventory _
  | .flags _ =>
      .isFalse fun ⟨_, _, h⟩ => nomatch h

/-- A buff that raises a stat day by day. -/
def springBuff (stat : String) : Value :=
  .obj [("periodic", .obj [("every", .str "day"),
    ("effects", .list [trade "stat_add" stat (.str "$value")])])]

/-- Springs whose warmth heals, the toll for them, and a ring that keeps warm. -/
def springs : Book where
  buffs := .obj [("warmth", springBuff "hp"), ("toll", springBuff "money"), ("calm", .obj [])]
  items := .obj [("ring", .obj [("hold_buffs",
    .list [.obj [("buff", .str "warmth"), ("value_expr", .str "$count * 2")]])])]

/-- A trader at the springs, with three rings and with active buffs of some values. -/
def bather (money : Int) (active : List (String × String)) : World :=
  let w := trader money
  let buffs := active.map fun (buff, value) =>
    .obj [("id", .str buff), ("value_expr", .str value), ("duration_days", .null)]
  { w with
    book := springs
    state := { w.state with buffs := .list buffs, inventory := ⟨[("ring", .int 3)]⟩ } }

theorem raisesDaily_springs : springs.RaisesDaily := .of_fields rfl (by decide +kernel)

theorem allInteger_bather (money : Int) (active : List (String × String)) :
    Stat.AllInteger (bather money active).state.baseStats := allInteger_trader money

/-- The active buffs of a bather who has paid a toll. -/
def bathing : List (String × String) :=
  [("warmth", "2"), ("toll", "-4"), ("warmth", "1"), ("calm", "5")]

/-- Warmth of two, of one and from three rings adds up to nine. -/
theorem runPeriodic_sums_springs :
    ((runPeriodic onwards (.str "day")).runFrom (bather 30 bathing)).1 = .ok () ∧
    ((runPeriodic onwards (.str "day")).runFrom (bather 30 bathing)).2.state.baseStats.get? "hp" =
      some (Stat.ofInts 14 20) ∧
    ((runPeriodic onwards (.str "day")).runFrom (bather 30 bathing)).2.state.baseStats.get?
      "money" = some (Stat.ofInts 26 30) := by
  have hfails : FailsOnly (fun _ => False)
      ((buffInstances evaluator).runFrom (bather 30 bathing)).1 := by decide +kernel
  have hgives : GivesOnly (fun is => (∀ i ∈ is, i.value.IsSmallInteger) ∧
      (is.map (·.amount.natAbs)).sum = 18 ∧
      springs.dailyRise is "hp" = 9 ∧ springs.dailyRise is "money" = -4 ∧
      ∀ i ∈ is, FailsOnly (fun _ => False) (springs.periodicOf i.id))
      ((buffInstances evaluator).runFrom (bather 30 bathing)).1 := by decide +kernel
  obtain ⟨instances, hinstances⟩ := hfails.exists_ok
  obtain ⟨hvalues, htotal, hhp, hmoney, hlookup⟩ := hgives instances hinstances
  have hroom : (bather 30 bathing).HasRoom (instances.map (·.amount.natAbs)).sum := by
    rw [htotal]
    intro entry hentry n hn
    simp only [bather, trader, World.closed, List.mem_cons, List.not_mem_nil, or_false] at hentry
    rcases hentry with rfl | rfl <;> rcases hn with hn | hn <;> cases hn <;> decide +kernel
  obtain ⟨hsums, hreturns⟩ := runPeriodic_sums onwards raisesDaily_springs
    (allInteger_bather 30 bathing) (runFrom_eq hinstances) hvalues (runFrom_eq rfl)
  have hok := hreturns hroom fun i hi => (hlookup i hi).exists_ok
  obtain ⟨-, -, hstats⟩ := hsums hok
  have hrises : ∀ name cur max, (bather 30 bathing).state.baseStats.get? name =
      some (Stat.ofInts cur max) → ((runPeriodic onwards (.str "day")).runFrom
        (bather 30 bathing)).2.state.baseStats.get? name =
      some (Stat.ofInts (cur + springs.dailyRise instances name) max) := by
    intro name cur max hname
    obtain ⟨c, hc, hafter⟩ := hstats name _ hname
    cases hc
    exact hafter
  refine ⟨hok, ?_, ?_⟩
  · rw [hrises "hp" 5 20 rfl, hhp]
    rfl
  · rw [hrises "money" 30 30 rfl, hmoney]
    rfl

/-- A bather with too much money to write it down. -/
def richBather : World := bather (tenTo 4300) [("toll", "-1"), ("warmth", "1")]

/-- Where a number of digits is missing for the line of a change, the effects behind it are not
applied: who pays the toll from too much money is not healed. -/
theorem not_runPeriodic_sums :
    ¬ ∀ (w : World) (instances : List BuffInstance), w.book.RaisesDaily →
      Stat.AllInteger w.state.baseStats →
      ((buffInstances evaluator).runFrom w).1 = .ok instances →
      (∀ i ∈ instances, i.value.IsSmallInteger) →
      ∀ (name : Key) (n : Int), Stat.curIn w.state.baseStats name = some (.int n) →
        Stat.curIn ((runPeriodic onwards (.str "day")).runFrom w).2.state.baseStats name =
          some (.int (n + w.book.dailyRise instances name)) := by
  intro h
  have hfails : FailsOnly (fun _ => False) ((buffInstances evaluator).runFrom richBather).1 := by
    decide +kernel
  have hgives : GivesOnly (fun is => (∀ i ∈ is, i.value.IsSmallInteger) ∧
      springs.dailyRise is "hp" = 7) ((buffInstances evaluator).runFrom richBather).1 := by
    decide +kernel
  obtain ⟨instances, hinstances⟩ := hfails.exists_ok
  obtain ⟨hvalues, hhp⟩ := hgives instances hinstances
  have hbefore : Stat.curIn richBather.state.baseStats "hp" = some (.int 5) := by decide +kernel
  have hafter : Stat.curIn ((runPeriodic onwards (.str "day")).runFrom
      richBather).2.state.baseStats "hp" = some (.int 5) := by decide +kernel
  have hsum := h richBather instances raisesDaily_springs (allInteger_bather _ _) hinstances hvalues
    "hp" 5 hbefore
  have hseven : richBather.book.dailyRise instances "hp" = 7 := hhp
  rw [hafter, hseven] at hsum
  exact absurd hsum (by decide)

end Play

end Gamebook
