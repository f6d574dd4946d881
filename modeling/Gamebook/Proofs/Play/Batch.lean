/-
**A batch of additions.**

Effects that add integers to stats write base stats, while formulas read the derived ones, which no
effect changes.  So every effect of a batch has the amount that it would have at the start, whatever
the others have done before it.  Since additions can be made in any order, so can the effects of the
batch be applied: in every order that returns, the base stats are the same at the end, and nothing
else but the journal has changed.

An order can only fail to return where an integer is too large for its line in the journal, or where
an effect names its stat by what is no name.  Where there is room for all integers, and all stats
are named by names, every order returns.

Main definitions:

* `World.Rebased` — worlds that differ in the base stats and the journal only;
* `Value.additions` — what an effect adds to which stat;
* `Play.IsAddition`, `Play.amountIn` — effects that add an integer, and this integer;
* `Stat.HasRoom` — values that can be written also after some total was added.

Main results:

* `Play.applyEffect_addition` — **an effect of a batch makes its addition**;
* `Play.applyEffects_additions` — **a batch makes all additions**;
* `Play.applyEffects_perm` — **the order of a batch does not matter**.
-/

import Gamebook.Proofs.Formula.Chanceless
import Gamebook.Proofs.Play.BuffOrder
import Gamebook.Proofs.Play.Frame

set_option autoImplicit false

namespace Gamebook

open Value World Fault

/-! ### Worlds with other base stats -/

namespace World

/-- The second world is the first one with other base stats and another journal. -/
def Rebased (w w' : World) : Prop :=
  w' = { w with state := { w.state with
    baseStats := w'.state.baseStats
    journal := w'.state.journal } }

variable {w w' w'' : World}

theorem Rebased.refl (w : World) : Rebased w w := rfl

theorem Rebased.annotates (h : Rebased w w') (h' : Annotates w' w'') : Rebased w w'' := by
  unfold Rebased Annotates at *
  rw [h', h]

theorem Rebased.set (h : Rebased w w') (stats : Fields Stat) :
    Rebased w (w'.withBaseStats stats) := by
  unfold Rebased withBaseStats at *
  rw [h]

theorem Annotates.baseStats_eq (h : Annotates w w') :
    w'.state.baseStats = w.state.baseStats := by
  unfold Annotates at h
  rw [h]

theorem Annotates.withStats (h : Annotates w w') (stats : Fields Stat) :
    Annotates (w.withBaseStats stats) (w'.withBaseStats stats) := by
  unfold Annotates withBaseStats at *
  rw [h]

theorem Annotates.settings_eq (h : Annotates w w') : w'.settings = w.settings := by
  unfold Annotates at h
  rw [h]

/-- Formulas do not see base stats. -/
theorem Rebased.scope_eq (h : Rebased w w') (extra : Fields Value) :
    w'.scope extra = w.scope extra := by
  rw [h]
  rfl

end World

namespace Play

variable {w w' : World} {extra fields : Fields Value} {kind : String} {formula : Value}

/-- **A formula that uses no chance gives the same in a batch as at its start**, and leaves a line
in the journal at most. -/
theorem evaluate_rebased (hformula : Formula.avoids [] Formula.chanceCalls formula = true)
    (h : Rebased w w') (extra : Fields Value) :
    ((evaluator formula extra).runFrom w').1 = ((evaluator formula extra).runFrom w).1 ∧
      Annotates w' ((evaluator formula extra).runFrom w').2 := by
  unfold evaluator
  rw [runFrom_evaluate, runFrom_evaluate, h.scope_eq]
  cases hscope : w.scope extra with
  | error e => exact ⟨rfl, .refl w'⟩
  | ok scope =>
      obtain ⟨r, hr⟩ : Formula.Chanceless (Formula.evaluate scope formula) :=
        Formula.evaluate_chanceless (fun f vs hf => call_chanceless hscope hf vs) hformula
      have hrun (c : Chance) : (Formula.evaluate scope formula).run.run c = (r, c) := hr c
      simp only [hrun]
      cases r with
      | ok v => exact ⟨rfl, .refl w'⟩
      | error e =>
          cases e with
          | formula e => exact ⟨rfl, rfl⟩
          | _ => exact ⟨rfl, .refl w'⟩

theorem quantityOf_rebased (hformula : Formula.avoids [] Formula.chanceCalls formula = true)
    (h : Rebased w w') (extra : Fields Value) {n : Number}
    (hn : ((quantityOf extra formula).runFrom w).1 = .ok n) :
    ∃ w'', (quantityOf extra formula).runFrom w' = (.ok n, w'') ∧ Annotates w' w'' := by
  obtain ⟨v, w₁, hv, hn⟩ := runFrom_bind_eq_ok (runFrom_eq hn)
  obtain ⟨rfl, -⟩ : v.toNumber = n ∧ w₁ = _ := by simpa using hn
  obtain ⟨heq, hannotates⟩ := evaluate_rebased hformula h extra
  rw [hv] at heq
  exact ⟨_, runFrom_bind_ok (runFrom_eq heq), hannotates⟩

end Play

/-! ### Room for integers -/

namespace Stat

/-- Integers up to a total above the values of the stat can be written. -/
def HasRoom (limit : DigitLimit) (total : Nat) (s : Stat) : Prop :=
  ∀ n : Int, s.cur = .ok (.int n) ∨ s.max = .ok (.int n) →
    limit.admitsInt (n.natAbs + total : Nat) = true

end Stat

/-- Integers up to a total above the values of the base stats can be written. -/
def World.HasRoom (w : World) (total : Nat) : Prop :=
  ∀ entry ∈ w.state.baseStats, entry.2.HasRoom w.settings.digitLimit total

theorem World.HasRoom.get {w : World} {total : Nat} (h : w.HasRoom total) {name : Key} {s : Stat}
    (hget : w.state.baseStats.get? name = some s) : s.HasRoom w.settings.digitLimit total := by
  obtain ⟨k, hmem⟩ := Fields.exists_mem_of_get? hget
  exact h _ hmem

theorem DigitLimit.admitsInt_mono {limit : DigitLimit} {m n : Int}
    (h : limit.admitsInt n = true) (hle : m.natAbs ≤ n.natAbs) : limit.admitsInt m = true := by
  cases limit with
  | none => rfl
  | some d =>
      simp only [admitsInt, Option.all_some, decide_eq_true_eq] at h ⊢
      omega

namespace Stat

variable {limit : DigitLimit} {total rest : Nat} {s : Stat} {n c : Int}

theorem HasRoom.mono (h : s.HasRoom limit total) (hle : rest ≤ total) : s.HasRoom limit rest :=
  fun n hn => DigitLimit.admitsInt_mono (h n hn) (by omega)

/-- After an addition there is room for what is left of the total. -/
theorem HasRoom.add (h : s.HasRoom limit (n.natAbs + rest)) (hs : s.IsInteger) (part : Part) :
    (s.add part n).HasRoom limit rest := by
  obtain ⟨c, m, hc, hm⟩ := hs
  intro k hk
  cases part with
  | cur =>
      rw [← setCur_eq_add hc, cur_setCur, max_setCur, hm] at hk
      rcases hk with hk | hk <;> cases hk
      · exact DigitLimit.admitsInt_mono (h c (.inl hc)) (by omega)
      · exact DigitLimit.admitsInt_mono (h m (.inr hm)) (by omega)
  | max =>
      rw [← setMax_eq_add hm, cur_setMax, max_setMax, hc] at hk
      rcases hk with hk | hk <;> cases hk
      · exact DigitLimit.admitsInt_mono (h c (.inl hc)) (by omega)
      · exact DigitLimit.admitsInt_mono (h m (.inr hm)) (by omega)

end Stat

namespace Play

/-- A change by an integer can be written where there is room for it. -/
theorem canBeWritten_int {limit : DigitLimit} {c n : Int}
    (h : limit.admitsInt (c.natAbs + n.natAbs : Nat) = true) :
    CanBeWritten limit (.int c) (.int (c + n)) (.int n) :=
  ⟨DigitLimit.admitsInt_mono h (by omega), DigitLimit.admitsInt_mono h (by omega),
    DigitLimit.admitsInt_mono h (by omega)⟩

end Play

/-! ### Additions -/

theorem Fields.adjust_of_none {α : Type} {fs : Fields α} {k : Key} (h : fs.get? k = none)
    (f : α → α) : fs.adjust k f = fs := by
  induction fs with
  | nil => rfl
  | cons entry fs ih =>
      obtain ⟨k', a⟩ := entry
      rw [get?_cons] at h
      unfold adjust
      split
      · rename_i hk
        rw [if_pos hk] at h
        cases h
      · rename_i hk
        rw [if_neg hk] at h
        rw [ih h]

namespace Value

/-- The kinds of effects that add to a value of a stat. -/
def additionKinds : List String := ["stat_add", "stat_add_max", "money_add"]

/-- An integer added to a value of a stat that is named; what names nothing adds to nothing. -/
def additionTo (stat : Value) (part : Stat.Part) (n : Int) : List Adjustment :=
  if stat.holds then
    match stat.asKey with
    | .ok name => [⟨name, part, n⟩]
    | .error _ => []
  else []

/-- What an effect with an integer for its amount adds to which stat. -/
def additions (effect : Value) (n : Int) : List Adjustment :=
  match effectOf? effect with
  | some (kind, fields) =>
      match statOf? kind fields with
      | some stat => additionTo stat (if kind = "stat_add_max" then .max else .cur) n
      | none => []
  | none => []

/-- The effect names its stat by a name, or names none. -/
def NamesStat (effect : Value) : Prop :=
  ∀ e ∈ effectOf? effect, ∀ stat ∈ statOf? e.1 e.2, stat.isId = true

theorem eq_wrongKind_of_asKey {v : Value} {e : Fault} (h : v.asKey = .error e) :
    e = .wrongKind := by
  cases v <;> cases h
  all_goals rfl

end Value

/-- The faults that can stop a batch: an integer is too large where there is no room, or what should
name a stat is no name. -/
def Fault.Stops (room named : Prop) (e : Fault) : Prop :=
  Allowed (¬ room) e ∨ (e = .wrongKind ∧ ¬ named)

namespace Play

variable {room named : Prop} {w w' : World} {extra fields : Fields Value} {kind : String}
  {stat : Value} {n : Int} {part : Stat.Part}

theorem Returns.stops {α : Type} {m : Play α} {Q : α → World → Prop}
    (h : Returns (Allowed (¬ room)) w m Q) : Returns (Stops room named) w m Q :=
  ⟨h.fault.mono fun _ he => .inl he, h.result⟩

/-- What a run leads to and what it returns with, together. -/
theorem Returns.with_leads {α : Type} {F : Fault → Prop} {R : World → World → Prop} {m : Play α}
    {P Q : α → World → Prop} (h : Returns F w m P) (h' : Leads R w m Q) :
    Returns F w m fun _ w' => R w w' :=
  ⟨h.fault, fun _ _ => h'.world⟩

theorem Returns.run_bind {α β : Type} {F : Fault → Prop} {m : Play α} {f : α → Play β} {a : α}
    {Q : β → World → Prop} (h : m.runFrom w = (.ok a, w')) (hf : Returns F w' (f a) Q) :
    Returns F w (m >>= f) Q :=
  .of_runFrom (runFrom_bind_ok h) hf.fault hf.result

/-- Storing a stat changes the base stats only. -/
theorem setStat_returns {F : Fault → Prop} (name : Key) (s : Stat) :
    Returns F w (setStat name s) fun _ w' =>
      w' = w.withBaseStats (w.state.baseStats.set name s) :=
  .modifyState rfl

/-- The stat that an addition names is found, or the addition changes nothing. -/
theorem namedStat_addition (part : Stat.Part) (hnamed : named → stat.isId = true)
    (hsmall : n.natAbs < tenTo 300) :
    Returns (Stops room named) w (namedStat? stat (.int n)) fun found w' => w' = w ∧
      match found with
      | none => Adjustment.applyAll (additionTo stat part n) w.state.baseStats = w.state.baseStats
      | some (name, s) => w.state.baseStats.get? name = some s ∧
          additionTo stat part n = [⟨name, part, n⟩] := by
  unfold namedStat?
  refine .ite_not (fun hholds => .pure ⟨rfl, ?_⟩) fun hholds => .state_bind ?_
  · simp [additionTo, hholds, Adjustment.applyAll]
  cases hkey : stat.asKey with
  | error e =>
      obtain rfl := eq_wrongKind_of_asKey hkey
      have hno : ¬ named := fun h => by
        obtain ⟨name, hname⟩ := exists_key_of_isId (hnamed h) hholds
        rw [hkey] at hname
        cases hname
      have hfails : FailsOnly (Stops room named) (Value.lookup w.state.baseStats stat) := by
        rw [Value.lookup, hkey]
        exact .error (.inr ⟨rfl, hno⟩)
      refine .lift_bind hfails fun found hfound => ?_
      rw [Value.lookup, hkey] at hfound
      cases hfound
  | ok name =>
      have hadd : additionTo stat part n = [⟨name, part, n⟩] := by
        rw [additionTo, if_pos hholds, hkey]
      refine .lift_ok_bind (lookup_eq hkey) ?_
      cases hget : w.state.baseStats.get? name with
      | none =>
          refine .pure ⟨rfl, ?_⟩
          simp only [hadd, Adjustment.applyAll_singleton]
          exact Fields.adjust_of_none hget _
      | some s =>
          refine .lift_ok_bind (Value.isFiniteNumber_int hsmall) ?_
          exact .lift_ok_bind rfl (.pure ⟨rfl, hget, hadd⟩)

/-- **Adding to a current value** makes the addition, and its line can be written where there is
room. -/
theorem addToCur_addition (hstats : Stat.AllInteger w.state.baseStats)
    (hnamed : named → stat.isId = true) (hsmall : n.natAbs < tenTo 300)
    (hroom : room → w.HasRoom n.natAbs) :
    Returns (Stops room named) w (addToCur stat (.int n)) fun change w' =>
      w' = w.withBaseStats (Adjustment.applyAll (additionTo stat .cur n) w.state.baseStats) ∧
      ∀ name before after delta, change = some (name, before, after, delta) → room →
        CanBeWritten w'.settings.digitLimit before after delta := by
  unfold addToCur updateCur
  refine (namedStat_addition .cur hnamed hsmall).bind fun found w₁ hfound => ?_
  obtain ⟨rfl, hfound⟩ := hfound
  cases found with
  | none =>
      dsimp only at hfound
      exact .pure ⟨by rw [hfound]; rfl, nofun⟩
  | some found =>
      obtain ⟨name, s⟩ := found
      obtain ⟨hget, hadd⟩ := hfound
      obtain ⟨c, m, hc, hm⟩ : s.IsInteger := Fields.forall_get? hstats hget
      refine .lift_ok_bind hc <| .lift_ok_bind (a := .int (c + n)) rfl ?_
      rw [hadd, Adjustment.applyAll_singleton, Adjustment.apply_cur hget hc]
      refine .run_bind (m := keepValue (.int (c + n))) rfl ?_
      refine (setStat_returns name _).bind fun _ w₃ hw₃ => ?_
      have hminus : (Value.int (c + n)).minus (.int c) = .ok (.int n) := by
        have hsub : c + n - c = n := by omega
        change Except.ok (Number.int (c + n - c)) = _
        rw [hsub]
      refine .lift_ok_bind hminus (.pure ⟨hw₃, fun name' before after delta h hr => ?_⟩)
      cases h
      rw [hw₃]
      exact canBeWritten_int ((hroom hr).get hget c (.inl hc))

/-- **Adding to a greatest value** makes the addition. -/
theorem addToMax_addition (hstats : Stat.AllInteger w.state.baseStats)
    (hnamed : named → stat.isId = true) (hsmall : n.natAbs < tenTo 300)
    (hroom : room → w.HasRoom n.natAbs) :
    Returns (Stops room named) w (addToMax stat (.int n)) fun _ w' => Annotates
      (w.withBaseStats (Adjustment.applyAll (additionTo stat .max n) w.state.baseStats)) w' := by
  unfold addToMax
  refine (namedStat_addition .max hnamed hsmall).bind fun found w₁ hfound => ?_
  obtain ⟨rfl, hfound⟩ := hfound
  cases found with
  | none =>
      dsimp only at hfound
      rw [hfound]
      exact .pure (.refl w₁)
  | some found =>
      obtain ⟨name, s⟩ := found
      obtain ⟨hget, hadd⟩ := hfound
      obtain ⟨c, m, hc, hm⟩ : s.IsInteger := Fields.forall_get? hstats hget
      refine .lift_ok_bind hm <| .lift_ok_bind (a := .int (m + n)) rfl ?_
      rw [hadd, Adjustment.applyAll_singleton, Adjustment.apply_max hget hm]
      refine .run_bind (m := keep (.int (m + n))) rfl ?_
      refine (setStat_returns name _).bind fun _ w₃ hw₃ => ?_
      subst hw₃
      split
      · refine (Returns.stops (writeChange_returns fun hr => ?_)).with_leads
          (writeChange_annotates ..)
        exact canBeWritten_int ((hroom (not_not.1 hr)).get hget m (.inr hm))
      · exact .pure (.refl _)

/-- The integer that an effect adds, from a world in which its amount is one. -/
def amountIn (w : World) (extra : Fields Value) (effect : Value) : Int :=
  match ((amountOf effect extra (.int 0)).runFrom w).1 with
  | .ok (.int n) => n
  | _ => 0

/-- In the world the effect adds an integer to a value of a stat: its formula calls no function that
uses chance, and has an integer below `10 ^ 300` in magnitude. -/
def IsAddition (w : World) (extra : Fields Value) (effect : Value) : Prop :=
  ∃ kind fields, effectOf? effect = some (kind, fields) ∧ kind ∈ additionKinds ∧
    Formula.avoids [] Formula.chanceCalls (amountFormula fields) = true ∧
    ∃ n : Int, ((amountOf effect extra (.int 0)).runFrom w).1 = .ok (.int n) ∧
      n.natAbs < tenTo 300

/-- **An effect of a batch makes its addition**, with the amount that it has at the start of the
batch. -/
theorem applyEffect_addition (onward : Onward) {effect : Value} (hadd : IsAddition w extra effect)
    (hbase : Rebased w w') (hstats : Stat.AllInteger w'.state.baseStats)
    (hnamed : named → effect.NamesStat)
    (hroom : room → w'.HasRoom (amountIn w extra effect).natAbs) :
    Returns (Stops room named) w' (applyEffect onward effect extra) fun _ w'' => Annotates
      (w'.withBaseStats (Adjustment.applyAll (additions effect (amountIn w extra effect))
        w'.state.baseStats)) w'' := by
  obtain ⟨kind, fields, heffect, hkind, hformula, n, hn, hsmall⟩ := hadd
  obtain ⟨rfl, happly⟩ := applyEffect_of_some onward extra heffect
  have hamount : amountIn w extra (.obj fields) = n := by rw [amountIn, hn]
  rw [hamount] at hroom ⊢
  obtain ⟨w₁, hrun, hw₁⟩ := quantityOf_rebased hformula hbase extra hn
  -- the world in which the addition is made is the one before, with another journal
  have hroom₁ : room → w₁.HasRoom n.natAbs := fun hr => by
    rw [World.HasRoom, hw₁.baseStats_eq, hw₁.settings_eq]
    exact hroom hr
  have hstats₁ : Stat.AllInteger w₁.state.baseStats := by
    rw [hw₁.baseStats_eq]
    exact hstats
  have hnamed₁ {stat : Value} (hstat : statOf? kind fields = some stat) :
      named → stat.isId = true := fun h => hnamed h _ heffect _ hstat
  have hadditions {stat : Value} (hstat : statOf? kind fields = some stat) :
      additions (.obj fields) n = additionTo stat (if kind = "stat_add_max" then .max else .cur) n := by
    simp only [additions, heffect, hstat]
  rw [happly]
  simp only [additionKinds, List.mem_cons, List.not_mem_nil, or_false] at hkind
  rcases hkind with rfl | rfl | rfl
  · rw [if_neg (by decide), hadditions rfl, if_neg (by decide), ← hw₁.baseStats_eq]
    refine .run_bind hrun <| .lift_ok_bind rfl ?_
    refine (addToCur_addition hstats₁ (hnamed₁ rfl) hsmall hroom₁).bind fun change w₂ h => ?_
    obtain ⟨rfl, hwritten⟩ := h
    have hlog := logChange_returns fun name before after delta hc hr =>
      hwritten name before after delta hc (not_not.1 hr)
    exact (Returns.with_leads (Returns.stops hlog) (logChange_annotates change)).mono
      fun _ w₃ hw₃ => (hw₁.withStats _).trans hw₃
  · rw [if_neg (by decide), hadditions rfl, if_pos rfl, ← hw₁.baseStats_eq]
    refine .run_bind hrun <| .lift_ok_bind rfl ?_
    exact (addToMax_addition hstats₁ (hnamed₁ rfl) hsmall hroom₁).mono
      fun _ w₂ hw₂ => (hw₁.withStats _).trans hw₂
  · rw [if_neg (by decide), hadditions rfl, if_neg (by decide), ← hw₁.baseStats_eq]
    refine .run_bind hrun ?_
    refine (addToCur_addition hstats₁ (hnamed₁ rfl) hsmall hroom₁).bind fun change w₂ h => ?_
    obtain ⟨rfl, -⟩ := h
    exact .pure (hw₁.withStats _)

/-- An effect makes one addition, or none. -/
theorem additions_cases (effect : Value) (n : Int) :
    additions effect n = [] ∨ ∃ name part, additions effect n = [⟨name, part, n⟩] := by
  have hto (stat : Value) (part : Stat.Part) : additionTo stat part n = [] ∨
      ∃ name part', additionTo stat part n = [⟨name, part', n⟩] := by
    unfold additionTo
    split
    · split
      · exact .inr ⟨_, part, rfl⟩
      · exact .inl rfl
    · exact .inl rfl
  unfold additions
  split
  · split
    · exact hto _ _
    · exact .inl rfl
  · exact .inl rfl

/-- After an effect has made its addition there is room for what is left of the total. -/
theorem hasRoom_after {limit : DigitLimit} {rest : Nat} {stats : Fields Stat} {effect : Value}
    (hstats : Stat.AllInteger stats)
    (h : ∀ entry ∈ stats, entry.2.HasRoom limit (n.natAbs + rest)) :
    ∀ entry ∈ Adjustment.applyAll (additions effect n) stats, entry.2.HasRoom limit rest := by
  rcases additions_cases effect n with hnone | ⟨name, part, hone⟩
  · rw [hnone]
    exact fun entry hentry => (h entry hentry).mono (by omega)
  · rw [hone, Adjustment.applyAll_singleton]
    intro entry hentry
    obtain ⟨e, he, heq | heq⟩ := Fields.mem_adjust hentry
    · rw [heq]
      exact (h e he).mono (by omega)
    · rw [heq]
      exact (h e he).add (hstats e he) part

/-- What a batch adds, from a world in which its effects are additions. -/
def batchAdditions (w : World) (extra : Fields Value) (effects : List Value) : List Adjustment :=
  effects.flatMap fun effect => additions effect (amountIn w extra effect)

/-- The sum of the amounts of a batch, each without its sign. -/
def batchTotal (w : World) (extra : Fields Value) (effects : List Value) : Nat :=
  (effects.map fun effect => (amountIn w extra effect).natAbs).sum

/-- **A batch makes all its additions**, one after the other. -/
theorem applyEffects_additions (room named : Prop) (onward : Onward) {effects : List Value}
    (hadd : ∀ effect ∈ effects, IsAddition w extra effect)
    (hnamed : named → ∀ effect ∈ effects, effect.NamesStat)
    (hbase : Rebased w w') (hstats : Stat.AllInteger w'.state.baseStats)
    (hroom : room → w'.HasRoom (batchTotal w extra effects)) :
    Returns (Stops room named) w' (applyEffects onward (.list effects) extra) fun _ w'' =>
      Rebased w w'' ∧ w''.state.baseStats =
        Adjustment.applyAll (batchAdditions w extra effects) w'.state.baseStats := by
  have helements : ((Value.list effects).orElse (.list [])).elements = .ok effects := by
    cases effects <;> rfl
  unfold applyEffects
  refine .lift_ok_bind helements ?_
  clear helements
  -- by induction on the effects; the world between two of them is one of the same batch
  induction effects generalizing w' with
  | nil => exact .pure ⟨hbase, rfl⟩
  | cons effect effects ih =>
      obtain ⟨heffect, heffects⟩ := List.forall_mem_cons.1 hadd
      have htotal : batchTotal w extra (effect :: effects) =
          (amountIn w extra effect).natAbs + batchTotal w extra effects := List.sum_cons
      have hfirst : room → w'.HasRoom (amountIn w extra effect).natAbs := fun hr entry hentry =>
        (hroom hr entry hentry).mono (by omega)
      have hadditions : batchAdditions w extra (effect :: effects) =
          additions effect (amountIn w extra effect) ++ batchAdditions w extra effects :=
        List.flatMap_cons
      rw [hadditions, Adjustment.applyAll_append]
      refine (applyEffect_addition onward heffect hbase hstats
        (fun h => hnamed h effect (List.mem_cons_self ..)) hfirst).bind fun _ w₁ hw₁ => ?_
      have hstats₁ : w₁.state.baseStats = Adjustment.applyAll
          (additions effect (amountIn w extra effect)) w'.state.baseStats := hw₁.baseStats_eq
      rw [← hstats₁]
      refine ih heffects (fun h e he => hnamed h e (List.mem_cons_of_mem _ he))
        ((hbase.set _).annotates hw₁) ?_ fun hr => ?_
      · rw [hstats₁]
        exact ((⟨rfl, hstats⟩ : Stat.IntegerLike _ _).applyAll _).integer
      · rw [World.HasRoom, hstats₁, hw₁.settings_eq]
        exact hasRoom_after hstats (htotal ▸ hroom hr)

/-- **The order of a batch does not matter.**  Some base stats are those after the effects in every
order in which they return, and nothing else but the journal changes.  An order can only fail to
return where an integer above the values of the stats has too many digits, or where what should name
a stat is no name. -/
theorem applyEffects_perm (onward : Onward) (extra : Fields Value) {effects : List Value}
    (hstats : Stat.AllInteger w.state.baseStats)
    (hadd : ∀ effect ∈ effects, IsAddition w extra effect) :
    ∃ baseStats, ∀ effects', effects.Perm effects' → ∀ r w',
      (applyEffects onward (.list effects') extra).runFrom w = (r, w') →
      (r = .ok () →
        w' = { w with state := { w.state with baseStats, journal := w'.state.journal } }) ∧
      (w.HasRoom (batchTotal w extra effects) → (∀ effect ∈ effects, effect.NamesStat) →
        r = .ok ()) := by
  refine ⟨Adjustment.applyAll (batchAdditions w extra effects) w.state.baseStats, ?_⟩
  intro effects' hperm r w' hrun
  have htotal : batchTotal w extra effects' = batchTotal w extra effects :=
    ((hperm.map _).sum_eq).symm
  have hbatch : (batchAdditions w extra effects).Perm (batchAdditions w extra effects') :=
    hperm.flatMap_right _
  have hreturns := applyEffects_additions (w.HasRoom (batchTotal w extra effects))
    (∀ effect ∈ effects, effect.NamesStat) onward
    (fun effect he => hadd effect (hperm.mem_iff.2 he))
    (fun h effect he => h effect (hperm.mem_iff.2 he)) (.refl w) hstats (fun h => htotal ▸ h)
  have hfault := hreturns.fault
  have hresult := hreturns.result
  rw [hrun] at hfault hresult
  refine ⟨fun hr => ?_, fun hroom hnamed => ?_⟩
  · obtain ⟨hbase, hbaseStats⟩ := hresult () hr
    rw [Adjustment.applyAll_perm hbatch, ← hbaseStats]
    exact hbase
  · cases r with
    | ok a => rfl
    | error e =>
        rcases hfault e rfl with ⟨hno, -⟩ | ⟨-, hno⟩
        · exact absurd hroom hno
        · exact absurd hnamed hno

/-! ### Trading -/

/-- A trader with some money. -/
def trader (money : Int) : World :=
  let stats : Fields Stat := [("hp", Stat.ofInts 5 20), ("money", Stat.ofInts money money)]
  let w := World.closed {} (.constant 1 (.int 0))
  { w with state := { w.state with baseStats := stats, stats } }

/-- An effect of a kind on a stat. -/
def trade (kind stat : String) (value : Value) : Value :=
  .obj [("type", .str kind), ("stat", .str stat), ("value_expr", value)]

theorem allInteger_trader (money : Int) : Stat.AllInteger (trader money).state.baseStats := by
  intro entry hentry
  simp only [trader, World.closed, List.mem_cons, List.not_mem_nil, or_false] at hentry
  rcases hentry with rfl | rfl <;> exact Stat.isInteger_ofInts _ _

theorem isAddition_trade {w : World} {kind stat : String} {value : Value} (n : Int)
    (hkind : kind ∈ additionKinds)
    (hformula : Formula.avoids [] Formula.chanceCalls
      (amountFormula [("type", .str kind), ("stat", .str stat), ("value_expr", value)]) = true)
    (hn : ((amountOf (trade kind stat value) [] (.int 0)).runFrom w).1 = .ok (.int n))
    (hsmall : n.natAbs < tenTo 300) : IsAddition w [] (trade kind stat value) :=
  ⟨kind, _, rfl, hkind, hformula, n, hn, hsmall⟩

/-- Trades whose formulas read the stats that the other ones change. -/
def trades : List Value :=
  [trade "stat_add" "hp" (.str "$stat.money.cur - 27"),
    trade "money_add" "" (.str "-2 * $stat.hp.cur"),
    trade "stat_add_max" "hp" (.str "$stat.hp.max")]

/-- The trades come out the same in the opposite order. -/
theorem applyEffects_perm_trades :
    Stat.AllInteger (trader 30).state.baseStats ∧
    (∀ effect ∈ trades, IsAddition (trader 30) [] effect) ∧
    (trader 30).HasRoom (batchTotal (trader 30) [] trades) ∧
    (∀ effect ∈ trades, effect.NamesStat) ∧
    ((applyEffects onwards (.list trades.reverse) []).runFrom (trader 30)).1 = .ok () ∧
    ((applyEffects onwards (.list trades.reverse) []).runFrom (trader 30)).2.state.baseStats =
      ((applyEffects onwards (.list trades) []).runFrom (trader 30)).2.state.baseStats := by
  have hadd : ∀ effect ∈ trades, IsAddition (trader 30) [] effect := by
    simp only [trades, List.forall_mem_cons, List.not_mem_nil, false_implies, implies_true,
      and_true]
    refine ⟨isAddition_trade 3 ?_ ?_ ?_ ?_, isAddition_trade (-10) ?_ ?_ ?_ ?_,
      isAddition_trade 20 ?_ ?_ ?_ ?_⟩
    all_goals decide +kernel
  have htotal : batchTotal (trader 30) [] trades = 33 := by decide +kernel
  have hroom : (trader 30).HasRoom (batchTotal (trader 30) [] trades) := by
    rw [htotal]
    intro entry hentry n hn
    simp only [trader, World.closed, List.mem_cons, List.not_mem_nil, or_false] at hentry
    rcases hentry with rfl | rfl <;> rcases hn with hn | hn <;> cases hn <;> decide +kernel
  have hnamed : ∀ effect ∈ trades, effect.NamesStat := by
    simp only [trades, List.forall_mem_cons, List.not_mem_nil, false_implies, implies_true,
      and_true]
    refine ⟨?_, ?_, ?_⟩ <;> rintro e ⟨⟩ stat ⟨⟩ <;> rfl
  obtain ⟨baseStats, hbatch⟩ :=
    applyEffects_perm onwards [] (allInteger_trader 30) hadd
  obtain ⟨hsame, hreturns⟩ := hbatch trades (.refl _) _ _ (runFrom_eq rfl)
  obtain ⟨hsame', hreturns'⟩ :=
    hbatch trades.reverse (List.reverse_perm _).symm _ _ (runFrom_eq rfl)
  refine ⟨allInteger_trader 30, hadd, hroom, hnamed, hreturns' hroom hnamed, ?_⟩
  rw [hsame (hreturns hroom hnamed), hsame' (hreturns' hroom hnamed)]

/-- Trades after each of which the money has at most as many digits as before, or one more. -/
def hoarding : List Value :=
  [trade "stat_add" "hp" (.int 1), trade "stat_add" "money" (.int (-1)),
    trade "money_add" "" (.int 1)]

/-- Where a number of digits is missing for the line of a change, the trades behind it are not made:
in the opposite order the money has too many digits when it is first written down. -/
theorem not_applyEffects_perm :
    ¬ ∀ (w : World) (effects effects' : List Value), Stat.AllInteger w.state.baseStats →
      (∀ effect ∈ effects, IsAddition w [] effect) → effects.Perm effects' →
      ((applyEffects onwards (.list effects) []).runFrom w).2.state.baseStats =
        ((applyEffects onwards (.list effects') []).runFrom w).2.state.baseStats := by
  intro h
  have hadd : ∀ effect ∈ hoarding, IsAddition (trader (tenTo 4300 - 1)) [] effect := by
    simp only [hoarding, List.forall_mem_cons, List.not_mem_nil, false_implies, implies_true,
      and_true]
    refine ⟨isAddition_trade 1 ?_ ?_ ?_ ?_, isAddition_trade (-1) ?_ ?_ ?_ ?_,
      isAddition_trade 1 ?_ ?_ ?_ ?_⟩
    all_goals decide +kernel
  have hone : Stat.curIn ((applyEffects onwards (.list hoarding) []).runFrom
      (trader (tenTo 4300 - 1))).2.state.baseStats "hp" = some (.int 6) := by decide +kernel
  have hother : Stat.curIn ((applyEffects onwards (.list hoarding.reverse) []).runFrom
      (trader (tenTo 4300 - 1))).2.state.baseStats "hp" = some (.int 5) := by decide +kernel
  rw [h _ hoarding hoarding.reverse (allInteger_trader _) hadd (List.reverse_perm _).symm,
    hother] at hone
  cases hone

end Play

end Gamebook
