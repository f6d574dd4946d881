/-
**What formulas see of a world.**

A formula sees the settings and the state of its world only through the names and the functions it
can use.  Where two worlds differ in what some of these tell, a formula without them has the same
outcome in both.

Main definition: `World.SeenAlike` — worlds that formulas can tell apart by some names and functions
only.

Main results:

* `World.scope_alike` — the scopes of such worlds agree;
* `Play.evaluate_alike` — **so do the values of formulas** that avoid these names and functions.
-/

import Gamebook.Proofs.Formula.Agreement
import Gamebook.Proofs.Play.Idle
import Gamebook.Proofs.Play.Together

set_option autoImplicit false

namespace Gamebook

/-! ### Functions on numbers -/

namespace Formula

open Value

theorem toNumber_like {v v' : Value} (h : Like v v') : v.toNumber = v'.toNumber := by
  rw [← toNumber_detached v, h, toNumber_detached]

theorem map_toNumber_like {vs vs' : List Value} (h : List.Forall₂ Like vs vs') :
    vs.map toNumber = vs'.map toNumber := by
  induction h with
  | nil => rfl
  | cons hv _ ih => rw [List.map_cons, List.map_cons, ih, toNumber_like hv]

theorem ofOne_like (f : Number → Option Number) {vs vs' : List Value}
    (h : List.Forall₂ Like vs vs') : ofOne f vs = ofOne f vs' := by
  cases h with
  | nil => rfl
  | cons hv hrest =>
      cases hrest with
      | nil => simp only [ofOne, toNumber_like hv]
      | cons _ _ => rfl

theorem ofThree_like (f : Number → Number → Number → Except Fault Number) {vs vs' : List Value}
    (h : List.Forall₂ Like vs vs') : ofThree f vs = ofThree f vs' := by
  rcases h with _ | ⟨hu, _ | ⟨hv, _ | ⟨hw, _ | _⟩⟩⟩
  case cons.cons.cons.nil =>
    simp only [ofThree, toNumber_like hu, toNumber_like hv, toNumber_like hw]
  all_goals rfl

/-- Functions on numbers only look at the numbers. -/
theorem math_like {name : String} {f : List Value → Except Fault Number}
    (hf : math? name = some f) {vs vs' : List Value} (h : List.Forall₂ Like vs vs') :
    f vs = f vs' := by
  unfold math? at hf
  split at hf
  · cases hf
    exact congrArg minimum (map_toNumber_like h)
  · split at hf
    · cases hf
      exact congrArg maximum (map_toNumber_like h)
    · split at hf
      · cases hf
        exact ofThree_like _ h
      · repeat' split at hf
        all_goals
          cases hf
          try exact ofOne_like _ h

end Formula

/-! ### Worlds that are seen alike -/

namespace World

open Value Formula

/-- Formulas can tell the two worlds apart by the given names and functions only, and among these
are the functions that use chance. -/
structure SeenAlike (names calls : List String) (w w' : World) : Prop where
  digitLimit : w.settings.digitLimit = w'.settings.digitLimit
  resources : w.state.resources = w'.state.resources
  day : w.state.day = w'.state.day
  node : w.state.node = w'.state.node
  inventory : w.state.inventory = w'.state.inventory
  flags : Like w.state.flags w'.state.flags
  stats : "$stat" ∈ names ∨ w.state.stats = w'.state.stats
  buffTotals : "$buff" ∈ names ∨ w.state.buffTotals = w'.state.buffTotals
  buffInstances : "hasBuff" ∈ calls ∨ w.state.buffInstances = w'.state.buffInstances
  roll : "roll" ∈ calls
  random : "random" ∈ calls

variable {names calls : List String} {w w' : World}

theorem asKey_like {v v' : Value} (h : Like v v') : v.asKey = v'.asKey := by
  rw [← asKey_detached, h, asKey_detached]

theorem fieldAt_like {v v' k k' : Value} (hv : Like v v') (hk : Like k k') :
    Paired False Like (v.fieldAt k) (v'.fieldAt k') := by
  have hfields : v.fields?.map detachedFields = v'.fields?.map detachedFields := by
    rw [← fields?_detached, hv, fields?_detached]
  unfold fieldAt entries
  cases h : v.fields? with
  | none =>
      cases h' : v'.fields? with
      | none => exact .error _
      | some fields' => simp [h, h'] at hfields
  | some fields =>
      cases h' : v'.fields? with
      | none => simp [h, h'] at hfields
      | some fields' =>
          have heq : detachedFields fields = detachedFields fields' := by
            simpa [h, h'] using hfields
          -- only what is found may differ, and only in what follows the inventory
          have hlookup : Paired False (fun o o' => o.map detached = o'.map detached)
              (lookup fields k) (lookup fields' k') := by
            unfold lookup
            rw [asKey_like hk]
            refine (Paired.of_eq rfl).bind fun name name' hname => .ok ?_
            subst hname
            rw [← get?_detachedFields, ← get?_detachedFields, heq]
          refine hlookup.bind fun o o' ho => .ok ?_
          rw [Like, detached_ofOption, detached_ofOption, ho]

theorem hasItem_alike (h : SeenAlike names calls w w') {item item' count count' : Value}
    (hitem : Like item item') (hcount : Like count count') :
    Paired False Like (w.hasItem item count) (w'.hasItem item' count') := by
  rw [hasItem, hasItem, Inventory.quantity, Inventory.quantity, asKey_like hitem,
    toNumber_like hcount, h.inventory]
  exact .refl (fun _ => .refl _) _

theorem hasBuff_alike (h : SeenAlike names calls w w') (hcalls : "hasBuff" ∉ calls)
    {buff buff' : Value} (hbuff : Like buff buff') : w.hasBuff buff = w'.hasBuff buff' := by
  have heqv : ∀ v : Value, v.eqv buff = v.eqv buff' := fun v => by
    rw [← eqv_detached, hbuff, eqv_detached]
  rw [hasBuff, hasBuff, h.buffInstances.resolve_left hcalls]
  simp only [heqv]

/-- The functions that read the state agree. -/
theorem stateBuiltin_alike (h : SeenAlike names calls w w') {name : String} (hname : name ∉ calls) :
    (w.stateBuiltin? name = none ∧ w'.stateBuiltin? name = none) ∨
      ∃ f f', w.stateBuiltin? name = some f ∧ w'.stateBuiltin? name = some f' ∧
        ∀ vs vs', List.Forall₂ Like vs vs' → Paired False Like (f vs) (f' vs') := by
  unfold stateBuiltin?
  by_cases h₁ : name = "hasItem"
  · rw [if_pos h₁, if_pos h₁]
    refine .inr ⟨_, _, rfl, rfl, fun vs vs' hvs => ?_⟩
    rcases hvs with _ | ⟨hu, _ | ⟨hv, _ | _⟩⟩
    · exact .error _
    · exact hasItem_alike h hu (.refl _)
    · exact hasItem_alike h hu hv
    · exact .error _
  rw [if_neg h₁, if_neg h₁]
  by_cases h₂ : name = "itemCount"
  · rw [if_pos h₂, if_pos h₂]
    refine .inr ⟨_, _, rfl, rfl, fun vs vs' hvs => ?_⟩
    rcases hvs with _ | ⟨hu, _ | _⟩
    · exact .error _
    · simp only [Inventory.quantity, asKey_like hu, h.inventory]
      exact .refl (fun _ => .refl _) _
    · exact .error _
  rw [if_neg h₂, if_neg h₂]
  by_cases h₃ : name = "hasBuff"
  · rw [if_pos h₃, if_pos h₃]
    refine .inr ⟨_, _, rfl, rfl, fun vs vs' hvs => ?_⟩
    rcases hvs with _ | ⟨hu, _ | _⟩
    · exact .error _
    · refine .ok ?_
      rw [hasBuff_alike h (h₃ ▸ hname) hu]
      exact .refl _
    · exact .error _
  rw [if_neg h₃, if_neg h₃]
  by_cases h₄ : name = "flag"
  · rw [if_pos h₄, if_pos h₄]
    refine .inr ⟨_, _, rfl, rfl, fun vs vs' hvs => ?_⟩
    rcases hvs with _ | ⟨hu, _ | _⟩
    · exact .error _
    · refine (fieldAt_like h.flags hu).bind fun v v' hv => ?_
      rw [isTrue_like hv]
      exact .refl (fun _ => .refl _) _
    · exact .error _
  rw [if_neg h₄, if_neg h₄]
  exact .inl ⟨rfl, rfl⟩

theorem chanceBuiltin?_eq_none {name : String} (limit : DigitLimit) (hroll : name ≠ "roll")
    (hrandom : name ≠ "random") : chanceBuiltin? limit name = none := by
  rw [chanceBuiltin?, if_neg hrandom, if_neg hroll]

theorem call_alike (h : SeenAlike names calls w w') {s s' : Formula.Scope}
    (hs : s.builtins = w.builtins) (hs' : s'.builtins = w'.builtins) {name : String}
    (hname : name ∉ calls) {vs vs' : List Value} (hvs : List.Forall₂ Like vs vs') :
    Agree Like (s.call name vs) (s'.call name vs') := by
  have hroll : name ≠ "roll" := fun he => hname (he ▸ h.roll)
  have hrandom : name ≠ "random" := fun he => hname (he ▸ h.random)
  rw [Scope.call, Scope.call, hs, hs', builtins, builtins, chanceBuiltin?_eq_none _ hroll hrandom,
    chanceBuiltin?_eq_none _ hroll hrandom]
  dsimp only
  rcases stateBuiltin_alike h hname with ⟨hf, hf'⟩ | ⟨f, f', hf, hf', hff'⟩
  · rw [hf, hf']
    dsimp only [mathBuiltin?]
    cases hm : math? name with
    | none => exact .throw _
    | some f =>
        have hresult := (Agree.lift (.of_eq (math_like hm hvs))).bind fun a b hab =>
          Agree.pure (Like.of_eq (congrArg Value.num hab))
        exact hresult.tryCatch fun e => by cases e <;> exact .throw _
  · rw [hf, hf']
    exact (Agree.lift (hff' vs vs' hvs)).tryCatch fun e => by cases e <;> exact .throw _

/-- What stands under a name in fields that agree apart from some names. -/
theorem get?_alike {fs gs : Fields Value} (h : List.Forall₂ (fun f g => f.1 = g.1 ∧
      ((∃ n ∈ names, f.1 = .text n) ∨ Like f.2 g.2)) fs gs) {n : String} (hn : n ∉ names) :
    Option.Rel Like (fs.get? n) (gs.get? n) := by
  induction h with
  | nil => exact .none
  | @cons f g fs gs hfg _ ih =>
      obtain ⟨k, v⟩ := f
      obtain ⟨k', v'⟩ := g
      obtain ⟨rfl, hv⟩ := hfg
      rw [Fields.get?_cons, Fields.get?_cons]
      split
      · rename_i hsame
        refine .some (hv.resolve_left ?_)
        rintro ⟨m, hm, hk⟩
        dsimp only at hk
        subst hk
        exact hn (Key.same_text.1 hsame ▸ hm)
      · exact ih

theorem paired_of_rel {o o' : Option Value} {e : Fault} : Option.Rel Like o o' →
    Paired False Like (match o with | some v => .ok v | none => .error e)
      (match o' with | some v => .ok v | none => .error e) := by
  intro h
  cases h with
  | some h => exact .ok h
  | none => exact .error e

/-- **The scopes of worlds that are seen alike agree.** -/
theorem scope_alike (h : SeenAlike names calls w w') {extra extra' : Fields Value}
    (hextra : ∀ n : String, n ∉ names → Fields.get? extra n = Fields.get? extra' n) :
    Paired False (Scope.Alike names calls) (w.scope extra) (w'.scope extra') := by
  unfold scope
  dsimp only
  rw [State.capacity, State.capacity, h.resources]
  refine (Paired.of_eq rfl).bind fun capacity capacity' hcapacity => ?_
  subst hcapacity
  refine .ok ⟨fun n hn => ?_, fun f vs vs' hf hvs => call_alike h rfl rfl hf hvs, h.digitLimit⟩
  simp only [Scope.lookup, Fields.get?_append, hextra n hn]
  cases Fields.get? extra' n with
  | some v => exact .ok (.refl v)
  | none =>
      -- the names of the state, one after the other
      refine paired_of_rel (get?_alike ?_ hn)
      refine .cons ⟨rfl, .inr (.refl _)⟩ <| .cons ⟨rfl, .inr (.of_eq h.day)⟩ <|
        .cons ⟨rfl, h.stats.imp ?_ ?_⟩ <| .cons ⟨rfl, .inr (.of_eq ?_)⟩ <|
        .cons ⟨rfl, .inr h.flags.live⟩ <| .cons ⟨rfl, h.buffTotals.imp ?_ ?_⟩ <|
        .cons ⟨rfl, .inr (.refl _)⟩ <| .cons ⟨rfl, .inr (.of_eq h.node)⟩ .nil
      · exact fun hm => ⟨_, hm, rfl⟩
      · exact fun hs => .of_eq (congrArg Stat.allToValue hs)
      · rw [h.inventory]
      · exact fun hm => ⟨_, hm, rfl⟩
      · exact fun ht => .of_eq (congrArg BuffTotals.toValue ht)

end World

/-! ### Formulas -/

namespace Play

open World Formula

variable {names calls : List String} {w w' : World}

/-- **The values of formulas agree** in worlds that are seen alike, and the formulas that fail are
the same. -/
theorem evaluate_alike (h : SeenAlike names calls w w') {extra extra' : Fields Value}
    (hextra : ∀ n : String, n ∉ names → Fields.get? extra n = Fields.get? extra' n)
    {formula : Value} (hformula : Formula.avoids names calls formula = true) (quiet : Bool) :
    Paired False Value.Like ((evaluate formula extra quiet).runFrom w).1
        ((evaluate formula extra' quiet).runFrom w').1 ∧
      ∃ failed c c', ((evaluate formula extra quiet).runFrom w).2 = w.afterIdling failed c [] ∧
        ((evaluate formula extra' quiet).runFrom w').2 = w'.afterIdling failed c' [] := by
  have hkept : ∀ (v : World) (c : Chance), { v with chance := c } = v.afterIdling [] c [] :=
    fun v c => by simp [afterIdling, Journal.noteFailures]
  rw [runFrom_evaluate, runFrom_evaluate]
  have hscope := scope_alike h hextra
  generalize w.scope extra = s, w'.scope extra' = s' at hscope ⊢
  cases hscope with
  | error e => exact ⟨.error e, [], w.chance, w'.chance, hkept w w.chance, hkept w' w'.chance⟩
  | left h => exact h.elim
  | right h => exact h.elim
  | @ok scope scope' hscope =>
      have hagree := evaluate_agree hscope hformula w.chance w'.chance
      unfold outcome at hagree
      dsimp only
      generalize (Formula.evaluate scope formula).run.run w.chance = o,
        (Formula.evaluate scope' formula).run.run w'.chance = o' at hagree ⊢
      obtain ⟨r, c⟩ := o
      obtain ⟨r', c'⟩ := o'
      dsimp only at hagree ⊢
      cases hagree with
      | ok h => exact ⟨.ok h, [], c, c', hkept w c, hkept w' c'⟩
      | left h => exact h.elim
      | right h => exact h.elim
      | error e =>
          cases e with
          | formula e =>
              cases quiet with
              | true => exact ⟨.ok (.refl _), [], c, c', hkept w c, hkept w' c'⟩
              | false =>
                  refine ⟨.ok (.refl _), [formula], c, c', ?_, ?_⟩ <;>
                    simp [afterIdling, Journal.noteFailures]
          | _ => exact ⟨.error _, [], c, c', hkept w c, hkept w' c'⟩

end Play

end Gamebook
