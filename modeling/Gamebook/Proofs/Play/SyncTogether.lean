/-
**The parts of a sync in two worlds.**

The buffs in effect and the derived stats depend on their world through the values of formulas, and
on these only as numbers.  So where the formulas have the same numbers in two worlds, both parts of
a sync end together.

Main definitions:

* `World.ForContributions`, `Play.ForModifiers` — what holds of all formulas that give
  contributions, and of those that change stats;
* `Play.SameNumber` — a formula that has the same number in related worlds;
* `Stat.Pairing` — stats that stay related when they are changed in the same way.

Main results:

* `Play.buffInstances_together` — **the buffs in effect are the same**;
* `Play.derive_together` — **the derived stats are related**.
-/

import Gamebook.Proofs.Play.Idle
import Gamebook.Proofs.Play.Together

set_option autoImplicit false

namespace Gamebook

/-! ### Related stats -/

/-- Stats that stay related when they are changed in the same way. -/
structure Stat.Pairing (loose : Prop) (T : Stat → Stat → Prop) : Prop where
  max {s s' : Stat} : T s s' → Gamebook.Paired loose Eq s.max s'.max
  setMax {s s' : Stat} (v : Value) : T s s' → T (s.setMax v) (s'.setMax v)
  cur {s s' : Stat} (n : Number) : T s s' →
    Gamebook.Paired loose
      (fun c c' => Gamebook.Paired loose (fun m m' => T (s.setCur (.num m)) (s'.setCur (.num m')))
        (c.plus n) (c'.plus n)) s.cur s'.cur
  clamp {s s' : Stat} : T s s' → Gamebook.Paired loose T s.clamp s'.clamp

/-- Equal stats stay equal. -/
theorem Stat.pairing_eq (loose : Prop) : Stat.Pairing loose Eq where
  max h := .of_eq (congrArg Stat.max h)
  setMax v h := congrArg (·.setMax v) h
  cur n h := by
    subst h
    exact (Paired.of_eq rfl).mono fun c c' hc =>
      hc ▸ (Paired.of_eq rfl).mono fun m m' hm => hm ▸ rfl
  clamp h := .of_eq (congrArg Stat.clamp h)

/-- The greatest values of stats do not depend on the current ones. -/
theorem Stat.pairing_sameMax : Stat.Pairing True Stat.SameMax where
  max h := .of_eq h
  setMax v _ := by simp [SameMax]
  cur n h := by
    refine .of_results trivial fun c c' _ _ => .of_results trivial fun m m' _ _ => ?_
    rw [SameMax, max_setCur, max_setCur, h]
  clamp h := by
    refine .of_results trivial fun t t' ht ht' => ?_
    rw [SameMax, max_clamp ht, max_clamp ht', h]

/-! ### Formulas of a sync -/

namespace World

open Play

/-- What holds of every formula that gives a contribution, with the extra names it has. -/
structure ForContributions (F : Value → Fields Value → Prop) (w : World) : Prop where
  active {buffs : List Value} {buff f : Value} : w.state.buffs.elements = .ok buffs →
    buff ∈ buffs → buff.field "value_expr" = .ok f → F (Value.coalesce [f, .str "1"]) []
  held {items : Fields Value} {item : Key × Value} {count hold f : Value} {holds : List Value} :
    w.book.items.entries = .ok items → item ∈ items →
    holdsOf w.state.inventory item.1 item.2 = .ok (count, holds) → hold ∈ holds →
    hold.field "value_expr" = .ok f → F (Value.coalesce [f, .str "1"]) [("$count", count)]

end World

namespace Play

open World

variable {loose : Prop} {R : World → World → Prop}

/-- The modifiers of a buff. -/
def modifiersOf (buffs id : Value) : Except Fault (List Value) := do
  let definition := (← buffs.fieldAt id).orElse (.obj [])
  ((← definition.field "modifiers").orElse (.list [])).elements

/-- The extra names of the formula of a modifier. -/
def modifierNames (value : Value) (base : Fields Stat) : Fields Value :=
  [("$value", value), ("$stat", Stat.allToValue base)]

/-- What holds of every formula of the modifiers of some buffs in effect, with their values. -/
def ForModifiers (F : Value → Value → Prop) (buffs : Value) (instances : List BuffInstance) :
    Prop :=
  ∀ i ∈ instances, ∀ modifiers, modifiersOf buffs i.id = .ok modifiers → ∀ modifier ∈ modifiers,
    ∀ f, modifier.field "value_expr" = .ok f → F (Value.coalesce [f, .str "$value"]) i.value

/-- In related worlds a formula with some extra names has the same number as with others. -/
def SameNumber (loose : Prop) (R : World → World → Prop) (formula : Value)
    (extra extra' : Fields Value) : Prop :=
  ∀ w w', R w w' → Together loose R w w' (evaluator formula extra) (evaluator formula extra')
    fun v v' => v.toNumber = v'.toNumber

/-! ### The buffs in effect -/

theorem activeInstance_together {w w' : World} (hw : R w w') {buff : Value}
    (h : ∀ f, buff.field "value_expr" = .ok f →
      SameNumber loose R (Value.coalesce [f, .str "1"]) [] []) :
    Together loose R w w' (activeInstance? evaluator buff) (activeInstance? evaluator buff) Eq := by
  unfold activeInstance?
  refine .same_bind fun f hf => (h f hf w w' hw).bind fun v v' w w' hw hv => ?_
  dsimp only
  rw [hv]
  refine .same_bind fun finite _ => ?_
  split
  · exact .pure hw rfl
  · exact .same_bind fun id _ => .pure hw rfl

theorem holdInstance_together {w w' : World} (hw : R w w') {item : Key} {count hold : Value}
    (h : ∀ f, hold.field "value_expr" = .ok f →
      SameNumber loose R (Value.coalesce [f, .str "1"]) [("$count", count)] [("$count", count)]) :
    Together loose R w w' (holdInstance? evaluator item count hold)
      (holdInstance? evaluator item count hold) Eq := by
  unfold holdInstance?
  refine .same_bind fun f hf => (h f hf w w' hw).bind fun v v' w w' hw hv => ?_
  dsimp only
  rw [hv]
  refine .same_bind fun finite _ => ?_
  split
  · exact .pure hw rfl
  · exact .same_bind fun id _ => .pure hw rfl

/-- The two worlds have the same book, items and active buffs. -/
def SameSources (w w' : World) : Prop :=
  w'.book = w.book ∧ w'.state.inventory = w.state.inventory ∧ w'.state.buffs = w.state.buffs

/-- **The buffs in effect are the same** where all formulas that give contributions have the same
numbers. -/
theorem buffInstances_together {w₀ : World}
    (hR : ∀ w w', R w w' → SameSources w₀ w ∧ SameSources w₀ w')
    (h : w₀.ForContributions fun formula extra => SameNumber loose R formula extra extra)
    {w w' : World} (hw : R w w') :
    Together loose R w w' (buffInstances evaluator) (buffInstances evaluator) Eq := by
  unfold buffInstances
  refine .state_bind ?_
  -- first the active buffs
  rw [(hR w w' hw).1.2.2, (hR w w' hw).2.2.2]
  refine .same_bind fun buffs hbuffs => ?_
  refine (Together.filterMapM hw fun buff hbuff v v' hv => ?_).bind
    fun active active' w w' hw hactive => ?_
  · exact activeInstance_together hv fun f hf => h.active hbuffs hbuff hf
  subst hactive
  refine .book_bind ?_
  -- then what is held
  rw [(hR w w' hw).1.1, (hR w w' hw).2.1]
  refine .same_bind fun items hitems => ?_
  refine (Together.mapM_same hw fun item hitem v v' hv => ?_).bind
    fun held held' w w' hw hheld => ?_
  · obtain ⟨id, definition⟩ := item
    unfold itemInstances
    refine .state_bind ?_
    rw [(hR v v' hv).1.2.1, (hR v v' hv).2.2.1]
    refine .same_bind fun counted hcounted => ?_
    obtain ⟨count, holds⟩ := counted
    refine Together.filterMapM hv fun hold hhold v v' hv => ?_
    exact holdInstance_together hv fun f hf => h.held hitems hitem hcounted hhold hf
  · subst hheld
    exact .pure hw rfl

/-! ### The derived stats -/

/-- The relation is kept when the author of the book is warned of the same. -/
def KeptByWarnings (R : World → World → Prop) : Prop :=
  ∀ w w' text, R w w' → R { w with warnings := w.warnings ++ [text] }
    { w' with warnings := w'.warnings ++ [text] }

variable {T : Stat → Stat → Prop} {base base' derived derived' : Fields Stat}

theorem applyModifier_together (hT : Stat.Pairing loose T) (hR : KeptByWarnings R)
    {w w' : World} (hw : R w w') (hderived : Fields.Paired T derived derived') {i : BuffInstance}
    {modifier : Value}
    (h : ∀ f, modifier.field "value_expr" = .ok f →
      SameNumber loose R (Value.coalesce [f, .str "$value"]) (modifierNames i.value base)
        (modifierNames i.value base')) :
    Together loose R w w' (applyModifier evaluator base i derived modifier)
      (applyModifier evaluator base' i derived' modifier) (Fields.Paired T) := by
  unfold applyModifier
  refine .same_bind fun target _ => ?_
  -- both lists have the same names, so both find the stat or none does
  refine .lift_bind (Q := Option.Rel T) ?_ fun stat stat' _ _ hstat => ?_
  · unfold Value.lookup
    refine (Paired.of_eq rfl).bind fun name name' hname => ?_
    subst hname
    exact .ok (hderived.get? name)
  cases hstat with
  | none => exact .pure hw hderived
  | @some stat stat' hstat =>
      refine .same_bind fun f hf => (h f hf w w' hw).bind fun v v' w w' hw hv => ?_
      dsimp only
      rw [hv]
      refine .same_bind fun finite _ => ?_
      split
      · exact .pure hw hderived
      refine .same_bind fun kind _ => .same_bind fun name _ => ?_
      split
      · refine .lift_bind (hT.max hstat) fun m m' _ _ hm => ?_
        subst hm
        exact .same_bind fun sum _ => .pure hw (hderived.set name (hT.setMax _ hstat))
      · split
        · refine .lift_bind (hT.cur v'.toNumber hstat) fun c c' _ _ hc => ?_
          refine .lift_bind hc fun sum sum' _ _ hsum => ?_
          exact .pure hw (hderived.set name hsum)
        · refine Together.bind (Q := fun _ _ => True) ?_ fun _ _ w w' hw _ => .pure hw hderived
          exact .of_outcome rfl rfl (hR w w' _ hw) (.ok trivial)

/-- **The derived stats are related** when the base stats are, where all modifiers have the same
numbers. -/
theorem derive_together (hT : Stat.Pairing loose T) (hR : KeptByWarnings R) {buffs : Value}
    {instances : List BuffInstance} (hbase : Fields.Paired T base base')
    (h : ForModifiers (fun formula value => SameNumber loose R formula (modifierNames value base)
      (modifierNames value base')) buffs instances) {w w' : World} (hw : R w w') :
    Together loose R w w' (derive evaluator buffs base instances)
      (derive evaluator buffs base' instances) (Fields.Paired T) := by
  unfold derive
  refine (Together.foldlM hw hbase fun i hi derived derived' v v' hv hderived => ?_).bind
    fun derived derived' w w' hw hderived => ?_
  · unfold applyInstance
    refine .same_bind fun buff hbuff => .same_bind fun field hfield => ?_
    refine .same_bind fun modifiers hmodifiers => ?_
    refine Together.foldlM hv hderived fun modifier hmodifier d d' v v' hv hd => ?_
    refine applyModifier_together hT hR hv hd (h i hi modifiers ?_ modifier hmodifier)
    simp only [modifiersOf, hbuff, bind, Except.bind, hfield, hmodifiers]
  · refine Together.mapM hw hderived fun f _ g v v' hv hfg => ?_
    exact .lift_bind (hT.clamp hfg.2) fun s s' _ _ hs => .pure hv ⟨hfg.1, hs⟩

end Play

end Gamebook
