/-
**How deep nodes and days lead.**

Entering a node can move to others, and a day can move to nodes.  A book in which neither lets days
pass, and in which entering a node only moves on to nodes of a smaller rank, bounds how deep this
goes: from every state every action of the player ends within a depth that depends on the book
alone, and at every greater depth it has the same outcome.

Main definitions:

* `Book.onEnter`, `Value.entryEffects`, `Book.periodicEffects` — the effects of nodes, of events
  and of buffs;
* `Book.IsRanked` — books whose nodes a rank orders;
* `Book.height`, `Book.depth` — the greatest rank that entering a node moves on to, and the depth
  that suffices;
* `Operation.runWith` — operations that go on in a given way.

Main results:

* `Play.onward_concur` — nodes and days concur at all depths that suffice;
* `Operation.ends_within_depth` — **every action ends within the depth of the book**;
* `goto_mill_tooDeep` — for a node that moves to itself no depth suffices.
-/

import Gamebook.Proofs.Play.Concur
import Gamebook.Proofs.Play.Course

set_option autoImplicit false

namespace Gamebook

/-! ### Ranked books -/

namespace Value

/-- The effects of an event, or of the periodic part of a buff. -/
def entryEffects (entry : Value) : List Value :=
  match entry.field "effects" with
  | .ok effects => effects.effectsIn
  | .error _ => []

/-- The effects of entering a node. -/
def enterEffects (node : Value) : List Value :=
  match (node.orElse (.obj [])).field "on_enter" with
  | .ok effects => effects.effectsIn
  | .error _ => []

/-- The periodic effects of a buff. -/
def periodicEffects (definition : Value) : List Value :=
  match (definition.orElse (.obj [])).field "periodic" with
  | .ok periodic => periodic.entryEffects
  | .error _ => []

/-- Whether an event waits for a trigger. -/
def waitsFor (trigger event : Value) : Bool :=
  match event.field "trigger" with
  | .ok t => t.eqv trigger
  | .error _ => false

end Value

namespace Book

open Value

/-- The effects of entering the node with an id. -/
def onEnter (b : Book) (id : Value) : List Value :=
  match b.nodes.entryAt id with
  | .ok node => node.enterEffects
  | .error _ => []

/-- The periodic effects of the buff with an id. -/
def periodicEffects (b : Book) (id : Value) : List Value :=
  match b.buffs.fieldAt id with
  | .ok definition => definition.periodicEffects
  | .error _ => []

/-- **The rank orders the nodes**: entering a node moves on to nodes of a smaller rank only, or to
none that is declared.  No effect of a node, of an event or of a buff lets days pass, and no event
that waits for nodes moves to one. -/
structure IsRanked (b : Book) (rank : Value → Nat) : Prop where
  rank_lt {id target effect : Value} : Play.declares b.nodes id = .ok true →
    effect ∈ b.onEnter id → target ∈ effect.gotoTarget? →
    Play.declares b.nodes target = .ok true → rank target < rank id
  enter {id effect : Value} : Play.declares b.nodes id = .ok true → effect ∈ b.onEnter id →
    effect.letsDaysPass = false
  event {events : List Value} {event effect : Value} : b.events.elements = .ok events →
    event ∈ events → effect ∈ event.entryEffects → effect.letsDaysPass = false
  nodeEvent {events : List Value} {event effect : Value} : b.events.elements = .ok events →
    event ∈ events → waitsFor (.str "on_enter_node") event = true → effect ∈ event.entryEffects →
    effect.gotoTarget? = none
  periodic {id effect : Value} : effect ∈ b.periodicEffects id → effect.letsDaysPass = false

/-- The nodes that entering a node moves on to. -/
def enteredNext (b : Book) : List Value :=
  b.nodes.inside.flatMap fun node => node.enterEffects.filterMap gotoTarget?

/-- The greatest rank that entering a node moves on to. -/
def height (b : Book) (rank : Value → Nat) : Nat := ((b.enteredNext.map rank).max?).getD 0

/-- A depth of nodes and days that suffices: below a day there are the nodes that its events move
to, and below these all that they move on to. -/
def depth (b : Book) (rank : Value → Nat) : Nat := b.height rank + 4

variable {b : Book} {rank : Value → Nat}

theorem rank_le_height {id target effect : Value} (heffect : effect ∈ b.onEnter id)
    (htarget : target ∈ effect.gotoTarget?) : rank target ≤ b.height rank := by
  have hnext : target ∈ b.enteredNext := by
    unfold onEnter at heffect
    cases hnode : b.nodes.entryAt id with
    | error e =>
        rw [hnode] at heffect
        cases heffect
    | ok node =>
        rw [hnode] at heffect
        rcases mem_inside_of_entryAt hnode with hmem | rfl
        · exact List.mem_flatMap.2 ⟨node, hmem, List.mem_filterMap.2 ⟨effect, heffect, htarget⟩⟩
        · cases heffect
  exact List.le_max?_getD_of_mem (List.mem_map_of_mem hnext)

end Book

/-! ### Nodes and days -/

namespace Play

open Value Onward

variable {b : Book} {rank : Value → Nat} {o o' : Onward}

theorem applyWhen_concur {entry : Value}
    (h : ∀ effect ∈ entry.entryEffects, ConcurFor b o o' effect) (extra : Fields Value) :
    Concur b (applyWhen o entry extra) (applyWhen o' entry extra) := by
  unfold applyWhen
  refine .lift_bind (field_shallow entry _) fun conditions _ => ?_
  refine (checkConditions_concur conditions extra false).bind fun holds => ?_
  refine .ite (fun _ => ?_) fun _ => .pure _
  refine .lift_bind (field_shallow entry _) fun effects heffects => ?_
  refine applyEffects_concur (fun effect he => h effect ?_) extra
  rw [entryEffects, heffects]
  exact he

theorem runEvents_concur {trigger : Value} (extra : Fields Value)
    (h : ∀ events event effect, b.events.elements = .ok events → event ∈ events →
      waitsFor trigger event = true → effect ∈ event.entryEffects → ConcurFor b o o' effect) :
    Concur b (runEvents o trigger extra) (runEvents o' trigger extra) := by
  unfold runEvents
  refine .book_bind <| .lift_bind (elements_shallow _) fun events hevents => ?_
  refine .forM fun event hevent => ?_
  unfold runEvent
  refine .lift_bind (field_shallow event _) fun t ht => .ite (fun heqv => ?_) fun _ => .pure _
  have hwaits : waitsFor trigger event = true := by
    rw [waitsFor, ht]
    exact heqv
  exact applyWhen_concur (fun effect he => h events event effect hevents hevent hwaits he) extra

theorem runPeriodic_concur (hb : b.IsRanked rank) (every : Value)
    (h : ∀ id, Concur b (o.goto id) (o'.goto id)) :
    Concur b (runPeriodic o every) (runPeriodic o' every) := by
  unfold runPeriodic
  refine buffInstances_concur.bind fun instances => .forM fun i _ => ?_
  unfold runPeriodicOf
  refine .book_bind <| .lift_bind (fieldAt_shallow _ _) fun definition hdefinition => ?_
  refine .lift_bind (field_shallow _ _) fun periodic hperiodic => ?_
  refine .ite (fun _ => ?_) fun _ => .pure _
  refine .lift_bind (field_shallow _ _) fun e _ => .ite (fun _ => ?_) fun _ => .pure _
  refine applyWhen_concur (fun effect he => ⟨fun id _ => h id, fun hdays => ?_⟩) _
  have hmem : effect ∈ b.periodicEffects i.id := by
    rw [Book.periodicEffects, hdefinition]
    dsimp only
    rw [periodicEffects, hperiodic]
    exact he
  rw [hb.periodic hmem] at hdays
  cases hdays

/-- **Entering a node concurs** where moving on from there does. -/
theorem enterNode_concur (hb : b.IsRanked rank) {id : Value}
    (h : declares b.nodes id = .ok true → ∀ effect ∈ b.onEnter id, ∀ target ∈ effect.gotoTarget?,
      Concur b (o.goto target) (o'.goto target)) :
    Concur b (enterNode o id) (enterNode o' id) := by
  unfold enterNode
  refine .book_bind <| .lift_bind (declares_shallow _ id) fun declared hdeclared => ?_
  refine .ite (fun _ => .pure _) fun hd => (Concur.modifyState _).bind fun _ => ?_
  replace hdeclared : declares b.nodes id = .ok true := by simpa [hdeclared] using hd
  refine .lift_bind (entryAt_shallow _ id) fun node hnode => ?_
  refine .lift_bind (field_shallow _ _) fun effects heffects => ?_
  have hevents : Concur b (runEvents o (.str "on_enter_node") [("$node", id)])
      (runEvents o' (.str "on_enter_node") [("$node", id)]) := by
    refine runEvents_concur _ fun events event effect hevents hevent hwaits he => ⟨?_, ?_⟩
    · rw [hb.nodeEvent hevents hevent hwaits he]
      nofun
    · rw [hb.event hevents hevent he]
      nofun
  refine .ite (fun _ => ?_) fun _ => hevents
  refine Concur.bind (applyEffects_concur (fun effect he => ?_) []) fun _ => hevents
  have hmem : effect ∈ b.onEnter id := by
    rw [Book.onEnter, hnode]
    dsimp only
    rw [enterEffects, heffects]
    exact he
  refine ⟨h hdeclared effect hmem, ?_⟩
  rw [hb.enter hdeclared hmem]
  nofun

/-- A day concurs where moving to nodes does. -/
theorem passDay_concur (hb : b.IsRanked rank) (h : ∀ id, Concur b (o.goto id) (o'.goto id)) :
    Concur b (passDay o) (passDay o') := by
  unfold passDay
  refine sync_concur.bind fun _ => .state_bind fun s => ?_
  refine .lift_bind (plus_shallow s.day _) fun day _ => (keep_concur day).bind fun day => ?_
  refine (Concur.modifyState _).bind fun _ => ?_
  refine Concur.bind (runEvents_concur [] fun events event effect hevents hevent _ he => ?_)
    fun _ => (runPeriodic_concur hb _ h).bind fun _ => ?_
  · refine ⟨fun id _ => h id, ?_⟩
    rw [hb.event hevents hevent he]
    nofun
  · unfold tickBuffs
    refine .state_bind fun s => .lift_bind (elements_shallow _) fun active _ => ?_
    exact .lift_bind (tickAll_shallow active) fun _ _ => .modifyState _

theorem passDays_concur (hb : b.IsRanked rank) (h : ∀ id, Concur b (o.goto id) (o'.goto id))
    (amount : Value) : Concur b (passDays o amount) (passDays o' amount) := by
  unfold passDays
  refine .lift_bind (dayCount_shallow amount) fun n hn => ?_
  clear hn
  induction n with
  | zero => exact .pure _
  | succ n ih => exact (passDay_concur hb h).bind fun _ => ih

/-! ### Depths -/

/-- Moving to a node concurs at all depths beyond the rank of the node. -/
theorem goto_concur_of_rank (hb : b.IsRanked rank) {id : Value} {n m : Nat} (hn : 1 ≤ n)
    (hm : 1 ≤ m) (h : declares b.nodes id = .ok true → rank id + 2 ≤ n ∧ rank id + 2 ≤ m) :
    Concur b ((onward n).goto id) ((onward m).goto id) := by
  induction n generalizing m id with
  | zero => omega
  | succ n ih =>
      obtain ⟨m, rfl⟩ : ∃ k, m = k + 1 := ⟨m - 1, by omega⟩
      refine enterNode_concur hb fun hid effect heffect target htarget => ?_
      obtain ⟨hn, hm⟩ := h hid
      refine ih (by omega) (by omega) fun hdeclared => ?_
      have hlt := hb.rank_lt hid heffect htarget hdeclared
      omega

/-- Moving to any node concurs at all depths beyond the height of the book. -/
theorem goto_concur (hb : b.IsRanked rank) (id : Value) {n m : Nat} (hn : b.height rank + 3 ≤ n)
    (hm : b.height rank + 3 ≤ m) : Concur b ((onward n).goto id) ((onward m).goto id) := by
  obtain ⟨n, rfl⟩ : ∃ k, n = k + 1 := ⟨n - 1, by omega⟩
  obtain ⟨m, rfl⟩ : ∃ k, m = k + 1 := ⟨m - 1, by omega⟩
  refine enterNode_concur hb fun _ effect heffect target htarget => ?_
  have hle : rank target ≤ b.height rank := Book.rank_le_height heffect htarget
  exact goto_concur_of_rank hb (by omega) (by omega) fun _ => ⟨by omega, by omega⟩

/-- **Nodes and days concur** at all depths that suffice for the book. -/
theorem onward_concur (hb : b.IsRanked rank) {n m : Nat} (hn : b.depth rank ≤ n)
    (hm : b.depth rank ≤ m) : Onward.Concur b (onward n) (onward m) := by
  unfold Book.depth at hn hm
  refine ⟨fun id => goto_concur hb id (by omega) (by omega), fun amount => ?_⟩
  obtain ⟨n, rfl⟩ : ∃ k, n = k + 1 := ⟨n - 1, by omega⟩
  obtain ⟨m, rfl⟩ : ∃ k, m = k + 1 := ⟨m - 1, by omega⟩
  exact passDays_concur hb (fun id => goto_concur hb id (by omega) (by omega)) amount

end Play

namespace Operation

open Play

/-- An operation that goes on in a given way; opening a book does not go on to nodes and days. -/
def runWith (onward : Onward) : Operation → Play Bool
  | choose choice => Play.choose choice onward
  | chooseAt place => Play.chooseAt place onward
  | buy shop item => Play.buy shop item onward
  | useItem item => Play.useItem item onward
  | advanceDay days => do Play.advanceDay days onward; return true
  | op => op.run

/-- Operations go on as play does. -/
theorem runWith_onwards (op : Operation) : op.runWith onwards = op.run := by
  cases op <;> rfl

/-- **The actions of the player concur** over ways to go on that do. -/
theorem runWith_concur {b : Book} {rank : Value → Nat} (hb : b.IsRanked rank) {o o' : Onward}
    (h : Onward.Concur b o o') {op : Operation} (hop : op.IsAction) :
    Concur b (op.runWith o) (op.runWith o') := by
  cases op with
  | load | reset | restore => exact hop.elim
  | choose choice => exact acting_concur h (takeChoice_concur h choice)
  | chooseAt place => exact acting_concur h (takeAt_concur h place)
  | buy shop item => exact acting_concur h (takeEntry_concur h shop item)
  | useItem item => exact acting_concur h (consume_concur h item)
  | advanceDay days =>
      have hdays : Concur b (Play.advanceDay days o) (Play.advanceDay days o') :=
        (passDays_concur hb h.goto days).bind fun _ => afterAction_concur h
      exact hdays.bind fun _ => .pure _

end Operation

/-- **Every action of the player ends within the depth of its book**, from every state, when a rank
orders the nodes: at that depth and at every greater one it has the same outcome and leaves the same
world, and that outcome is not the fault of depth. -/
theorem Operation.ends_within_depth {b : Book} {rank : Value → Nat} (hb : b.IsRanked rank)
    {w : World} (hw : w.book = b) {op : Operation} (hop : op.IsAction) {n : Nat}
    (hn : b.depth rank ≤ n) :
    (op.runWith (Play.onward n)).runFrom w =
        (op.runWith (Play.onward (b.depth rank))).runFrom w ∧
      ((op.runWith (Play.onward n)).runFrom w).1 ≠ .error .tooDeep := by
  obtain ⟨heq, -, hshallow⟩ :=
    Operation.runWith_concur hb (Play.onward_concur hb hn (Nat.le_refl _)) hop w hw
  exact ⟨heq, fun h => hshallow _ h⟩

/-! ### A house -/

/-- An effect that moves to a node. -/
def moveTo (node : String) : Value := .obj [("type", .str "goto"), ("node", .str node)]

/-- A buff that moves to the gate every day. -/
def draught : Value :=
  .obj [("periodic", .obj [("every", .str "day"), ("effects", .list [moveTo "gate"])])]

/-- A house: the gate leads to the hall, and the hall to a place that is not there.  Every day
begins in the yard, from where a choice leads back there. -/
def house : Book where
  nodes := .obj
    [("gate", .obj [("on_enter", .list [moveTo "hall"])]),
      ("hall", .obj [("on_enter", .list [moveTo "attic"])]),
      ("yard", .obj [("on_enter", .list [moveTo "gate"]),
        ("choices", .list [.obj [("goto", .str "yard")]])])]
  events := .list
    [.obj [("trigger", .str "on_day_start"), ("effects", .list [moveTo "yard"])],
      .obj [("trigger", .str "on_enter_node"),
        ("effects", .list [.obj [("type", .str "log"), ("text", .str "A door creaks.")]])]]
  buffs := .obj [("draught", draught)]

/-- The order of the nodes of the house. -/
def houseRank (id : Value) : Nat :=
  if id.eqv (.str "yard") then 2 else if id.eqv (.str "gate") then 1 else 0

theorem declared_house {id : Value} (h : Play.declares house.nodes id = .ok true) :
    id = .str "gate" ∨ id = .str "hall" ∨ id = .str "yard" := by
  obtain ⟨name, node, hname, hget⟩ := Play.exists_of_declares h
  have hsame {s : String} (h : (Key.text s).same name = true) : id = .str s := by
    cases id <;> cases hname <;> simp [Key.canon] at h
    rw [h]
  simp only [Fields.get?_cons] at hget
  split at hget
  · exact .inl (hsame ‹_›)
  split at hget
  · exact .inr (.inl (hsame ‹_›))
  split at hget
  · exact .inr (.inr (hsame ‹_›))
  · cases hget

theorem isRanked_house : house.IsRanked houseRank where
  rank_lt {id target effect} hid heffect htarget hdeclared := by
    have hall : ∀ id ∈ [Value.str "gate", .str "hall", .str "yard"],
        ∀ effect ∈ house.onEnter id, ∀ target ∈ effect.gotoTarget?,
          Play.declares house.nodes target = .ok true → houseRank target < houseRank id := by
      decide +kernel
    exact hall id (by simpa using declared_house hid) effect heffect target htarget hdeclared
  enter {id effect} hid heffect := by
    have hall : ∀ id ∈ [Value.str "gate", .str "hall", .str "yard"],
        ∀ effect ∈ house.onEnter id, effect.letsDaysPass = false := by decide +kernel
    exact hall id (by simpa using declared_house hid) effect heffect
  event {events event effect} hevents hevent heffect := by
    have hall : ∀ event ∈ events, ∀ effect ∈ event.entryEffects,
        effect.letsDaysPass = false := by
      cases hevents
      decide +kernel
    exact hall event hevent effect heffect
  nodeEvent {events event effect} hevents hevent hwaits heffect := by
    have hall : ∀ event ∈ events, Value.waitsFor (.str "on_enter_node") event = true →
        ∀ effect ∈ event.entryEffects, effect.gotoTarget?.isNone = true := by
      cases hevents
      decide +kernel
    exact Option.isNone_iff_eq_none.1 (hall event hevent hwaits effect heffect)
  periodic {id effect} heffect := by
    have hall : ∀ definition ∈ [Value.null, draught], ∀ effect ∈ definition.periodicEffects,
        effect.letsDaysPass = false := by decide +kernel
    unfold Book.periodicEffects at heffect
    cases hbuff : house.buffs.fieldAt id with
    | error e =>
        rw [hbuff] at heffect
        cases heffect
    | ok definition =>
        rw [hbuff] at heffect
        refine hall definition ?_ effect heffect
        obtain ⟨buffs, name, hbuffs, rfl⟩ := Value.exists_of_fieldAt_eq hbuff
        cases hbuffs
        rw [Fields.get?_cons]
        split <;> simp [Value.ofOption]

/-- The house at its gate. -/
def houseAtGate : World where
  settings := {}
  book := house
  state := { node := .str "gate", journal := ⟨12, []⟩ }
  chance := .constant 1 (.int 0)

/-- Whatever a player does in the house, it ends within five levels of nodes and days, and so it
never ends for its depth. -/
theorem ends_within_depth_house :
    house.IsRanked houseRank ∧ houseAtGate.book = house ∧ house.depth houseRank = 5 ∧
      (Operation.chooseAt (.int 0)).IsAction ∧ (Operation.advanceDay (.int 3)).IsAction ∧
      ((Operation.chooseAt (.int 0)).run.runFrom houseAtGate).1 ≠ .error .tooDeep ∧
      ((Operation.advanceDay (.int 3)).run.runFrom houseAtGate).1 ≠ .error .tooDeep := by
  have hdepth : house.depth houseRank = 5 := by decide +kernel
  have hle : house.depth houseRank ≤ Play.depthLimit := by
    rw [hdepth]
    decide
  have hends {op : Operation} (hop : op.IsAction) :
      (op.run.runFrom houseAtGate).1 ≠ .error .tooDeep := by
    rw [← op.runWith_onwards]
    exact (Operation.ends_within_depth isRanked_house rfl hop hle).2
  exact ⟨isRanked_house, rfl, hdepth, trivial, trivial, hends trivial, hends trivial⟩

/-! ### A mill -/

/-- A mill that moves to itself on entering it: no rank orders its only node. -/
def mill : Book where
  nodes := .obj [("mill", .obj [("on_enter", .list [moveTo "mill"])])]

/-- The only effect of entering the mill moves there. -/
theorem applyEffects_mill (o : Onward) :
    Play.applyEffects o (.list [moveTo "mill"]) [] = o.goto (.str "mill") := by
  have hone (m : Play PUnit) : (m >>= fun _ => pure ⟨⟩) = m := bind_pure_unit
  exact hone (o.goto (.str "mill"))

/-- At no depth does entering the mill end other than for its depth. -/
theorem goto_mill_tooDeep (n : Nat) {w : World} (hw : w.book = mill) :
    (((Play.onward n).goto (.str "mill")).runFrom w).1 = .error .tooDeep := by
  induction n generalizing w with
  | zero => rfl
  | succ n ih =>
      have hdeclared : Play.declares mill.nodes (.str "mill") = .ok true := by decide +kernel
      change ((Play.enterNode (Play.onward n) (.str "mill")).runFrom w).1 = _
      unfold Play.enterNode
      rw [Play.runFrom_bind_ok (Play.runFrom_book w), hw,
        Play.runFrom_bind_ok (Play.runFrom_liftM_ok hdeclared w)]
      change ((Play.modifyState _ >>= fun _ => _).runFrom w).1 = _
      rw [Play.runFrom_bind_ok (Play.runFrom_modifyState _ w)]
      generalize hv : ({ w with state := { w.state with node := .str "mill" } } : World) = v
      have hbook : v.book = mill := by rw [← hv, hw]
      change ((Play.applyEffects (Play.onward n) (.list [moveTo "mill"]) [] >>= fun _ =>
        Play.runEvents _ _ _).runFrom v).1 = _
      rw [applyEffects_mill, Play.runFrom_bind_error (Play.runFrom_eq (ih hbook))]

end Gamebook
