/-
**What leaves the time alone.**

Only three effects let days pass or touch the active buffs.  When the effects of entering a node, of
events and of buffs are none of those, then moving to nodes, running events and applying periodic
effects leaves the day and the active buffs as they are, at every depth; so do a sync and looking
for an ending.  Choices, shops and items may have any effects: what follows an action does not get
to them.

Main definitions:

* `World.SameTime` — worlds with the same book, the same day and the same active buffs;
* `Value.LeavesTime`, `Value.AllLeaveTime` — effects that are none of the three;
* `Book.KeepsTime` — books that leave the time alone.

Main results:

* `Play.applyEffects_sameTime` — **such effects leave the time alone**;
* `Play.onward_sameTime` — so do the nodes that they lead to, at every depth;
* `Play.afterAction_sameTime` — so does what follows an action.
-/

import Gamebook.Proofs.Play.Ending
import Gamebook.Proofs.Play.Frame
import Gamebook.Proofs.Value.Records

set_option autoImplicit false

namespace Gamebook

open Value

/-! ### What leaves the time alone -/

namespace World

/-- The two worlds have the same book, the same day and the same active buffs. -/
structure SameTime (w w' : World) : Prop where
  book : w'.book = w.book
  day : w'.state.day = w.state.day
  buffs : w'.state.buffs = w.state.buffs

variable {w w' w'' : World}

theorem SameTime.refl (w : World) : SameTime w w := ⟨rfl, rfl, rfl⟩

theorem SameTime.trans (h : SameTime w w') (h' : SameTime w' w'') : SameTime w w'' :=
  ⟨h'.book.trans h.book, h'.day.trans h.day, h'.buffs.trans h.buffs⟩

instance : Std.Refl SameTime := ⟨SameTime.refl⟩

instance : IsTrans World SameTime := ⟨fun _ _ _ => SameTime.trans⟩

theorem Noting.sameTime (h : Noting w w') : SameTime w w' :=
  ⟨h.book_eq, by rw [h.state_eq], by rw [h.state_eq]⟩

theorem Resynced.sameTime (h : Resynced w w') : SameTime w w' :=
  ⟨h.book_eq, by rw [h.state_eq], by rw [h.state_eq]⟩

/-- Writing to another part than the active buffs leaves the time alone. -/
theorem Touches.sameTime {part? : Option State.Part} (h : Touches part? w w')
    (hpart : part? ≠ some .buffs) : SameTime w w' := by
  obtain ⟨s, hs, hnoting⟩ := h
  have hsame : s.day = w.state.day ∧ s.buffs = w.state.buffs := by
    rcases hs with rfl | ⟨part, hmem, v, rfl⟩
    · exact ⟨rfl, rfl⟩
    · cases part with
      | buffs => exact absurd hmem hpart
      | capacity => simp only [State.put]; split <;> exact ⟨rfl, rfl⟩
      | flag id => simp only [State.put]; split <;> exact ⟨rfl, rfl⟩
      | _ => exact ⟨rfl, rfl⟩
  have hafter := hnoting.sameTime
  exact ⟨hafter.book, hafter.day.trans hsame.1, hafter.buffs.trans hsame.2⟩

end World

namespace Value

/-- The effects that let days pass, or change the active buffs. -/
def timeKinds : List String := ["advance_day", "buff_add", "buff_remove"]

/-- The effect is none of those. -/
def LeavesTime (effect : Value) : Prop := ∀ e ∈ effectOf? effect, e.1 ∉ timeKinds

/-- None of some effects is one of those. -/
def AllLeaveTime (effects : Value) : Prop :=
  ∀ l, (effects.orElse (.list [])).elements = .ok l → ∀ effect ∈ l, effect.LeavesTime

/-- Whether the fields are not those of such an effect. -/
def isTimeless (fields : Fields Value) : Bool :=
  match ofOption (fields.get? "type") with
  | .str kind => kind ∉ timeKinds
  | _ => true

theorem allLeaveTime_of_everyRecord {effects : Value}
    (h : everyRecord isTimeless effects = true) : effects.AllLeaveTime := by
  have hP := hereditary_everyRecord isTimeless rfl
  intro l hl effect hmem e he
  have heffect := hP.element (hP.orElse_none h) hl effect hmem
  cases effect with
  | obj fields =>
      have hfields := (everyRecord_fields heffect rfl).1
      simp only [effectOf?, Option.mem_def] at he
      split at he
      · rename_i kind hkind
        cases he
        simpa [isTimeless, hkind] using hfields
      · cases he
  | _ => cases he

end Value

/-- **The book leaves days and buffs alone**: no effect of entering a node, of an event or of a
buff, applied from time to time, lets days pass or changes the active buffs. -/
structure Book.KeepsTime (b : Book) : Prop where
  nodes {id node effects : Value} : b.nodes.entryAt id = .ok node →
    (node.orElse (.obj [])).field "on_enter" = .ok effects → effects.AllLeaveTime
  events {events : List Value} {event effects : Value} : b.events.elements = .ok events →
    event ∈ events → event.field "effects" = .ok effects → effects.AllLeaveTime
  periodic {id definition periodic effects : Value} : b.buffs.fieldAt id = .ok definition →
    (definition.orElse (.obj [])).field "periodic" = .ok periodic →
    periodic.field "effects" = .ok effects → effects.AllLeaveTime

/-- A book keeps the time when no record among its nodes, events and buffs is one of the effects
that do not. -/
theorem Book.KeepsTime.of_everyRecord {b : Book} (hnodes : everyRecord isTimeless b.nodes = true)
    (hevents : everyRecord isTimeless b.events = true)
    (hbuffs : everyRecord isTimeless b.buffs = true) : b.KeepsTime where
  nodes hnode heffects :=
    have hP := hereditary_everyRecord isTimeless rfl
    allLeaveTime_of_everyRecord
      (hP.field (hP.orElse_empty (hP.entryAt hnodes hnode)) heffects)
  events hl hmem heffects :=
    have hP := hereditary_everyRecord isTimeless rfl
    allLeaveTime_of_everyRecord (hP.field (hP.element hevents hl _ hmem) heffects)
  periodic hdefinition hperiodic heffects :=
    have hP := hereditary_everyRecord isTimeless rfl
    allLeaveTime_of_everyRecord
      (hP.field (hP.field (hP.orElse_empty (hP.fieldAt hbuffs hdefinition)) hperiodic) heffects)

/-- Moving to a node leaves the time alone, in worlds whose books do. -/
def Onward.LeavesTime (on : Onward) : Prop :=
  ∀ (w : World) (id : Value), w.book.KeepsTime →
    Play.Leads World.SameTime w (on.goto id) fun _ _ => True

namespace Play

open World

variable {w : World} {extra : Fields Value} {on : Onward}

theorem Leads.sameTime {α : Type} {m : Play α} {Q : α → World → Prop} (h : Leads Noting w m Q) :
    Leads SameTime w m fun _ _ => True :=
  h.mono (fun _ h => h.sameTime) fun _ _ _ _ => True.intro

theorem sync_sameTime (w : World) : Leads SameTime w sync fun _ _ => True :=
  (sync_leads w).mono (fun _ h => h.sameTime) fun _ _ _ _ => trivial

theorem addItem_sameTime (item count : Value) :
    Leads SameTime w (addItem item count) fun _ _ => True := by
  unfold addItem
  refine declaredFinite_leads fun _ _ => .state_bind ?_
  refine .lift_bind fun capacity _ => .lift_bind fun added _ => ?_
  have hset : Leads SameTime w (modifyState (·.withInventory added.2)) fun _ _ => True :=
    .modifyState ⟨rfl, rfl, rfl⟩ trivial
  refine hset.bind fun _ _ _ _ => ?_
  dsimp only
  split
  · exact (log_annotates _).annotates.sameTime.bind fun _ _ _ _ => .pure trivial
  · exact .pure trivial

theorem removeItem_sameTime (item count : Value) :
    Leads SameTime w (removeItem item count) fun _ _ => True := by
  unfold removeItem
  refine declaredFinite_leads fun _ _ => .state_bind ?_
  exact .lift_bind fun inventory _ => .modifyState ⟨rfl, rfl, rfl⟩ trivial

/-- No effect names the active buffs but those that add or remove one. -/
theorem partOf?_ne_buffs {kind : String} (h : kind ∉ timeKinds) (fields : Fields Value) :
    partOf? kind fields ≠ some .buffs := by
  simp only [timeKinds, List.mem_cons, List.not_mem_nil, or_false, not_or] at h
  unfold partOf?
  split <;> simp_all [Option.map_eq_some_iff]

theorem applyNamed_sameTime (hon : on.LeavesTime) (hbook : w.book.KeepsTime)
    {kind : String} (hkind : kind ∉ timeKinds) (fields : Fields Value) :
    Leads SameTime w (applyNamed on kind (.obj fields) extra) fun _ _ => True := by
  have hcount : ∀ {effect : Value}, Leads SameTime w (countOf effect extra) fun _ _ => True :=
    (countOf_idle _ extra).noting.sameTime
  by_cases hgoto : kind = "goto"
  · subst hgoto
    exact .lift_bind fun node _ => hon w node hbook
  by_cases hitem : kind ∈ countKinds
  · simp only [countKinds, List.mem_cons, List.not_mem_nil, or_false] at hitem
    rcases hitem with rfl | rfl
    · exact hcount.bind fun n _ _ _ => .lift_bind fun item _ =>
        (addItem_sameTime item (.num n)).bind fun _ _ _ _ => .pure trivial
    · exact hcount.bind fun n _ _ _ => .lift_bind fun item _ => removeItem_sameTime item (.num n)
  · have hdays : kind ≠ "advance_day" := fun h => hkind (h ▸ by decide)
    exact (applyNamed_touches on hgoto hdays fun h => absurd h hitem).mono
      (fun _ h => h.sameTime (partOf?_ne_buffs hkind fields)) fun _ _ _ h => h

/-- **An effect that neither lets days pass nor changes the active buffs leaves the time alone.** -/
theorem applyEffect_sameTime (hon : on.LeavesTime) (hbook : w.book.KeepsTime)
    {effect : Value} (heffect : effect.LeavesTime) :
    Leads SameTime w (applyEffect on effect extra) fun _ _ => True := by
  cases hof : effectOf? effect with
  | none =>
      rcases applyEffect_of_none on extra hof with h | ⟨text, h⟩
      · rw [h]
        exact .pure trivial
      · rw [h]
        exact (warn_noting text).sameTime
  | some e =>
      obtain ⟨kind, fields⟩ := e
      obtain ⟨rfl, h⟩ := applyEffect_of_some on extra hof
      rw [h]
      split
      · exact .pure trivial
      · exact applyNamed_sameTime hon hbook (heffect _ hof) fields

theorem applyEffects_sameTime (hon : on.LeavesTime) (hbook : w.book.KeepsTime)
    {effects : Value} (heffects : effects.AllLeaveTime) :
    Leads SameTime w (applyEffects on effects extra) fun _ _ => True := by
  unfold applyEffects
  refine .lift_bind fun l hl => .forM fun effect hmem w' hw => ?_
  exact applyEffect_sameTime hon (hw.book ▸ hbook) (heffects l hl effect hmem)

/-! ### Events, periodic effects and nodes -/

theorem applyWhen_sameTime (hon : on.LeavesTime) (hbook : w.book.KeepsTime)
    {entry : Value}
    (hentry : ∀ effects, entry.field "effects" = .ok effects → effects.AllLeaveTime) :
    Leads SameTime w (applyWhen on entry extra) fun _ _ => True := by
  unfold applyWhen
  refine .lift_bind fun conditions _ => ?_
  refine (checkConditions_idle conditions extra false).noting.sameTime.bind fun holds w' hw _ => ?_
  split
  · exact .lift_bind fun effects heffects =>
      applyEffects_sameTime hon (hw.book ▸ hbook) (hentry effects heffects)
  · exact .pure trivial

theorem runEvents_sameTime (hon : on.LeavesTime) (hbook : w.book.KeepsTime)
    (trigger : Value) : Leads SameTime w (runEvents on trigger extra) fun _ _ => True := by
  unfold runEvents
  refine .book_bind <| .lift_bind fun events hevents => .forM fun event hmem w' hw => ?_
  unfold runEvent
  refine .lift_bind fun t _ => ?_
  split
  · exact applyWhen_sameTime hon (hw.book ▸ hbook) fun effects => hbook.events hevents hmem
  · exact .pure trivial

theorem runPeriodic_sameTime (hon : on.LeavesTime) (hbook : w.book.KeepsTime)
    (every : Value) : Leads SameTime w (runPeriodic on every) fun _ _ => True := by
  unfold runPeriodic
  refine buffInstances_idle.noting.sameTime.bind fun instances w₁ h₁ _ => ?_
  refine .forM fun i _ w₂ h₂ => ?_
  have hbook₂ : w₂.book.KeepsTime := (h₁.trans h₂).book ▸ hbook
  unfold runPeriodicOf
  refine .book_bind <| .lift_bind fun definition hdefinition => ?_
  refine .lift_bind fun periodic hperiodic => ?_
  split
  · refine .lift_bind fun e _ => ?_
    split
    · exact applyWhen_sameTime hon hbook₂ fun effects =>
        hbook₂.periodic hdefinition hperiodic
    · exact .pure trivial
  · exact .pure trivial

theorem enterNode_sameTime (hon : on.LeavesTime) (hbook : w.book.KeepsTime) (id : Value) :
    Leads SameTime w (enterNode on id) fun _ _ => True := by
  unfold enterNode
  refine .book_bind <| .lift_bind fun declared _ => .ite_not (fun _ => .pure trivial) fun _ => ?_
  have hnode : Leads SameTime w (modifyState fun s => { s with node := id }) fun _ _ => True :=
    .modifyState ⟨rfl, rfl, rfl⟩ trivial
  refine hnode.bind fun _ w₁ h₁ _ => .lift_bind fun node hentry => ?_
  refine .lift_bind fun effects heffects => ?_
  have hbook₁ : w₁.book.KeepsTime := h₁.book ▸ hbook
  split
  · refine (applyEffects_sameTime hon hbook₁ (hbook.nodes hentry heffects)).bind
      fun _ w₂ h₂ _ => ?_
    exact runEvents_sameTime hon (h₂.book ▸ hbook₁) _
  · exact runEvents_sameTime hon hbook₁ _

/-- **Nodes leave the time alone**, at every depth. -/
theorem onward_sameTime (depth : Nat) : (onward depth).LeavesTime := by
  induction depth with
  | zero => exact fun _ _ _ => .throw
  | succ n ih => exact fun w id hbook => enterNode_sameTime ih hbook id

/-- Looking for an ending leaves the time alone. -/
theorem checkEndings_sameTime (hon : on.LeavesTime) (hbook : w.book.KeepsTime) :
    Leads SameTime w (checkEndings on) fun _ _ => True := by
  unfold checkEndings
  refine .book_bind <| .state_bind ?_
  refine (findEnding_idle _ _ _ fun c v => checkConditions_idle c [] false).noting.sameTime.bind
    fun found w₁ h₁ _ => ?_
  cases found with
  | none => exact .pure trivial
  | some ending =>
      refine .lift_bind fun node _ => .lift_bind fun id _ => ?_
      have hset : Leads SameTime w₁ (modifyState fun s =>
          { s with ending := (id.orElse node).orElse (.str "ending") }) fun _ _ => True :=
        .modifyState ⟨rfl, rfl, rfl⟩ trivial
      refine hset.bind fun _ w₂ h₂ _ => ?_
      split
      · exact (hon w₂ node ((h₁.trans h₂).book ▸ hbook)).bind fun _ w₃ _ _ => sync_sameTime w₃
      · exact .pure trivial

theorem afterAction_sameTime (hon : on.LeavesTime) (hbook : w.book.KeepsTime) :
    Leads SameTime w (afterAction on) fun _ _ => True :=
  (sync_sameTime w).bind fun _ _ h _ => checkEndings_sameTime hon (h.book ▸ hbook)

end Play

end Gamebook
