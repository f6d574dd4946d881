/-
**What is in order in every game.**

Effects name items, buffs and nodes, and content may name what is not declared.  Everything that
writes to the state looks at the declarations first, so in every game of a document the current node
is declared, there is a count for each declared item and for nothing else, and the active buffs are
declared and have formulas.  The journal stays within its limit.

Main definitions:

* `Book.Carries` — active buffs that a book declares, with formulas;
* `World.InOrder` — worlds in which all this is so.

Main results:

* `World.Change.keepsOrder` — **every change keeps a world in order**;
* `GameOf.inOrder` — **every game is in order** when the node it starts at is declared.
-/

import Gamebook.Proofs.Inventory
import Gamebook.Proofs.Journal
import Gamebook.Proofs.Play.Game

set_option autoImplicit false

namespace Gamebook

open World Value

/-- The active buff is declared in the book and has a formula. -/
def Book.Carries (book : Book) (buff : Value) : Prop :=
  ∃ id formula, buff.field "id" = .ok id ∧ book.buffs.contains id = .ok true ∧
    buff.field "value_expr" = .ok formula ∧ formula.isNull = false

/-- The current node, the items and the active buffs are those that the book declares, and the
journal is within its limit. -/
structure World.InOrder (w : World) : Prop where
  node : w.book.nodes.contains w.state.node = .ok true
  items : ∃ items, w.book.items.entries = .ok items ∧
    w.state.inventory.counts.keys = items.keys
  buffs : ∃ active, w.state.buffs = .list active ∧ ∀ buff ∈ active, w.book.Carries buff
  journal : w.state.journal.Within w.settings.logLimit

variable {P : Value → Prop} {E : Fields Value → Prop} {ends : Prop} {v w w' : World}

namespace World

theorem InOrder.idle (hw : w.InOrder) (h : Idle w w') : w'.InOrder := by
  obtain ⟨failed, c, ws, rfl⟩ := h
  have hjournal : (w.state.journal.noteFailures w.settings.now failed).Within w.settings.logLimit :=
    Journal.noteFailures_of_add (fun _ text now h => h.add text now) hw.journal _ _
  exact ⟨hw.node, hw.items, hw.buffs, hjournal⟩

theorem InOrder.resynced (hw : w.InOrder) (h : Resynced w w') : w'.InOrder := by
  obtain ⟨base, stats, instances, totals, -, hidle⟩ := h
  have hview : ((w.withBaseStats base).withView stats instances totals).InOrder :=
    ⟨hw.node, hw.items, hw.buffs, hw.journal⟩
  exact hview.idle hidle

/-- What is declared is in the section. -/
theorem contains_of_declares {table id : Value} (h : Play.declares table id = .ok true) :
    table.contains id = .ok true := by
  unfold Play.declares at h
  split at h
  · exact h
  · cases h

/-- Another count of a declared item leaves a count for each declared item and for nothing else. -/
theorem InOrder.withCount (hw : w.InOrder) {item count : Value} {name : Key}
    (hdeclared : Play.declares w.book.items item = .ok true) (hname : item.asKey = .ok name) :
    (w.withState (w.state.withInventory ⟨w.state.inventory.counts.set name count⟩)).InOrder := by
  refine ⟨hw.node, ?_, hw.buffs, hw.journal⟩
  obtain ⟨items, hitems, hkeys⟩ := hw.items
  have hhas : items.has name = true :=
    has_of_contains hitems hname (contains_of_declares hdeclared)
  have hcounted : w.state.inventory.counts.has name = true := by
    rw [Fields.has, hkeys]
    exact hhas
  exact ⟨items, hitems, (Fields.keys_set_of_has hcounted count).trans hkeys⟩

/-- Other active buffs that the book carries leave the world in order. -/
theorem InOrder.withBuffs (hw : w.InOrder) {active : List Value}
    (hactive : ∀ buff ∈ active, w.book.Carries buff) :
    (w.withState { w.state with buffs := .list active }).InOrder :=
  ⟨hw.node, hw.items, ⟨active, rfl, hactive⟩, hw.journal⟩

theorem InOrder.carries (hw : w.InOrder) {active : List Value}
    (h : w.state.buffs.elements = .ok active) : ∀ buff ∈ active, w.book.Carries buff := by
  obtain ⟨active', hactive, hcarries⟩ := hw.buffs
  rw [hactive] at h
  cases h
  exact hcarries

/-- The buff that is added is declared, and its formula is at last one. -/
theorem carries_added {book : Book} {buff given declared duration : Value}
    (hdeclared : Play.declares book.buffs buff = .ok true) :
    book.Carries (.obj [("id", buff),
      ("value_expr", coalesce [given, declared, .str "1"]), ("duration_days", duration)]) := by
  refine ⟨buff, _, rfl, contains_of_declares hdeclared, rfl, ?_⟩
  rw [coalesce_cons]
  cases hgiven : given.isNull with
  | true => exact isNull_coalesce rfl
  | false => exact hgiven

/-- A day leaves the id and the formula of a buff as they are. -/
theorem carries_tickBuff {book : Book} {buff buff' : Value}
    (h : Play.tickBuff buff = .ok (some buff')) (hbuff : book.Carries buff) :
    book.Carries buff' := by
  obtain ⟨id, formula, hid, hdeclared, hformula, hnull⟩ := hbuff
  refine ⟨id, formula, ?_, hdeclared, ?_, hnull⟩
  · rw [Play.field_tickBuff h (by decide)]
    exact hid
  · rw [Play.field_tickBuff h (by decide)]
    exact hformula

/-- **Every change keeps a world in order.** -/
theorem Change.keepsOrder (h : Change P E ends w w') (hw : w.InOrder) : w'.InOrder := by
  cases h with
  | idle h => exact hw.idle h
  | sync => exact hw.resynced (Play.sync_leads w).world
  | log text => exact ⟨hw.node, hw.items, hw.buffs, hw.journal.add _ _⟩
  -- an item is written only when it is declared
  | addItem _ _ _ hdeclared _ _ hadd =>
      rcases Inventory.add_cases hadd with rfl | ⟨name, n, hname, -, -, rfl⟩
      · exact ⟨hw.node, hw.items, hw.buffs, hw.journal⟩
      · exact hw.withCount hdeclared hname
  | removeItem _ hdeclared _ hremove =>
      rcases Inventory.remove_cases hremove with rfl | ⟨name, n, hname, -, rfl⟩
      · exact ⟨hw.node, hw.items, hw.buffs, hw.journal⟩
      · exact hw.withCount hdeclared hname
  -- a buff is added only when it is declared, and those that stay are as they were
  | addBuff _ _ hdeclared _ _ _ _ hchosen _ hactive =>
      subst hchosen
      refine hw.withBuffs fun buff hbuff => ?_
      rcases List.mem_append.1 hbuff with hbuff | hbuff
      · exact hw.carries (congrArg elements hactive) buff hbuff
      · obtain rfl := List.mem_singleton.1 hbuff
        exact carries_added hdeclared
  | removeBuff _ _ hactive hrest =>
      refine hw.withBuffs fun buff hbuff => ?_
      obtain ⟨before, hbefore, hunless⟩ := exists_of_mem_filterMapM hrest hbuff
      rw [Play.eq_of_unlessId hunless]
      exact hw.carries hactive before hbefore
  | tick hactive hrest =>
      refine hw.withBuffs fun buff hbuff => ?_
      obtain ⟨before, hbefore, htick⟩ := exists_of_mem_filterMapM hrest hbuff
      exact carries_tickBuff htick (hw.carries hactive before hbefore)
  -- a node is entered only when it is declared
  | node hdeclared =>
      exact ⟨contains_of_declares hdeclared, hw.items, hw.buffs, hw.journal⟩
  | _ => exact ⟨hw.node, hw.items, hw.buffs, hw.journal⟩

/-- A book whose start is declared starts in order. -/
theorem inOrder_begins {s : State} (hstart : w.book.nodes.contains w.book.start = .ok true)
    (hs : s.Begins w) : (w.withState s).InOrder := by
  obtain ⟨items, hitems, hbegins⟩ := hs.inventory
  have hkeys : s.inventory.counts.keys = items.keys :=
    Fields.keys_eq_of_forall₂ (hbegins.imp fun _ _ h => h.1)
  refine ⟨?_, ⟨items, hitems, hkeys⟩, ⟨[], hs.buffs, by simp⟩, ?_⟩
  · change w.book.nodes.contains s.node = .ok true
    rw [hs.node]
    exact hstart
  · change s.journal.Within w.settings.logLimit
    rw [hs.journal]
    exact Journal.within_nil _

/-- Going on from the record of a world in order in the same book gives one. -/
theorem inOrder_resumes {s : State} (hbook : w.book = v.book) (hv : v.InOrder)
    (hs : s.Resumes v w) : (w.withState s).InOrder := by
  obtain ⟨active, hactive, hcarries⟩ := hv.buffs
  refine ⟨?_, ?_, ⟨active, ?_, ?_⟩, ?_⟩
  · change w.book.nodes.contains s.node = .ok true
    rw [hbook, hs.node]
    exact hv.node
  · change ∃ items, w.book.items.entries = .ok items ∧ s.inventory.counts.keys = items.keys
    rw [hbook, hs.inventory]
    exact hv.items
  · change s.buffs = .list active
    rw [hs.buffs, hactive]
    cases active <;> rfl
  · change ∀ buff ∈ active, w.book.Carries buff
    rw [hbook]
    exact hcarries
  · change s.journal.Within w.settings.logLimit
    rw [hs.journal]
    exact Journal.within_ofValue _ _

/-- Being in order holds throughout the games of a book whose start is declared. -/
theorem invariant_inOrder {book : Book} (hstart : book.nodes.contains book.start = .ok true) :
    Invariant book InOrder where
  start hbook hs := by
    subst hbook
    exact inOrder_begins hstart hs
  change _ h hw := h.keepsOrder hw
  resume hbook hbook' _ hv hs := inOrder_resumes (hbook.trans hbook'.symm) hv hs

end World

/-- **Every game is in order** when the node it starts at is declared. -/
theorem GameOf.inOrder {document : Value} {book : Book} (h : GameOf document w)
    (hbook : Book.ofDocument document = .ok book)
    (hstart : book.nodes.contains book.start = .ok true) (hlimit : 0 ≤ w.settings.logLimit) :
    book.nodes.contains w.state.node = .ok true ∧
      (∃ items, book.items.entries = .ok items ∧ w.state.inventory.counts.keys = items.keys) ∧
      (∃ active, w.state.buffs = .list active ∧ ∀ buff ∈ active, book.Carries buff) ∧
      (w.state.journal.entries.length : Int) ≤ w.settings.logLimit ∧
      ∀ entry ∈ w.state.journal.entries, entry.text ≠ "" := by
  obtain ⟨rfl, horder⟩ := h.holds (invariant_inOrder hstart) hbook
  exact ⟨horder.node, horder.items, horder.buffs, horder.journal.length_le hlimit,
    horder.journal.texts⟩

/-- At the gate there are gems and a buff, as the document declares them. -/
theorem inOrder_questAtGate :
    (GameOf questDocument questAtGate ∧ 0 ≤ questAtGate.settings.logLimit ∧
      questAtGate.state.node.eqv (.str "gate") = true) ∧
    ∃ book, Book.ofDocument questDocument = .ok book ∧
      book.nodes.contains book.start = .ok true ∧
      book.nodes.contains questAtGate.state.node = .ok true ∧
      (∃ items, book.items.entries = .ok items ∧
        questAtGate.state.inventory.counts.keys = items.keys) ∧
      (∃ active, questAtGate.state.buffs = .list active ∧ ∀ buff ∈ active, book.Carries buff) ∧
      (questAtGate.state.journal.entries.length : Int) ≤ questAtGate.settings.logLimit ∧
      ∀ entry ∈ questAtGate.state.journal.entries, entry.text ≠ "" := by
  have hgame : GameOf questDocument questAtGate := gameOf_questAtGate
  have hlimit : 0 ≤ questAtGate.settings.logLimit := by decide +kernel
  exact ⟨⟨hgame, hlimit, by decide +kernel⟩, _, rfl, rfl, hgame.inOrder rfl rfl hlimit⟩

end Gamebook
