/-
**Games of a document.**

A game of a document starts with opening the document.  From then on the document may be opened
again or started anew, the player may act, single effects may be applied, nodes entered and events
run, and the game may go on from the record of a game of the same document.  Each of these may be
carried out, refused, or fail half-way, and whatever it leaves behind is where the game goes on.

What all states at the start have, what every change keeps and what going on from a record keeps is
therefore true throughout.

Main definitions:

* `Book.ofDocument` — the book that a document opens as;
* `GameOf` — the worlds in games of a document;
* `State.Begins`, `State.Resumes` — states at the start of a book, and states read from the record
  of a game;
* `Invariant` — what holds at the start and is kept.

Main results:

* `GameOf.exists_book` — a document of which there is a game opens as a book;
* `GameOf.holds` — **what holds at the start and is kept holds in every game**.
-/

import Gamebook.Proofs.Play.Course

set_option autoImplicit false

namespace Gamebook

open Play World Value

/-! ### Books -/

/-- The book that a document opens as. -/
def Book.ofDocument (document : Value) : Except Fault Book := do
  let document := document.orElse (.obj [])
  let story ← sectionOr document "story" (.obj [])
  let info ← sectionOr document "meta" (.obj [])
  let items ← sectionOr document "items" (.obj [])
  let buffs ← sectionOr document "buffs" (.obj [])
  let shops ← sectionOr document "shops" (.obj [])
  let nodes ← sectionOr story "nodes" (.obj [])
  let start ← story.field "start"
  let events ← sectionOr document "events" (.list [])
  let endings ← sectionOr document "endings" (.list [])
  return { document, info, items, buffs, shops, nodes, start, events, endings }

variable {document : Value} {book : Book} {v w w' : World} {s : State}

/-- A missing document opens as an empty one does. -/
theorem Book.ofDocument_orElse (document : Value) :
    ofDocument (document.orElse (.obj [])) = ofDocument document := by
  unfold ofDocument
  rw [orElse_orElse]

/-- A book knows the document it was opened from. -/
theorem Book.document_eq (h : ofDocument document = .ok book) :
    book.document = document.orElse (.obj []) := by
  unfold ofDocument at h
  obtain ⟨story, _, h⟩ := exists_of_bind_eq_ok h
  obtain ⟨info, _, h⟩ := exists_of_bind_eq_ok h
  obtain ⟨items, _, h⟩ := exists_of_bind_eq_ok h
  obtain ⟨buffs, _, h⟩ := exists_of_bind_eq_ok h
  obtain ⟨shops, _, h⟩ := exists_of_bind_eq_ok h
  obtain ⟨nodes, _, h⟩ := exists_of_bind_eq_ok h
  obtain ⟨start, _, h⟩ := exists_of_bind_eq_ok h
  obtain ⟨events, _, h⟩ := exists_of_bind_eq_ok h
  obtain ⟨endings, _, h⟩ := exists_of_bind_eq_ok h
  cases h
  rfl

namespace Play

/-- Opening a book puts the book of the document in place. -/
theorem runFrom_openBook (h : Book.ofDocument document = .ok book) (w : World) :
    (openBook document).runFrom w = (.ok (), { w with book }) := by
  unfold Book.ofDocument at h
  obtain ⟨story, hstory, h⟩ := exists_of_bind_eq_ok h
  obtain ⟨info, hinfo, h⟩ := exists_of_bind_eq_ok h
  obtain ⟨items, hitems, h⟩ := exists_of_bind_eq_ok h
  obtain ⟨buffs, hbuffs, h⟩ := exists_of_bind_eq_ok h
  obtain ⟨shops, hshops, h⟩ := exists_of_bind_eq_ok h
  obtain ⟨nodes, hnodes, h⟩ := exists_of_bind_eq_ok h
  obtain ⟨start, hstart, h⟩ := exists_of_bind_eq_ok h
  obtain ⟨events, hevents, h⟩ := exists_of_bind_eq_ok h
  obtain ⟨endings, hendings, h⟩ := exists_of_bind_eq_ok h
  cases h
  unfold openBook
  refine (runFrom_bind_ok (runFrom_modify _ w)).trans ?_
  refine (runFrom_bind_ok (runFrom_liftM_ok hstory _)).trans ?_
  refine (runFrom_bind_ok (runFrom_liftM_ok hinfo _)).trans ?_
  refine (runFrom_bind_ok (runFrom_liftM_ok hitems _)).trans ?_
  refine (runFrom_bind_ok (runFrom_liftM_ok hbuffs _)).trans ?_
  refine (runFrom_bind_ok (runFrom_liftM_ok hshops _)).trans ?_
  refine (runFrom_bind_ok (runFrom_modify _ _)).trans ?_
  refine (runFrom_bind_ok (runFrom_liftM_ok hnodes _)).trans ?_
  refine (runFrom_bind_ok (runFrom_liftM_ok hstart _)).trans ?_
  refine (runFrom_bind_ok (runFrom_liftM_ok hevents _)).trans ?_
  exact (runFrom_bind_ok (runFrom_liftM_ok hendings _)).trans (runFrom_modify _ _)

/-- What could be opened is a book. -/
theorem exists_book_of_openBook (h : (openBook document).runFrom w = (.ok (), w')) :
    ∃ book, Book.ofDocument document = .ok book := by
  have hopen : Leads (fun _ _ => True) w (openBook document) fun _ _ =>
      ∃ book, Book.ofDocument document = .ok book := by
    unfold openBook
    refine .modifyBook_bind ?_
    refine .lift_bind_of trivial fun story hstory => .lift_bind_of trivial fun info hinfo => ?_
    refine .lift_bind_of trivial fun items hitems => .lift_bind_of trivial fun buffs hbuffs => ?_
    refine .lift_bind_of trivial fun shops hshops => .modifyBook_bind ?_
    refine .lift_bind_of trivial fun nodes hnodes => .lift_bind_of trivial fun start hstart => ?_
    refine .lift_bind_of trivial fun events hevents => .lift_bind_of trivial fun endings hend => ?_
    refine .modify trivial ⟨⟨document.orElse (.obj []), info, items, buffs, shops, nodes, start,
      events, endings⟩, ?_⟩
    unfold Book.ofDocument
    simp only [hstory, hinfo, hitems, hbuffs, hshops, hnodes, hstart, hevents, hend, bind,
      Except.bind, pure, Except.pure]
  exact hopen.result_of_run h

end Play

/-- The sections of the book of a document inherit what the document has. -/
theorem Book.has_ofDocument {P : Value → Prop} (h : Book.ofDocument document = .ok book)
    (hP : Hereditary P) (hdocument : P document) : book.Has P := by
  have w : World := World.closed {} (.constant 1 (.int 0))
  exact (openBook_leads document).result_of_run (runFrom_openBook h w) P hP hdocument

/-! ### Games -/

/-- **The worlds in games of a document.** -/
inductive GameOf (document : Value) : World → Prop
  | start {settings : Settings} {chance : Chance} {w : World} :
      (load document).runFrom (World.closed settings chance) = (.ok (), w) → GameOf document w
  | load {w : World} : GameOf document w → GameOf document ((load document).runFrom w).2
  | reset {w : World} : GameOf document w → GameOf document (reset.runFrom w).2
  | act {w : World} {op : Operation} :
      op.IsAction → GameOf document w → GameOf document (op.run.runFrom w).2
  | effect {w : World} (effect : Value) (extra : Fields Value) :
      GameOf document w → GameOf document ((applyEffect onwards effect extra).runFrom w).2
  | goto {w : World} (node : Value) :
      GameOf document w → GameOf document ((enterNode onwards node).runFrom w).2
  | events {w : World} (trigger : Value) (extra : Fields Value) :
      GameOf document w → GameOf document ((runEvents onwards trigger extra).runFrom w).2
  | restore {v w : World} : GameOf document w → GameOf document v →
      GameOf document ((restore v.state.save.toValue).runFrom w).2

/-! ### States at the start and states read from a record -/

/-- Each declared item has the count it starts with, in the order of the declarations. -/
def Inventory.Begins (items : Fields Value) (inventory : Inventory) : Prop :=
  List.Forall₂ (fun item count => count.1 = item.1 ∧ startCount item.2 = .ok count.2) items
    inventory.counts

/-- The book of the world starts with the state. -/
structure State.Begins (w : World) (s : State) : Prop where
  resources : sectionOr w.book.document "resources" (.obj []) = .ok s.resources
  inventory : ∃ items, w.book.items.entries = .ok items ∧ s.inventory.Begins items
  buffs : s.buffs = .list []
  day : s.day = .int 1
  node : s.node = w.book.start
  ending : s.ending = .null
  journal : s.journal = ⟨w.settings.logLimit, []⟩

/-- In a world the state is read from the record of another world. -/
structure State.Resumes (v w : World) (s : State) : Prop where
  resources : s.resources = v.state.resources.orElse (.obj [])
  inventory : s.inventory = v.state.inventory
  buffs : s.buffs = v.state.buffs.orElse (.list [])
  day : s.day = v.state.day
  node : s.node = v.state.node
  ending : s.ending = v.state.ending
  journal : s.journal = Journal.ofValue v.state.journal.toValue w.settings.logLimit

/-- Looking leaves a state that the book starts with. -/
theorem State.Begins.idle (h : s.Begins w) (hidle : Idle w w') : s.Begins w' :=
  ⟨hidle.book_eq ▸ h.resources, hidle.book_eq ▸ h.inventory, h.buffs, h.day,
    hidle.book_eq ▸ h.node, h.ending, hidle.settings_eq ▸ h.journal⟩

namespace Play

theorem initialState_begins : Leads Idle w initialState fun s _ => s.Begins w := by
  unfold initialState
  refine .get_bind <| .lift_bind fun stats _ => (readStats_idle stats).bind fun _ w₁ _ _ => ?_
  refine .lift_bind fun resources hresources => .lift_bind fun items hitems => ?_
  refine (Leads.mapM (R := Idle) (P := fun item count : Key × Value =>
    count.1 = item.1 ∧ startCount item.2 = .ok count.2) fun item _ w₂ _ => ?_).bind
      fun counts w₂ _ hcounts => .pure ?_
  · exact .lift_bind fun count hcount => .pure ⟨rfl, hcount⟩
  · exact ⟨hresources, ⟨items, hitems, hcounts⟩, rfl, rfl, rfl, rfl, rfl⟩

/-- A book is opened by starting it with a state and syncing that. -/
theorem exists_begins_of_load (hbook : Book.ofDocument document = .ok book)
    (hload : (load document).runFrom w = (.ok (), w')) :
    ∃ (v : World) (s : State), v.book = book ∧ s.Begins v ∧
      sync.runFrom (v.withState s) = (.ok (), w') := by
  have hstart : (do let s ← initialState; modifyState fun _ => s; sync : Play Unit).runFrom
      { w with book } = (.ok (), w') :=
    (runFrom_bind_ok (f := fun _ => (do let s ← initialState; modifyState fun _ => s; sync))
      (runFrom_openBook hbook w)).symm.trans hload
  obtain ⟨s, v, hs, hsync⟩ := runFrom_bind_eq_ok hstart
  have hlooked := initialState_begins.world_of_run hs
  have hbegins := (initialState_begins.result_of_run hs).idle hlooked
  exact ⟨v, s, hlooked.book_eq, hbegins,
    (runFrom_bind_ok (runFrom_modifyState (fun _ => s) v)).symm.trans hsync⟩

end Play

/-! ### What holds throughout -/

/-- What holds of every state at the start, is kept by every change, and is kept when a game goes on
from the record of another one. -/
structure Invariant (book : Book) (I : World → Prop) : Prop where
  start {w : World} {s : State} : w.book = book → s.Begins w → I (w.withState s)
  change {w w' : World} : w.book = book → Change (fun _ => True) (fun _ => True) True w w' →
    I w → I w'
  resume {v w : World} {s : State} : w.book = book → v.book = book → I w → I v →
    s.Resumes v w → I (w.withState s)

namespace Invariant

variable {I : World → Prop}

/-- In the book, with the property. -/
def In (book : Book) (I : World → Prop) (w : World) : Prop := w.book = book ∧ I w

theorem changes (hI : Invariant book I) (h : Changes (fun _ => True) (fun _ => True) True w w')
    (hw : In book I w) : In book I w' :=
  h.preserves (I := In book I) (fun _ _ hc hv => ⟨hc.book_eq.trans hv.1, hI.change hv.1 hc hv.2⟩) hw

/-- What makes changes only keeps the property. -/
theorem of_leads {α : Type} {m : Play α} {Q : α → World → Prop} (hI : Invariant book I)
    (h : Leads (Changes (fun _ => True) (fun _ => True) True) w m Q) (hw : In book I w) :
    In book I (m.runFrom w).2 := hI.changes h.world hw

/-- When a book is in place and is started, the property comes about; a start that fails has only
looked. -/
theorem begin_leads (hI : Invariant book I) (hbook : w.book = book) :
    Leads (fun w w' => In book I w' ∨ Idle w w') w
      (do let s ← initialState; modifyState fun _ => s; sync : Play Unit)
      fun _ w' => In book I w' := by
  refine Leads.of_to (initialState_begins.bind_to (fun w₁ h₁ => .inr h₁) fun s w₁ h₁ hs => ?_)
  have hbook₁ : w₁.book = book := h₁.book_eq.trans hbook
  have hstarted : In book I (w₁.withState s) := ⟨hbook₁, hI.start hbook₁ (hs.idle h₁)⟩
  refine .modifyState_bind <|
    sync_changes.mono (R := Changes (fun _ => True) (fun _ => True) True) ?_ ?_
  · exact fun w₂ h₂ => .inl (hI.changes h₂ hstarted)
  · exact fun _ w₂ h₂ _ => hI.changes h₂ hstarted

/-- Opening the document again keeps the property, however it ends. -/
theorem load (hI : Invariant book I) (hbook : Book.ofDocument document = .ok book)
    (hw : In book I w) : In book I ((load document).runFrom w).2 := by
  have hrun : (Play.load document).runFrom w =
      (do let s ← initialState; modifyState fun _ => s; sync : Play Unit).runFrom w := by
    refine (runFrom_bind_ok (runFrom_openBook hbook w)).trans ?_
    rw [← hw.1]
  rw [hrun]
  rcases (hI.begin_leads hw.1).world with h | h
  · exact h
  · exact hI.changes h.changes hw

/-- Going on from the record of a game with the property keeps it, however it ends. -/
theorem restore (hI : Invariant book I) (hw : In book I w) (hv : In book I v) :
    In book I ((restore v.state.save.toValue).runFrom w).2 := by
  have hrestore : Leads (fun _ => In book I) w (Play.restore v.state.save.toValue)
      fun _ _ => True := by
    refine .get_bind <| .lift_bind_of hw fun saved hsaved => ?_
    rw [SavedGame.toValue_orElse, SavedGame.ofValue_toValue] at hsaved
    cases hsaved
    refine (readStats_idle _).bind_to (fun w₁ h₁ => hI.changes h₁.changes hw)
      fun stats w₁ h₁ _ => .modifyState_bind ?_
    have hbook₁ : w₁.book = book := h₁.book_eq.trans hw.1
    have hresumed : In book I (w₁.withState (State.ofSaved
        { baseStats := (Stat.allToValue v.state.baseStats).orElse (.obj [])
          resources := v.state.resources.orElse (.obj []), inventory := v.state.inventory
          buffs := v.state.buffs.orElse (.list [])
          flags := v.state.flags.detached.orElse (.obj []), day := v.state.day
          node := v.state.node, ending := v.state.ending
          journal := Journal.ofValue v.state.journal.toValue w.settings.logLimit } stats)) := by
      refine ⟨hbook₁, hI.resume hbook₁ hv.1 (hI.changes h₁.changes hw).2 hv.2 ?_⟩
      exact ⟨rfl, rfl, rfl, rfl, rfl, rfl, by rw [h₁.settings_eq]; rfl⟩
    exact sync_changes.mono (R := Changes (fun _ => True) (fun _ => True) True)
      (fun w₂ h₂ => hI.changes h₂ hresumed) fun _ _ _ h => h
  exact hrestore.world

end Invariant

/-- **What holds at the start and is kept holds in every game** of the document, and the game is
played in the book of the document. -/
theorem GameOf.holds {I : World → Prop} (hI : Invariant book I)
    (hbook : Book.ofDocument document = .ok book) (h : GameOf document w) :
    w.book = book ∧ I w := by
  have hP := Operation.admits_true
  have hhas := Operation.book_has_true
  induction h with
  | @start settings chance w hload =>
      have hrun := runFrom_bind_ok (f := fun _ => (do
        let s ← initialState; modifyState fun _ => s; sync : Play Unit))
        (runFrom_openBook hbook (World.closed settings chance))
      exact (hI.begin_leads rfl).result_of_run (hrun.symm.trans hload)
  | load _ ih => exact hI.load hbook ih
  | @reset w _ ih =>
      have hagain : Book.ofDocument w.book.document = .ok book := by
        rw [ih.1, Book.document_eq hbook, Book.ofDocument_orElse, hbook]
      have hreset : Play.reset.runFrom w = (Play.load w.book.document).runFrom w :=
        runFrom_bind_ok (runFrom_book w)
      rw [hreset]
      exact hI.load hagain ih
  | act hop _ ih =>
      exact hI.of_leads (Operation.act_changes hP hop (fun _ _ => trivial) (hhas _)) ih
  | effect effect extra _ ih =>
      exact hI.of_leads (applyEffect_changes (onwards_changes hP) trivial trivial (hhas _)) ih
  | goto node _ ih => exact hI.of_leads (enterNode_changes hP (onwards_changes hP) node (hhas _)) ih
  | events trigger extra _ ih =>
      exact hI.of_leads (runEvents_changes hP (onwards_changes hP) trigger trivial (hhas _)) ih
  | restore _ _ ih ih' => exact hI.restore ih ih'

/-- A game is played in the book of its document. -/
theorem GameOf.book_eq (hbook : Book.ofDocument document = .ok book) (h : GameOf document w) :
    w.book = book := by
  have hI : Invariant book fun _ => True :=
    ⟨fun _ _ => trivial, fun _ _ _ => trivial, fun _ _ _ _ _ => trivial⟩
  exact (h.holds hI hbook).1

/-- Every document of which there is a game opens as a book. -/
theorem GameOf.exists_book (h : GameOf document w) :
    ∃ book, Book.ofDocument document = .ok book := by
  induction h with
  | start hload =>
      obtain ⟨_, _, hopen, _⟩ := runFrom_bind_eq_ok hload
      exact exists_book_of_openBook hopen
  | _ => assumption

/-! ### Runs of actions -/

/-- What an action of the player leaves behind, however it ends.  A choice that is taken as such has
a property. -/
def World.Acts (P : Value → Prop) (w w' : World) : Prop :=
  ∃ op : Operation, op.IsAction ∧ (∀ choice, op = .choose choice → P choice) ∧
    w' = (op.run.runFrom w).2

/-- Actions of the player one after the other. -/
def World.Plays (P : Value → Prop) : World → World → Prop := Relation.ReflTransGen (Acts P)

/-- Actions make changes only. -/
theorem World.Plays.changes {P : Value → Prop} {E : Fields Value → Prop} (hP : Admits P E)
    (hbook : w.book.Has P) (h : Plays P w w') : Changes P E True w w' := by
  induction h with
  | refl => exact .refl
  | tail _ hlast ih =>
      obtain ⟨op, hop, hchoice, rfl⟩ := hlast
      exact .trans ih (Operation.act_changes hP hop hchoice (ih.book_eq ▸ hbook)).world

/-! ### A game -/

/-- A document with a choice: it gives a gem and a buff and leads to the gate, where there is
another gem.  Three gems are an ending, and so are two. -/
def questDocument : Value :=
  .obj
    [("resources", .obj [("capacity", .int 3)]),
      ("items", .obj [("gem", .obj [("start_count", .int 1)])]),
      ("buffs", .obj [("glow", .obj [])]),
      ("story", .obj
        [("start", .str "cave"),
          ("nodes", .obj
            [("cave", .obj [("choices", .list
                [.obj
                  [("effects", .list
                    [.obj [("type", .str "item_add"), ("item", .str "gem")],
                      .obj [("type", .str "buff_add"), ("buff", .str "glow")]]),
                    ("goto", .str "gate")]])]),
              ("gate", .obj [("choices", .list
                [.obj [("effects", .list
                  [.obj [("type", .str "item_add"), ("item", .str "gem")]])]])])])]),
      ("endings", .list
        [.obj [("id", .str "rich"), ("conditions", .list [.str "$item.gem > 2"])],
          .obj [("id", .str "home"), ("conditions", .list [.str "$item.gem > 1"])]])]

/-- The game of the document at its start. -/
def quest : World :=
  ((load questDocument).runFrom (World.closed {} (.constant 1 (.int 0)))).2

theorem load_quest :
    (load questDocument).runFrom (World.closed {} (.constant 1 (.int 0))) = (.ok (), quest) :=
  runFrom_eq (by decide +kernel)

theorem gameOf_quest : GameOf questDocument quest := .start load_quest

/-- The game after its choice was taken. -/
def questAtGate : World := ((Operation.chooseAt (.int 0)).run.runFrom quest).2

theorem gameOf_questAtGate : GameOf questDocument questAtGate := .act trivial gameOf_quest

end Gamebook
