/-
**Games of documents of the expected shape.**

A document of the expected shape has numbers for the values of its stats, for its capacity and for
the counts that its items start with, an object of items and one of buffs whose declarations are
records.  The game that it opens has the expected shape, nothing that play does changes that, and
going on from the record of such a game keeps it.

Main definition: `Book.IsShaped` — books of the expected shape.

Main result: `GameOf.isShaped` — **all games of such a book have the expected shape**.
-/

import Gamebook.Proofs.Play.Game
import Gamebook.Proofs.Play.Shape
import Gamebook.Proofs.Formula.Faults

set_option autoImplicit false

namespace Gamebook

open Play World Value

variable {document : Value} {book : Book} {v w w' : World} {s : State}

/-! ### Stats that are read -/

namespace Stat

/-- Filling in keeps the values of a stat that has numbers for them. -/
theorem HasNumbers.normalize {s : Stat} (h : s.HasNumbers) : s.normalize.HasNumbers := by
  obtain ⟨⟨c, hc, hcn⟩, ⟨m, hm, hmn⟩⟩ := h
  have hnotNull : ∀ {v : Value}, v.IsNumber → v.isNull = false := fun {v} hv => by
    cases v with
    | null => cases hv
    | _ => rfl
  have hcur : Value.coalesce [ofOption (Fields.get? s "cur"), ofOption (Fields.get? s "max"),
      .int 0] = c := by
    rw [get?_of_cur hc, coalesce_cons, ofOption, hnotNull hcn]
    rfl
  have hmax : Value.coalesce [ofOption (Fields.get? s "max"), c] = m := by
    rw [get?_of_max hm, coalesce_cons, ofOption, hnotNull hmn]
    rfl
  unfold Stat.normalize
  dsimp only
  rw [hcur, hmax]
  exact ⟨⟨c, by simp, hcn⟩, ⟨m, by simp, hmn⟩⟩

/-- Stats that are written as an object are read back, each of them filled in. -/
theorem hasNumbers_readAll {stats read : Fields Stat} {malformed : List Key}
    (hstats : ∀ f ∈ stats, f.2.HasNumbers)
    (h : readAll ((allToValue stats).orElse (.obj [])) = .ok (read, malformed)) :
    ∀ f ∈ read, f.2.HasNumbers := by
  have hread : read = stats.map fun f => (f.1, f.2.normalize) := by
    cases stats with
    | nil =>
        cases h
        rfl
    | cons f stats =>
        simp only [readAll, allToValue, orElse, holds, List.map_cons, List.isEmpty_cons,
          Bool.not_false, if_true, entries, fields?, bind, Except.bind, pure, Except.pure,
          Except.ok.injEq, Prod.mk.injEq] at h
        rw [← h.1]
        simp [List.filterMap_map]
  rw [hread]
  intro g hg
  obtain ⟨f, hf, rfl⟩ := List.mem_map.1 hg
  exact (hstats f hf).normalize

end Stat

/-! ### Books -/

/-- The parts of the book that a game starts from, and those that play looks things up in, have the
expected kinds. -/
structure Book.IsShaped (book : Book) : Prop where
  stats : GivesOnly (fun read => ∀ f ∈ read.1, f.2.HasNumbers)
    (book.document.field "stats" >>= Stat.readAll)
  resources : GivesOnly IsResources (sectionOr book.document "resources" (.obj []))
  items : ∃ items, book.items = .obj items ∧
    ∀ f ∈ items, GivesOnly Value.IsNumber (startCount f.2)
  buffs : ∃ buffs, book.buffs = .obj buffs ∧ ∀ f ∈ buffs, (f.2.orElse (.obj [])).IsRecord

namespace Play

/-- The state that a book of the expected shape starts with gives a world of that shape. -/
theorem isShaped_of_begins (hbook : w.book.IsShaped) (hinitial : IsInitial w s)
    (hbegins : s.Begins w) : (w.withState s).IsShaped := by
  obtain ⟨items, hitems, hcounts⟩ := hbook.items
  obtain ⟨items', hitems', hinventory⟩ := hbegins.inventory
  rw [hitems] at hitems'
  cases hitems'
  obtain ⟨u, stats, malformed, _, _, hu, hread, hs⟩ := hinitial
  refine ⟨?_, hbook.resources _ hbegins.resources, fun g hg => ?_, ⟨[], hbegins.buffs, nofun⟩,
    ⟨[], ?_⟩, ⟨items, hitems⟩, hbook.buffs⟩
  · have hstats : (w.withState s).state.baseStats = stats := by rw [hs]; rfl
    rw [hstats]
    exact hbook.stats (stats, malformed) (by rw [hu]; exact hread)
  · obtain ⟨f, hf, -, hcount⟩ := exists_mem_of_forall₂ hinventory hg
    exact hcounts f hf _ hcount
  · rw [hs]
    rfl

/-- A book of the expected shape starts with a world of that shape; a start that fails has only
looked. -/
theorem begin_isShaped (hbook : w.book.IsShaped) :
    Leads (fun w w' => w'.IsShaped ∨ Idle w w') w
      (do let s ← initialState; modifyState fun _ => s; sync : Play Unit)
      fun _ w' => w'.IsShaped := by
  refine Leads.of_to (initialState_begins.with_run.bind_to (fun w₁ h₁ => .inr h₁)
    fun s w₁ h₁ hs => .modifyState_bind ?_)
  obtain ⟨hrun, hbegins⟩ := hs
  have hinitial : IsInitial w s := initialState_idle.result_of_run hrun
  have hstarted : (w₁.withState s).IsShaped := by
    obtain ⟨hstats, hresources, hcounts, hbuffs, hflags, hitems, hdeclared⟩ :=
      isShaped_of_begins hbook hinitial hbegins
    exact ⟨hstats, hresources, hcounts, hbuffs, hflags, h₁.book_eq ▸ hitems,
      h₁.book_eq ▸ hdeclared⟩
  exact sync_changes.mono (R := Changes (fun _ => True) (fun _ => True) True)
    (fun w₂ h₂ => .inl (h₂.isShaped hstarted)) fun _ w₂ h₂ _ => h₂.isShaped hstarted

/-- Opening the document again keeps the shape, however it ends. -/
theorem load_isShaped (hdocument : Book.ofDocument document = .ok w.book)
    (hbook : w.book.IsShaped) (hw : w.IsShaped) : ((load document).runFrom w).2.IsShaped := by
  have hrun : (load document).runFrom w =
      (do let s ← initialState; modifyState fun _ => s; sync : Play Unit).runFrom w :=
    runFrom_bind_ok (runFrom_openBook hdocument w)
  rw [hrun]
  rcases (begin_isShaped hbook).world with h | h
  · exact h
  · exact h.isShaped hw

/-- The state read from the record of a game of the expected shape gives a world of that shape. -/
theorem restore_isShaped (hw : w.IsShaped) (hv : v.IsShaped) :
    ((restore v.state.save.toValue).runFrom w).2.IsShaped := by
  have hrestore : Leads (fun _ => World.IsShaped) w (restore v.state.save.toValue)
      fun _ _ => True := by
    refine .get_bind <| .lift_bind_of hw fun saved hsaved => ?_
    rw [SavedGame.toValue_orElse, SavedGame.ofValue_toValue] at hsaved
    cases hsaved
    refine (readStats_idle _).bind_to (fun w₁ h₁ => h₁.isShaped hw)
      fun stats w₁ h₁ hstats => .modifyState_bind ?_
    obtain ⟨malformed, hstats⟩ := hstats
    have hw₁ : w₁.IsShaped := h₁.isShaped hw
    obtain ⟨resources, hresources, hcapacity⟩ := hv.resources
    obtain ⟨active, hactive, hrecords⟩ := hv.buffs
    obtain ⟨flags, hflags⟩ := hv.flags
    refine Leads.mono (R := Changes (fun _ => True) (fun _ => True) True) sync_changes
      (fun w₂ h₂ => h₂.isShaped ⟨?_, ?_, hv.counts, ?_, ?_, hw₁.items, hw₁.declaredBuffs⟩)
      fun _ _ _ h => h
    · exact Stat.hasNumbers_readAll hv.stats hstats
    · change IsResources (v.state.resources.orElse (.obj []))
      rcases orElse_eq v.state.resources (.obj []) with h | h <;> rw [h]
      · exact hv.resources
      · exact ⟨[], rfl, rfl⟩
    · change ∃ active, v.state.buffs.orElse (.list []) = .list active ∧ _
      rcases orElse_eq v.state.buffs (.list []) with h | h <;> rw [h]
      · exact hv.buffs
      · exact ⟨[], rfl, nofun⟩
    · change (v.state.flags.detached.orElse (.obj [])).IsRecord
      rcases orElse_eq v.state.flags.detached (.obj []) with h | h <;> rw [h]
      · rw [hflags]
        exact ⟨_, rfl⟩
      · exact ⟨[], rfl⟩
  exact hrestore.world

end Play

/-! ### Games -/

/-- **All games of a book of the expected shape have that shape**, whatever their operations did and
however they ended. -/
theorem GameOf.isShaped (hbook : Book.ofDocument document = .ok book) (hshape : book.IsShaped)
    (h : GameOf document w) : w.IsShaped := by
  have hP := Operation.admits_true
  have hhas := Operation.book_has_true
  induction h with
  | @start settings chance w hload =>
      have hrun := runFrom_bind_ok (f := fun _ => (do
        let s ← initialState; modifyState fun _ => s; sync : Play Unit))
        (runFrom_openBook hbook (World.closed settings chance))
      exact (begin_isShaped hshape).result_of_run (hrun.symm.trans hload)
  | load hw ih =>
      have hw := hw.book_eq hbook
      exact load_isShaped (hw ▸ hbook) (hw ▸ hshape) ih
  | @reset w hw ih =>
      have hw := hw.book_eq hbook
      have hagain : Book.ofDocument w.book.document = .ok w.book := by
        rw [hw, Book.document_eq hbook, Book.ofDocument_orElse, hbook]
      have hreset : Play.reset.runFrom w = (Play.load w.book.document).runFrom w :=
        runFrom_bind_ok (runFrom_book w)
      rw [hreset]
      exact load_isShaped hagain (hw ▸ hshape) ih
  | act hop _ ih =>
      exact isShaped_of_leads (Operation.act_changes hP hop (fun _ _ => trivial) (hhas _)) ih
  | effect effect extra _ ih =>
      exact isShaped_of_leads (applyEffect_changes (onwards_changes hP) trivial trivial (hhas _)) ih
  | goto node _ ih =>
      exact isShaped_of_leads (enterNode_changes hP (onwards_changes hP) node (hhas _)) ih
  | events trigger extra _ ih =>
      exact isShaped_of_leads
        (runEvents_changes hP (onwards_changes hP) trigger trivial (hhas _)) ih
  | restore _ _ ih ih' => exact restore_isShaped ih ih'

end Gamebook
