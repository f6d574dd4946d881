/-
**Opening a book and going on from a saved record.**

Both put a state into place and sync it.  What goes wrong on the way to that state leaves the state
as it was; only the book may have been exchanged in part.

Main definitions:

* `Value.HasIntegerStats` — documents whose stats have integers for values.

Main results:

* `Play.openBook_leads` — the sections of an opened book inherit what the document has;
* `Play.load_leads`, `Play.restore_leads` — **both end with a sync** of a state that was read.
-/

import Gamebook.Play.Setup
import Gamebook.Proofs.Play.View

set_option autoImplicit false

namespace Gamebook

/-- Every stat that the document declares is a record with integers for its two values. -/
def Value.HasIntegerStats (document : Value) : Prop :=
  ∀ stats fields, document.field "stats" = .ok stats → stats.fields? = some fields →
    ∀ f ∈ fields, ∃ s : Stat, f.2 = .obj s ∧ s.IsInteger

/-! ### Reading stats -/

namespace Stat

theorem get?_of_cur {s : Stat} {v : Value} (h : s.cur = .ok v) : Fields.get? s "cur" = some v := by
  unfold cur Value.required Value.fields? at h
  dsimp only at h
  split at h
  · cases h
    assumption
  · cases h

theorem get?_of_max {s : Stat} {v : Value} (h : s.max = .ok v) : Fields.get? s "max" = some v := by
  unfold max Value.required Value.fields? at h
  dsimp only at h
  split at h
  · cases h
    assumption
  · cases h

/-- Filling in keeps the values of a stat that has numbers for them. -/
theorem normalize_values {s : Stat} {c m : Number} (hc : s.cur = .ok (.num c))
    (hm : s.max = .ok (.num m)) :
    s.normalize.cur = .ok (.num c) ∧ s.normalize.max = .ok (.num m) := by
  have hc' := get?_of_cur hc
  have hm' := get?_of_max hm
  simp [normalize, hc', hm', Value.ofOption, Value.coalesce_cons, Value.isNull]

theorem IsProper.normalize {s : Stat} (h : s.IsProper) : s.normalize.IsProper := by
  obtain ⟨c, m, hc, hm, hcc, hmc⟩ := h
  obtain ⟨hc', hm'⟩ := normalize_values hc hm
  exact ⟨c, m, hc', hm', hcc, hmc⟩

/-- The stats read from an object of proper ones are proper. -/
theorem allProper_readAll {v : Value} {stats : Fields Stat} {malformed : List Key}
    (hv : ∀ fields, (v.orElse (.obj [])).fields? = some fields →
      ∀ f ∈ fields, ∀ s : Stat, f.2 = .obj s → s.IsProper)
    (h : readAll v = .ok (stats, malformed)) : AllProper stats := by
  unfold readAll Value.entries at h
  cases hf : (v.orElse (.obj [])).fields? with
  | none => simp [hf, bind, Except.bind] at h
  | some fields =>
      simp only [hf, bind, Except.bind, pure, Except.pure, Except.ok.injEq, Prod.mk.injEq] at h
      obtain ⟨rfl, -⟩ := h
      intro g hg
      obtain ⟨⟨id, w⟩, hmem, hw⟩ := List.mem_filterMap.1 hg
      dsimp only at hw
      split at hw
      · cases hw
        exact (hv fields hf _ hmem _ rfl).normalize
      · cases hw

end Stat

namespace Play

open World Value

variable {w : World}

theorem readStats_idle (v : Value) :
    Leads Idle w (readStats v) fun stats _ =>
      ∃ malformed, Stat.readAll v = .ok (stats, malformed) := by
  unfold readStats
  refine .lift_bind fun read hread => ?_
  obtain ⟨stats, malformed⟩ := read
  refine (Leads.forM fun id _ w' _ => ?_).bind fun _ _ _ _ => .pure ⟨malformed, hread⟩
  exact .modify (Idle.warn w' _) True.intro

/-! ### Books -/

theorem Leads.modifyBook_bind {α : Type} {g : Book → Book} {f : Unit → Play α} {S : World → Prop}
    {Q : α → World → Prop} (h : Leads (fun _ => S) { w with book := g w.book } (f ()) Q) :
    Leads (fun _ => S) w (modifyBook g >>= f) Q := by
  have heq : (modifyBook g >>= f).runFrom w = (f ()).runFrom { w with book := g w.book } :=
    runFrom_bind_ok (runFrom_modify _ w)
  exact .of_runFrom heq h.world h.result

theorem sectionOr_part {P : Value → Prop} (hP : Hereditary P) {document part default : Value}
    {name : String} (hdocument : P document) (hdefault : P default)
    (h : sectionOr document name default = .ok part) : P part := by
  unfold sectionOr at h
  cases hf : document.field name with
  | error e => simp [hf, bind, Except.bind] at h
  | ok v =>
      simp only [hf, bind, Except.bind, pure, Except.pure, Except.ok.injEq] at h
      subst h
      exact Hereditary.orElse (hP.field hdocument hf) hdefault

/-- Opening a book changes the book only, and first of all its document; the sections inherit what
the document has. -/
theorem openBook_leads (document : Value) :
    Leads (fun _ w' => ∃ b : Book, w' = { w with book := b } ∧
        b.document = document.orElse (.obj [])) w (openBook document)
      fun _ w' => ∀ P, Hereditary P → P document → w'.book.Has P := by
  unfold openBook
  refine .modifyBook_bind ?_
  have h₁ : ∃ b : Book, ({ w with book := { w.book with document := document.orElse (.obj []) } } :
      World) = { w with book := b } ∧ b.document = document.orElse (.obj []) := ⟨_, rfl, rfl⟩
  refine .lift_bind_of h₁ fun story hstory => .lift_bind_of h₁ fun info hinfo => ?_
  refine .lift_bind_of h₁ fun items hitems => .lift_bind_of h₁ fun buffs hbuffs => ?_
  refine .lift_bind_of h₁ fun shops hshops => .modifyBook_bind ?_
  have h₂ : ∃ b : Book, ({ w with book := { w.book with
      document := document.orElse (.obj []), info, items, buffs, shops } } : World) =
      { w with book := b } ∧ b.document = document.orElse (.obj []) := ⟨_, rfl, rfl⟩
  refine .lift_bind_of h₂ fun nodes hnodes => .lift_bind_of h₂ fun start _ => ?_
  refine .lift_bind_of h₂ fun events hevents => .lift_bind_of h₂ fun endings hendings => ?_
  refine .of_runFrom (runFrom_modify _ _) ⟨_, rfl, rfl⟩ fun _ _ P hP hdocument => ?_
  have hd : P (document.orElse (.obj [])) := hP.orElse_empty hdocument
  have hs : P story := sectionOr_part hP hd hP.empty hstory
  exact ⟨sectionOr_part hP hd hP.empty hitems, sectionOr_part hP hd hP.empty hbuffs,
    sectionOr_part hP hd hP.empty hshops, sectionOr_part hP hs hP.empty hnodes,
    sectionOr_part hP hd hP.none hevents, sectionOr_part hP hd hP.none hendings⟩

/-! ### States at the start -/

/-- The state is one that the book of the world starts with. -/
def IsInitial (w : World) (s : State) : Prop :=
  ∃ (v : Value) (stats : Fields Stat) (malformed : List Key) (resources : Value)
    (counts : Fields Value), w.book.document.field "stats" = .ok v ∧
    Stat.readAll v = .ok (stats, malformed) ∧
    s = { baseStats := stats, resources := resources.orElse (.obj []), inventory := ⟨counts⟩
          node := w.book.start, journal := ⟨w.settings.logLimit, []⟩ }

theorem initialState_idle : Leads Idle w initialState fun s _ => IsInitial w s := by
  unfold initialState
  refine .get_bind <| .lift_bind fun v hv => (readStats_idle v).bind fun stats w₁ _ hstats => ?_
  obtain ⟨malformed, hstats⟩ := hstats
  refine .lift_bind fun resources hresources => .lift_bind fun items _ => ?_
  refine (Leads.mapM (R := Idle) (P := fun _ _ => True) fun item _ w₂ _ => ?_).bind
    fun counts w₂ _ _ => .pure ?_
  · exact .lift_bind fun count _ => .pure True.intro
  · unfold sectionOr at hresources
    cases hr : w.book.document.field "resources" with
    | error e => simp [hr, bind, Except.bind] at hresources
    | ok r =>
        simp only [hr, bind, Except.bind, pure, Except.pure, Except.ok.injEq] at hresources
        exact ⟨v, stats, malformed, r, counts, hv, hstats, by rw [← hresources]⟩

theorem IsInitial.allProper {s : State} (h : IsInitial w s)
    (hdocument : w.book.document.HasIntegerStats) : Stat.AllProper s.baseStats := by
  obtain ⟨v, stats, malformed, _, _, hv, hread, rfl⟩ := h
  refine Stat.allProper_readAll (fun fields hfields f hf s hs => ?_) hread
  rcases v.orElse_eq (.obj []) with h | h
  · rw [h] at hfields
    obtain ⟨s', hs', hint⟩ := hdocument v fields hv hfields f hf
    rw [hs] at hs'
    cases hs'
    exact hint.isProper
  · rw [h] at hfields
    cases hfields
    cases hf

theorem hasIntegerStats_orElse {document : Value} (h : document.HasIntegerStats) :
    (document.orElse (.obj [])).HasIntegerStats := by
  rcases document.orElse_eq (.obj []) with h' | h'
  · rw [h']
    exact h
  · rw [h']
    intro stats fields hstats hfields
    cases hstats
    cases hfields

/-- **Opening a book ends with a sync** of a state that the book starts with.  When it ends early
the state is either as it was or such a state. -/
theorem load_leads (document : Value) (hdocument : document.HasIntegerStats)
    (hw : Stat.AllProper w.state.baseStats) :
    Leads (fun _ w' => w'.book.document = document.orElse (.obj []) ∧
        Stat.AllProper w'.state.baseStats) w (load document)
      fun _ w' => ∃ w₁, Stat.AllProper w₁.state.baseStats ∧ sync.runFrom w₁ = (.ok (), w') := by
  unfold load
  refine (openBook_leads document).bind_to (fun w₁ h₁ => ?_) fun _ w₁ h₁ _ => ?_
  · obtain ⟨b, rfl, hb⟩ := h₁
    exact ⟨hb, hw⟩
  obtain ⟨b, rfl, hb⟩ := h₁
  refine initialState_idle.bind_to (fun w₂ h₂ => ?_) fun s w₂ h₂ hinitial => .modifyState_bind ?_
  · rw [h₂.book_eq, h₂.state_eq]
    exact ⟨hb, hw⟩
  have hs : Stat.AllProper s.baseStats :=
    hinitial.allProper (hb ▸ hasIntegerStats_orElse hdocument)
  refine sync_changes.with_run.mono (R := Changes (fun _ => True) (fun _ => True) True)
    (fun w₃ h₃ => ?_)
    fun _ w₃ _ h => ⟨_, hs, h.1⟩
  exact ⟨by rw [h₃.book_eq]; exact h₂.book_eq ▸ hb, h₃.allProper hs⟩

/-- **Going on from a saved record ends with a sync** of the state in the record. -/
theorem restore_leads (record : Value) (hw : Stat.AllProper w.state.baseStats)
    (hrecord : ∀ saved stats malformed,
      SavedGame.ofValue w.settings.digitLimit (record.orElse (.obj [])) w.settings.logLimit =
          .ok saved →
        Stat.readAll saved.baseStats = .ok (stats, malformed) → Stat.AllProper stats) :
    Leads (fun w w' => w'.book = w.book ∧ Stat.AllProper w'.state.baseStats) w (restore record)
      fun _ w' => ∃ w₁, Stat.AllProper w₁.state.baseStats ∧ sync.runFrom w₁ = (.ok (), w') := by
  refine .of_to ?_
  unfold restore
  refine .get_bind <| .lift_bind_of ⟨rfl, hw⟩ fun saved hsaved => ?_
  refine (readStats_idle saved.baseStats).bind_to (fun w₁ h₁ => ?_)
    fun stats w₁ h₁ hstats => .modifyState_bind ?_
  · rw [h₁.book_eq, h₁.state_eq]
    exact ⟨rfl, hw⟩
  obtain ⟨malformed, hstats⟩ := hstats
  have hs : Stat.AllProper stats := hrecord saved stats malformed hsaved hstats
  refine sync_changes.with_run.mono (R := Changes (fun _ => True) (fun _ => True) True)
    (fun w₂ h₂ => ?_)
    fun _ w₂ _ h => ⟨_, hs, h.1⟩
  exact ⟨h₂.book_eq.trans h₁.book_eq, h₂.allProper hs⟩

end Play

end Gamebook
