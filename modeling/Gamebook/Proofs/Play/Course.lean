/-
**Courses of a game.**

A game takes its course from a world in which no book is open by operations: opening a book,
starting it anew, going on from a saved record, and the actions of the player.  An operation may be
carried out, it may be refused, and it may fail half-way.  What a failure leaves behind can be out
of step until the next operation that is carried out, and so can what refused operations look at in
between; apart from that the view is always in step.

Main definitions:

* `Operation`, `Operation.run` — the operations;
* `Course`, `Course.next` — a world, and whether no operation has failed since the last one that was
  carried out;
* `Course.Played` — the courses of games with integer stats.

Main result: `Course.Played.inStep_of_settled` — **the view is in step after every operation**,
unless one has failed since the last one that was carried out.
-/

import Gamebook.Proofs.Play.Opening
import Gamebook.Proofs.State

set_option autoImplicit false

namespace Gamebook

/-! ### Operations -/

/-- An operation on a game. -/
inductive Operation where
  | load (document : Value)
  | reset
  | restore (record : Value)
  | choose (choice : Value)
  | chooseAt (place : Value)
  | buy (shop item : Value)
  | useItem (item : Value)
  | advanceDay (days : Value)

namespace Operation

/-- What an operation does; the answer is whether it was carried out. -/
def run : Operation → Play Bool
  | load document => do Play.load document; return true
  | reset => do Play.reset; return true
  | restore record => do Play.restore record; return true
  | choose choice => Play.choose choice
  | chooseAt place => Play.chooseAt place
  | buy shop item => Play.buy shop item
  | useItem item => Play.useItem item
  | advanceDay days => do Play.advanceDay days; return true

/-- Whether the operation is an action of the player. -/
def IsAction : Operation → Prop
  | load _ => False
  | reset => False
  | restore _ => False
  | _ => True

end Operation

/-! ### Courses -/

/-- A world in the course of a game. -/
structure Course where
  world : World
  /-- No operation has failed since the last one that was carried out. -/
  settled : Bool

namespace Course

/-- The course after an operation. -/
def next (c : Course) (op : Operation) : Course :=
  match op.run.runFrom c.world with
  | (.ok accepted, w) => ⟨w, c.settled || accepted⟩
  | (.error _, w) => ⟨w, false⟩

/-- **The courses of games with integer stats.**  The records to go on from are those of such games,
of this one or of another. -/
inductive Played : Course → Prop
  | start (settings : Settings) (chance : Chance) : Played ⟨World.closed settings chance, true⟩
  | load {c : Course} (document : Value) :
      document.HasIntegerStats → Played c → Played (c.next (.load document))
  | reset {c : Course} : Played c → Played (c.next .reset)
  | restore {c c' : Course} :
      Played c → Played c' → Played (c.next (.restore c'.world.state.save.toValue))
  | act {c : Course} {op : Operation} : op.IsAction → Played c → Played (c.next op)

end Course

/-! ### What an operation leads to -/

namespace Operation

open World Value Play

variable {w : World}

/-- What is true of the world whatever an operation does. -/
def Keeps (w' : World) : Prop :=
  Stat.AllProper w'.state.baseStats ∧ w'.book.document.HasIntegerStats

/-- What is true of the world when an operation ends with an answer: a refused one only looked, and
one that was carried out left the view in step. -/
def Ends (w : World) (accepted : Bool) (w' : World) : Prop :=
  (accepted = false → Idle w w') ∧ (accepted = true → w'.InStep)

theorem hereditary_true : Hereditary fun _ => True :=
  ⟨trivial, trivial, trivial, fun _ _ => trivial, fun _ _ => trivial, fun _ _ => trivial,
    fun _ _ _ _ => trivial⟩

theorem admits_true : Admits (fun _ => True) fun _ => True := .of_hereditary hereditary_true

theorem book_has_true (b : Book) : b.Has fun _ => True :=
  ⟨trivial, trivial, trivial, trivial, trivial, trivial⟩

/-- An operation that ends with a sync of proper stats leaves the view in step. -/
theorem inStep_of_sync {w₁ w' : World} (hw : Stat.AllProper w₁.state.baseStats)
    (h : sync.runFrom w₁ = (.ok (), w')) : w'.InStep := by
  obtain ⟨p, hp⟩ := sync_eq_ok_iff.1 h
  exact hp.inStep hw

/-- What ends with a sync of proper stats is carried out. -/
theorem ends_of_sync {m : Play Unit}
    (h : Leads (fun _ => Keeps) w m fun _ w' =>
      ∃ w₁, Stat.AllProper w₁.state.baseStats ∧ sync.runFrom w₁ = (.ok (), w')) :
    Leads (fun _ => Keeps) w (do m; return true) (Ends w) := by
  refine h.bind_to (fun w' h => h) fun _ w' h hsync => ?_
  obtain ⟨w₁, hproper, hsync⟩ := hsync
  refine .of_runFrom (runFrom_pure true w') h fun accepted ha => ?_
  cases ha
  exact ⟨nofun, fun _ => inStep_of_sync hproper hsync⟩

theorem load_ends {document : Value} (hdocument : document.HasIntegerStats) (hw : Keeps w) :
    Leads (fun _ => Keeps) w (run (.load document)) (Ends w) := by
  refine ends_of_sync ((load_leads document hdocument hw.1).mono (fun w' h => ?_) fun _ _ _ h => h)
  exact ⟨h.2, h.1 ▸ hasIntegerStats_orElse hdocument⟩

theorem reset_ends (hw : Keeps w) : Leads (fun _ => Keeps) w (run .reset) (Ends w) := by
  refine ends_of_sync (.book_bind ?_)
  refine (load_leads _ hw.2 hw.1).mono (fun w' h => ?_) fun _ _ _ h => h
  exact ⟨h.2, h.1 ▸ hasIntegerStats_orElse hw.2⟩

theorem restore_ends {s : State} (hs : Stat.AllProper s.baseStats) (hw : Keeps w) :
    Leads (fun _ => Keeps) w (run (.restore s.save.toValue)) (Ends w) := by
  refine ends_of_sync ((restore_leads _ hw.1 ?_).mono (fun w' h => ?_) fun _ _ _ h => h)
  · intro saved stats malformed hsaved hread
    rw [SavedGame.toValue_orElse, SavedGame.ofValue_toValue] at hsaved
    cases hsaved
    refine Stat.allProper_readAll (fun fields hfields f hf t ht => ?_) hread
    -- the record of no stats is empty, and so is what stands in for it
    have hbase : fields = s.baseStats.map fun f => (f.1, .obj f.2) := by
      cases h : s.baseStats <;>
        simp_all [State.save, Stat.allToValue, Value.orElse, Value.holds, Value.fields?]
    subst hbase
    obtain ⟨g, hg, rfl⟩ := List.mem_map.1 hf
    cases ht
    exact hs g hg
  · exact ⟨h.2, h.1 ▸ hw.2⟩

/-- **What an action of the player leads to.** -/
theorem act_changes {P : Value → Prop} {E : Fields Value → Prop} (hP : Admits P E)
    {op : Operation} (hop : op.IsAction) (hchoice : ∀ choice, op = .choose choice → P choice)
    (hbook : w.book.Has P) : Leads (Changes P E True) w op.run (ActionEnds P E w) := by
  cases op with
  | load _ => exact hop.elim
  | reset => exact hop.elim
  | restore _ => exact hop.elim
  | choose choice => exact choose_changes hP (hchoice choice rfl) hbook
  | chooseAt place => exact chooseAt_changes hP place hbook
  | buy shop item => exact buy_changes hP shop item hbook
  | useItem item => exact useItem_changes hP item hbook
  | advanceDay days =>
      refine (advanceDay_changes hP days hbook).bind fun _ w' _ hsettled => .pure ?_
      exact ⟨nofun, fun _ => hsettled⟩

theorem act_ends {op : Operation} (hop : op.IsAction) (hw : Keeps w) :
    Leads (fun _ => Keeps) w op.run (Ends w) := by
  refine (act_changes admits_true hop (fun _ _ => trivial) (book_has_true _)).mono
    (fun w' h => ⟨h.allProper hw.1, h.book_eq ▸ hw.2⟩) fun accepted w' _ h => ?_
  exact ⟨h.1, fun ha => (h.2 ha).inStep hw.1⟩

end Operation

/-! ### Views in the course of a game -/

namespace Course

open Operation World

/-- What is true of every world in a course. -/
def Sound (c : Course) : Prop := Keeps c.world ∧ (c.settled = true → c.world.InStep)

/-- **What an operation makes of a course.**  When no operation has failed since the last one that
was carried out, then this one was refused after such a course, or it was carried out. -/
theorem next_spec {c : Course} {op : Operation} {R : World → World → Prop}
    {Q : Bool → World → Prop} (h : Play.Leads R c.world op.run Q) :
    R c.world (c.next op).world ∧ ((c.next op).settled = true →
      (c.settled = true ∧ Q false (c.next op).world) ∨ Q true (c.next op).world) := by
  rcases hr : op.run.runFrom c.world with ⟨r, w'⟩
  have hR : R c.world w' := h.world_of_run hr
  rw [Course.next, hr]
  cases r with
  | error e => exact ⟨hR, nofun⟩
  | ok accepted =>
      refine ⟨hR, fun hsettled => ?_⟩
      have hQ : Q accepted w' := h.result_of_run hr
      cases accepted with
      | true => exact .inr hQ
      | false => exact .inl ⟨by simpa using hsettled, hQ⟩

theorem Sound.next {c : Course} {op : Operation} (hc : c.Sound)
    (hop : Play.Leads (fun _ => Keeps) c.world op.run (Ends c.world)) : (c.next op).Sound := by
  obtain ⟨hkeeps, hends⟩ := next_spec hop
  refine ⟨hkeeps, fun hsettled => ?_⟩
  rcases hends hsettled with ⟨hc', hrefused⟩ | hdone
  · exact (hc.2 hc').idle (hrefused.1 rfl)
  · exact hdone.2 rfl

theorem Played.sound {c : Course} (h : c.Played) : c.Sound := by
  induction h with
  | start settings chance =>
      refine ⟨⟨nofun, ?_⟩, fun _ => ⟨rfl, nofun, nofun, rfl, fun _ => rfl⟩⟩
      intro stats fields hstats hfields
      cases hstats
      cases hfields
  | load document hdocument _ ih => exact ih.next (load_ends hdocument ih.1)
  | reset _ ih => exact ih.next (reset_ends ih.1)
  | restore _ _ ih ih' => exact ih.next (restore_ends ih'.1.1 ih.1)
  | act hop _ ih => exact ih.next (act_ends hop ih.1)

/-- **The view is in step after every operation**, unless one has failed since the last one that was
carried out. -/
theorem Played.inStep_of_settled {c : Course} (h : c.Played) (hsettled : c.settled = true) :
    c.world.InStep :=
  h.sound.2 hsettled

/-! ### A failure half-way -/

/-- A document with two choices: the second one takes 50 from the 20 that `hp` has and then fails,
as the capacity is no number. -/
def brokenDocument : Value :=
  .obj
    [("stats", .obj [("hp", .obj (Stat.ofInts 20 20))]),
      ("resources", .obj [("capacity", .str "ten")]),
      ("story", .obj
        [("start", .str "a"),
          ("nodes", .obj [("a", .obj [("choices", .list
            [.obj [("effects", .list
                [.obj [("type", .str "stat_add"), ("stat", .str "hp"), ("value", .int (-5))]])],
              .obj [("effects", .list
                [.obj [("type", .str "stat_add"), ("stat", .str "hp"), ("value", .int (-50))],
                  .obj [("type", .str "capacity_add"), ("value", .int 1)]])]])])])])]

theorem hasIntegerStats_brokenDocument : brokenDocument.HasIntegerStats := by
  intro stats fields hstats hfields f hf
  cases hstats
  cases hfields
  obtain rfl := List.mem_singleton.1 hf
  exact ⟨_, rfl, Stat.isInteger_ofInts 20 20⟩

/-- The course of the document after its first choice was taken. -/
def firstChoice : Course :=
  ((Course.next ⟨World.closed {} (.constant 1 (.int 0)), true⟩ (.load brokenDocument)).next
    (.chooseAt (.int 0)))

theorem played_firstChoice : firstChoice.Played :=
  .act trivial (.load brokenDocument hasIntegerStats_brokenDocument (.start {} _))

theorem inStep_firstChoice :
    firstChoice.Played ∧ firstChoice.settled = true ∧ firstChoice.world.InStep :=
  ⟨played_firstChoice, by decide +kernel, played_firstChoice.inStep_of_settled (by decide +kernel)⟩

/-- After a choice that failed half-way a refused choice ends with an answer and `hp` is below
zero. -/
theorem not_inStep_after_refusal :
    ¬ ∀ (c : Course) (op : Operation) (accepted : Bool) (w : World), c.Played → op.IsAction →
      op.run.runFrom c.world = (.ok accepted, w) → w.InStep := by
  intro h
  have hplayed : (firstChoice.next (.chooseAt (.int 1))).Played :=
    .act trivial played_firstChoice
  have hrun : (run (.chooseAt (.int 5))).runFrom (firstChoice.next (.chooseAt (.int 1))).world =
      (.ok false, _) := Play.runFrom_eq (by decide +kernel)
  have hstep := h _ (.chooseAt (.int 5)) _ _ hplayed trivial hrun
  have hcur : Stat.curIn ((run (.chooseAt (.int 5))).runFrom
      (firstChoice.next (.chooseAt (.int 1))).world).2.state.baseStats "hp" =
        some (.int (-35)) := by decide +kernel
  obtain ⟨s, hs, hsc⟩ := Stat.curIn_eq_some_iff.1 hcur
  obtain ⟨_, hmem⟩ := Fields.exists_mem_of_get? hs
  obtain ⟨c, hc, h0⟩ := hstep.base _ hmem
  rw [hsc] at hc
  cases hc
  simp at h0

end Course

end Gamebook
