/-
**What players can reach.**

A player starts the game anew, takes choices, buys and uses items, lets days pass and goes on from
what has been saved.  Looks at the game and the clock come in between.  Many games have no operation
among these that fails, whatever has been reached before.

Main definitions:

* `Operation.Typed` — what a player can do, but for going on from a save;
* `World.savedSlot` — what saving a world leaves in the slot;
* `World.Reached` — the worlds that a player can reach;
* `World.Sturdy` — worlds from which no operation of a player fails.

Main results:

* `World.Reached.digitLimit_eq` — the digit limit stays;
* `sturdy_road` — there are such worlds: a road on which one can only go on.
-/

import Gamebook.Proofs.Json.RoundTrip
import Gamebook.Proofs.Play.Rendering

set_option autoImplicit false

namespace Gamebook

open Play World Value

/-! ### What a player can reach -/

/-- The operations that a line can stand for, but for going on from a save. -/
inductive Operation.Typed : Operation → Prop
  | reset : Typed .reset
  | choose (place : Nat) : Typed (.chooseAt (.int place))
  | buy (shop item : String) : Typed (.buy (.str shop) (.str item))
  | use (item : String) : Typed (.useItem (.str item))
  | rest {days : Number} : (Value.num days).isFiniteNumber = .ok true →
      days.lt (.int 1) = false → Typed (.advanceDay (.num days))

theorem Operation.Typed.isAction {op : Operation} (h : op.Typed) : op = .reset ∨ op.IsAction := by
  cases h with
  | reset => exact .inl rfl
  | _ => exact .inr trivial

namespace World

/-- What saving the game of the world leaves in the slot. -/
def savedSlot (w : World) : SaveSlot :=
  (SaveSlot.store w.settings.digitLimit w.state.save.toValue).2

/-- **The worlds that a player can reach** by typing, with any looks at the game in between and
whatever the clock shows.  Going on is possible from what saving a world that was reached has left
in the slot. -/
inductive Reached (start : World) : World → Prop
  | start : Reached start start
  | operation {w : World} {op : Operation} :
      op.Typed → Reached start w → Reached start (op.run.runFrom w).2
  | restore {v w : World} {record : Value} :
      Reached start v → Reached start w →
      SaveSlot.load v.settings.digitLimit v.savedSlot = .ok (some record) →
      Reached start ((Operation.restore record).run.runFrom w).2
  | read {w : World} (reading : Reading) :
      Reached start w → Reached start (reading.run.runFrom w).2
  | later {w : World} (now : Value) :
      Reached start w → Reached start { w with settings := { w.settings with now } }

/-- **No operation of a player fails** in a world that can be reached from this one. -/
structure Sturdy (start : World) : Prop where
  operation {w : World} {op : Operation} : start.Reached w → op.Typed →
    ∃ accepted, (op.run.runFrom w).1 = .ok accepted
  restore {v w : World} {record : Value} : start.Reached v → start.Reached w →
    SaveSlot.load v.settings.digitLimit v.savedSlot = .ok (some record) →
    ∃ accepted, ((Operation.restore record).run.runFrom w).1 = .ok accepted

variable {start w w' : World}

/-- Putting a state in place and syncing it leaves the settings as they are. -/
theorem start_settings {settings : Settings} (h : w.settings = settings) (s : State) :
    Leads (fun _ w' => w'.settings = settings) w (do modifyState fun _ => s; sync)
      fun _ _ => True :=
  .modifyState_bind ⟨(sync_leads _).world.settings_eq.trans h, fun _ _ => trivial⟩

theorem load_settings (document : Value) (w : World) :
    ((load document).runFrom w).2.settings = w.settings := by
  have hload : Leads (fun _ w' => w'.settings = w.settings) w (load document) fun _ _ => True := by
    unfold load
    refine (openBook_leads document).bind_to (fun w₁ h₁ => ?_) fun _ w₁ h₁ _ => ?_
    · obtain ⟨b, rfl, _⟩ := h₁
      rfl
    obtain ⟨b, rfl, _⟩ := h₁
    exact initialState_idle.bind_to (fun w₂ h₂ => h₂.settings_eq)
      fun s w₂ h₂ _ => start_settings h₂.settings_eq s
  exact hload.world

theorem restore_settings (record : Value) (w : World) :
    ((restore record).runFrom w).2.settings = w.settings := by
  have hrestore : Leads (fun _ w' => w'.settings = w.settings) w (restore record)
      fun _ _ => True := by
    unfold restore
    refine .get_bind <| .lift_bind_of rfl fun saved _ => ?_
    exact (readStats_idle _).bind_to (fun w₁ h₁ => h₁.settings_eq)
      fun stats w₁ h₁ _ => start_settings h₁.settings_eq _
  exact hrestore.world

/-- What is always carried out leaves the world that it leaves without the answer. -/
theorem runFrom_andTrue (m : Play Unit) (w : World) :
    (do m; return true : Play Bool).runFrom w =
      ((m.runFrom w).1.map fun _ => true, (m.runFrom w).2) := by
  rw [runFrom_bind]
  rcases m.runFrom w with ⟨_ | _, _⟩ <;> rfl

/-- The digit limit is a setting that stays. -/
theorem Reached.digitLimit_eq (h : start.Reached w) :
    w.settings.digitLimit = start.settings.digitLimit := by
  induction h with
  | start => rfl
  | @operation w op htyped _ ih =>
      refine Eq.trans (congrArg Settings.digitLimit ?_) ih
      rcases htyped.isAction with rfl | haction
      · have hreset : Play.reset.runFrom w = (load w.book.document).runFrom w :=
          runFrom_bind_ok (runFrom_book w)
        rw [Operation.run, runFrom_andTrue, hreset]
        exact load_settings _ w
      · exact (Operation.act_changes Operation.admits_true haction (fun _ _ => trivial)
          (Operation.book_has_true _)).world.settings_eq
  | restore _ _ _ ih ih' =>
      rw [Operation.run, runFrom_andTrue]
      exact (congrArg Settings.digitLimit (restore_settings _ _)).trans ih'
  | read reading _ ih => rw [reading.run_idle.settings_eq, ih]
  | later _ _ ih => exact ih

end World

/-! ### A road -/

/-- A finite number of days can be counted. -/
theorem Play.exists_dayCount {days : Number} (h : (Value.num days).isFiniteNumber = .ok true) :
    ∃ count, dayCount (.num days) = .ok count := by
  have hfinite : days.isFinite? = some true := by
    have hrange : inRange days.isFinite? = .ok true := h
    cases hdays : days.isFinite? with
    | none =>
        rw [hdays] at hrange
        cases hrange
    | some finite =>
        rw [hdays] at hrange
        cases hrange
        rfl
  obtain ⟨n, rfl, hn⟩ : ∃ n, n = (if Number.lt (.int 1) days then days else .int 1) ∧
      n.isFinite? = some true := by
    refine ⟨_, rfl, ?_⟩
    split
    · exact hfinite
    · decide +kernel
  obtain ⟨m, hm⟩ : ∃ m, (if Number.lt (.int 1) days then days else .int 1).ceil? = some m := by
    rw [Number.ceil?, Number.finiteOr?, hn]
    cases (if Number.lt (.int 1) days then days else .int 1) <;> exact ⟨_, rfl⟩
  unfold dayCount
  dsimp only [toNumber]
  rw [hfinite, hm]
  cases m <;> exact ⟨_, rfl⟩

/-- A node with a choice that leads nowhere. -/
def roadNode : Value := .obj [("choices", .list [.obj [("text", .str "Go on")]])]

/-- A document with a road. -/
def roadDocument : Value :=
  .obj [("story", .obj [("start", .str "road"), ("nodes", .obj [("road", roadNode)])])]

/-- On the road on a day, at a time that the clock shows. -/
def onTheRoad (day : Int) (now : Value) : World where
  settings := { now }
  book := { document := roadDocument, nodes := .obj [("road", roadNode)], start := .str "road" }
  state := { day := .int day, node := .str "road", journal := ⟨12, []⟩ }
  chance := .constant 1 (.int 0)

variable {day day' : Int} {now now' : Value}

theorem passDays_road (count : Nat) :
    (repeatDays onwards count).runFrom (onTheRoad day now) =
      (.ok (), onTheRoad (day + count) now) := by
  induction count generalizing day with
  | zero => rw [Int.natCast_zero, Int.add_zero]; rfl
  | succ count ih =>
      have hday : (passDay onwards).runFrom (onTheRoad day now) =
          (.ok (), onTheRoad (day + 1) now) := rfl
      rw [repeatDays, runFrom_bind_ok hday, ih, Int.natCast_succ, Int.add_assoc,
        Int.add_comm 1]

/-- Every operation of a player on the road returns, and leads no further than some days on. -/
theorem run_road (day : Int) (now : Value) {op : Operation} (h : op.Typed) : ∃ accepted day',
    op.run.runFrom (onTheRoad day now) = (.ok accepted, onTheRoad day' now) := by
  cases h with
  | reset => exact ⟨true, 1, rfl⟩
  | choose place =>
      cases place with
      | zero => exact ⟨true, day, rfl⟩
      | succ place => exact ⟨false, day, rfl⟩
  | buy shop item => exact ⟨false, day, rfl⟩
  | use item => exact ⟨false, day, rfl⟩
  | @rest days hfinite _ =>
      obtain ⟨count, hcount⟩ := exists_dayCount hfinite
      have hpass : (advanceDay (.num days)).runFrom (onTheRoad day now) =
          (.ok (), onTheRoad (day + count) now) := by
        unfold advanceDay passDays
        rw [runFrom_bind_ok ((runFrom_bind_ok (runFrom_liftM_ok hcount _)).trans
          (passDays_road count))]
        rfl
      exact ⟨true, day + count, by rw [Operation.run, runFrom_andTrue, hpass]; rfl⟩

theorem offersAvoidChance_road : (onTheRoad day now).book.OffersAvoidChance :=
  have hbook : Book.ofDocument roadDocument = .ok (onTheRoad day now).book := rfl
  Book.offersAvoidChance_ofDocument hbook (by decide +kernel)

/-- What is saved on the road. -/
def savedRoad (day : Int) : Fields Value :=
  [("base_stats", .obj []), ("resources", .obj []), ("items", .obj []), ("buffs", .list []),
    ("flags", .obj []), ("day", .int day), ("node", .str "road"), ("ending", .null),
    ("log", .list [])]

theorem isJson_savedRoad : (Value.obj (savedRoad day)).IsJson := by
  have hempty : (Value.obj []).IsJson := .obj nofun .nil nofun
  have hnone : (Value.list []).IsJson := .list nofun
  have hnodup : (Fields.keys (savedRoad 1)).Nodup := by decide
  refine .obj ?_ hnodup ?_
  · intro f hf
    simp only [savedRoad, List.mem_cons, List.not_mem_nil, or_false] at hf
    rcases hf with rfl | rfl | rfl | rfl | rfl | rfl | rfl | rfl | rfl <;> exact ⟨_, rfl⟩
  · simp only [savedRoad, List.forall_mem_cons, List.not_mem_nil, false_implies, implies_true,
      and_true]
    exact ⟨hempty, hempty, hempty, hnone, hempty, .int day, .str "road", .null, hnone⟩

/-- What saving on the road has left in the slot is what has been saved, if it is a record. -/
theorem load_savedSlot_road {record : Value}
    (h : SaveSlot.load (onTheRoad day now).settings.digitLimit (onTheRoad day now).savedSlot =
      .ok (some record)) : record = .obj (savedRoad day) := by
  have hrecord : (onTheRoad day now).state.save.toValue = .obj (savedRoad day) := rfl
  change SaveSlot.load .standard (SaveSlot.store .standard _).2 = _ at h
  have hends : Json.ends (.obj (savedRoad day)) = true := rfl
  rw [hrecord, SaveSlot.store, hends, Bool.and_true] at h
  split at h
  · rename_i hwritable
    rw [SaveSlot.load_save (by decide) isJson_savedRoad hwritable] at h
    cases h
    rfl
  · rename_i hwritable
    have hday : DigitLimit.standard.admitsInt day = false := by
      simpa [savedRoad, isWritable, isWritableFields, isWritableList, Key.isWritable]
        using hwritable
    -- the file ends in front of the day, as it would if no digits were allowed at all
    have hbegun : Json.begun .standard .indented 0 (.obj (savedRoad day)) =
        Json.begun (some 0) .indented 0 (.obj (savedRoad 1)) := by
      have hone : DigitLimit.admitsInt (some 0) 1 = false := rfl
      simp [savedRoad, Json.begun, Json.begunObject, Json.begunFields, Json.begunKey, Json.lead,
        Json.Begun.andThen, Json.isAdmitted, hday, hone, Key.isWritable]
    have htruncated : (SaveSlot.load .standard
        (some (String.ofList (Json.begun (some 0) .indented 0 (.obj (savedRoad 1))).1))).isOk =
          false := by decide +kernel
    rw [hbegun] at h
    rw [h] at htruncated
    cases htruncated

/-- A player on the road stays there. -/
theorem World.Reached.onTheRoad {w : World} (h : (Gamebook.onTheRoad day now).Reached w) :
    ∃ day' now', w = Gamebook.onTheRoad day' now' := by
  induction h with
  | start => exact ⟨day, now, rfl⟩
  | operation htyped _ ih =>
      obtain ⟨day', now', rfl⟩ := ih
      obtain ⟨accepted, day'', hrun⟩ := run_road day' now' htyped
      exact ⟨day'', now', by rw [hrun]⟩
  | restore _ _ hload ihv ihw =>
      obtain ⟨saved, savedAt, rfl⟩ := ihv
      obtain ⟨day', now', rfl⟩ := ihw
      rw [load_savedSlot_road hload]
      exact ⟨saved, now', rfl⟩
  | read reading _ ih =>
      obtain ⟨day', now', rfl⟩ := ih
      exact ⟨day', now', reading.run_same offersAvoidChance_road⟩
  | later later _ ih =>
      obtain ⟨day', now', rfl⟩ := ih
      exact ⟨day', later, rfl⟩

/-- No operation of a player on the road fails. -/
theorem sturdy_road : (onTheRoad day now).Sturdy where
  operation hreached htyped := by
    obtain ⟨day', now', rfl⟩ := hreached.onTheRoad
    obtain ⟨accepted, _, hrun⟩ := run_road day' now' htyped
    exact ⟨accepted, by rw [hrun]⟩
  restore hv hw hload := by
    obtain ⟨saved, savedAt, rfl⟩ := hv.onTheRoad
    obtain ⟨day', now', rfl⟩ := hw.onTheRoad
    rw [load_savedSlot_road hload]
    exact ⟨true, rfl⟩

end Gamebook
