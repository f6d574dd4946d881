/-
**Days that pass, and buffs that last for a time.**

A day counts and takes a day off the active buffs; a buff whose time is over is dropped, and a buff
without a duration stays.  Where events, periodic effects and nodes leave the time alone, nothing
else does so, and some days take off as many days as they are.

Main definitions:

* `Value.isTimed` — active buffs that last for a number of days, or for ever;
* `Value.aged` — an active buff some days later, none when its time is over.

Main results:

* `Value.aged_aged` — days one after the other;
* `Play.passDay_ages`, `Play.repeatDays_ages` — **a day, and any number of days**;
* `Play.advanceDay_ages` — **the day and the active buffs after some days**.
-/

import Gamebook.Proofs.Number.Finite
import Gamebook.Proofs.Number.Order
import Gamebook.Proofs.Play.SameTime

set_option autoImplicit false

namespace Gamebook

open Value

/-! ### Active buffs that grow older -/

namespace Value

/-- Whether an active buff lasts for a whole number of days, or for ever. -/
def isTimed (buff : Value) : Bool :=
  match buff.field "duration_days" with
  | .ok .null | .ok (.int _) => true
  | _ => false

/-- **An active buff some days later.**  Its duration is that much less; when no day is left the
buff is gone.  Without a duration it stays. -/
def aged (days : Int) (buff : Value) : Option Value :=
  match buff.fields? with
  | none => some buff
  | some fields =>
      match ofOption (fields.get? "duration_days") with
      | .int left =>
          if days < left then some (.obj (fields.set "duration_days" (.int (left - days))))
          else none
      | _ => some buff

variable {buff : Value} {days days' : Int}

/-- What a timed buff is made of. -/
theorem exists_of_isTimed (h : buff.isTimed = true) : ∃ fields, buff.fields? = some fields ∧
    (ofOption (fields.get? "duration_days") = .null ∨
      ∃ left, ofOption (fields.get? "duration_days") = .int left) := by
  unfold isTimed at h
  split at h
  · rename_i hnull
    obtain ⟨fields, hfields, hget⟩ := exists_of_field_eq hnull
    exact ⟨fields, hfields, .inl hget.symm⟩
  · rename_i left hleft
    obtain ⟨fields, hfields, hget⟩ := exists_of_field_eq hleft
    exact ⟨fields, hfields, .inr ⟨left, hget.symm⟩⟩
  · cases h

theorem aged_of_null {fields : Fields Value} (hfields : buff.fields? = some fields)
    (h : ofOption (fields.get? "duration_days") = .null) (days : Int) :
    buff.aged days = some buff := by
  simp only [aged, hfields, h]

theorem aged_of_int {fields : Fields Value} {left : Int} (hfields : buff.fields? = some fields)
    (h : ofOption (fields.get? "duration_days") = .int left) (days : Int) :
    buff.aged days = if days < left then
      some (.obj (fields.set "duration_days" (.int (left - days)))) else none := by
  simp only [aged, hfields, h]

/-- A buff that is left after some days is timed. -/
theorem isTimed_of_aged {buff' : Value} (h : buff.isTimed = true)
    (haged : buff.aged days = some buff') : buff'.isTimed = true := by
  obtain ⟨fields, hfields, hnull | ⟨left, hleft⟩⟩ := exists_of_isTimed h
  · rw [aged_of_null hfields hnull] at haged
    cases haged
    exact h
  · rw [aged_of_int hfields hleft] at haged
    split at haged
    · cases haged
      simp [isTimed, ofOption]
    · cases haged

/-- **Days one after the other** take off as many days as they are together. -/
theorem aged_aged (h : buff.isTimed = true) (hdays : 0 ≤ days') :
    (buff.aged days).bind (aged days') = buff.aged (days + days') := by
  obtain ⟨fields, hfields, hnull | ⟨left, hleft⟩⟩ := exists_of_isTimed h
  · rw [aged_of_null hfields hnull, aged_of_null hfields hnull]
    exact aged_of_null hfields hnull days'
  · rw [aged_of_int hfields hleft, aged_of_int hfields hleft]
    split
    · have hset : ofOption ((fields.set "duration_days" (.int (left - days))).get?
          "duration_days") = .int (left - days) := by rw [Fields.get?_set_self]; rfl
      rw [Option.bind_some, aged_of_int rfl hset, Fields.set_set]
      have hiff : days' < left - days ↔ days + days' < left := by omega
      simp only [hiff, Int.sub_sub]
    · rw [Option.bind_none, if_neg (by omega)]

end Value

namespace Play

open World

variable {w w' : World} {active : List Value} {day : Int} {on : Onward}

/-! ### Days -/

/-- A day takes a day off an active buff. -/
theorem tickBuff_eq {buff : Value} (h : buff.isTimed = true) :
    tickBuff buff = .ok (buff.aged 1) := by
  obtain ⟨fields, hfields, hduration⟩ := exists_of_isTimed h
  have hentries : buff.entries = .ok fields := by simp only [entries, hfields]
  have hfield : buff.field "duration_days" = .ok (ofOption (fields.get? "duration_days")) := by
    simp only [field, field?, hentries, bind, Except.bind, pure, Except.pure]
  rcases hduration with hnull | ⟨left, hleft⟩
  · rw [aged_of_null hfields hnull, tickBuff, hfield, hnull]
    rfl
  · have hlt : Number.lt (.int 0) (.int (left - 1)) = decide (1 < left) := by
      rw [Bool.eq_iff_iff, Number.lt_int_iff, decide_eq_true_eq]
      omega
    have hminus : (Value.int left).minus (.int 1) = .ok (.int (left - 1)) := rfl
    rw [aged_of_int hfields hleft, tickBuff, hfield, hleft]
    simp only [bind, Except.bind, hminus, hlt, hentries]
    by_cases hleft : 1 < left <;> simp [hleft, Value.isNull, pure, Except.pure]

/-- A day takes a day off all active buffs, in their order. -/
theorem tickAll_eq (h : ∀ buff ∈ active, buff.isTimed = true) :
    tickAll active = .ok (active.filterMap (aged 1)) := by
  unfold tickAll
  induction active with
  | nil => rfl
  | cons buff active ih =>
      obtain ⟨hbuff, hactive⟩ := List.forall_mem_cons.1 h
      rw [List.filterMapM_cons, tickBuff_eq hbuff, ih hactive, List.filterMap_cons]
      cases buff.aged 1 <;> rfl

/-- The buffs that are left after some days, and those that are left of them after some more. -/
theorem filterMap_aged_aged (h : ∀ buff ∈ active, buff.isTimed = true) {days days' : Int}
    (hdays : 0 ≤ days') :
    (active.filterMap (aged days)).filterMap (aged days') =
      active.filterMap (aged (days + days')) := by
  rw [List.filterMap_filterMap]
  exact List.filterMap_congr fun buff hmem => aged_aged (h buff hmem) hdays

theorem isTimed_of_mem_filterMap_aged (h : ∀ buff ∈ active, buff.isTimed = true) {days : Int} :
    ∀ buff ∈ active.filterMap (aged days), buff.isTimed = true := by
  intro buff' hmem
  obtain ⟨buff, hbuff, haged⟩ := List.mem_filterMap.1 hmem
  exact isTimed_of_aged (h buff hbuff) haged

/-- **A day** counts one and takes a day off the active buffs. -/
theorem passDay_ages (hon : on.LeavesTime) (hbook : w.book.KeepsTime)
    (hday : w.state.day = .int day) (hactive : w.state.buffs.elements = .ok active)
    (htimed : ∀ buff ∈ active, buff.isTimed = true)
    (hrun : (passDay on).runFrom w = (.ok (), w')) :
    w'.book = w.book ∧ w'.state.day = .int (day + 1) ∧
      w'.state.buffs = .list (active.filterMap (aged 1)) := by
  obtain ⟨_, w₁, hsync, hrun⟩ := runFrom_bind_eq_ok hrun
  obtain ⟨s, w₂, hstate, hrun⟩ := runFrom_bind_eq_ok hrun
  cases (runFrom_state w₁).symm.trans hstate
  have h₁ := (sync_sameTime w).world_of_run hsync
  have hplus : w₁.state.day.plus (.int 1) = .ok (.int (day + 1)) := by
    rw [h₁.day, hday]
    rfl
  have hkeep : (keep (.int (day + 1))).runFrom w₁ = (.ok (.int (day + 1)), w₁) := rfl
  rw [runFrom_bind_ok (runFrom_liftM_ok hplus w₁), runFrom_bind_ok hkeep,
    runFrom_bind_ok (runFrom_modifyState _ w₁)] at hrun
  -- From the new day on only the last step touches the active buffs.
  obtain ⟨_, w₂, hevents, hrun⟩ := runFrom_bind_eq_ok hrun
  obtain ⟨_, w₃, hperiodic, hrun⟩ := runFrom_bind_eq_ok hrun
  have hdawn : (w₁.withState { w₁.state with day := .int (day + 1) }).book.KeepsTime :=
    h₁.book ▸ hbook
  have h₂ := (runEvents_sameTime hon hdawn _).world_of_run hevents
  have h₃ := (runPeriodic_sameTime hon (h₂.book ▸ hdawn) _).world_of_run hperiodic
  have hsame := h₂.trans h₃
  have hactive₃ : w₃.state.buffs.elements = .ok active := by
    rw [hsame.buffs]
    exact (congrArg elements h₁.buffs).trans hactive
  unfold tickBuffs at hrun
  rw [runFrom_bind_ok (runFrom_state w₃), runFrom_bind_ok (runFrom_liftM_ok hactive₃ w₃),
    runFrom_bind_ok (runFrom_liftM_ok (tickAll_eq htimed) w₃), runFrom_modifyState] at hrun
  cases hrun
  exact ⟨hsame.book.trans h₁.book, hsame.day, rfl⟩

/-- **Any number of days, one at least.** -/
theorem repeatDays_ages (hon : on.LeavesTime) (hbook : w.book.KeepsTime)
    (hday : w.state.day = .int day) (hactive : w.state.buffs.elements = .ok active)
    (htimed : ∀ buff ∈ active, buff.isTimed = true) {n : Nat}
    (hrun : (repeatDays on (n + 1)).runFrom w = (.ok (), w')) :
    w'.book = w.book ∧ w'.state.day = .int (day + (n + 1 : Nat)) ∧
      w'.state.buffs = .list (active.filterMap (aged (n + 1 : Nat))) := by
  induction n generalizing w day active with
  | zero =>
      obtain ⟨_, w₁, hpass, hrun⟩ := runFrom_bind_eq_ok hrun
      cases hrun
      exact passDay_ages hon hbook hday hactive htimed hpass
  | succ n ih =>
      obtain ⟨_, w₁, hpass, hrun⟩ := runFrom_bind_eq_ok hrun
      obtain ⟨hbook₁, hday₁, hbuffs₁⟩ := passDay_ages hon hbook hday hactive htimed hpass
      have hactive₁ : w₁.state.buffs.elements = .ok (active.filterMap (aged 1)) := by
        rw [hbuffs₁]
        rfl
      obtain ⟨hbook', hday', hbuffs'⟩ := ih (hbook₁ ▸ hbook) hday₁ hactive₁
        (isTimed_of_mem_filterMap_aged htimed) hrun
      have hsum : (1 : Int) + (n + 1 : Nat) = (n + 1 + 1 : Nat) := by omega
      refine ⟨hbook'.trans hbook₁, ?_, ?_⟩
      · rw [hday', Int.add_assoc, hsum]
      · rw [hbuffs', filterMap_aged_aged htimed (by omega), hsum]

/-- A whole number of days is counted as it is. -/
theorem dayCount_int {k : Int} (hk : 1 ≤ k) {n : Nat} (h : dayCount (.int k) = .ok n) :
    n = k.toNat := by
  obtain ⟨finite, hfinite, -⟩ := exists_of_bind_eq_ok h
  have hfinite : (Number.int k).isFinite? = some finite := inRange_eq_ok hfinite
  cases finite with
  | false => exact absurd hfinite (Number.isFinite?_int k)
  | true =>
      have hlarger : (if Number.lt (.int 1) (.int k) then Number.int k else .int 1) = .int k := by
        split
        · rfl
        · rename_i hlt
          have hle : k ≤ 1 := by simpa using hlt
          rw [Int.le_antisymm hle hk]
      have hceil : (Number.int k).ceil? = some (.int k) := by
        simp [Number.ceil?, Number.finiteOr?, hfinite]
      unfold dayCount at h
      dsimp only [toNumber] at h
      rw [hfinite, hlarger, hceil] at h
      cases h
      rfl

/-- **The day and the active buffs after some days.**  Where the effects of nodes, events and buffs
leave the time alone, `k` days take the day on by `k` and `k` days off each active buff; buffs that
last longer or for ever are left, in their order. -/
theorem advanceDay_ages {document : Value} {book : Book} {k : Int} (hgame : GameOf document w)
    (hdocument : Book.ofDocument document = .ok book) (hkeeps : book.KeepsTime)
    (hactive : w.state.buffs.elements = .ok active)
    (htimed : ∀ buff ∈ active, buff.isTimed = true) (hk : 1 ≤ k)
    (hrun : (advanceDay (.int k)).runFrom w = (.ok (), w')) :
    ∃ day : Int, w.state.day = .int day ∧ w'.state.day = .int (day + k) ∧
      w'.state.buffs = .list (active.filterMap (aged k)) := by
  obtain ⟨-, ⟨day, hday⟩, -⟩ := hgame.holds (invariant_isDated book) hdocument
  have hbook : w.book.KeepsTime := hgame.book_eq hdocument ▸ hkeeps
  have hon : onwards.LeavesTime := onward_sameTime depthLimit
  obtain ⟨_, w₁, hdays, hafter⟩ := runFrom_bind_eq_ok hrun
  obtain ⟨n, hn, hdays⟩ := runFrom_lift_bind_eq_ok hdays
  obtain ⟨m, rfl⟩ : ∃ m, n = m + 1 := ⟨n - 1, by have := dayCount_int hk hn; omega⟩
  have hcount : ((m + 1 : Nat) : Int) = k := by
    rw [dayCount_int hk hn]
    exact Int.toNat_of_nonneg (by omega)
  obtain ⟨hbook₁, hday₁, hbuffs₁⟩ := repeatDays_ages hon hbook hday hactive htimed hdays
  have hsame := (afterAction_sameTime hon (hbook₁ ▸ hbook)).world_of_run hafter
  rw [hcount] at hday₁ hbuffs₁
  exact ⟨day, hday, hsame.day.trans hday₁, hsame.buffs.trans hbuffs₁⟩

/-- A document with a well; every morning it gives back a hit point. -/
def wellDocument : Value :=
  .obj [("stats", .obj [("hp", .obj [("cur", .int 5), ("max", .int 20)])]),
    ("buffs", .obj [("haste", .obj []), ("luck", .obj [])]),
    ("events", .list [.obj [("trigger", .str "on_day_start"),
      ("effects", .list [.obj [("type", .str "stat_add"), ("stat", .str "hp"),
        ("value", .int 1)]])]])]

/-- A buff from the well, for some days or for ever. -/
def wellBuff (buff : String) (days : Value) : Value :=
  .obj [("type", .str "buff_add"), ("buff", .str buff), ("duration_days", days)]

/-- Before the well, at the start of the game. -/
def atWell : World := ((load wellDocument).runFrom (World.closed {} (.constant 1 (.int 0)))).2

/-- After a drink that hastens for three days, and one that brings luck for ever. -/
def afterWell : World :=
  ((applyEffect onwards (wellBuff "luck" .null) []).runFrom
    ((applyEffect onwards (wellBuff "haste" (.int 3)) []).runFrom atWell).2).2

/-- An active buff from the well. -/
def wellRecord (buff : String) (days : Value) : Value :=
  .obj [("id", .str buff), ("value_expr", .str "1"), ("duration_days", days)]

theorem gameOf_afterWell : GameOf wellDocument afterWell :=
  .effect _ _ (.effect _ _ (.start (runFrom_eq (by decide +kernel))))

/-- Two days after the well haste lasts for another day, and luck is still there; after three days
only luck is. -/
theorem advanceDay_ages_well :
    (((advanceDay (.int 2)).runFrom afterWell).2.state.day = .int 3 ∧
      ((advanceDay (.int 2)).runFrom afterWell).2.state.buffs =
        .list [wellRecord "haste" (.int 1), wellRecord "luck" .null]) ∧
    ((advanceDay (.int 3)).runFrom afterWell).2.state.buffs = .list [wellRecord "luck" .null] := by
  have hactive : afterWell.state.buffs.elements =
      .ok [wellRecord "haste" (.int 3), wellRecord "luck" .null] := by rfl
  have htimed : ∀ buff ∈ [wellRecord "haste" (.int 3), wellRecord "luck" .null],
      buff.isTimed = true := by decide +kernel
  have hday : afterWell.state.day = .int 1 := by rfl
  obtain ⟨book, hbook⟩ := gameOf_afterWell.exists_book
  have hhas := Book.has_ofDocument hbook (hereditary_everyRecord isTimeless rfl) (by decide +kernel)
  have hkeeps : book.KeepsTime := .of_everyRecord hhas.nodes hhas.events hhas.buffs
  have hruns : ∀ k ∈ [(2 : Int), 3], ((advanceDay (.int k)).runFrom afterWell).1 = .ok () := by
    decide +kernel
  obtain ⟨day, hday₂, hnext, htwo⟩ := advanceDay_ages gameOf_afterWell hbook hkeeps hactive htimed
    (k := 2) (by decide) (runFrom_eq (hruns 2 (by decide)))
  obtain ⟨-, -, -, hthree⟩ := advanceDay_ages gameOf_afterWell hbook hkeeps hactive htimed
    (k := 3) (by decide) (runFrom_eq (hruns 3 (by decide)))
  cases hday.symm.trans hday₂
  exact ⟨⟨hnext, htwo⟩, hthree⟩

end Play

end Gamebook
