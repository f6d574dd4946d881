/-
**Stats and their ranges.**

A stat is proper when its current and its greatest value are numbers that have a place in the
order.  Cutting a proper stat to its range always succeeds, and what comes out lies in its range:
the current value between zero and the greatest one.  Cutting the base stats down to the derived
maxima changes no greatest value, and changes nothing where everything was in range before.

Main definitions:

* `Stat.IsProper`, `Stat.InRange` — what the two values of a stat are like;
* `Stat.cutTo` — the stat with its current value brought between zero and a greatest value.

Main results:

* `Stat.IsProper.clamp` — **a proper stat is cut to its range**;
* `Stat.clampTo_eq` — cutting down to a derived maximum is `Stat.cutTo`;
* `Stat.within_clampAll` — **stats that were cut down are within the derived ones**;
* `Stat.clampAll_again` — **cutting them down again changes nothing**.
-/

import Gamebook.Play.Buff
import Gamebook.Proofs.Fields
import Gamebook.Proofs.Number.Sum
import Gamebook.Proofs.Outcome

set_option autoImplicit false

namespace Gamebook

namespace Stat

/-! ### Reading and writing the two values -/

@[simp] theorem cur_setCur (s : Stat) (v : Value) : (s.setCur v).cur = .ok v := by
  simp [cur, setCur, Value.required, Value.fields?]

@[simp] theorem max_setMax (s : Stat) (v : Value) : (s.setMax v).max = .ok v := by
  simp [max, setMax, Value.required, Value.fields?]

@[simp] theorem max_setCur (s : Stat) (v : Value) : (s.setCur v).max = s.max := by
  have h : (Key.text "cur").same (.text "max") = false := by decide
  simp [max, setCur, Value.required, Value.fields?, Fields.get?_set_of_not_same h]

@[simp] theorem cur_setMax (s : Stat) (v : Value) : (s.setMax v).cur = s.cur := by
  have h : (Key.text "max").same (.text "cur") = false := by decide
  simp [cur, setMax, Value.required, Value.fields?, Fields.get?_set_of_not_same h]

/-- The number that a read gives. -/
def numberOf? : Except Fault Value → Option Number
  | .ok (.num n) => some n
  | _ => none

theorem numberOf?_eq_some_iff {r : Except Fault Value} {n : Number} :
    numberOf? r = some n ↔ r = .ok (.num n) := by
  unfold numberOf?
  split <;> simp_all

/-- The current value of a stat that has a number there. -/
def curIn (stats : Fields Stat) (id : Key) : Option Number :=
  (stats.get? id).bind fun s => numberOf? s.cur

/-- The greatest value of a stat that has a number there. -/
def maxIn (stats : Fields Stat) (id : Key) : Option Number :=
  (stats.get? id).bind fun s => numberOf? s.max

theorem curIn_eq_some_iff {stats : Fields Stat} {id : Key} {n : Number} :
    curIn stats id = some n ↔ ∃ s, stats.get? id = some s ∧ s.cur = .ok (.num n) := by
  simp [curIn, Option.bind_eq_some_iff, numberOf?_eq_some_iff]

theorem maxIn_eq_some_iff {stats : Fields Stat} {id : Key} {n : Number} :
    maxIn stats id = some n ↔ ∃ s, stats.get? id = some s ∧ s.max = .ok (.num n) := by
  simp [maxIn, Option.bind_eq_some_iff, numberOf?_eq_some_iff]

/-- Both values are numbers with a place in the order. -/
def IsProper (s : Stat) : Prop :=
  ∃ c m : Number, s.cur = .ok (.num c) ∧ s.max = .ok (.num m) ∧ c.IsComparable ∧ m.IsComparable

/-- The current value lies between zero and the greatest one. -/
def InRange (s : Stat) : Prop :=
  ∃ c m : Number, s.cur = .ok (.num c) ∧ s.max = .ok (.num m) ∧
    Number.le (.int 0) c = true ∧ c.le m = true

/-- Both values are integers. -/
def IsInteger (s : Stat) : Prop :=
  ∃ c m : Int, s.cur = .ok (.int c) ∧ s.max = .ok (.int m)

theorem IsInteger.isProper {s : Stat} (h : s.IsInteger) : s.IsProper := by
  obtain ⟨c, m, hc, hm⟩ := h
  exact ⟨.int c, .int m, hc, hm, Number.isComparable_int c, Number.isComparable_int m⟩

/-- The stat with two integers as its values. -/
def ofInts (cur max : Int) : Stat := [("cur", .int cur), ("max", .int max)]

theorem isInteger_ofInts (cur max : Int) : (ofInts cur max).IsInteger := ⟨cur, max, rfl, rfl⟩

theorem IsProper.setCur {s : Stat} (h : s.IsProper) {n : Number} (hn : n.IsComparable) :
    (s.setCur (.num n)).IsProper := by
  obtain ⟨c, m, hc, hm, _, hm'⟩ := h
  exact ⟨n, m, cur_setCur s _, by rw [max_setCur, hm], hn, hm'⟩

theorem IsProper.setMax {s : Stat} (h : s.IsProper) {n : Number} (hn : n.IsComparable) :
    (s.setMax (.num n)).IsProper := by
  obtain ⟨c, m, hc, hm, hc', _⟩ := h
  exact ⟨c, n, by rw [cur_setMax, hc], max_setMax s _, hc', hn⟩

theorem IsProper.plus {v : Value} {a n m : Number} (hv : v = .num a) (ha : a.IsComparable)
    (hn : (Value.num n).isFiniteNumber = .ok true) (h : v.plus n = .ok m) : m.IsComparable := by
  subst hv
  exact ha.add? (inRange_eq_ok hn) (inRange_eq_ok h)

/-! ### Cutting to the range of a stat -/

theorem larger_zero (n : Number) :
    ∃ m : Number, Value.larger (.int 0) (.num n) = .ok (.num m) ∧ Number.le (.int 0) m = true := by
  cases h : Number.lt (.int 0) n with
  | true =>
      refine ⟨n, ?_, Number.le_of_lt h⟩
      simp [Value.larger, Value.lt, h, bind, Except.bind, pure, Except.pure]
  | false =>
      refine ⟨.int 0, ?_, Number.le_refl (Number.isComparable_int 0)⟩
      simp [Value.larger, Value.lt, h, bind, Except.bind, pure, Except.pure]

theorem smaller_num {c m : Number} (hc : Number.le (.int 0) c = true)
    (hm : Number.le (.int 0) m = true) :
    ∃ n : Number, Value.smaller (.num c) (.num m) = .ok (.num n) ∧
      Number.le (.int 0) n = true ∧ n.le m = true := by
  have ⟨_, hc'⟩ := Number.IsComparable.of_le hc
  have ⟨_, hm'⟩ := Number.IsComparable.of_le hm
  cases h : Number.lt m c with
  | true =>
      refine ⟨m, ?_, hm, Number.le_refl hm'⟩
      simp [Value.smaller, Value.lt, h, bind, Except.bind, pure, Except.pure]
  | false =>
      refine ⟨c, ?_, hc, (Number.lt_eq_false_iff hm' hc').1 h⟩
      simp [Value.smaller, Value.lt, h, bind, Except.bind, pure, Except.pure]

/-- **A proper stat is cut to its range.** -/
theorem IsProper.clamp {s : Stat} (h : s.IsProper) : ∃ s', s.clamp = .ok s' ∧ s'.InRange := by
  obtain ⟨c, m, hc, hm, _, _⟩ := h
  obtain ⟨top, htop, htop0⟩ := larger_zero m
  obtain ⟨raised, hraised, hraised0⟩ := larger_zero c
  obtain ⟨n, hn, hn0, hntop⟩ := smaller_num hraised0 htop0
  refine ⟨(s.setMax (.num top)).setCur (.num n), ?_, n, top, by simp, by simp, hn0, hntop⟩
  simp [Stat.clamp, hm, htop, hc, hraised, hn, bind, Except.bind, pure, Except.pure]

/-! ### Cutting down to a derived maximum -/

/-- The stat with its current value `c` brought between zero and `top`. -/
def cutTo (s : Stat) (c top : Number) : Stat :=
  if top.lt c then s.setCur (.num top) else if c.lt (.int 0) then s.setCur (.int 0) else s

theorem max_cutTo (s : Stat) (c top : Number) : (s.cutTo c top).max = s.max := by
  unfold cutTo
  split
  · exact max_setCur s _
  · split
    · exact max_setCur s _
    · rfl

/-- The current value after the cut is between zero and the greatest value, and it is at most some
other bound exactly when the current value before or the greatest value is. -/
theorem cur_cutTo {s : Stat} {c top : Number} (hs : s.cur = .ok (.num c)) (hc : c.IsComparable)
    (h0 : Number.le (.int 0) top = true) :
    ∃ c' : Number, (s.cutTo c top).cur = .ok (.num c') ∧ Number.le (.int 0) c' = true ∧
      c'.le top = true ∧
      ∀ d : Number, Number.le (.int 0) d = true →
        (c'.le d = true ↔ c.le d = true ∨ top.le d = true) := by
  have ⟨hz, ht⟩ := Number.IsComparable.of_le h0
  unfold cutTo
  cases h : top.lt c with
  | true =>
      refine ⟨top, by simp, h0, Number.le_refl ht, fun d _ => ⟨.inr, ?_⟩⟩
      rintro (hd | hd)
      · exact Number.le_trans (Number.le_of_lt h) hd
      · exact hd
  | false =>
      have hct : c.le top = true := (Number.lt_eq_false_iff ht hc).1 h
      cases h' : c.lt (.int 0) with
      | true =>
          refine ⟨.int 0, by simp, Number.le_refl hz, h0, fun d hd => ⟨fun _ => .inl ?_, ?_⟩⟩
          · exact Number.le_trans (Number.le_of_lt h') hd
          · exact fun _ => hd
      | false =>
          refine ⟨c, by simpa using hs, (Number.lt_eq_false_iff hc hz).1 h', hct, ?_⟩
          refine fun d _ => ⟨.inl, ?_⟩
          rintro (hd | hd)
          · exact hd
          · exact Number.le_trans hct hd

theorem clampTo_eq {derived : Fields Stat} {id : Key} {s limit : Stat} {c top : Number}
    (hlimit : derived.get? id = some limit) (hmax : limit.max = .ok (.num top))
    (hcur : s.cur = .ok (.num c)) (h0 : Number.le (.int 0) top = true) :
    clampTo derived id s = .ok (s.cutTo c top) := by
  have ⟨hz, ht⟩ := Number.IsComparable.of_le h0
  have hn : top.lt (.int 0) = false := (Number.lt_eq_false_iff ht hz).2 h0
  unfold cutTo
  cases h : top.lt c with
  | true =>
      simp [clampTo, hlimit, hmax, hcur, Value.lt, h, hn, bind, Except.bind, pure, Except.pure]
  | false =>
      cases h' : c.lt (.int 0) <;>
        simp [clampTo, hlimit, hmax, hcur, Value.lt, h, h', bind, Except.bind, pure, Except.pure]

/-- Cutting the base stats down succeeds when it does so for each of them. -/
theorem clampAll_eq_ok_iff {base derived clamped : Fields Stat} :
    clampAll base derived = .ok clamped ↔
      List.Forall₂ (fun f g => g.1 = f.1 ∧ clampTo derived f.1 f.2 = .ok g.2) base clamped := by
  rw [clampAll, mapM_eq_ok_iff]
  have h : ∀ f g : Key × Stat,
      (do return (f.1, ← clampTo derived f.1 f.2) : Except Fault (Key × Stat)) = .ok g ↔
        g.1 = f.1 ∧ clampTo derived f.1 f.2 = .ok g.2 := by
    rintro ⟨id, s⟩ ⟨id', s'⟩
    cases hc : clampTo derived id s <;>
      simp [bind, Except.bind, pure, Except.pure, eq_comm]
  simp only [h]

/-- All stats are proper. -/
def AllProper (stats : Fields Stat) : Prop := ∀ f ∈ stats, f.2.IsProper

/-- All stats have integers for values. -/
def AllInteger (stats : Fields Stat) : Prop := ∀ f ∈ stats, f.2.IsInteger

theorem AllInteger.allProper {stats : Fields Stat} (h : AllInteger stats) : AllProper stats :=
  fun f hf => (h f hf).isProper

/-- All stats are in their ranges. -/
def AllInRange (stats : Fields Stat) : Prop := ∀ f ∈ stats, f.2.InRange

/-- The second stat is the first one cut to the greatest value that the derived stats have under a
name. -/
def CutBy (derived : Fields Stat) (id : Key) (s s' : Stat) : Prop :=
  ∃ c top : Number, s.cur = .ok (.num c) ∧ c.IsComparable ∧ maxIn derived id = some top ∧
    Number.le (.int 0) top = true ∧ s' = s.cutTo c top

theorem CutBy.max_eq {derived : Fields Stat} {id : Key} {s s' : Stat}
    (h : CutBy derived id s s') : s'.max = s.max := by
  obtain ⟨c, top, _, _, _, _, rfl⟩ := h
  exact max_cutTo s c top

theorem CutBy.isProper {derived : Fields Stat} {id : Key} {s s' : Stat}
    (h : CutBy derived id s s') (hs : s.IsProper) : s'.IsProper := by
  obtain ⟨_, m, _, hm, _, hmc⟩ := hs
  have hmax := h.max_eq
  obtain ⟨c, top, hc, hcc, _, h0, rfl⟩ := h
  obtain ⟨c', hc', _, hle, _⟩ := cur_cutTo hc hcc h0
  exact ⟨c', m, hc', by rw [hmax, hm], (Number.IsComparable.of_le hle).1, hmc⟩

/-- **Cutting proper base stats down** to derived stats of the same names that are in range. -/
theorem clampAll_cutBy {base derived clamped : Fields Stat} (hkeys : derived.keys = base.keys)
    (hbase : AllProper base) (hderived : AllInRange derived)
    (h : clampAll base derived = .ok clamped) :
    List.Forall₂ (fun f g => g.1 = f.1 ∧ CutBy derived f.1 f.2 g.2) base clamped := by
  have hmem : ∀ f ∈ base, f.2.IsProper ∧ ∃ limit, derived.get? f.1 = some limit := fun f hf => by
    obtain ⟨s, hs⟩ := Fields.exists_get?_of_mem hf
    exact ⟨hbase f hf, Fields.exists_get?_of_keys_eq hkeys hs⟩
  have hall := (List.forall₂_and_left _ _).2 ⟨hmem, clampAll_eq_ok_iff.1 h⟩
  refine hall.imp ?_
  rintro f g ⟨⟨⟨c, _, hc, _, hcc, _⟩, limit, hlimit⟩, hid, hg⟩
  obtain ⟨_, top, _, htop, h0, hle⟩ := Fields.forall_get? hderived hlimit
  have h0 := Number.le_trans h0 hle
  refine ⟨hid, c, top, hc, hcc, maxIn_eq_some_iff.2 ⟨limit, hlimit, htop⟩, h0, ?_⟩
  rw [clampTo_eq hlimit htop hc h0] at hg
  exact (Except.ok.inj hg).symm

theorem allProper_clampAll {base derived clamped : Fields Stat}
    (hkeys : derived.keys = base.keys) (hbase : AllProper base) (hderived : AllInRange derived)
    (h : clampAll base derived = .ok clamped) : AllProper clamped := by
  intro g hg
  obtain ⟨f, hf, _, hcut⟩ := exists_mem_of_forall₂ (clampAll_cutBy hkeys hbase hderived h) hg
  exact hcut.isProper (hbase f hf)

/-- Every current value of the base stats lies between zero and the greatest value that the derived
stats have under the same name. -/
def Within (base derived : Fields Stat) : Prop :=
  ∀ f ∈ base, ∃ c top : Number, f.2.cur = .ok (.num c) ∧ maxIn derived f.1 = some top ∧
    Number.le (.int 0) c = true ∧ c.le top = true

/-- Base stats that were cut down are within the stats they were cut to. -/
theorem within_clampAll {base derived clamped : Fields Stat} (hkeys : derived.keys = base.keys)
    (hbase : AllProper base) (hderived : AllInRange derived)
    (h : clampAll base derived = .ok clamped) : Within clamped derived := by
  intro g hg
  obtain ⟨f, _, hid, c, top, hc, hcc, htop, h0, hcut⟩ :=
    exists_mem_of_forall₂ (clampAll_cutBy hkeys hbase hderived h) hg
  obtain ⟨c', hc', h0', hle, _⟩ := cur_cutTo hc hcc h0
  refine ⟨c', top, hcut ▸ hc', ?_, h0', hle⟩
  rw [hid]
  exact htop

/-! ### Cutting twice -/

/-- Two stats with the same greatest value. -/
def SameMax (s s' : Stat) : Prop := s.max = s'.max

/-- The greatest value is below neither itself nor zero. -/
def Topped (s : Stat) : Prop :=
  ∃ top, s.max = .ok top ∧ top.lt top = .ok false ∧ top.lt (.int 0) = .ok false

theorem max_clamp {s t : Stat} (h : s.clamp = .ok t) :
    t.max = (s.max >>= Value.larger (.int 0)) := by
  unfold clamp at h
  obtain ⟨m, hm, h⟩ := exists_of_bind_eq_ok h
  obtain ⟨top, htop, h⟩ := exists_of_bind_eq_ok h
  obtain ⟨c, _, h⟩ := exists_of_bind_eq_ok h
  obtain ⟨raised, _, h⟩ := exists_of_bind_eq_ok h
  obtain ⟨lowered, _, h⟩ := exists_of_bind_eq_ok h
  cases h
  rw [max_setCur, max_setMax, hm]
  exact htop.symm

theorem lt_of_number? {v w : Value} {m n : Number} (hv : v.number? = some m)
    (hw : w.number? = some n) : v.lt w = .ok (m.lt n) := by
  cases v with
  | bool b =>
      cases hv
      simp [Value.lt, hw]
  | num k =>
      cases hv
      simp [Value.lt, hw]
  | _ => cases hv

theorem exists_of_zero_lt {v : Value} {b : Bool} (h : Value.lt (.int 0) v = .ok b) :
    ∃ n, v.number? = some n ∧ b = Number.lt (.int 0) n := by
  unfold Value.lt at h
  split at h
  · rename_i n hn
    cases h
    exact ⟨n, hn, rfl⟩
  · cases h

/-- A stat cut to its range has a greatest value that nothing cuts further. -/
theorem topped_clamp {s t : Stat} (h : s.clamp = .ok t) : t.Topped := by
  have hmax := max_clamp h
  unfold clamp at h
  obtain ⟨m, hm, h⟩ := exists_of_bind_eq_ok h
  obtain ⟨top, htop, -⟩ := exists_of_bind_eq_ok h
  rw [hm] at hmax
  refine ⟨top, hmax.trans htop, ?_⟩
  obtain ⟨b, hb, htop⟩ := exists_of_bind_eq_ok htop
  obtain ⟨n, hn, rfl⟩ := exists_of_zero_lt hb
  cases htop
  have hz := Number.isComparable_int 0
  cases h0 : Number.lt (.int 0) n with
  | true =>
      have ⟨_, hc⟩ := Number.IsComparable.of_lt h0
      rw [if_pos rfl, lt_of_number? hn hn, lt_of_number? hn rfl]
      exact ⟨congrArg _ ((Number.lt_eq_false_iff hc hc).2 (Number.le_refl hc)),
        congrArg _ ((Number.lt_eq_false_iff hc hz).2 (Number.le_of_lt h0))⟩
  | false =>
      rw [if_neg (by simp), lt_of_number? rfl rfl]
      exact ⟨congrArg _ ((Number.lt_eq_false_iff hz hz).2 (Number.le_refl hz)),
        congrArg _ ((Number.lt_eq_false_iff hz hz).2 (Number.le_refl hz))⟩

/-- The stat with its current value cut down to the greatest value of a derived one, if any. -/
def lowered (limit? : Option Stat) (s : Stat) : Except Fault Stat :=
  match limit? with
  | none => return s
  | some limit => do
      let top ← limit.max
      if ← top.lt (← s.cur) then return s.setCur top else return s

/-- The stat with its current value brought up to zero. -/
def raised (s : Stat) : Except Fault Stat := do
  if ← (← s.cur).lt (.int 0) then return s.setCur (.int 0) else return s

theorem clampTo_eq_bind (derived : Fields Stat) (id : Key) (s : Stat) :
    clampTo derived id s = (lowered (derived.get? id) s >>= raised) := by
  unfold clampTo lowered
  cases derived.get? id with
  | none => rfl
  | some limit =>
      cases hm : limit.max with
      | error e => simp [hm, bind, Except.bind]
      | ok top =>
          cases hc : s.cur with
          | error e => simp [hm, bind, Except.bind]
          | ok c =>
              cases hl : top.lt c with
              | error e => simp [hm, hl, bind, Except.bind]
              | ok b => cases b <;> simp [hm, hc, hl, raised, bind, Except.bind, pure, Except.pure]

theorem lowered_cases {limit : Stat} {s s' : Stat} {top : Value} (htop : limit.max = .ok top)
    (h : lowered (some limit) s = .ok s') :
    s' = s.setCur top ∨ s' = s ∧ ∃ c, s.cur = .ok c ∧ top.lt c = .ok false := by
  obtain ⟨top', htop', h⟩ := exists_of_bind_eq_ok h
  obtain rfl : top = top' := by simpa [htop] using htop'
  obtain ⟨c, hc, h⟩ := exists_of_bind_eq_ok h
  obtain ⟨b, hb, h⟩ := exists_of_bind_eq_ok h
  cases b with
  | true =>
      cases h
      exact .inl rfl
  | false =>
      cases h
      exact .inr ⟨rfl, c, hc, hb⟩

theorem raised_cases {s s' : Stat} (h : raised s = .ok s') :
    s' = s.setCur (.int 0) ∨ s' = s ∧ ∃ c, s.cur = .ok c ∧ c.lt (.int 0) = .ok false := by
  obtain ⟨c, hc, h⟩ := exists_of_bind_eq_ok h
  obtain ⟨b, hb, h⟩ := exists_of_bind_eq_ok h
  cases b with
  | true =>
      cases h
      exact .inl rfl
  | false =>
      cases h
      exact .inr ⟨rfl, c, hc, hb⟩

theorem lowered_of_lt {limit s : Stat} {top c : Value} (htop : limit.max = .ok top)
    (hc : s.cur = .ok c) (h : top.lt c = .ok false) : lowered (some limit) s = .ok s := by
  simp [lowered, htop, hc, h, bind, Except.bind, pure, Except.pure]

theorem raised_of_lt {s : Stat} {c : Value} (hc : s.cur = .ok c) (h : c.lt (.int 0) = .ok false) :
    raised s = .ok s := by
  simp [raised, hc, h, bind, Except.bind, pure, Except.pure]

theorem max_clampTo {derived : Fields Stat} {id : Key} {s s' : Stat}
    (h : clampTo derived id s = .ok s') : s'.max = s.max := by
  rw [clampTo_eq_bind] at h
  obtain ⟨s₁, h₁, h₂⟩ := exists_of_bind_eq_ok h
  have hs₁ : s₁.max = s.max := by
    cases hget : derived.get? id with
    | none =>
        rw [hget] at h₁
        cases h₁
        rfl
    | some limit =>
        rw [hget] at h₁
        obtain ⟨top, htop, _⟩ := exists_of_bind_eq_ok h₁
        rcases lowered_cases htop h₁ with rfl | ⟨rfl, _⟩
        · exact max_setCur s top
        · rfl
  rcases raised_cases h₂ with rfl | ⟨rfl, _⟩
  · rw [max_setCur, hs₁]
  · exact hs₁

/-- Cutting down twice is cutting down once. -/
theorem clampTo_again {derived : Fields Stat} {id : Key} {s s' : Stat}
    (hderived : ∀ limit, derived.get? id = some limit → limit.Topped)
    (h : clampTo derived id s = .ok s') : clampTo derived id s' = .ok s' := by
  have hz : Value.lt (.int 0) (.int 0) = .ok false := by
    rw [lt_of_number? rfl rfl]
    rfl
  rw [clampTo_eq_bind] at h ⊢
  obtain ⟨s₁, h₁, h₂⟩ := exists_of_bind_eq_ok h
  -- what was brought up to zero, or did not have to be, is not brought up again
  have hraised : raised s' = .ok s' := by
    rcases raised_cases h₂ with rfl | ⟨rfl, c, hc, hlt⟩
    · exact raised_of_lt (cur_setCur s₁ _) hz
    · exact raised_of_lt hc hlt
  suffices hlowered : lowered (derived.get? id) s' = .ok s' by
    rw [hlowered]
    exact hraised
  cases hget : derived.get? id with
  | none => rfl
  | some limit =>
      rw [hget] at h₁
      -- the value is now zero, the greatest one, or what it was, and none is above the greatest
      obtain ⟨top, htop, hself, hzero⟩ := hderived limit hget
      rcases raised_cases h₂ with rfl | ⟨rfl, c, hc, _⟩
      · exact lowered_of_lt htop (cur_setCur s₁ _) hzero
      · rcases lowered_cases htop h₁ with rfl | ⟨rfl, c', hc', hlt⟩
        · exact lowered_of_lt htop (cur_setCur s _) hself
        · exact lowered_of_lt htop hc' hlt

theorem clampTo_congr {derived derived' : Fields Stat}
    (h : Fields.Paired SameMax derived derived') (id : Key) (s : Stat) :
    clampTo derived' id s = clampTo derived id s := by
  have hrel := h.get? id
  unfold clampTo
  generalize derived.get? id = o, derived'.get? id = o' at hrel ⊢
  cases hrel with
  | none => rfl
  | some hmax =>
      dsimp only
      rw [hmax]

/-- **Base stats that were cut down are not cut again** by stats with the same greatest values. -/
theorem clampAll_again {base derived derived' clamped : Fields Stat}
    (hderived : ∀ f ∈ derived, f.2.Topped) (hmax : Fields.Paired SameMax derived derived')
    (h : clampAll base derived = .ok clamped) : clampAll clamped derived' = .ok clamped := by
  refine clampAll_eq_ok_iff.2 (List.forall₂_same.2 fun g hg => ⟨rfl, ?_⟩)
  obtain ⟨f, _, hid, hf⟩ := exists_mem_of_forall₂ (clampAll_eq_ok_iff.1 h) hg
  rw [clampTo_congr hmax, hid]
  exact clampTo_again (fun limit hlimit => Fields.forall_get? hderived hlimit) hf

/-- Cutting down leaves the greatest values as they are. -/
theorem sameMax_clampAll {base derived clamped : Fields Stat}
    (h : clampAll base derived = .ok clamped) : Fields.Paired SameMax base clamped :=
  (clampAll_eq_ok_iff.1 h).imp fun _ _ hfg => ⟨hfg.1.symm, (max_clampTo hfg.2).symm⟩

end Stat

end Gamebook
