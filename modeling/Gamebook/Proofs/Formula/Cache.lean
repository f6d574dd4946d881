/-
**The cache cannot be seen.**

A call that compiles a text first looks it up in the cache.  Every tree in the cache is that of its
own text, so each call gives what reading the text afresh gives, whatever was compiled before it and
whatever blanks stand around the text.  The cache only grows: what it holds stays as it is, and a
text that cannot be read leaves no trace.

Main definitions:

* `Formula.compileAfresh` — compiling without a cache;
* `Formula.Cache.calls` — calls for some texts, made one after the other;
* `Formula.Cache.Faithful` — every tree in the cache is that of its own text;
* `Formula.Cache.Call.IsInvisible` — the cache makes no difference to a call.

Main results:

* `Formula.Cache.call_of_ok`, `Formula.Cache.call_of_error` — a call over a faithful cache;
* `Formula.Cache.calls_isInvisible` — **no call of a sequence sees the cache**.
-/

import Gamebook.Formula.Cache
import Gamebook.Formula.Eval
import Gamebook.Proofs.Fields
import Gamebook.Proofs.Formula.Parsing

set_option autoImplicit false

namespace Gamebook.Formula

/-- A text compiled without a cache. -/
def compileAfresh (s : String) : Except Fault Compiled :=
  (read (Text.strip s)).map (⟨Text.strip s, ·⟩)

theorem compileAfresh_of_ok {s : String} {body : Expr} (h : read (Text.strip s) = .ok body) :
    compileAfresh s = .ok ⟨Text.strip s, body⟩ := by
  rw [compileAfresh, h]
  rfl

theorem compileAfresh_of_error {s : String} {e : Fault} (h : read (Text.strip s) = .error e) :
    compileAfresh s = .error e := by
  rw [compileAfresh, h]
  rfl

/-- The value of what was compiled, or the fault that came instead, in a scope. -/
def valueOf (scope : Scope) : Except Fault Compiled → Chancy Value
  | .ok c => tryCatch (c.body.eval scope) fun fault => throw (settle fault)
  | .error fault => throw fault

/-- What is compiled afresh has the value of the text. -/
theorem valueOf_compileAfresh (scope : Scope) (s : String) :
    valueOf scope (compileAfresh s) = evaluateText scope s := by
  unfold compileAfresh evaluateText
  cases read (Text.strip s) <;> rfl

namespace Cache

/-! ### Calls -/

/-- **Makes a call**: its outcome, and the cache behind it.  A call that fails gives no cache, and
the one before it stays. -/
def call (cache : Cache) (s : String) : Except Fault Compiled × Cache :=
  match cache.compile s with
  | .ok (c, after) => (.ok c, after)
  | .error e => (.error e, cache)

/-- A call that has been made: the cache before and after it, the text and the outcome. -/
structure Call where
  before : Cache
  text : String
  outcome : Except Fault Compiled
  after : Cache

/-- **The calls for some texts**, made one after the other. -/
def calls (cache : Cache) : List String → List Call
  | [] => []
  | s :: texts => ⟨cache, s, (cache.call s).1, (cache.call s).2⟩ :: calls (cache.call s).2 texts

/-- **The cache makes no difference to a call**: the outcome is that of compiling afresh, with the
value of the text in every scope, or a refusal of the formula; what the cache holds stays, and only
the text of the call can come in; and a refused text leaves the cache alone. -/
structure Call.IsInvisible (call : Call) : Prop where
  outcome : call.outcome = compileAfresh call.text
  value : ∀ scope, valueOf scope call.outcome = evaluateText scope call.text
  refusal : ∀ e, call.outcome = .error e → ∃ cause, e = .formula cause
  kept : ∀ (s : String) body, call.before.get? s = some body → call.after.get? s = some body
  added : ∀ (s : String) body, call.after.get? s = some body →
    call.before.get? s = some body ∨ call.outcome = .ok ⟨s, body⟩
  remembered : ∀ c, call.outcome = .ok c → call.after.get? c.source = some c.body
  refused : ∀ e, call.outcome = .error e → call.after = call.before

/-! ### Faithful caches -/

/-- **Every tree in the cache is that of its own text.** -/
def Faithful (cache : Cache) : Prop :=
  ∀ (s : String) body, cache.get? s = some body → read s = .ok body

variable {cache : Cache}

theorem faithful_nil : Faithful [] := nofun

/-- What a cache has under a text after writing. -/
theorem get?_set_text (cache : Cache) (s s' : String) (body : Expr) :
    Fields.get? (cache.set s body) s' = if s = s' then some body else cache.get? s' := by
  rw [Fields.get?_set]
  exact if_congr Key.same_text rfl rfl

/-- A tree may come in under its own text. -/
theorem Faithful.set (h : cache.Faithful) {s : String} {body : Expr} (hs : read s = .ok body) :
    Faithful (cache.set s body) := by
  intro s' tree htree
  rw [get?_set_text] at htree
  split at htree
  · rename_i heq
    cases htree
    rwa [← heq]
  · exact h s' tree htree

/-- A call for a text with a tree, whether the cache has it or not. -/
theorem call_of_ok (h : cache.Faithful) {s : String} {body : Expr}
    (hread : read (Text.strip s) = .ok body) :
    cache.call s = (.ok ⟨Text.strip s, body⟩, cache.set (Text.strip s) body) := by
  unfold call compile
  cases hcached : cache.get? (Text.strip s) with
  | some tree =>
      obtain rfl : body = tree := Except.ok.inj (hread.symm.trans (h _ tree hcached))
      simp only [hcached, Fields.set_of_get? hcached]
  | none =>
      simp only [hcached, hread]
      rfl

/-- A call for a text without a tree: the cache does not have it. -/
theorem call_of_error (h : cache.Faithful) {s : String} {e : Fault}
    (hread : read (Text.strip s) = .error e) : cache.call s = (.error e, cache) := by
  unfold call compile
  cases hcached : cache.get? (Text.strip s) with
  | some tree => cases hread.symm.trans (h _ tree hcached)
  | none =>
      simp only [hcached, hread]
      rfl

/-- A call for a text with a tree: the tree is kept under the text. -/
theorem Faithful.isInvisible_of_ok (h : cache.Faithful) {s : String} {body : Expr}
    (hread : read (Text.strip s) = .ok body) :
    Call.IsInvisible
      ⟨cache, s, .ok ⟨Text.strip s, body⟩, cache.set (Text.strip s) body⟩ where
  outcome := (compileAfresh_of_ok hread).symm
  value scope := by rw [← compileAfresh_of_ok hread, valueOf_compileAfresh]
  refusal _ he := nomatch he
  kept s' tree htree := by
    rw [get?_set_text]
    split
    · -- the tree that is there already is that of the same text
      rename_i hsame
      have htext := h s' tree htree
      rw [← hsame, hread] at htext
      rw [Except.ok.inj htext]
    · exact htree
  added s' tree htree := by
    rw [get?_set_text] at htree
    split at htree
    · rename_i hsame
      exact .inr (by rw [hsame, Option.some.inj htree])
    · exact .inl htree
  remembered c hc := by
    cases hc
    exact Fields.get?_set_self _ _ _
  refused _ he := nomatch he

/-- A call for a text without a tree. -/
theorem isInvisible_of_error (cache : Cache) {s : String} {cause : FormulaError}
    (hread : read (Text.strip s) = .error (.formula cause)) :
    Call.IsInvisible ⟨cache, s, .error (.formula cause), cache⟩ where
  outcome := (compileAfresh_of_error hread).symm
  value scope := by rw [← compileAfresh_of_error hread, valueOf_compileAfresh]
  refusal _ he := ⟨cause, (Except.error.inj he).symm⟩
  kept _ _ htree := htree
  added _ _ htree := .inl htree
  remembered _ hc := nomatch hc
  refused _ _ := rfl

/-- **A call over a faithful cache is invisible**, and leaves a faithful cache. -/
theorem Faithful.call (h : cache.Faithful) (s : String) :
    Call.IsInvisible ⟨cache, s, (cache.call s).1, (cache.call s).2⟩ ∧
      Faithful (cache.call s).2 := by
  rcases read_ok_or_refused (Text.strip s) with ⟨body, hread⟩ | ⟨cause, hread⟩
  · rw [call_of_ok h hread]
    exact ⟨h.isInvisible_of_ok hread, h.set hread⟩
  · rw [call_of_error h hread]
    exact ⟨isInvisible_of_error cache hread, h⟩

/-! ### Sequences of calls -/

/-- **The cache cannot be seen**: of any calls that start with an empty cache, each gives what
compiling afresh gives, failing or not; the cache behind it still holds what it held, and more only
if the text of the call has a tree. -/
theorem calls_isInvisible (texts : List String) :
    (calls [] texts).map Call.text = texts ∧ ∀ call ∈ calls [] texts, call.IsInvisible := by
  have hcalls : ∀ {cache : Cache}, cache.Faithful → (cache.calls texts).map Call.text = texts ∧
      ∀ call ∈ cache.calls texts, call.IsInvisible := by
    induction texts with
    | nil => exact fun _ => ⟨rfl, nofun⟩
    | cons s texts ih =>
        intro cache h
        obtain ⟨hcall, hfaithful⟩ := h.call s
        obtain ⟨htexts, hall⟩ := ih hfaithful
        exact ⟨congrArg (s :: ·) htexts, List.forall_mem_cons.2 ⟨hcall, hall⟩⟩
  exact hcalls faithful_nil

end Cache

end Gamebook.Formula
