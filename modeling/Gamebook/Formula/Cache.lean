/-
**Formulas read once.**

Reading a formula is repeated often with the same text.  A cache keeps the trees of the texts read
so far; a text that cannot be read is not kept.

Main definitions:

* `Formula.Compiled` — a text and its tree;
* `Formula.Cache.compile` — the tree of a text, from the cache when it is there.
-/

import Gamebook.Formula.Parser

set_option autoImplicit false

namespace Gamebook.Formula

/-- A formula that has been read: its text, without the blanks around it, and its tree. -/
structure Compiled where
  source : String
  body : Expr

/-- A compiled formula as messages show it. -/
def Compiled.shown (c : Compiled) : String :=
  "CompiledExpression(" ++ Text.quoted c.source ++ ")"

/-- The trees of the texts read so far. -/
abbrev Cache := Fields Expr

/-- Compiles a text, and keeps its tree if it was not there. -/
def Cache.compile (cache : Cache) (s : String) : Except Fault (Compiled × Cache) :=
  let source := Text.strip s
  match cache.get? source with
  | some body => .ok (⟨source, body⟩, cache)
  | none => do
      let body ← read source
      return (⟨source, body⟩, cache.set source body)

end Gamebook.Formula
