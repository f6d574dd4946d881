/-
**Notices, and the console that shows them.**

A notice is a text that is shown to the player in the style of its kind.  The console is given the
text between the marks of that style, and it refuses what is marked wrongly.  How a console reads
marks is its own affair.  All that is relied on is that it shows a text in which no mark opens; a
bracket behind a backslash opens none.

Main definitions:

* `NoticeKind`, `Notice` — a text shown to the player, and how;
* `Notice.marked` — the text between the marks of its style;
* `opensMark` — whether a mark opens in some characters;
* `Console` — the marked texts that a console shows;
* `Console.lenient` — a console that shows every text.
-/

set_option autoImplicit false

namespace Gamebook

/-! ### Notices -/

/-- How a text is shown to the player. -/
inductive NoticeKind where
  | error | info | warning
  deriving DecidableEq

/-- The name of a kind of notice. -/
def NoticeKind.name : NoticeKind → String
  | error => "error"
  | info => "info"
  | warning => "warning"

/-- A text shown to the player. -/
structure Notice where
  kind : NoticeKind
  text : String
  deriving DecidableEq

/-- The text of a notice between the marks of its style. -/
def Notice.marked (n : Notice) : String :=
  "[" ++ n.kind.name ++ "]" ++ n.text ++ "[/" ++ n.kind.name ++ "]"

/-! ### Consoles -/

/-- Whether a mark opens in some characters: there is a bracket that no backslash escapes. -/
def opensMark : List Char → Bool
  | [] => false
  | '\\' :: '\\' :: cs => opensMark cs
  | '\\' :: '[' :: cs => opensMark cs
  | '[' :: _ => true
  | _ :: cs => opensMark cs

/-- **A console**: the marked texts that it shows.  Every other one it refuses. -/
structure Console where
  shows : String → Bool
  /-- A notice is shown when no mark opens in its text. -/
  shows_plain : ∀ n : Notice, opensMark n.text.toList = false → shows n.marked = true

/-- A console that shows every text, marked as it may be. -/
def Console.lenient : Console := ⟨fun _ => true, fun _ _ => rfl⟩

end Gamebook
