/-
**Panels on a plain screen.**

A plain screen shows no styles: marks are left out, and an escaped bracket is shown as a bracket.

Main definitions:

* `Screen.plain` — marked text without its marks;
* `Screen.ofPanels`, `Screen.ofNotice` — the text of panels and of a notice.
-/

import Gamebook.Session.Dashboard
import Gamebook.Session.Console

set_option autoImplicit false

namespace Gamebook.Screen

/-- Marked text without its marks, with a bound on the number of steps. -/
def plainFrom : Nat → List Char → List Char
  | 0, cs => cs
  | _ + 1, [] => []
  | n + 1, '\\' :: '\\' :: cs => '\\' :: plainFrom n cs
  | n + 1, '\\' :: '[' :: cs => '[' :: plainFrom n cs
  | n + 1, c :: cs =>
      match Dashboard.markAt (c :: cs) with
      | some (_, rest) => plainFrom n rest
      | none => c :: plainFrom n cs

/-- Marked text without its marks. -/
def plain (s : String) : String := String.ofList (plainFrom (s.toList.length + 1) s.toList)

/-- The text of a panel's body. -/
def bodyText : PanelBody → String
  | .text s => plain s
  | .rows cells => Value.joined "\n" (cells.map fun (a, b) => plain a ++ "  " ++ plain b)

/-- The text of a panel: its title, its body and a blank line. -/
def ofPanel (p : Panel) : String := "== " ++ plain p.title ++ " ==\n" ++ bodyText p.body ++ "\n"

/-- The text of some panels. -/
def ofPanels (panels : List Panel) : String := Value.joined "\n" (panels.map ofPanel)

/-- The text of a notice. -/
def ofNotice (n : Notice) : String := plain n.text

end Gamebook.Screen
