/-
**The dashboard.**

The dashboard shows a snapshot in panels: the status of the player, the current node with its
choices, the shops where there are any, and the recent events.  Texts carry style marks in square
brackets; text that must not be taken for a mark is escaped.

Main definitions:

* `Dashboard.escape` — text without marks;
* `Panel`, `PanelBody` — a titled panel;
* `Dashboard.panels` — the panels of a snapshot.
-/

import Gamebook.Play.Snapshot

set_option autoImplicit false

namespace Gamebook

/-- What a panel shows: rows of two cells, or marked text. -/
inductive PanelBody where
  | rows (cells : List (String × String))
  | text (s : String)

/-- A panel with a title and the style of its border. -/
structure Panel where
  title : String
  body : PanelBody
  border : String

namespace Dashboard

/-! ### Escaping -/

/-- Whether a mark can start with the character behind its bracket. -/
def startsMark (c : Char) : Bool := ('a' ≤ c && c ≤ 'z') || c = '#' || c = '/' || c = '@'

/-- The rest of a mark up to its closing bracket, and the characters behind it; no other bracket
may open before. -/
def takeMark : List Char → Option (List Char × List Char)
  | [] => none
  | c :: cs =>
      if c = ']' then some ([c], cs)
      else if c = '[' then none
      else (takeMark cs).map fun r => (c :: r.1, r.2)

/-- A mark at the start of some characters. -/
def markAt : List Char → Option (List Char × List Char)
  | '[' :: c :: cs =>
      if startsMark c then (takeMark cs).map fun r => ('[' :: c :: r.1, r.2) else none
  | _ => none

/-- Escapes every mark: the backslashes in front of it are doubled and one more is added.  The
first argument is the number of backslashes just read, the second one a bound on the steps. -/
def escapeFrom : Nat → Nat → List Char → List Char
  | slashes, 0, cs => List.replicate slashes '\\' ++ cs
  | slashes, _ + 1, [] => List.replicate slashes '\\'
  | slashes, n + 1, c :: cs =>
      if c = '\\' then escapeFrom (slashes + 1) n cs
      else
        match markAt (c :: cs) with
        | some (mark, rest) =>
            List.replicate (2 * slashes + 1) '\\' ++ mark ++ escapeFrom 0 n rest
        | none => List.replicate slashes '\\' ++ c :: escapeFrom 0 n cs

/-- A backslash at the end that stands alone is doubled. -/
def closeSlash (cs : List Char) : List Char :=
  match cs.reverse with
  | ['\\'] => cs ++ ['\\']
  | '\\' :: c :: _ => if c = '\\' then cs else cs ++ ['\\']
  | _ => cs

/-- **Text without marks.** -/
def escape (s : String) : String :=
  String.ofList (closeSlash (escapeFrom 0 (s.toList.length + 1) s.toList))

/-- Escapes a value, which has to be a text. -/
def escapeValue : Value → Except Fault String
  | .str s => .ok (escape s)
  | _ => .error .wrongKind

/-! ### Panels -/

/-- A text in a style. -/
def styled (style text : String) : String := "[" ++ style ++ "]" ++ text ++ "[/" ++ style ++ "]"

/-- Texts with a separator, or another text where there are none. -/
def joinedOr (sep none : String) (texts : List String) : String :=
  let s := Value.joined sep texts
  if s.isEmpty then none else s

/-- The row of a stat. -/
def statRow (id : Key) (s : Stat) : Except Fault (String × String) := do
  return (id.plainText, (← s.cur).display ++ "/" ++ (← s.max).display)

/-- A held item. -/
def itemText (i : HeldItem) : String :=
  styled "item" i.name.plainText ++ " x" ++ i.count.display ++ if i.usable then " (usable)" else ""

/-- A buff in effect. -/
def buffText (b : BuffView) : String := b.id.plainText ++ " (" ++ b.value.display ++ ")"

/-- The capacity of the inventory. -/
def capacityText (capacity : Value) : String :=
  if capacity.isNull then "∞" else capacity.display

/-- The panel of the player. -/
def statusPanel (s : Snapshot) : Except Fault Panel := do
  let stats ← s.stats.mapM fun (id, stat) => statRow id stat
  let rows :=
    ("Day", styled "stat" s.day.plainText) :: stats
      ++ [("🎒 " ++ Value.displayNumber s.inventoryCount ++ "/" ++ capacityText s.capacity,
            joinedOr ", " "[dim]Empty[/dim]" (s.inventory.map itemText)),
          ("Buffs", joinedOr ", " "[dim]None[/dim]" (s.buffs.map buffText))]
  return ⟨styled "bold" s.title.plainText, .rows rows, "blue"⟩

/-- The line of a choice with its number. -/
def choiceLine (number : Nat) (c : ChoiceView) : String :=
  let label := Nat.repr number ++ "."
  if c.enabled then styled "player" label ++ " " ++ c.text.plainText
  else styled "disabled" (label ++ " " ++ c.text.plainText)

/-- The lines of choices, numbered from a number on. -/
def choiceLines (number : Nat) : List ChoiceView → List String
  | [] => []
  | c :: cs => choiceLine number c :: choiceLines (number + 1) cs

/-- The panel of the node. -/
def storyPanel (n : NodeView) : Except Fault Panel := do
  let text ← escapeValue n.text
  let lines :=
    text :: "" :: choiceLines 1 n.choices
      ++ if n.isEnding then [styled "critical" "THE END"] else []
  return ⟨styled "story" n.title.plainText, .text (Text.stripRight (Value.joined "\n" lines)),
    "purple"⟩

/-- The line of an entry of a shop. -/
def entryLine (e : ShopEntryView) : String :=
  let price := if e.price.isNull then "" else " - " ++ e.price.display
  "  " ++ styled (if e.enabled then "item" else "disabled") e.name.plainText ++ " "
    ++ styled "dim" ("(" ++ e.id.plainText ++ ")") ++ price

/-- The lines of a shop. -/
def shopLines (s : ShopView) : List String :=
  (styled "bold gold1" s.name.plainText ++ " " ++ styled "dim" ("(" ++ s.id.plainText ++ ")"))
    :: s.entries.map entryLine

/-- The panel of the shops. -/
def shopPanel (shops : List ShopView) : Panel :=
  ⟨"🛒 Shops", .text (Value.joined "\n" (shops.flatMap shopLines)), "gold1"⟩

/-- The styles of check results, by the end of the line. -/
def resultStyles : List (String × String) :=
  [("-> CRIT SUCCESS", "critical"), ("-> CRIT FAIL", "critical"), ("-> SUCCESS", "success"),
    ("-> FAIL", "failure")]

/-- The style of a line of the journal. -/
def lineStyle (line : String) : String :=
  match resultStyles.find? fun r => r.1.toList.isSuffixOf line.toList with
  | some r => r.2
  | none => "default"

/-- A line of the journal. -/
def logLine (line : String) : String := "• " ++ styled (lineStyle line) (escape line)

/-- The panel of recent events. -/
def logPanel (log : List String) : Panel :=
  let body :=
    if log.isEmpty then "[dim]Nothing has happened yet.[/dim]"
    else Value.joined "\n" (log.map logLine)
  ⟨"📜 Recent Events", .text body, "dim"⟩

/-- **The panels of a snapshot**, when its values can be written. -/
def panels (limit : DigitLimit) (s : Snapshot) : Except Fault (List Panel) := do
  if !s.toValue.isWritable limit then throw .tooManyDigits
  let status ← statusPanel s
  let story ← storyPanel s.node
  let shops := if s.shops.isEmpty then [] else [shopPanel s.shops]
  return [status, story] ++ shops ++ [logPanel s.log]

end Dashboard

end Gamebook
