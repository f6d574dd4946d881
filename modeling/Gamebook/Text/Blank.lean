/-
**Blanks, and cutting text at them.**

A class of characters is given by ranges of code points.  A blank is a white-space character of
Unicode or one of the four separator controls U+001C to U+001F.  The zero-width space and the
byte-order mark are no blanks.

Main definitions:

* `Text.Ranges` — ranges of code points, with `Text.Ranges.contains`;
* `Text.isBlank` — the blanks;
* `Text.strip`, `Text.stripRight` — text without the blanks around it, or behind it;
* `Text.words` — the runs of other characters between blanks.
-/

set_option autoImplicit false

namespace Gamebook.Text

/-! ### Classes of characters -/

/-- Ranges of code points, both ends included. -/
abbrev Ranges := List (Nat × Nat)

/-- Whether the character lies in one of the ranges. -/
def Ranges.contains (r : Ranges) (c : Char) : Bool :=
  r.any fun p => p.1 ≤ c.toNat && c.toNat ≤ p.2

/-- The code points of the blanks. -/
def blankRanges : Ranges :=
  [(0x9, 0xd), (0x1c, 0x20), (0x85, 0x85), (0xa0, 0xa0), (0x1680, 0x1680), (0x2000, 0x200a),
   (0x2028, 0x2029), (0x202f, 0x202f), (0x205f, 0x205f), (0x3000, 0x3000)]

/-- Whether a character is a blank. -/
def isBlank (c : Char) : Bool := blankRanges.contains c

/-! ### Cutting -/

/-- The characters without the blanks behind them. -/
def dropBlanksRight (cs : List Char) : List Char := (cs.reverse.dropWhile isBlank).reverse

/-- The characters without the blanks on either side. -/
def stripChars (cs : List Char) : List Char := dropBlanksRight (cs.dropWhile isBlank)

/-- The text without the blanks on either side. -/
def strip (s : String) : String := String.ofList (stripChars s.toList)

/-- The text without the blanks behind it. -/
def stripRight (s : String) : String := String.ofList (dropBlanksRight s.toList)

/-- The words of a text, given the word being read (in reverse). -/
def wordsFrom : List Char → List Char → List String
  | word, [] => if word.isEmpty then [] else [String.ofList word.reverse]
  | word, c :: cs =>
      if isBlank c then
        if word.isEmpty then wordsFrom [] cs else String.ofList word.reverse :: wordsFrom [] cs
      else wordsFrom (c :: word) cs

/-- The maximal runs of characters that are not blank. -/
def words (s : String) : List String := wordsFrom [] s.toList

@[simp] theorem stripChars_nil : stripChars [] = [] := rfl

end Gamebook.Text
