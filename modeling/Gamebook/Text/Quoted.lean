/-
**Quoted text.**

Messages show a text between quotes so that every character can be told.  The quote is `'`, or `"`
when the text holds the first and not the second.  A backslash and the quote in use get a backslash
in front, the line ends and the tab have letters of their own, and every other character that is
not printable is written by its code point.

Main definitions:

* `Text.quoteFor` — the quote a text is written in;
* `Text.quoted` — the quoted text.
-/

import Gamebook.Text.Printable

set_option autoImplicit false

namespace Gamebook.Text

/-- A number in hexadecimal with at least the given number of digits. -/
def hex (width n : Nat) : List Char :=
  let ds := Nat.toDigits 16 n
  List.replicate (width - ds.length) '0' ++ ds

/-- A character by its code point, in the shortest of the three forms that can hold it. -/
def codePointEscape (c : Char) : List Char :=
  let n := c.toNat
  if n < 0x100 then '\\' :: 'x' :: hex 2 n
  else if n < 0x10000 then '\\' :: 'u' :: hex 4 n
  else '\\' :: 'U' :: hex 8 n

/-- A character between quotes. -/
def quotedChar (quote c : Char) : List Char :=
  if c = quote ∨ c = '\\' then ['\\', c]
  else if c = '\n' then ['\\', 'n']
  else if c = '\r' then ['\\', 'r']
  else if c = '\t' then ['\\', 't']
  else if isPrintable c then [c]
  else codePointEscape c

/-- The quote for a text: `"` where `'` occurs and `"` does not, and `'` otherwise. -/
def quoteFor (cs : List Char) : Char :=
  if cs.contains '\'' && !cs.contains '"' then '"' else '\''

/-- A text between quotes. -/
def quoted (s : String) : String :=
  let q := quoteFor s.toList
  String.ofList (q :: s.toList.flatMap (quotedChar q) ++ [q])

end Gamebook.Text
