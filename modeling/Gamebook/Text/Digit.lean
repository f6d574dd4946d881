/-
**Decimal digits of all scripts.**

A decimal digit belongs to a block of ten consecutive code points with the values zero to nine.
A wider class also has superscripts, subscripts and enclosed digits, which look like digits but do
not form numerals.

Main definitions:

* `Text.digitValue?` — the value of a decimal digit;
* `Text.isDigit` — the decimal digits;
* `Text.isDigitLike` — the wider class;
* `Text.natOfDigits` — the value of a row of decimal digits.

Main result: `Text.isDigit_of_isDigit` — plain digits are decimal digits.
-/

import Gamebook.Text.Blank

set_option autoImplicit false

namespace Gamebook.Text

/-- The code points of the digit zero, one for each block of decimal digits. -/
def zeroDigits : List Nat :=
  [0x30, 0x660, 0x6f0, 0x7c0, 0x966, 0x9e6, 0xa66, 0xae6, 0xb66, 0xbe6, 0xc66, 0xce6, 0xd66,
   0xde6, 0xe50, 0xed0, 0xf20, 0x1040, 0x1090, 0x17e0, 0x1810, 0x1946, 0x19d0, 0x1a80, 0x1a90,
   0x1b50, 0x1bb0, 0x1c40, 0x1c50, 0xa620, 0xa8d0, 0xa900, 0xa9d0, 0xa9f0, 0xaa50, 0xabf0, 0xff10,
   0x104a0, 0x10d30, 0x11066, 0x110f0, 0x11136, 0x111d0, 0x112f0, 0x11450, 0x114d0, 0x11650,
   0x116c0, 0x11730, 0x118e0, 0x11950, 0x11c50, 0x11d50, 0x11da0, 0x16a60, 0x16ac0, 0x16b50,
   0x1d7ce, 0x1d7d8, 0x1d7e2, 0x1d7ec, 0x1d7f6, 0x1e140, 0x1e2f0, 0x1e950, 0x1fbf0]

/-- The value of a decimal digit. -/
def digitValue? (c : Char) : Option Nat :=
  (zeroDigits.find? fun z => z ≤ c.toNat && c.toNat < z + 10).map (c.toNat - ·)

/-- Whether a character is a decimal digit. -/
def isDigit (c : Char) : Bool := (digitValue? c).isSome

/-- The characters that look like a digit and are no decimal digit. -/
def otherDigitRanges : Ranges :=
  [(0xb2, 0xb3), (0xb9, 0xb9), (0x1369, 0x1371), (0x19da, 0x19da), (0x2070, 0x2070),
   (0x2074, 0x2079), (0x2080, 0x2089), (0x2460, 0x2468), (0x2474, 0x247c), (0x2488, 0x2490),
   (0x24ea, 0x24ea), (0x24f5, 0x24fd), (0x24ff, 0x24ff), (0x2776, 0x277e), (0x2780, 0x2788),
   (0x278a, 0x2792), (0x10a40, 0x10a43), (0x10e60, 0x10e68), (0x11052, 0x1105a),
   (0x1f100, 0x1f10a)]

/-- Whether a character looks like a digit. -/
def isDigitLike (c : Char) : Bool := isDigit c || otherDigitRanges.contains c

/-- The value of a row of decimal digits read after the value `n`; a character that is no decimal
digit counts as zero. -/
def natOfDigitsFrom (n : Nat) (cs : List Char) : Nat :=
  cs.foldl (fun n c => 10 * n + (digitValue? c).getD 0) n

/-- The value of a row of decimal digits. -/
def natOfDigits (cs : List Char) : Nat := natOfDigitsFrom 0 cs

/-- The digits of a natural number. -/
def digitsOfNat (n : Nat) : List Char := Nat.toDigits 10 n

@[simp] theorem natOfDigits_nil : natOfDigits [] = 0 := rfl

/-- The digits of plain text are decimal digits. -/
theorem isDigit_of_isDigit {c : Char} (h : c.isDigit) : isDigit c := by
  have h : 48 ≤ c.toNat ∧ c.toNat ≤ 57 := by
    simpa [Char.isDigit, UInt32.le_iff_toNat_le] using h
  have hz : zeroDigits.find? (fun z => z ≤ c.toNat && c.toNat < z + 10) = some 0x30 := by
    rw [zeroDigits, List.find?_cons_of_pos]
    simp only [Bool.and_eq_true, decide_eq_true_eq]
    omega
  rw [isDigit, digitValue?, hz]
  rfl

end Gamebook.Text
