/-
**Numbers as text.**

Integers are written in decimal.  A float is written with the fewest digits that read back and
always shows that it is a float: positionally, with at least one digit on either side of the
point, while its leading digit stands between the fifth place behind the point and the sixteenth
before it, and with an exponent of at least two digits otherwise.

Main definitions:

* `Decimal.toText` — a positive decimal in that notation;
* `Number.toText` — the text of a number.
-/

import Gamebook.Number.Basic
import Gamebook.Decimal.Shortest
import Gamebook.Text.Digit

set_option autoImplicit false

namespace Gamebook

namespace Decimal

/-- The leading digit's power of ten from which on, and below which, the notation is positional. -/
def positionalFrom : Int := -4

@[inherit_doc positionalFrom]
def positionalBelow : Int := 16

/-- A row of zeros. -/
def zeros (n : Nat) : List Char := List.replicate n '0'

/-- Digits with the point behind the first `point` of them, filled up with zeros. -/
def positional (digits : List Char) (point : Int) : List Char :=
  if point ≤ 0 then '0' :: '.' :: (zeros (-point).toNat ++ digits)
  else if digits.length ≤ point then
    digits ++ zeros (point.toNat - digits.length) ++ ['.', '0']
  else digits.take point.toNat ++ '.' :: digits.drop point.toNat

/-- An exponent with its sign and at least two digits. -/
def exponentChars (e : Int) : List Char :=
  let ds := Text.digitsOfNat e.natAbs
  (if e < 0 then '-' else '+') :: (zeros (2 - ds.length) ++ ds)

/-- Digits with the point behind the first one, and an exponent. -/
def scientific (digits : List Char) (e : Int) : List Char :=
  let behind := match digits.drop 1 with
    | [] => []
    | ds => '.' :: ds
  digits.take 1 ++ behind ++ 'e' :: exponentChars e

/-- The text of a positive decimal. -/
def toChars (d : Decimal) : List Char :=
  let ds := Text.digitsOfNat d.digits
  let point := (ds.length : Int) + d.exponent
  let e := point - 1
  if positionalFrom ≤ e ∧ e < positionalBelow then positional ds point else scientific ds e

end Decimal

/-- The decimal digits of an integer with its sign. -/
def intChars (n : Int) : List Char :=
  if n < 0 then '-' :: Text.digitsOfNat n.natAbs else Text.digitsOfNat n.natAbs

/-- The text of a float; `nan` and `inf` stand for what is no finite number. -/
def floatChars (x : Float) : List Char :=
  match Binary64.ofFloat x with
  | .nan => ['n', 'a', 'n']
  | .infinite s => if s then ['-', 'i', 'n', 'f'] else ['i', 'n', 'f']
  | .finite s m e =>
      let body := if m = 0 then ['0', '.', '0'] else (Decimal.shortest m e).toChars
      if s then '-' :: body else body

/-- **The text of a number.** -/
def Number.toText : Number → String
  | .int n => String.ofList (intChars n)
  | .float x => String.ofList (floatChars x)
  | .nan _ => "nan"

end Gamebook
