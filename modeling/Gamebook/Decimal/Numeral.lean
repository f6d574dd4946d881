/-
**Reading numbers from text.**

A numeral has digits before and behind a point and perhaps an exponent; its value is the nearest
float.  A free-standing number may also carry a sign, single underscores between digits, and the
words for infinity and for what is no number, in any case.

Main definitions:

* `Numeral` — the parts of a numeral;
* `Numeral.toFloat` — its value;
* `Numeral.take` — the longest numeral at the start of some characters;
* `readFloat?` — a whole text as a float.
-/

import Gamebook.Number.Binary64
import Gamebook.Text.Blank
import Gamebook.Text.Digit

set_option autoImplicit false

namespace Gamebook

/-- The digits of a numeral before and behind the point, and its exponent. -/
structure Numeral where
  whole : List Char
  fraction : List Char
  exponent : Int

namespace Numeral

/-! ### Value -/

/-- The powers of ten between which a decimal can be a finite float other than zero. -/
def greatestOrder : Int := 310

@[inherit_doc greatestOrder]
def leastOrder : Int := -330

/-- The float nearest to `digits * 10 ^ exponent`.  A power of ten far beyond the range of floats
is not computed. -/
def decimalToFloat (digits : Nat) (exponent : Int) : Float :=
  let order := ((Text.digitsOfNat digits).length : Int) + exponent
  if digits = 0 ∨ order < leastOrder then Binary64.withSign false 0
  else if greatestOrder < order then Binary64.withSign false Binary64.infinityBits
  else if 0 ≤ exponent then Binary64.nearest false (digits * tenTo exponent.toNat) 1
  else Binary64.nearest false digits (tenTo (-exponent).toNat)

/-- The value of a numeral. -/
def toFloat (n : Numeral) : Float :=
  decimalToFloat (Text.natOfDigits (n.whole ++ n.fraction)) (n.exponent - n.fraction.length)

/-! ### Shape -/

/-- An optional sign: whether it is a minus, and the characters behind it. -/
def takeSign : List Char → Bool × List Char
  | '-' :: cs => (true, cs)
  | '+' :: cs => (false, cs)
  | cs => (false, cs)

/-- An exponent at the start of some characters: a letter, an optional sign and digits.  Without
digits there is no exponent, and nothing is taken. -/
def takeExponent (cs : List Char) : Int × List Char :=
  match cs with
  | c :: rest =>
      if c = 'e' ∨ c = 'E' then
        let (negative, rest) := takeSign rest
        let digits := rest.takeWhile Text.isDigit
        if digits.isEmpty then (0, cs)
        else
          (Binary64.signed negative (Text.natOfDigits digits), rest.dropWhile Text.isDigit)
      else (0, cs)
  | [] => (0, cs)

/-- The digits behind a point at the start of some characters; nothing where there is no point. -/
def takeFraction : List Char → List Char × List Char
  | '.' :: cs => (cs.takeWhile Text.isDigit, cs.dropWhile Text.isDigit)
  | cs => ([], cs)

/-- The longest numeral at the start of some characters, and the characters behind it.  It has a
digit before or behind the point. -/
def take (cs : List Char) : Option (Numeral × List Char) :=
  let whole := cs.takeWhile Text.isDigit
  let (fraction, rest) := takeFraction (cs.dropWhile Text.isDigit)
  if whole.isEmpty && fraction.isEmpty then none
  else
    let (exponent, rest) := takeExponent rest
    some (⟨whole, fraction, exponent⟩, rest)

end Numeral

/-! ### Free-standing numbers -/

/-- The characters without the underscores between digits; `none` when an underscore stands
elsewhere. -/
def dropUnderscores? : List Char → Option (List Char)
  | [] => some []
  | [c] => if c = '_' then none else some [c]
  | c :: d :: cs =>
      if c = '_' then none
      else if d = '_' then
        match cs with
        | e :: _ =>
            if Text.isDigit c && Text.isDigit e then (dropUnderscores? cs).map (c :: ·) else none
        | [] => none
      else (dropUnderscores? (d :: cs)).map (c :: ·)

/-- The words for what is no finite number. -/
def specialFloat? (negative : Bool) (cs : List Char) : Option Float :=
  let word := String.ofList (cs.map Char.toLower)
  if word = "inf" ∨ word = "infinity" then
    some (Binary64.withSign negative Binary64.infinityBits)
  else if word = "nan" then some Binary64.quietNaN
  else none

/-- **A whole text as a float**, blanks around it ignored. -/
def readFloat? (s : String) : Option Float :=
  let (negative, cs) := Numeral.takeSign (Text.stripChars s.toList)
  match specialFloat? negative cs with
  | some x => some x
  | none =>
      match (dropUnderscores? cs).bind Numeral.take with
      | some (n, []) => some (if negative then -n.toFloat else n.toFloat)
      | _ => none

end Gamebook
