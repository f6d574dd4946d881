/-
**Values read from JSON text.**

The grammar is that of JSON.  A number with a fraction or an exponent is a float and any other an
integer, which has to be within the digit limit.  Where a name occurs twice in an object the last
entry counts and keeps the place of the first.

A dialect says what a text may hold beside JSON and what of JSON it reads in another way: plain
JSON text knows the words `NaN`, `Infinity` and `-Infinity`; YAML text has no tabs between its
parts, and a number with an exponent but without a fraction or without a sign in the exponent is a
text.

Main definitions:

* `Json.Dialect`, `Json.Dialect.plain`, `Json.Dialect.yaml` — the dialects;
* `Json.NumberText` — a number as it is written, with its value in a dialect;
* `Json.readString`, `Json.readNumber`, `Json.readValue` — the parts of the grammar, each giving
  back the characters behind what was read;
* `Json.read` — a whole text.
-/

import Gamebook.Decimal.Numeral
import Gamebook.Text.DigitLimit
import Gamebook.Value.Basic

set_option autoImplicit false

namespace Gamebook.Json

/-! ### Dialects -/

/-- Why a text cannot be read. -/
inductive ReadError where
  | malformed
  | tooManyDigits
  deriving DecidableEq

/-- What a text may hold beside JSON, and what of JSON it reads in another way. -/
structure Dialect where
  /-- The words, and the values they stand for. -/
  words : List (List Char × Value)
  /-- The white space between the parts of a text. -/
  isSpace : Char → Bool
  /-- The characters that may occur in a text at all. -/
  allows : Char → Bool
  /-- Whether a number with an exponent needs a fraction and a sign in the exponent to be a
  number. -/
  strictExponents : Bool

/-- The words that all dialects know. -/
def commonWords : List (List Char × Value) :=
  [("null".toList, .null), ("true".toList, .bool true), ("false".toList, .bool false)]

/-- JSON with words for the floats that are no finite numbers. -/
def Dialect.plain : Dialect where
  words := commonWords
    ++ [("NaN".toList, .num (.nan .written)), ("Infinity".toList, .num (.infinity false)),
      ("-Infinity".toList, .num (.infinity true))]
  isSpace c := c = ' ' || c = '\t' || c = '\n' || c = '\r'
  allows _ := true
  strictExponents := false

/-- Whether a character may occur in YAML text. -/
def isYamlChar (c : Char) : Bool :=
  let n := c.toNat
  n = 9 || n = 10 || n = 13 || n = 0x85 || (0x20 ≤ n && n ≤ 0x7e) || (0xa0 ≤ n && n ≤ 0xfffd)
    || 0x10000 ≤ n

/-- The JSON part of YAML.  The words of plain JSON text for floats are texts. -/
def Dialect.yaml : Dialect where
  words := commonWords
    ++ (["NaN", "Infinity", "-Infinity"].map fun (s : String) => (s.toList, .str s))
  isSpace c := c = ' ' || c = '\n' || c = '\r'
  allows := isYamlChar
  strictExponents := true

/-- A part of the grammar that is missing makes a text malformed. -/
def orMalformed {α : Type} : Option α → Except ReadError α
  | some a => .ok a
  | none => .error .malformed

/-- The characters behind white space. -/
def skipSpace (d : Dialect) (cs : List Char) : List Char := cs.dropWhile d.isSpace

/-! ### Texts -/

/-- The value of a hexadecimal digit. -/
def hexValue? (c : Char) : Option Nat :=
  if '0' ≤ c ∧ c ≤ '9' then some (c.toNat - 48)
  else if 'a' ≤ c ∧ c ≤ 'f' then some (c.toNat - 87)
  else if 'A' ≤ c ∧ c ≤ 'F' then some (c.toNat - 55)
  else none

/-- The value of four hexadecimal digits. -/
def hexFour? (a b c d : Char) : Option Nat := do
  return (((← hexValue? a) * 16 + (← hexValue? b)) * 16 + (← hexValue? c)) * 16 + (← hexValue? d)

/-- The character that a letter behind a backslash stands for. -/
def escaped? (c : Char) : Option Char :=
  if c = '"' ∨ c = '\\' ∨ c = '/' then some c
  else if c = 'b' then some (Char.ofNat 8)
  else if c = 'f' then some (Char.ofNat 12)
  else if c = 'n' then some '\n'
  else if c = 'r' then some '\r'
  else if c = 't' then some '\t'
  else none

/-- Whether a code unit is the first or the second half of a pair. -/
def isHighHalf (n : Nat) : Bool := 0xd800 ≤ n && n < 0xdc00

@[inherit_doc isHighHalf]
def isLowHalf (n : Nat) : Bool := 0xdc00 ≤ n && n < 0xe000

/-- The code point of a pair of code units. -/
def pairValue (high low : Nat) : Nat := 0x10000 + (high - 0xd800) * 0x400 + (low - 0xdc00)

/-- The character of a code unit; the replacement character for half a pair. -/
def unitChar (n : Nat) : Char :=
  if isHighHalf n || isLowHalf n then Char.ofNat 0xfffd else Char.ofNat n

/-- The code units of a text up to its closing quote.  Control characters are refused. -/
def readUnits : List Char → Option (List Nat × List Char)
  | [] => none
  | '"' :: cs => some ([], cs)
  | '\\' :: 'u' :: a :: b :: c :: d :: cs =>
      match hexFour? a b c d with
      | none => none
      | some n => (readUnits cs).map fun r => (n :: r.1, r.2)
  | '\\' :: c :: cs =>
      match escaped? c with
      | none => none
      | some e => (readUnits cs).map fun r => (e.toNat :: r.1, r.2)
  | c :: cs =>
      if c.toNat < 0x20 ∨ c = '\\' then none
      else (readUnits cs).map fun r => (c.toNat :: r.1, r.2)

/-- The characters of some code units. -/
def joinPairs : List Nat → List Char
  | [] => []
  | [n] => [unitChar n]
  | n :: m :: ns =>
      if isHighHalf n && isLowHalf m then Char.ofNat (pairValue n m) :: joinPairs ns
      else unitChar n :: joinPairs (m :: ns)

/-- The characters of a text up to its closing quote. -/
def readString (cs : List Char) : Option (List Char × List Char) :=
  (readUnits cs).map fun r => (joinPairs r.1, r.2)

/-! ### Numbers -/

/-- The decimal digits of JSON. -/
def isDigit (c : Char) : Bool := '0' ≤ c && c ≤ '9'

/-- The digits before the point: a zero alone, or digits that do not start with one. -/
def readWhole : List Char → Option (List Char × List Char)
  | '0' :: cs => some (['0'], cs)
  | cs =>
      let ds := cs.takeWhile isDigit
      if ds.isEmpty then none else some (ds, cs.dropWhile isDigit)

/-- The digits behind the point; without digits there is no point to read. -/
def readFraction (cs : List Char) : List Char × List Char :=
  match cs with
  | '.' :: rest =>
      let ds := rest.takeWhile isDigit
      if ds.isEmpty then ([], cs) else (ds, rest.dropWhile isDigit)
  | _ => ([], cs)

/-- The exponent: a letter, an optional sign and digits; without digits there is none. -/
def readExponent (cs : List Char) : List Char × List Char :=
  match cs with
  | [] => ([], cs)
  | c :: rest =>
      if c = 'e' ∨ c = 'E' then
        let sign := rest.take (rest.length - (Numeral.takeSign rest).2.length)
        let rest := (Numeral.takeSign rest).2
        let ds := rest.takeWhile isDigit
        if ds.isEmpty then ([], cs) else (c :: sign ++ ds, rest.dropWhile isDigit)
      else ([], cs)

/-- A number as it is written: its sign, the digits before and behind the point, and the exponent
with its letter. -/
structure NumberText where
  negative : Bool
  whole : List Char
  fraction : List Char
  exponent : List Char

namespace NumberText

/-- The characters of a number. -/
def chars (t : NumberText) : List Char :=
  (if t.negative then ['-'] else []) ++ t.whole
    ++ (if t.fraction.isEmpty then [] else '.' :: t.fraction) ++ t.exponent

/-- Whether the exponent has a sign. -/
def hasSignedExponent (t : NumberText) : Bool :=
  match t.exponent with
  | _ :: c :: _ => c = '-' || c = '+'
  | _ => false

/-- Whether a number is a text in a dialect. -/
def isText (d : Dialect) (t : NumberText) : Bool :=
  d.strictExponents && !t.exponent.isEmpty && (t.fraction.isEmpty || !t.hasSignedExponent)

/-- The float of a number. -/
def toFloat (t : NumberText) : Float :=
  let x := Numeral.toFloat ⟨t.whole, t.fraction, (Numeral.takeExponent t.exponent).1⟩
  if t.negative then -x else x

/-- The value of a number in a dialect. -/
def value (d : Dialect) (limit : DigitLimit) (t : NumberText) : Except ReadError Value :=
  if t.fraction.isEmpty && t.exponent.isEmpty then
    if limit.admits t.whole.length then
      .ok (.int (Binary64.signed t.negative (Text.natOfDigits t.whole)))
    else .error .tooManyDigits
  else if t.isText d then .ok (.str (String.ofList t.chars))
  else .ok (.float t.toFloat)

end NumberText

/-- A number without its sign. -/
def readMagnitude (negative : Bool) (cs : List Char) : Option (NumberText × List Char) := do
  let (whole, rest) ← readWhole cs
  let (fraction, rest) := readFraction rest
  let (exponent, rest) := readExponent rest
  return (⟨negative, whole, fraction, exponent⟩, rest)

/-- A number. -/
def readNumber : List Char → Option (NumberText × List Char)
  | '-' :: cs => readMagnitude true cs
  | cs => readMagnitude false cs

/-! ### Values -/

/-- A word at the start of some characters. -/
def readWord (d : Dialect) (cs : List Char) : Option (Value × List Char) :=
  d.words.findSome? fun c => if c.1.isPrefixOf cs then some (c.2, cs.drop c.1.length) else none

/-- A word or a number at the start of some characters. -/
def readPlain (d : Dialect) (limit : DigitLimit) (cs : List Char) :
    Except ReadError (Value × List Char) :=
  match readWord d cs with
  | some r => .ok r
  | none => do
      let (t, rest) ← orMalformed (readNumber cs)
      return (← t.value d limit, rest)

mutual

/-- A value, with a bound on the number of steps. -/
def readValue (d : Dialect) (limit : DigitLimit) :
    Nat → List Char → Except ReadError (Value × List Char)
  | 0, _ => .error .malformed
  | n + 1, cs =>
      match cs with
      | '"' :: cs => do
          let (s, rest) ← orMalformed (readString cs)
          return (.str (String.ofList s), rest)
      | '[' :: cs =>
          match skipSpace d cs with
          | ']' :: cs => .ok (.list [], cs)
          | cs => do
              let (items, rest) ← readItems d limit n cs
              return (.list items, rest)
      | '\x7b' :: cs =>
          match skipSpace d cs with
          | '\x7d' :: cs => .ok (.obj [], cs)
          | cs => do
              let (fields, rest) ← readFields d limit n [] cs
              return (.obj fields, rest)
      | cs => readPlain d limit cs

/-- The elements of a list up to its closing bracket; there is at least one. -/
def readItems (d : Dialect) (limit : DigitLimit) :
    Nat → List Char → Except ReadError (List Value × List Char)
  | 0, _ => .error .malformed
  | n + 1, cs => do
      let (v, cs) ← readValue d limit n cs
      match skipSpace d cs with
      | ']' :: cs => return ([v], cs)
      | ',' :: cs => do
          let (vs, rest) ← readItems d limit n (skipSpace d cs)
          return (v :: vs, rest)
      | _ => throw .malformed

/-- The fields of an object up to its closing brace, after those already read; there is at least
one more. -/
def readFields (d : Dialect) (limit : DigitLimit) :
    Nat → Fields Value → List Char → Except ReadError (Fields Value × List Char)
  | 0, _, _ => .error .malformed
  | n + 1, fs, cs =>
      match cs with
      | '"' :: cs => do
          let (k, cs) ← orMalformed (readString cs)
          match skipSpace d cs with
          | ':' :: cs => do
              let (v, cs) ← readValue d limit n (skipSpace d cs)
              let fs := Fields.set fs (.text (String.ofList k)) v
              match skipSpace d cs with
              | '\x7d' :: cs => return (fs, cs)
              | ',' :: cs => readFields d limit n fs (skipSpace d cs)
              | _ => throw .malformed
          | _ => throw .malformed
      | _ => .error .malformed

end

/-- **The value of a whole text**, white space around it allowed.  Every step but the first of a
part reads a character, so twice the length bounds their number. -/
def read (d : Dialect) (limit : DigitLimit) (s : String) : Except ReadError Value := do
  let cs := s.toList
  if !cs.all d.allows then throw .malformed
  let (v, rest) ← readValue d limit (2 * cs.length + 1) (skipSpace d cs)
  if (skipSpace d rest).isEmpty then return v else throw .malformed

end Gamebook.Json
