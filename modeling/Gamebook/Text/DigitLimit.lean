/-
**How many digits an integer may have in text.**

Integers have any size, but an integer with very many digits is neither read from text nor written
as text.  The limit is a setting: the standard one is 4300 digits, and there may be none at all.  It
counts digits as they are written, so zeros in front count and the sign does not.

Main definitions:

* `DigitLimit`, `DigitLimit.standard` — the limit;
* `DigitLimit.admits`, `DigitLimit.admitsInt` — whether a number of digits, or an integer, is within
  it;
* `DigitLimit.readNat` — the number of a row of digits within the limit.

Main results:

* `DigitLimit.admits_none`, `DigitLimit.admitsInt_none` — without a limit everything is within it.
-/

import Gamebook.Fault
import Gamebook.Number.Power
import Gamebook.Text.Digit

set_option autoImplicit false

namespace Gamebook

/-- The greatest number of digits of an integer in text, if there is one. -/
abbrev DigitLimit := Option Nat

namespace DigitLimit

/-- The limit where nothing else is set. -/
def standard : DigitLimit := some 4300

/-- Whether a number of digits is within the limit. -/
def admits (limit : DigitLimit) (digits : Nat) : Bool := limit.all (digits ≤ ·)

/-- Whether an integer is written with a number of digits within the limit. -/
def admitsInt (limit : DigitLimit) (n : Int) : Bool := limit.all fun d => n.natAbs < tenTo d

/-- The number of a row of digits, which has to be within the limit. -/
def readNat (limit : DigitLimit) (digits : List Char) : Except Fault Nat :=
  if limit.admits digits.length then .ok (Text.natOfDigits digits) else .error .tooManyDigits

@[simp] theorem admits_none (digits : Nat) : admits none digits = true := rfl

@[simp] theorem admitsInt_none (n : Int) : admitsInt none n = true := rfl

end DigitLimit

end Gamebook
