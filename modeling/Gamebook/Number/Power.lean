/-
**Powers of two and ten.**

Floats are stored in base two and written in base ten.  The powers of the two bases are natural
numbers, and negative exponents are handled by multiplying the other side.

Main definitions:

* `twoTo`, `tenTo` — the powers.

Main results:

* `twoTo_succ`, `twoTo_add`, `twoTo_pos` — the laws of the powers of two;
* `tenTo_succ`, `tenTo_add`, `tenTo_pos` — the laws of the powers of ten.
-/

set_option autoImplicit false

namespace Gamebook

/-- A power of two. -/
def twoTo (n : Nat) : Nat := Nat.pow 2 n

/-- A power of ten. -/
def tenTo (n : Nat) : Nat := Nat.pow 10 n

@[simp] theorem twoTo_zero : twoTo 0 = 1 := rfl

theorem twoTo_succ (n : Nat) : twoTo (n + 1) = twoTo n * 2 := rfl

theorem twoTo_pos (n : Nat) : 0 < twoTo n := by
  induction n with
  | zero => decide
  | succ n ih => rw [twoTo_succ]; omega

theorem twoTo_add (m n : Nat) : twoTo (m + n) = twoTo m * twoTo n := by
  induction n with
  | zero => simp
  | succ n ih => rw [← Nat.add_assoc, twoTo_succ, twoTo_succ, ih, Nat.mul_assoc]

@[simp] theorem tenTo_zero : tenTo 0 = 1 := rfl

theorem tenTo_succ (n : Nat) : tenTo (n + 1) = tenTo n * 10 := rfl

theorem tenTo_pos (n : Nat) : 0 < tenTo n := by
  induction n with
  | zero => decide
  | succ n ih => rw [tenTo_succ]; omega

theorem tenTo_add (m n : Nat) : tenTo (m + n) = tenTo m * tenTo n := by
  induction n with
  | zero => simp
  | succ n ih => rw [← Nat.add_assoc, tenTo_succ, tenTo_succ, ih, Nat.mul_assoc]

end Gamebook
