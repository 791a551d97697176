import Mathlib.Algebra.Order.Ring.Nat
import Mathlib.Tactic.Common

/-!
# Fields of a word

A word has several fields: each is shifted to its place, and they are joined by `or`. Where the
fields do not overlap the word is their sum (`or_eq_add`, `or_or_eq_add`). A field is read from its
place with a mask of ones, which is a quotient and a remainder (`toNat_and_mask`, `toNat_field`).
With both rules, that a field is read as it was written is linear arithmetic.
-/

namespace Packing

variable {a b c j k : ℕ}

/-- A field above another one. -/
theorem or_eq_add (hb : b < 2 ^ k) (a : ℕ) : a * 2 ^ k ||| b = a * 2 ^ k + b := by
  rw [← Nat.shiftLeft_eq, Nat.shiftLeft_add_eq_or_of_lt hb]

/-- Two fields have as many bits as both together. -/
theorem add_lt (hb : b < 2 ^ j) (hc : c < 2 ^ k) : b * 2 ^ k + c < 2 ^ (j + k) :=
  calc b * 2 ^ k + c < (b + 1) * 2 ^ k := by rw [Nat.add_mul, Nat.one_mul]; omega
    _ ≤ 2 ^ j * 2 ^ k := Nat.mul_le_mul_right _ hb
    _ = 2 ^ (j + k) := (pow_add 2 j k).symm

/-- Three fields. -/
theorem or_or_eq_add (hb : b < 2 ^ j) (hc : c < 2 ^ k) (a : ℕ) :
    a * 2 ^ (j + k) ||| b * 2 ^ k ||| c = a * 2 ^ (j + k) + b * 2 ^ k + c := by
  rw [Nat.or_assoc, or_eq_add hc, or_eq_add (add_lt hb hc), Nat.add_assoc]

/-! ## Reading -/

variable {w : ℕ} {mask : BitVec w}

/-- A mask of ones takes the lowest bits. -/
theorem toNat_and_mask (v : BitVec w) (h : mask.toNat = 2 ^ k - 1) :
    (v &&& mask).toNat = v.toNat % 2 ^ k := by
  rw [BitVec.toNat_and, h, Nat.and_two_pow_sub_one_eq_mod]

/-- It takes a field that is shifted to them. -/
theorem toNat_field (v : BitVec w) (i : ℕ) (h : mask.toNat = 2 ^ k - 1) :
    ((v >>> i) &&& mask).toNat = v.toNat / 2 ^ i % 2 ^ k := by
  rw [toNat_and_mask _ h, BitVec.toNat_ushiftRight, Nat.shiftRight_eq_div_pow]

end Packing
