import Mathlib.Algebra.Order.Ring.Nat
import Mathlib.Tactic.Common

/-!
# Significands

A number format with a significand of `k` bits and an exponent keeps the `k` most significant bits
of a number: the bits after them are shifted out, their number is the exponent, and shifting back
leaves zeros in their place. This file fixes what is shifted out (`dropped`) and what is left of the
number (`roundDown`), whatever `k` is.

Encoders find the exponent by a loop that halves the number until it fits. `normalize_eq` is the
rule for every such loop.
-/

namespace Significand

variable {k n : ℕ}

/-- The number of bits after the first `k`. -/
def dropped (k n : ℕ) : ℕ := n.log2 + 1 - k

/-- A number rounded down to its `k` most significant bits. -/
def roundDown (k n : ℕ) : ℕ := n / 2 ^ dropped k n * 2 ^ dropped k n

theorem dropped_of_lt (hk : 0 < k) (h : n < 2 ^ k) : dropped k n = 0 := by
  rw [dropped]
  by_cases hzero : n = 0
  · rw [hzero, Nat.log2_zero]
    omega
  · have hlog := (Nat.log2_lt hzero).mpr h
    omega

/-- Half of a number has one bit less to drop. -/
theorem dropped_half (hk : 0 < k) (h : 2 ^ k ≤ n) : dropped k n = dropped k (n / 2) + 1 := by
  have hpos : 0 < 2 ^ k := Nat.two_pow_pos k
  have htwo : 2 ≤ n := (Nat.le_self_pow hk.ne' 2).trans h
  have hlog : k ≤ n.log2 := (Nat.le_log2 (by omega)).mpr h
  rw [dropped, dropped, Nat.log2_def n, if_pos htwo]
  rw [Nat.log2_def n, if_pos htwo] at hlog
  omega

theorem dropped_le {j : ℕ} (hk : 0 < k) (h : n < 2 ^ (k + j)) : dropped k n ≤ j := by
  rw [dropped]
  by_cases hzero : n = 0
  · rw [hzero, Nat.log2_zero]
    omega
  · have hlog := (Nat.log2_lt hzero).mpr h
    omega

/-- What is left has `k` bits. -/
theorem div_dropped_lt (k n : ℕ) : n / 2 ^ dropped k n < 2 ^ k := by
  rw [Nat.div_lt_iff_lt_mul (Nat.two_pow_pos _), ← pow_add]
  refine (Nat.lt_log2_self).trans_le (Nat.pow_le_pow_right (by decide) ?_)
  rw [dropped]
  omega

theorem roundDown_le (k n : ℕ) : roundDown k n ≤ n := Nat.div_mul_le_self n _

theorem roundDown_of_lt (hk : 0 < k) (h : n < 2 ^ k) : roundDown k n = n := by
  rw [roundDown, dropped_of_lt hk h, pow_zero, Nat.div_one, Nat.mul_one]

/-- A number of `k` bits, and zeros after them, is not changed. -/
theorem roundDown_of_dvd {j : ℕ} (hk : 0 < k) (hlt : n < 2 ^ (k + j)) (hdvd : 2 ^ j ∣ n) :
    roundDown k n = n :=
  Nat.div_mul_cancel ((pow_dvd_pow 2 (dropped_le hk hlt)).trans hdvd)

/-! ## In machine words -/

variable {w v : ℕ} {m : BitVec w}

/-- A significand that is shifted to the left and fits. -/
theorem shiftLeft_toNat_of_lt {j : ℕ} (h : m.toNat * 2 ^ j < 2 ^ w) :
    (m <<< j).toNat = m.toNat * 2 ^ j := by
  rw [BitVec.toNat_shiftLeft, Nat.shiftLeft_eq, Nat.mod_eq_of_lt h]

/-- It is found again. -/
theorem shiftLeft_shiftRight_of_lt {j : ℕ} (h : m.toNat * 2 ^ j < 2 ^ w) : m <<< j >>> j = m := by
  apply BitVec.eq_of_toNat_eq
  rw [BitVec.toNat_ushiftRight, shiftLeft_toNat_of_lt h, Nat.shiftRight_eq_div_pow,
    Nat.mul_div_cancel _ (Nat.two_pow_pos j)]

/-- **The search for the exponent.** A loop that halves a number, and counts, until it fits into `k`
bits, drops the bits after the first `k`. -/
theorem normalize_eq {loop : BitVec w → BitVec v → BitVec w × BitVec v} (hk : 0 < k)
    (hloop : ∀ m e, loop m e = if 2 ^ k ≤ m.toNat then loop (m >>> 1) (e + 1) else (m, e))
    (m : BitVec w) (e : BitVec v) :
    loop m e = (m >>> dropped k m.toNat, e + BitVec.ofNat v (dropped k m.toNat)) := by
  induction hn : m.toNat using Nat.strongRecOn generalizing m e with
  | ind n ih =>
    have hhalf : (m >>> 1).toNat = n / 2 := by
      rw [BitVec.toNat_ushiftRight, Nat.shiftRight_eq_div_pow, hn, pow_one]
    rw [hloop, hn]
    by_cases hlarge : 2 ^ k ≤ n
    · have hpos : 0 < n := (Nat.two_pow_pos k).trans_le hlarge
      rw [if_pos hlarge, ih (n / 2) (by omega) _ _ hhalf, dropped_half hk hlarge,
        ← BitVec.shiftRight_add, Nat.add_comm 1, BitVec.ofNat_add, BitVec.add_assoc,
        BitVec.add_comm (BitVec.ofNat v (dropped k (n / 2)))]
      rfl
    · rw [if_neg hlarge, dropped_of_lt hk (Nat.lt_of_not_le hlarge), BitVec.ushiftRight_zero]
      simp

/-- The significand and the exponent that are found give the number rounded down. -/
theorem shiftRight_shiftLeft_dropped (k : ℕ) (m : BitVec w) :
    ((m >>> dropped k m.toNat) <<< dropped k m.toNat).toNat = roundDown k m.toNat ∧
      (m >>> dropped k m.toNat) <<< dropped k m.toNat >>> dropped k m.toNat =
        m >>> dropped k m.toNat := by
  have hright : (m >>> dropped k m.toNat).toNat = m.toNat / 2 ^ dropped k m.toNat := by
    rw [BitVec.toNat_ushiftRight, Nat.shiftRight_eq_div_pow]
  have hfits : (m >>> dropped k m.toNat).toNat * 2 ^ dropped k m.toNat < 2 ^ w := by
    rw [hright]
    exact (roundDown_le k m.toNat).trans_lt m.isLt
  refine ⟨?_, shiftLeft_shiftRight_of_lt hfits⟩
  rw [shiftLeft_toNat_of_lt hfits, hright, roundDown]

end Significand
