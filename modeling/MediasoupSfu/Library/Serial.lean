import Mathlib.Algebra.Order.Ring.Nat
import Mathlib.Tactic.Common

/-!
# Serial numbers

Counters of a fixed width `w` live on a circle of `2 ^ w` values, so "greater" only makes sense
relative to an origin. This file fixes the vocabulary: `pos o x` is the number of steps one walks
upwards from `o` to reach `x`, and a *window* is a set of values whose positions from one origin
stay below a bound.

Everything reduces to one fact: the position of `y` seen from `x` is the difference of their
positions seen from any third origin, wrapped at most once (`pos_of_le`, `pos_of_lt`). The
comparison used by protocols, *half-range precedence*, therefore agrees with the order of positions
in every window of at most half the circle (`precedes_iff_of_window`).
-/

namespace Serial

variable {w : ℕ} {o x y z : BitVec w}

/-- The number of upward steps from `o` to `x`. -/
def pos (o x : BitVec w) : ℕ := (x - o).toNat

theorem pos_lt (o x : BitVec w) : pos o x < 2 ^ w := (x - o).isLt

@[simp] theorem pos_self (o : BitVec w) : pos o o = 0 := by
  simp [pos]

@[simp] theorem pos_zero_left (x : BitVec w) : pos 0 x = x.toNat := by
  simp [pos]

/-- A difference of machine words wraps at most once. -/
theorem toNat_sub_cases (x y : BitVec w) :
    (y.toNat ≤ x.toNat ∧ (x - y).toNat = x.toNat - y.toNat) ∨
      (x.toNat < y.toNat ∧ (x - y).toNat = 2 ^ w - (y.toNat - x.toNat)) := by
  rcases Nat.lt_or_ge x.toNat y.toNat with h | h
  · exact Or.inr ⟨h, BitVec.toNat_sub_of_lt (BitVec.lt_def.mpr h)⟩
  · exact Or.inl ⟨h, BitVec.toNat_sub_of_le (BitVec.le_def.mpr h)⟩

theorem pos_of_le (h : pos o x ≤ pos o y) : pos x y = pos o y - pos o x := by
  have hx := x.isLt
  have hy := y.isLt
  have ho := o.isLt
  unfold pos at *
  rcases toNat_sub_cases x o with ⟨_, h1⟩ | ⟨_, h1⟩ <;>
    rcases toNat_sub_cases y o with ⟨_, h2⟩ | ⟨_, h2⟩ <;>
      rcases toNat_sub_cases y x with ⟨_, h3⟩ | ⟨_, h3⟩ <;> omega

theorem pos_of_lt (h : pos o y < pos o x) : pos x y = 2 ^ w - (pos o x - pos o y) := by
  have hx := x.isLt
  have hy := y.isLt
  have ho := o.isLt
  unfold pos at *
  rcases toNat_sub_cases x o with ⟨_, h1⟩ | ⟨_, h1⟩ <;>
    rcases toNat_sub_cases y o with ⟨_, h2⟩ | ⟨_, h2⟩ <;>
      rcases toNat_sub_cases y x with ⟨_, h3⟩ | ⟨_, h3⟩ <;> omega

theorem pos_inj : pos o x = pos o y ↔ x = y := by
  constructor
  · intro h
    have hxy : x - o = y - o := BitVec.eq_of_toNat_eq h
    rw [← BitVec.sub_add_cancel x o, hxy, BitVec.sub_add_cancel]
  · rintro rfl
    rfl

theorem pos_eq_zero : pos o x = 0 ↔ x = o := by
  rw [← pos_self o, pos_inj]

theorem pos_pos_of_ne (h : x ≠ o) : 0 < pos o x :=
  Nat.pos_of_ne_zero fun h0 ↦ h (pos_eq_zero.mp h0)

/-- Walking `n` steps up from `o` lands at position `n`, as long as `n` does not go round. -/
theorem pos_add_ofNat {n : ℕ} (h : n < 2 ^ w) : pos o (o + BitVec.ofNat w n) = n := by
  have hsub : o + BitVec.ofNat w n - o = BitVec.ofNat w n := by
    rw [BitVec.add_comm, BitVec.add_sub_cancel]
  rw [pos, hsub, BitVec.toNat_ofNat, Nat.mod_eq_of_lt h]

theorem add_ofNat_pos (o x : BitVec w) : o + BitVec.ofNat w (pos o x) = x := by
  rw [pos, BitVec.ofNat_toNat, BitVec.setWidth_eq, BitVec.add_comm, BitVec.sub_add_cancel]

/-- Changing the origin shifts positions that do not wrap. -/
theorem pos_add_pos (h : pos o x + pos x y < 2 ^ w) : pos o y = pos o x + pos x y := by
  have hx := pos_lt o x
  have hy := pos_lt o y
  rcases Nat.lt_or_ge (pos o y) (pos o x) with hlt | hle
  · have := pos_of_lt hlt
    omega
  · have := pos_of_le hle
    omega

/-- Wrapped numbers keep their distance, as long as it does not go round. -/
theorem pos_ofNat_ofNat {a b : ℕ} (hab : a ≤ b) (h : b < a + 2 ^ w) :
    pos (BitVec.ofNat w a) (BitVec.ofNat w b) = b - a := by
  have hb : BitVec.ofNat w b = BitVec.ofNat w a + BitVec.ofNat w (b - a) := by
    rw [← BitVec.ofNat_add, Nat.add_sub_cancel' hab]
  rw [hb, pos_add_ofNat (by omega)]

/-- A count that goes on where another one stopped. -/
theorem add_ofNat_add_one (x : BitVec w) {a i : ℕ} (h : a ≤ i) :
    x + BitVec.ofNat w a + 1 + BitVec.ofNat w (i - a) = x + 1 + BitVec.ofNat w i := by
  have hswap : x + BitVec.ofNat w a + 1 = x + 1 + BitVec.ofNat w a := by
    rw [BitVec.add_assoc, BitVec.add_comm _ 1, ← BitVec.add_assoc]
  rw [hswap, BitVec.add_assoc, ← BitVec.ofNat_add, Nat.add_sub_cancel' h]

theorem sub_sub_eq (x y z : BitVec w) : x - y - z = x - (y + z) := by
  grind

theorem sub_sub_sub_eq (x y z : BitVec w) : x - z - (y - z) = x - y := by
  grind

/-! ## Circular scans -/

/-- The first value from `x` on for which `used` holds, if it is among the next `n` ones. -/
def scan (used : BitVec w → Bool) : ℕ → BitVec w → Option (BitVec w)
  | 0, _ => none
  | n + 1, x => if used x then some x else scan used n (x + 1)

theorem pos_succ_of_ne (h : y ≠ x) : pos x y = pos (x + 1) y + 1 := by
  have hpos := pos_pos_of_ne h
  have hlt := pos_lt x y
  have hone : pos x (x + 1) = 1 := pos_add_ofNat (n := 1) (o := x) (by omega)
  have hle : pos x (x + 1) ≤ pos x y := by omega
  have := pos_of_le hle
  omega

/-- One step back is all the way round, less one step. -/
theorem pos_succ_self (hw : 0 < w) (x : BitVec w) : pos (x + 1) x = 2 ^ w - 1 := by
  have hone : pos x (x + 1) = 1 := pos_add_ofNat (n := 1) (o := x) (Nat.one_lt_two_pow hw.ne')
  have hback := pos_of_lt (o := x) (x := x + 1) (y := x) (by rw [pos_self]; omega)
  rw [pos_self, hone] at hback
  exact hback

/-- **A scan finds the nearest value.** Nothing in use lies between the start and the result, and
without a result nothing in use lies in the range. -/
theorem scan_spec (used : BitVec w → Bool) (n : ℕ) (x : BitVec w) :
    match scan used n x with
    | none => ∀ y, used y = true → n ≤ pos x y
    | some y => used y = true ∧ ∀ z, used z = true → pos x y ≤ pos x z := by
  induction n generalizing x with
  | zero => exact fun _ _ ↦ Nat.zero_le _
  | succ n ih =>
    rw [scan]
    by_cases hx : used x = true
    · rw [if_pos hx]
      exact ⟨hx, fun z _ ↦ by rw [pos_self]; exact Nat.zero_le _⟩
    · rw [if_neg hx]
      have hne : ∀ {y}, used y = true → y ≠ x := by
        rintro y hy rfl
        exact hx hy
      have hrest := ih (x + 1)
      cases hscan : scan used n (x + 1) with
      | none =>
        rw [hscan] at hrest
        intro y hy
        have := hrest y hy
        rw [pos_succ_of_ne (hne hy)]
        omega
      | some y =>
        rw [hscan] at hrest
        refine ⟨hrest.1, fun z hz ↦ ?_⟩
        rw [pos_succ_of_ne (hne hrest.1), pos_succ_of_ne (hne hz)]
        exact Nat.succ_le_succ (hrest.2 z hz)

/-- A scan over the whole circle finds a value if there is one. -/
theorem exists_scan (used : BitVec w → Bool) (h : used y = true) (x : BitVec w) :
    ∃ z, scan used (2 ^ w) x = some z := by
  have hspec := scan_spec used (2 ^ w) x
  cases hscan : scan used (2 ^ w) x with
  | none =>
    rw [hscan] at hspec
    exact absurd (hspec y h) (Nat.not_le_of_lt (pos_lt x y))
  | some z => exact ⟨z, rfl⟩

/-! ## Unwrapping -/

/-- The number nearest to `m` that `x` may stand for: `x` is taken to be less than half the circle
ahead of the wrapped `m`, or at most half the circle behind it. -/
def unwrap (m : ℤ) (x : BitVec w) : ℤ := m + (x - BitVec.ofInt w m).toInt

/-- An unwrapped number wraps to where it comes from. -/
theorem ofInt_unwrap (m : ℤ) (x : BitVec w) : BitVec.ofInt w (unwrap m x) = x := by
  rw [unwrap, BitVec.ofInt_add, BitVec.ofInt_toInt, BitVec.add_comm, BitVec.sub_add_cancel]

theorem ofInt_sub (a b : ℤ) : BitVec.ofInt w (a - b) = BitVec.ofInt w a - BitVec.ofInt w b := by
  rw [Int.sub_eq_add_neg, BitVec.ofInt_add, BitVec.ofInt_neg, BitVec.sub_eq_add_neg]

theorem unwrap_of_lt {m : ℤ} (h : 2 * pos (BitVec.ofInt w m) x < 2 ^ w) :
    unwrap m x = m + pos (BitVec.ofInt w m) x := by
  rw [unwrap, BitVec.toInt_eq_toNat_cond]
  exact congrArg (m + ·) (if_pos h)

theorem unwrap_of_le {m : ℤ} (h : 2 ^ w ≤ 2 * pos (BitVec.ofInt w m) x) :
    unwrap m x = m + pos (BitVec.ofInt w m) x - (2 ^ w : ℕ) := by
  rw [unwrap, BitVec.toInt_eq_toNat_cond, add_sub_assoc]
  exact congrArg (m + ·) (if_neg (Nat.not_lt.mpr h))

/-! ## Half-range precedence -/

/-- `a` precedes `b` when `b` is reached from `a` by a nonzero walk of less than half the circle. -/
def Precedes (a b : BitVec w) : Prop := 0 < pos a b ∧ pos a b < 2 ^ (w - 1)

theorem two_pow_pred (hw : 0 < w) : 2 ^ w = 2 * 2 ^ (w - 1) := by
  rw [← Nat.two_pow_pred_add_two_pow_pred hw]
  omega

/-- **Windows are linear.** In a window of at most half the circle, half-range precedence is the
order of positions. -/
theorem precedes_iff_of_window (hw : 0 < w) (hx : pos o x < 2 ^ (w - 1))
    (hy : pos o y < 2 ^ (w - 1)) : Precedes x y ↔ pos o x < pos o y := by
  have htwo := two_pow_pred hw
  constructor
  · rintro ⟨hpos, hlt⟩
    by_contra hge
    rcases Nat.lt_or_eq_of_le (Nat.le_of_not_lt hge) with h | h
    · have := pos_of_lt h
      omega
    · have := pos_of_le (le_of_eq h.symm)
      omega
  · intro h
    have := pos_of_le (Nat.le_of_lt h)
    exact ⟨by omega, by omega⟩

end Serial
