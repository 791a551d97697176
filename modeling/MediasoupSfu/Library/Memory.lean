import Mathlib.Data.List.Basic
import Mathlib.Tactic.Common

/-!
# Flat memory

A buffer of fixed length is the list of its cells. Reading a range is `slice`, overwriting one is
`splice`, and copying within the buffer, where source and destination may overlap, is `move`: the
source is read completely before anything is written.

`splice` and `move` are total; the lemmas assume that the range lies in the buffer. What a program
needs of them is how a range reads after a write: a range that the write does not touch is as before
(`slice_splice_before`, `slice_splice_after`), and the written range holds what was written
(`slice_splice_self`). Longer ranges are taken apart by `slice_add`.
-/

namespace Memory

variable {α : Type} {m v : List α} {i j n : ℕ}

/-- The `n` cells from `i` on. -/
def slice (m : List α) (i n : ℕ) : List α := (m.drop i).take n

/-- The memory with `v` written from `i` on. -/
def splice (m : List α) (i : ℕ) (v : List α) : List α := m.take i ++ (v ++ m.drop (i + v.length))

/-- The memory with the `n` cells from `src` on copied to `dst`. -/
def move (m : List α) (dst src n : ℕ) : List α := splice m dst (slice m src n)

/-- Writing right behind a prefix. -/
theorem splice_append (a b v : List α) :
    splice (a ++ b) a.length v = a ++ (v ++ b.drop v.length) := by
  rw [splice, List.take_left, List.drop_append]
  congr 2
  rw [List.drop_eq_nil_of_le (Nat.le_add_right _ _), List.nil_append, Nat.add_sub_cancel_left]

/-- A range right behind a prefix. -/
theorem slice_append (a b c : List α) : slice (a ++ (b ++ c)) a.length b.length = b := by
  rw [slice, List.drop_left, List.take_left]

/-! ## Cells -/

theorem getElem?_slice (m : List α) (i n j : ℕ) :
    (slice m i n)[j]? = if j < n then m[i + j]? else none := by
  rw [slice, List.getElem?_take, List.getElem?_drop]

theorem getElem?_splice_of_lt (h : i + v.length ≤ m.length) (hj : j < i) :
    (splice m i v)[j]? = m[j]? := by
  rw [splice, List.getElem?_append_left (by rw [List.length_take]; omega),
    List.getElem?_take_of_lt hj]

theorem getElem?_splice_of_ge (h : i + v.length ≤ m.length) (hj : i + v.length ≤ j) :
    (splice m i v)[j]? = m[j]? := by
  have htake : (m.take i).length = i := by rw [List.length_take]; omega
  rw [splice, List.getElem?_append_right (by omega), htake,
    List.getElem?_append_right (by omega), List.getElem?_drop]
  congr 1
  omega

theorem getElem?_splice_inside (h : i + v.length ≤ m.length) (hj : j < v.length) :
    (splice m i v)[i + j]? = v[j]? := by
  have htake : (m.take i).length = i := by rw [List.length_take]; omega
  rw [splice, List.getElem?_append_right (by omega), htake, Nat.add_sub_cancel_left,
    List.getElem?_append_left hj]

/-! ## Lengths -/

theorem length_slice (h : i + n ≤ m.length) : (slice m i n).length = n := by
  rw [slice, List.length_take, List.length_drop]
  omega

theorem length_splice (h : i + v.length ≤ m.length) : (splice m i v).length = m.length := by
  rw [splice, List.length_append, List.length_append, List.length_take, List.length_drop]
  omega

theorem length_move {dst src : ℕ} (hsrc : src + n ≤ m.length) (hdst : dst + n ≤ m.length) :
    (move m dst src n).length = m.length := by
  have hlength := length_slice hsrc
  rw [move, length_splice (by omega)]

theorem move_zero (m : List α) (dst src : ℕ) : move m dst src 0 = m := by
  rw [move, slice, List.take_zero, splice]
  exact List.take_append_drop dst m

/-! ## Ranges -/

theorem slice_add (m : List α) (i a b : ℕ) :
    slice m i (a + b) = slice m i a ++ slice m (i + a) b := by
  rw [slice, slice, slice, List.take_add, List.drop_drop]

theorem slice_zero (m : List α) (i : ℕ) : slice m i 0 = [] := List.take_zero

/-- A range is determined by its cells. -/
theorem slice_eq_of_cells {m' : List α} (h : ∀ j < n, m[i + j]? = m'[i + j]?) :
    slice m i n = slice m' i n := by
  apply List.ext_getElem?
  intro j
  rw [getElem?_slice, getElem?_slice]
  split
  · exact h j ‹_›
  · rfl

/-- The cells of equal ranges. -/
theorem getElem?_of_slice_eq {m' : List α} {k : ℕ} (h : slice m i n = slice m' j n) (hk : k < n) :
    m[i + k]? = m'[j + k]? := by
  have hcell := congrArg (fun cells : List α ↦ cells[k]?) h
  simpa only [getElem?_slice, if_pos hk] using hcell

/-- Two memories that agree on a range agree on every part of it. -/
theorem slice_congr {m' : List α} {k : ℕ} (h : slice m j n = slice m' j n) (hj : j ≤ i)
    (hk : i + k ≤ j + n) : slice m i k = slice m' i k := by
  apply List.ext_getElem?
  intro l
  have hl := congrArg (fun cells : List α ↦ cells[i - j + l]?) h
  rw [getElem?_slice, getElem?_slice]
  split
  · simpa only [getElem?_slice, if_pos (show i - j + l < n by omega),
      show j + (i - j + l) = i + l by omega] using hl
  · rfl

/-- A range before the written one is as before. -/
theorem slice_splice_before (h : i + v.length ≤ m.length) (hj : j + n ≤ i) :
    slice (splice m i v) j n = slice m j n := by
  apply List.ext_getElem?
  intro k
  rw [getElem?_slice, getElem?_slice]
  split
  · exact getElem?_splice_of_lt h (by omega)
  · rfl

/-- A range behind the written one is as before. -/
theorem slice_splice_after (h : i + v.length ≤ m.length) (hj : i + v.length ≤ j) :
    slice (splice m i v) j n = slice m j n := by
  apply List.ext_getElem?
  intro k
  rw [getElem?_slice, getElem?_slice]
  split
  · exact getElem?_splice_of_ge h (by omega)
  · rfl

/-- The written range holds what was written. -/
theorem slice_splice_self (h : i + v.length ≤ m.length) (hn : n = v.length) :
    slice (splice m i v) i n = v := by
  apply List.ext_getElem?
  intro k
  rw [getElem?_slice]
  split
  · exact getElem?_splice_inside h (by omega)
  · exact (List.getElem?_eq_none (by omega)).symm

/-- Writing what is there changes nothing. -/
theorem splice_slice (h : i + n ≤ m.length) : splice m i (slice m i n) = m := by
  rw [splice, length_slice h, slice, ← List.drop_drop, List.take_append_drop, List.take_append_drop]

/-- Only the last of two writes to a range remains. -/
theorem splice_splice {w : List α} (h : i + v.length ≤ m.length) (hw : w.length = v.length) :
    splice (splice m i v) i w = splice m i w := by
  have htake : (m.take i).length = i := by rw [List.length_take]; omega
  have happend := splice_append (m.take i) (v ++ m.drop (i + v.length)) w
  rw [htake, hw, List.drop_left] at happend
  change splice (m.take i ++ (v ++ m.drop (i + v.length))) i w = m.take i ++
    (w ++ m.drop (i + w.length))
  rw [happend, hw]

/-- The destination of a copy holds what the source held. -/
theorem slice_move_self {dst src : ℕ} (hsrc : src + n ≤ m.length) (hdst : dst + n ≤ m.length) :
    slice (move m dst src n) dst n = slice m src n := by
  have hlength := length_slice hsrc
  rw [move, slice_splice_self (by omega) hlength.symm]

theorem slice_move_before {dst src : ℕ} (hsrc : src + n ≤ m.length) (hdst : dst + n ≤ m.length)
    {k : ℕ} (hj : j + k ≤ dst) : slice (move m dst src n) j k = slice m j k := by
  have hlength := length_slice hsrc
  rw [move, slice_splice_before (by omega) hj]

end Memory
