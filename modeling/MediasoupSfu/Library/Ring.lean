import Mathlib.Data.List.Basic
import Mathlib.Tactic.Common

/-!
# Rings of cells

The cells of a list are used as a ring: one of them is the first, and behind the last one in the
list comes the one at its beginning. Writing a cell changes that cell only (`cell_set`), and when
the first cell is overwritten and the next one becomes the first, it is the last one
(`cell_advance`).
-/

namespace Ring

variable {α : Type*} {cells : List α} {start n j k : ℕ}

/-- The cell `k` places behind the first one. -/
def cell (cells : List α) (start k : ℕ) : Option α := cells[(start + k) % cells.length]?

theorem index_eq (hstart : start < n) (hk : k < n) :
    (start + k) % n = if start + k < n then start + k else start + k - n := by
  split
  · exact Nat.mod_eq_of_lt ‹_›
  · rw [Nat.mod_eq_sub_mod (by omega), Nat.mod_eq_of_lt (by omega)]

/-- Different places are different cells. -/
theorem index_inj (hstart : start < n) (hj : j < n) (hk : k < n)
    (h : (start + j) % n = (start + k) % n) : j = k := by
  rw [index_eq hstart hj, index_eq hstart hk] at h
  split at h <;> split at h <;> omega

/-- The place after the first one. -/
theorem index_advance (start n k : ℕ) : ((start + 1) % n + k) % n = (start + (k + 1)) % n := by
  rw [Nat.mod_add_mod, Nat.add_assoc, Nat.add_comm 1 k]

/-- The place before the first one is the last one. -/
theorem index_last (hstart : start < n) : ((start + 1) % n + (n - 1)) % n = start := by
  rw [Nat.mod_add_mod, show start + 1 + (n - 1) = start + n by omega, Nat.add_mod_right]
  exact Nat.mod_eq_of_lt hstart

/-- A cell is written. -/
theorem cell_set (hstart : start < cells.length) (hj : j < cells.length) (hk : k < cells.length)
    (x : α) :
    cell (cells.set ((start + j) % cells.length) x) start k =
      if k = j then some x else cell cells start k := by
  have hlt : (start + j) % cells.length < cells.length := Nat.mod_lt _ (by omega)
  rw [cell, List.length_set]
  split
  · subst k
    exact List.getElem?_set_self hlt
  · rename_i hne
    exact List.getElem?_set_ne fun heq ↦ hne (index_inj hstart hk hj heq.symm)

/-- The first cell is written and becomes the last one. -/
theorem cell_advance (hstart : start < cells.length) (hk : k < cells.length) (x : α) :
    cell (cells.set start x) ((start + 1) % cells.length) k =
      if k + 1 = cells.length then some x else cell cells start (k + 1) := by
  rw [cell, List.length_set]
  split
  · rename_i hlast
    rw [show k = cells.length - 1 by omega, index_last hstart]
    exact List.getElem?_set_self hstart
  · have hlt : k + 1 < cells.length := by omega
    rw [index_advance, cell]
    refine List.getElem?_set_ne fun heq ↦ ?_
    have hzero : (start + 0) % cells.length = (start + (k + 1)) % cells.length := by
      rw [← heq]
      exact Nat.mod_eq_of_lt hstart
    cases index_inj hstart (by omega) hlt hzero

end Ring
