import MediasoupSfu.Library.Memory

/-!
# Windows on a read buffer

A reader has a buffer of fixed length. What was received and is not parsed yet is in the cells from
`start` up to `len`; the cells behind are free. The operations of such a reader are to write behind
the window (`Holds.append`), to go on behind something at its beginning (`Holds.drop`), to move it
to the beginning of the buffer (`Holds.compact`) and to forget it (`Holds.reset`).
-/

namespace Window

open Memory

variable {α : Type} {buffer pending front rest data : List α} {start len : ℕ}

/-- The cells from `start` up to `len` are what is pending. -/
structure Holds (buffer : List α) (start len : ℕ) (pending : List α) : Prop where
  start_le : start ≤ len
  le_length : len ≤ buffer.length
  slice_eq : slice buffer start (len - start) = pending

namespace Holds

theorem length_pending (h : Holds buffer start len pending) : pending.length = len - start := by
  have hstart := h.start_le
  have hlength := h.le_length
  rw [← h.slice_eq, length_slice (by omega)]

/-- Nothing is pending. -/
theorem reset (buffer : List α) : Holds buffer 0 0 [] :=
  ⟨Nat.le_refl 0, Nat.zero_le _, slice_zero _ _⟩

/-- What is pending consists of two parts. -/
theorem split (h : Holds buffer start len (front ++ rest)) :
    slice buffer start front.length = front ∧
      slice buffer (start + front.length) rest.length = rest := by
  have hlength := h.length_pending
  rw [List.length_append] at hlength
  have hstart := h.start_le
  have hbuffer := h.le_length
  have hslice := h.slice_eq
  rw [show len - start = front.length + rest.length from hlength.symm, slice_add] at hslice
  exact List.append_inj hslice (length_slice (by omega))

/-- Go on behind the first part. -/
theorem drop (h : Holds buffer start len (front ++ rest)) :
    Holds buffer (start + front.length) len rest := by
  have hlength := h.length_pending
  rw [List.length_append] at hlength
  have hstart := h.start_le
  refine ⟨by omega, h.le_length, ?_⟩
  rw [show len - (start + front.length) = rest.length by omega]
  exact h.split.2

/-- Move what is pending to the beginning of the buffer. -/
theorem compact (h : Holds buffer start len pending) :
    Holds (move buffer 0 start (len - start)) 0 (len - start) pending := by
  have hstart := h.start_le
  have hlength := h.le_length
  have hsrc : start + (len - start) ≤ buffer.length := by omega
  have hdst : 0 + (len - start) ≤ buffer.length := by omega
  refine ⟨Nat.zero_le _, ?_, ?_⟩
  · rw [length_move hsrc hdst]
    omega
  · exact (slice_move_self hsrc hdst).trans h.slice_eq

/-- Write behind what is pending. -/
theorem append (h : Holds buffer start len pending) (hfits : len + data.length ≤ buffer.length) :
    Holds (splice buffer len data) start (len + data.length) (pending ++ data) := by
  have hstart := h.start_le
  refine ⟨Nat.le_trans hstart (Nat.le_add_right _ _), ?_, ?_⟩
  · rwa [length_splice hfits]
  · rw [show len + data.length - start = len - start + data.length by omega, slice_add,
      slice_splice_before hfits (by omega), h.slice_eq, show start + (len - start) = len by omega,
      slice_splice_self hfits rfl]

end Holds

end Window
