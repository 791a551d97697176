import MediasoupSfu.Feedback.ParseSafety

/-!
# What the parser of feedback packets reads

A buffer that is as long as its common header announces is parsed without a read outside of it, and
without a failed assertion in the constructors of the vector chunks: the bit they assert is the one
by which a vector chunk is recognized (`parse_returns`).

The loops that read the deltas of a run length chunk are guarded by one comparison in front of them.
With every read checked they are `smallDeltas` and `largeDeltas` where that comparison holds. The
loops of the vector chunks compare before each read, which is a case split on the bytes left.
-/

namespace MediasoupSfu

namespace Chunk

/-! ## Chunks -/

/-- The bit that tells a vector chunk is the one that its constructors assert. -/
theorem and_0x8000_ne_zero {v : BitVec 16} (h : ¬(v >>> 15) &&& 0x01 = 0) : v &&& 0x8000 ≠ 0 := by
  intro hand
  have hv := v.isLt
  have hbit := congrArg (BitVec.getLsbD · 15) hand
  rw [BitVec.getLsbD_and, show (0 : BitVec 16).getLsbD 15 = false from rfl,
    show (0x8000 : BitVec 16).getLsbD 15 = true from rfl,
    Bool.and_true, BitVec.getLsbD, Nat.testBit_eq_decide_div_mod_eq, decide_eq_false_iff_not]
    at hbit
  rw [shiftRight_fifteen_eq_zero] at h
  omega

theorem and_0xC000_ne_zero {v : BitVec 16} (h : ¬(v >>> 15) &&& 0x01 = 0) : v &&& 0xC000 ≠ 0 := by
  intro hand
  refine and_0x8000_ne_zero h ?_
  rw [show (0x8000 : BitVec 16) = 0xC000 &&& 0x8000 from rfl, ← BitVec.and_assoc, hand]
  rfl

/-- No assertion fails in a constructor. -/
theorem parse_returns (data : List Byte) (count : BitVec 16) :
    ∃ chunk, parse data count = .ok chunk := by
  match data with
  | [] => exact ⟨_, rfl⟩
  | [_] => exact ⟨_, rfl⟩
  | b₀ :: b₁ :: rest =>
    rw [parse]
    by_cases htype : (Byte.join2 b₀ b₁ >>> 15) &&& 0x01 = 0
    · rw [if_pos htype]
      split <;> exact ⟨_, rfl⟩
    · rw [if_neg htype]
      split
      · rw [ofOneBitVector, bne_iff_ne.mpr (and_0x8000_ne_zero htype)]
        exact ⟨_, rfl⟩
      · rw [ofTwoBitVector, bne_iff_ne.mpr (and_0xC000_ne_zero htype)]
        exact ⟨_, rfl⟩

/-! ## Deltas -/

/-- The loop of `RunLengthChunk::AddDeltas` for small deltas, each read checked. -/
def readSmallDeltas (data : List Byte) : ℕ → ℕ → Except Fault (List (BitVec 16))
  | 0, _ => .ok []
  | count + 1, offset => do
    let delta ← Byte.get1Byte data offset
    let deltas ← readSmallDeltas data count (offset + 1)
    return delta.setWidth 16 :: deltas

/-- The loop of `RunLengthChunk::AddDeltas` for large deltas, each read checked. -/
def readLargeDeltas (data : List Byte) : ℕ → ℕ → Except Fault (List (BitVec 16))
  | 0, _ => .ok []
  | count + 1, offset => do
    let delta ← Byte.get2Bytes data offset
    let deltas ← readLargeDeltas data count (offset + 2)
    return delta :: deltas

/-- Where there is space for all small deltas, none is read outside. -/
theorem readSmallDeltas_eq {data : List Byte} {count offset : ℕ}
    (h : offset + count * 1 ≤ data.length) :
    readSmallDeltas data count offset = .ok (smallDeltas count (data.drop offset)) := by
  induction count generalizing offset with
  | zero => rfl
  | succ count ih =>
    have hlt : offset < data.length := by omega
    rw [readSmallDeltas, Byte.get1Byte, List.getElem?_eq_getElem hlt, ih (by omega), smallDeltas,
      smallDeltas, List.drop_eq_getElem_cons hlt]
    rfl

/-- Where there is space for all large deltas, none is read outside. -/
theorem readLargeDeltas_eq {data : List Byte} {count offset : ℕ}
    (h : offset + count * 2 ≤ data.length) :
    readLargeDeltas data count offset = .ok (largeDeltas count (data.drop offset)) := by
  induction count generalizing offset with
  | zero => rfl
  | succ count ih =>
    have hlt : offset + 1 < data.length := by omega
    rw [readLargeDeltas, Byte.get2Bytes, Byte.get1Byte, Byte.get1Byte,
      List.getElem?_eq_getElem (Nat.lt_of_succ_lt hlt), List.getElem?_eq_getElem hlt,
      ih (by omega), List.drop_eq_getElem_cons (Nat.lt_of_succ_lt hlt),
      List.drop_eq_getElem_cons hlt]
    rfl

end Chunk

namespace FeedbackRtpTransportPacket

/-! ## Packets -/

theorem parseChunks_returns (psc : BitVec 16) (content : List Byte) (chunks : List Chunk)
    (count received : BitVec 16) :
    ∃ scan, parseChunks psc content chunks count received = .ok scan := by
  fun_induction parseChunks psc content chunks count received with
  | case1 => exact ⟨_, rfl⟩
  | case2 => exact ⟨_, rfl⟩
  | case3 => exact ⟨_, rfl⟩
  | case4 b₀ b₁ content chunks count received hlt ih =>
    obtain ⟨found, hfound⟩ := Chunk.parse_returns (b₀ :: b₁ :: content) (psc - count)
    rw [hfound]
    cases found with
    | none => exact ⟨_, rfl⟩
    | some chunk => exact ih chunk
  | case5 => exact ⟨_, rfl⟩

/-- Given as many bytes as are announced, the parser neither reads another one nor stops. -/
theorem parse_returns {data : List Byte} (hlen : announcedLength data = .ok data.length) :
    ∃ packet, parse data = .ok packet := by
  unfold parse
  by_cases hshort : data.length < feedbackHeaderSize + fixedHeaderSize
  · rw [if_pos hshort]
    exact ⟨_, rfl⟩
  · have hsize : 20 ≤ data.length := not_lt.mp hshort
    rw [if_neg hshort, hlen]
    dsimp only [bind, Except.bind, pure, Except.pure]
    rw [if_neg (lt_irrefl _)]
    refine returns_bind (get1Byte_returns (by omega)) fun flags ↦ ?_
    refine returns_bind (get1Byte_returns (by omega)) fun type ↦ ?_
    refine returns_bind (get4Bytes_of_lt data 4 (by omega)) fun senderSsrc ↦ ?_
    refine returns_bind (get4Bytes_of_lt data 8 (by omega)) fun mediaSsrc ↦ ?_
    refine returns_bind (get2Bytes_returns (by omega)) fun base ↦ ?_
    refine returns_bind (get2Bytes_returns (by omega)) fun psc ↦ ?_
    refine returns_bind (get3Bytes_returns (by omega)) fun referenceTime ↦ ?_
    refine returns_bind (get1Byte_returns (by omega)) fun feedbackPacketCount ↦ ?_
    rw [if_neg hshort]
    refine returns_bind (parseChunks_returns psc _ [] 0 0) fun scan ↦ ?_
    cases scan with
    | none => exact ⟨_, rfl⟩
    | some scan =>
      dsimp only
      split
      · exact ⟨_, rfl⟩
      · cases parseDeltas scan.chunks scan.rest [] with
        | none => exact ⟨_, rfl⟩
        | some found =>
          dsimp only
          split <;> exact ⟨_, rfl⟩

end FeedbackRtpTransportPacket

end MediasoupSfu
