import MediasoupSfu.Feedback.Packet

/-!
# What an accepted feedback packet guarantees

A parsed packet is used by `GetPacketResults`, which walks the statuses of all chunks and takes one
delta for each received one with the checked access `deltas.at`. The parser is meant to accept a
packet only if the chunks describe exactly `packetStatusCount` packets and there is one delta for
each received one; then the walk cannot run out of deltas.

The parser counts in `uint16_t`. A run length chunk may announce up to 8191 packets no matter how
many remain, so the exact total of the counts can pass `2 ^ 16 - 1` and come round to the announced
count again. The number of received statuses wraps in the same way, and a packet without any delta
can pass as one with 65536 received packets.

## The exact condition

`statusTotalFits` reads the chunk words of the content with exact arithmetic and asks that the
total stays below `2 ^ 16` until the announced count is reached. For an accepted packet this is
equivalent to everything the parser is meant to guarantee (`parsedSafely_iff`).
-/

namespace MediasoupSfu

namespace Chunk

/-- The number of packets a chunk word describes when `remaining` packets are left. -/
def announcedCount (b₀ b₁ : Byte) (remaining : ℕ) : ℕ :=
  if (Byte.join2 b₀ b₁).toNat < 0x8000 then (Byte.join2 b₀ b₁).toNat % 0x2000
  else if b₀.toNat / 0x40 % 2 = 0 then min 14 remaining
  else min 7 remaining

/-- The number of statuses of the chunk fits its counter. -/
def Sized (c : Chunk) : Prop := c.symbols.length < 2 ^ 16

theorem Sized.getCount_toNat {c : Chunk} (h : c.Sized) : c.getCount.toNat = c.symbols.length := by
  cases c with
  | runLength status count => simp [getCount, symbols]
  | oneBitVector statuses => exact Nat.mod_eq_of_lt h
  | twoBitVector statuses => exact Nat.mod_eq_of_lt h

theorem countP_replicate_isReceived (n : ℕ) (s : Status) :
    (List.replicate n s).countP Status.isReceived = if s.isReceived then n else 0 :=
  List.countP_replicate

theorem Sized.getReceivedStatusCount_toNat {c : Chunk} (h : c.Sized) :
    c.getReceivedStatusCount.toNat = c.symbols.countP Status.isReceived := by
  cases c with
  | runLength status count =>
    rw [symbols, countP_replicate_isReceived, getReceivedStatusCount]
    split <;> rfl
  | oneBitVector statuses =>
    exact Nat.mod_eq_of_lt (Nat.lt_of_le_of_lt List.countP_le_length h)
  | twoBitVector statuses =>
    exact Nat.mod_eq_of_lt (Nat.lt_of_le_of_lt List.countP_le_length h)

@[simp] theorem length_vectorStatuses (size bits : ℕ) (mask buffer count : BitVec 16) :
    (vectorStatuses size bits mask buffer count).length = min size count.toNat := by
  simp [vectorStatuses]

theorem shiftRight_fifteen_eq_zero (v : BitVec 16) :
    (v >>> 15) &&& 0x01 = 0 ↔ v.toNat < 0x8000 := by
  have hv := v.isLt
  rw [← BitVec.toNat_inj, Packing.toNat_field (k := 1) v 15 rfl,
    show (0 : BitVec 16).toNat = 0 from rfl]
  omega

theorem symbolSize_eq_zero : ∀ b : Byte, b &&& 0x40 = 0 ↔ b.toNat / 0x40 % 2 = 0 := by
  decide

theorem and_0x1FFF_toNat (v : BitVec 16) : (v &&& 0x1FFF).toNat = v.toNat % 0x2000 :=
  Packing.toNat_and_mask (k := 13) v rfl

/-- The vector constructors return their chunk exactly when their assertion holds. -/
theorem map_some_msAssert_eq_ok {α : Type} {cond : Bool} {text : String} {x y : α} :
    (some <$> (do msAssert cond text; return x) : Except Fault (Option α)) = .ok (some y)
      ↔ cond = true ∧ x = y := by
  cases cond with
  | false => simp [msAssert, Functor.map, Except.map, bind, Except.bind]
  | true => simp [msAssert, Functor.map, Except.map, bind, Except.bind, pure, Except.pure]

/-- A parsed chunk describes as many packets as its word announces. -/
theorem parse_count {b₀ b₁ : Byte} {rest : List Byte} {count : BitVec 16} {c : Chunk}
    (h : parse (b₀ :: b₁ :: rest) count = .ok (some c)) :
    c.Sized ∧ c.getCount.toNat = announcedCount b₀ b₁ count.toNat := by
  unfold parse at h
  simp only [shiftRight_fifteen_eq_zero, symbolSize_eq_zero] at h
  unfold announcedCount
  by_cases htype : (Byte.join2 b₀ b₁).toNat < 0x8000
  · rw [if_pos htype] at h ⊢
    have hrun : ∀ s : Status, (ofRunLength (Byte.join2 b₀ b₁)).1 = s →
        c = runLength s (ofRunLength (Byte.join2 b₀ b₁)).2 →
        c.Sized ∧ c.getCount.toNat = (Byte.join2 b₀ b₁).toNat % 0x2000 := by
      rintro s - rfl
      have hcount : (ofRunLength (Byte.join2 b₀ b₁)).2.toNat = (Byte.join2 b₀ b₁).toNat % 0x2000 :=
        and_0x1FFF_toNat _
      refine ⟨?_, hcount⟩
      rw [Sized, symbols, List.length_replicate, hcount]
      omega
    cases hs : ofRunLength (Byte.join2 b₀ b₁) with
    | mk s n =>
      rw [hs] at h hrun
      cases s with
      | notReceived => exact hrun _ rfl (Option.some.inj (Except.ok.inj h)).symm
      | smallDelta => exact hrun _ rfl (Option.some.inj (Except.ok.inj h)).symm
      | largeDelta => exact hrun _ rfl (Option.some.inj (Except.ok.inj h)).symm
      | reserved => simp at h
      | none => simp at h
  · rw [if_neg htype] at h ⊢
    by_cases hsize : b₀.toNat / 0x40 % 2 = 0
    · rw [if_pos hsize] at h ⊢
      obtain ⟨-, rfl⟩ := map_some_msAssert_eq_ok.mp h
      have hlen := length_vectorStatuses 14 1 0x01 (Byte.join2 b₀ b₁) count
      have hsized : (oneBitVector (vectorStatuses 14 1 0x01 (Byte.join2 b₀ b₁) count)).Sized := by
        rw [Sized, symbols, hlen]
        omega
      exact ⟨hsized, by rw [hsized.getCount_toNat]; exact hlen⟩
    · rw [if_neg hsize] at h ⊢
      obtain ⟨-, rfl⟩ := map_some_msAssert_eq_ok.mp h
      have hlen := length_vectorStatuses 7 2 0x03 (Byte.join2 b₀ b₁) count
      have hsized : (twoBitVector (vectorStatuses 7 2 0x03 (Byte.join2 b₀ b₁) count)).Sized := by
        rw [Sized, symbols, hlen]
        omega
      exact ⟨hsized, by rw [hsized.getCount_toNat]; exact hlen⟩

end Chunk

/-! ## The two counters -/

/-- The exact total of the counts announced by the chunk words of `content`, on top of `total`,
stays below `2 ^ 16` until it reaches `announced`. -/
def statusTotalFits (announced : ℕ) : ℕ → List Byte → Bool
  | total, b₀ :: b₁ :: content =>
    if total < announced then
      let total' := total + Chunk.announcedCount b₀ b₁ (announced - total)
      decide (total' < 2 ^ 16) && statusTotalFits announced total' content
    else true
  | _, _ => true

namespace FeedbackRtpTransportPacket

/-- One turn of the first parsing loop. -/
theorem parseChunks_step {psc count received : BitVec 16} {b₀ b₁ : Byte} {content : List Byte}
    {chunks : List Chunk} {scan : ChunkScan} (hlt : count < psc)
    (h : parseChunks psc (b₀ :: b₁ :: content) chunks count received = .ok (some scan)) :
    ∃ chunk, Chunk.parse (b₀ :: b₁ :: content) (psc - count) = .ok (some chunk) ∧
      parseChunks psc content (chunks ++ [chunk]) (count + chunk.getCount)
        (received + chunk.getReceivedStatusCount) = .ok (some scan) := by
  rw [parseChunks, if_pos hlt, bind_eq_ok] at h
  obtain ⟨found, hfound, hrest⟩ := h
  cases found with
  | none => simp at hrest
  | some chunk => exact ⟨chunk, hfound, hrest⟩

/-- The number of statuses of a list of chunks. -/
def totalCount (chunks : List Chunk) : ℕ := (chunks.flatMap Chunk.symbols).length

/-- The number of received statuses of a list of chunks. -/
def totalReceived (chunks : List Chunk) : ℕ :=
  (chunks.flatMap Chunk.symbols).countP Status.isReceived

theorem totalReceived_le (chunks : List Chunk) : totalReceived chunks ≤ totalCount chunks :=
  List.countP_le_length

@[simp] theorem totalCount_cons (c : Chunk) (cs : List Chunk) :
    totalCount (c :: cs) = c.symbols.length + totalCount cs := by
  simp [totalCount]

@[simp] theorem totalReceived_cons (c : Chunk) (cs : List Chunk) :
    totalReceived (c :: cs) = c.symbols.countP Status.isReceived + totalReceived cs := by
  simp [totalReceived]

theorem totalCount_eq_sum {chunks : List Chunk} (h : ∀ c ∈ chunks, c.Sized) :
    totalCount chunks = (chunks.map fun c ↦ c.getCount.toNat).sum := by
  induction chunks with
  | nil => rfl
  | cons c cs ih =>
    rw [totalCount_cons, ih fun c' hc' ↦ h c' (List.mem_cons_of_mem _ hc'), List.map_cons,
      List.sum_cons, (h c List.mem_cons_self).getCount_toNat]

/-- What the first loop has read when it ends with `count = packetStatusCount`: the chunks, the
received counter modulo `2 ^ 16`, and the reason why the exact total is the announced count or is
not. -/
theorem parseChunks_spec {psc : BitVec 16} {scan : ChunkScan} (hscan : scan.count = psc) :
    ∀ (content : List Byte) (chunks : List Chunk) (count received : BitVec 16),
      parseChunks psc content chunks count received = .ok (some scan) →
      ∃ new, scan.chunks = chunks ++ new ∧ (∀ c ∈ new, c.Sized) ∧
        scan.receivedPacketStatusCount = received + BitVec.ofNat 16 (totalReceived new) ∧
        (statusTotalFits psc.toNat count.toNat content = true
          ↔ count.toNat + totalCount new = psc.toNat)
  | [], chunks, count, received, h => by
    simp only [parseChunks, Except.ok.injEq, Option.some.injEq] at h
    subst h
    exact ⟨[], by simp, by simp, by simp [totalReceived],
      by simpa [statusTotalFits, totalCount] using congrArg BitVec.toNat hscan⟩
  | [b₀], chunks, count, received, h => by
    rw [parseChunks] at h
    split at h
    · simp at h
    · simp only [Except.ok.injEq, Option.some.injEq] at h
      subst h
      exact ⟨[], by simp, by simp, by simp [totalReceived],
        by simpa [statusTotalFits, totalCount] using congrArg BitVec.toNat hscan⟩
  | b₀ :: b₁ :: content, chunks, count, received, h => by
    by_cases hlt : count < psc
    · obtain ⟨chunk, hchunk, hrest⟩ := parseChunks_step hlt h
      obtain ⟨hsized, hcount⟩ := Chunk.parse_count hchunk
      obtain ⟨new, hnew, hall, hrec, hfits⟩ := parseChunks_spec hscan content _ _ _ hrest
      have hltNat : count.toNat < psc.toNat := BitVec.lt_def.mp hlt
      have hsub : (psc - count).toNat = psc.toNat - count.toNat :=
        BitVec.toNat_sub_of_le (BitVec.le_def.mpr hltNat.le)
      rw [hsub] at hcount
      have hpsc := psc.isLt
      refine ⟨chunk :: new, by simp [hnew], ?_, ?_, ?_⟩
      · intro c hc
        rcases List.mem_cons.mp hc with rfl | hc
        · exact hsized
        · exact hall c hc
      · rw [hrec, totalReceived_cons, BitVec.ofNat_add, ← hsized.getReceivedStatusCount_toNat,
          BitVec.ofNat_toNat, BitVec.setWidth_eq, BitVec.add_assoc]
      · rw [statusTotalFits, if_pos hltNat, ← hcount, Bool.and_eq_true, decide_eq_true_iff,
          totalCount_cons, ← hsized.getCount_toNat]
        -- the counter is exact for as long as the total fits 16 bits
        by_cases hfit : count.toNat + chunk.getCount.toNat < 2 ^ 16
        · have hadd : (count + chunk.getCount).toNat = count.toNat + chunk.getCount.toNat := by
            rw [BitVec.toNat_add, Nat.mod_eq_of_lt hfit]
          rw [hadd] at hfits
          rw [hfits]
          omega
        · omega
    · have hge : ¬count.toNat < psc.toNat := fun h' ↦ hlt (BitVec.lt_def.mpr h')
      rw [parseChunks, if_neg hlt] at h
      simp only [Except.ok.injEq, Option.some.injEq] at h
      subst h
      exact ⟨[], by simp, by simp, by simp [totalReceived],
        by simpa [statusTotalFits, totalCount, hge] using congrArg BitVec.toNat hscan⟩

/-! ## The results -/

/-- The results for a list of statuses, numbered from `current + 1` on, without their deltas. -/
def plainResults : BitVec 16 → List Status → List PacketResult
  | _, [] => []
  | current, status :: statuses =>
    { sequenceNumber := current + 1, received := status.isReceived } ::
      plainResults (current + 1) statuses

@[simp] theorem length_plainResults (current : BitVec 16) (statuses : List Status) :
    (plainResults current statuses).length = statuses.length := by
  induction statuses generalizing current with
  | nil => rfl
  | cons s ss ih => simp [plainResults, ih]

theorem countP_plainResults (current : BitVec 16) (statuses : List Status) :
    (plainResults current statuses).countP PacketResult.received
      = statuses.countP Status.isReceived := by
  induction statuses generalizing current with
  | nil => rfl
  | cons s ss ih => simp [plainResults, List.countP_cons, ih]

theorem plainResults_append (current : BitVec 16) (xs ys : List Status) :
    plainResults current (xs ++ ys)
      = plainResults current xs ++ plainResults (current + BitVec.ofNat 16 xs.length) ys := by
  induction xs generalizing current with
  | nil => simp [plainResults]
  | cons x xs ih =>
    have hshift : current + 1 + BitVec.ofNat 16 xs.length
        = current + BitVec.ofNat 16 (x :: xs).length := by
      rw [List.length_cons, Nat.add_comm, BitVec.ofNat_add, BitVec.add_assoc]
      rfl
    rw [List.cons_append, plainResults, ih, hshift]
    rfl

/-- The sequence numbers of the results are consecutive. -/
theorem sequenceNumber_plainResults (statuses : List Status) :
    ∀ (current : BitVec 16), (plainResults current statuses).map PacketResult.sequenceNumber
      = (List.range statuses.length).map fun i ↦ current + 1 + BitVec.ofNat 16 i := by
  induction statuses with
  | nil => intro _; rfl
  | cons s ss ih =>
    intro current
    rw [plainResults, List.map_cons, ih, List.length_cons, List.range_succ_eq_map, List.map_cons,
      List.map_map]
    refine congrArg₂ List.cons (by simp) (List.map_congr_left fun i _ ↦ ?_)
    rw [Function.comp_apply, Nat.succ_eq_add_one, Nat.add_comm i 1, BitVec.ofNat_add,
      ← BitVec.add_assoc]
    rfl

theorem foldl_fillStep (statuses : List Status) :
    ∀ (results : List PacketResult) (current : BitVec 16),
      statuses.foldl (fun acc status ↦
        (acc.1 ++ [{ sequenceNumber := acc.2 + 1, received := status.isReceived }], acc.2 + 1))
        (results, current)
      = (results ++ plainResults current statuses,
          current + BitVec.ofNat 16 statuses.length) := by
  induction statuses with
  | nil => intro results current; simp [plainResults]
  | cons s ss ih =>
    intro results current
    rw [List.foldl_cons, ih, List.length_cons, Nat.add_comm, BitVec.ofNat_add, ← BitVec.add_assoc]
    simp [plainResults]

/-- The first loop of `GetPacketResults` numbers the statuses of all chunks. -/
theorem foldl_fillResults (chunks : List Chunk) :
    ∀ (results : List PacketResult) (current : BitVec 16),
      (chunks.foldl (fun acc chunk ↦ chunk.fillResults acc) (results, current)).1
        = results ++ plainResults current (chunks.flatMap Chunk.symbols) := by
  induction chunks with
  | nil => intro results current; simp [plainResults]
  | cons c cs ih =>
    intro results current
    rw [List.foldl_cons, Chunk.fillResults, foldl_fillStep, ih, List.flatMap_cons,
      plainResults_append, List.append_assoc]

theorem getPacketResults_eq (p : FeedbackRtpTransportPacket) :
    p.getPacketResults = assignDeltas (plainResults (p.baseSequenceNumber - 1)
      (p.chunks.flatMap Chunk.symbols)) p.deltas (p.referenceTime.toInt * 64) := by
  rw [getPacketResults, foldl_fillResults, List.nil_append]

theorem assignDeltas_received {r : PacketResult} (hr : r.received = true) (rs : List PacketResult)
    (d : BitVec 16) (ds : List (BitVec 16)) (ms : ℤ) :
    assignDeltas (r :: rs) (d :: ds) ms
      = (assignDeltas rs ds (ms + d.toInt.tdiv 4)).map fun rest ↦
          { r with delta := d, receivedAtMs := ms + d.toInt.tdiv 4 } :: rest := by
  simp only [assignDeltas, hr, if_true]
  cases assignDeltas rs ds (ms + d.toInt.tdiv 4) <;> rfl

theorem assignDeltas_missing {r : PacketResult} (hr : ¬r.received = true) (rs : List PacketResult)
    (ds : List (BitVec 16)) (ms : ℤ) :
    assignDeltas (r :: rs) ds ms = (assignDeltas rs ds ms).map fun rest ↦ r :: rest := by
  cases ds <;> simp only [assignDeltas, if_neg hr] <;> cases assignDeltas rs _ ms <;> rfl

/-- With enough deltas the second loop returns the same results, deltas filled in. -/
theorem assignDeltas_ok (results : List PacketResult) :
    ∀ (deltas : List (BitVec 16)) (ms : ℤ), results.countP PacketResult.received ≤ deltas.length →
      ∃ out, assignDeltas results deltas ms = .ok out ∧
        out.map PacketResult.sequenceNumber = results.map PacketResult.sequenceNumber ∧
        out.map PacketResult.received = results.map PacketResult.received := by
  induction results with
  | nil => intro deltas ms _; exact ⟨[], rfl, rfl, rfl⟩
  | cons r rs ih =>
    intro deltas ms h
    rw [List.countP_cons] at h
    by_cases hr : r.received = true
    · rw [if_pos hr] at h
      cases deltas with
      | nil => simp at h
      | cons d ds =>
        obtain ⟨out, hout, hseq, hrec⟩ := ih ds (ms + d.toInt.tdiv 4)
          (by rw [List.length_cons] at h; omega)
        refine ⟨_, by rw [assignDeltas_received hr, hout]; rfl, ?_, ?_⟩
        · rw [List.map_cons, List.map_cons, hseq]
        · rw [List.map_cons, List.map_cons, hrec]
    · rw [if_neg hr] at h
      obtain ⟨out, hout, hseq, hrec⟩ := ih deltas ms h
      refine ⟨r :: out, by rw [assignDeltas_missing hr, hout]; rfl, ?_, ?_⟩
      · rw [List.map_cons, List.map_cons, hseq]
      · rw [List.map_cons, List.map_cons, hrec]

/-- With too few deltas the second loop leaves the vector of deltas. -/
theorem assignDeltas_outOfRange (results : List PacketResult) :
    ∀ (deltas : List (BitVec 16)) (ms : ℤ), deltas.length < results.countP PacketResult.received →
      assignDeltas results deltas ms = .error .outOfRange := by
  induction results with
  | nil => intro deltas ms h; simp at h
  | cons r rs ih =>
    intro deltas ms h
    rw [List.countP_cons] at h
    by_cases hr : r.received = true
    · rw [if_pos hr] at h
      cases deltas with
      | nil => rw [assignDeltas, if_pos hr]
      | cons d ds =>
        rw [assignDeltas_received hr, ih ds _ (by rw [List.length_cons] at h; omega)]
        rfl
    · rw [if_neg hr] at h
      rw [assignDeltas_missing hr, ih deltas ms h]
      rfl

/-! ## Accepted packets -/

/-- What acceptance by the parser should mean. -/
structure ParsedSafely (p : FeedbackRtpTransportPacket) : Prop where
  /-- The chunks describe exactly the announced number of packets. -/
  counts : (p.chunks.map fun c ↦ c.getCount.toNat).sum = p.packetStatusCount.toNat
  /-- The results are read without an exception, one for each announced packet and consecutively
  numbered from the base, and the received ones are as many as the deltas. -/
  results : ∃ results, p.getPacketResults = .ok results ∧
    results.map PacketResult.sequenceNumber
      = (List.range p.packetStatusCount.toNat).map
        (fun i ↦ p.baseSequenceNumber + BitVec.ofNat 16 i) ∧
    results.countP PacketResult.received = p.deltas.length

/-- The announced status count and the content of a feedback packet pass the exact count. -/
def contentFits (data : List Byte) : Bool :=
  match Byte.get2Bytes data 14 with
  | .ok packetStatusCount => statusTotalFits packetStatusCount.toNat 0 (data.drop 20)
  | .error _ => false

/-- Acceptance in terms of the two loops, for a buffer of the announced length. -/
theorem parse_eq_some {data : List Byte} {p : FeedbackRtpTransportPacket}
    (hlen : announcedLength data = .ok data.length) (h : parse data = .ok (some p)) :
    Byte.get2Bytes data 14 = .ok p.packetStatusCount ∧
      ∃ scan, parseChunks p.packetStatusCount (data.drop 20) [] 0 0 = .ok (some scan) ∧
        scan.count = p.packetStatusCount ∧ scan.chunks = p.chunks ∧
        p.deltas.length = scan.receivedPacketStatusCount.toNat := by
  unfold parse at h
  by_cases hshort : data.length < feedbackHeaderSize + fixedHeaderSize
  · simp [hshort, pure, Except.pure] at h
  simp only [hlen, hshort, if_false, bind_eq_ok, Except.ok.injEq, exists_eq_left',
    Nat.lt_irrefl, List.take_length] at h
  obtain ⟨flags, -, type, -, senderSsrc, -, mediaSsrc, -, base, -, psc, hpsc, refTime, -, fpc, -,
    found, hfound, h⟩ := h
  cases found with
  | none => simp [pure, Except.pure] at h
  | some scan =>
    by_cases hcount : scan.count ≠ psc
    · simp [hcount, pure, Except.pure] at h
    · simp only [hcount, if_false] at h
      cases hd : parseDeltas scan.chunks scan.rest [] with
      | none => simp [hd, pure, Except.pure] at h
      | some found =>
        obtain ⟨deltas, rest⟩ := found
        simp only [hd] at h
        by_cases hdeltas : deltas.length ≠ scan.receivedPacketStatusCount.toNat
        · simp [hdeltas, pure, Except.pure] at h
        · simp only [hdeltas, if_false, pure, Except.pure, Except.ok.injEq, Option.some.injEq] at h
          subst h
          exact ⟨hpsc, scan, hfound, not_not.mp hcount, rfl, not_not.mp hdeltas⟩

/-- A packet with fewer deltas than received statuses cannot be read. -/
theorem getPacketResults_outOfRange {p : FeedbackRtpTransportPacket}
    (h : p.deltas.length < totalReceived p.chunks) : p.getPacketResults = .error .outOfRange := by
  rw [getPacketResults_eq]
  apply assignDeltas_outOfRange
  rw [countP_plainResults]
  exact h

/-- **Parse safety, exactly.** A buffer of the announced length that the parser accepts yields a
packet that is safe to read if and only if the exact total of the announced counts does not pass
the 16-bit counter. -/
theorem parsedSafely_iff {data : List Byte} {p : FeedbackRtpTransportPacket}
    (hlen : announcedLength data = .ok data.length) (h : parse data = .ok (some p)) :
    p.ParsedSafely ↔ contentFits data = true := by
  obtain ⟨hpsc, scan, hscan, hcount, hchunks, hdeltas⟩ := parse_eq_some hlen h
  obtain ⟨new, hnew, hsized, hrec, hfits⟩ := parseChunks_spec hcount _ _ _ _ hscan
  rw [List.nil_append, hchunks] at hnew
  rw [contentFits, hpsc]
  have hfits' : statusTotalFits p.packetStatusCount.toNat 0 (data.drop 20) = true
      ↔ totalCount new = p.packetStatusCount.toNat := by simpa using hfits
  rw [hfits']
  constructor
  · intro hsafe
    rw [totalCount_eq_sum hsized, ← hnew]
    exact hsafe.counts
  · intro htotal
    have hlt := p.packetStatusCount.isLt
    have hle := totalReceived_le new
    have hreceived : p.deltas.length = totalReceived p.chunks := by
      rw [hdeltas, hrec, hnew, BitVec.toNat_add, BitVec.toNat_ofNat,
        show (0 : BitVec 16).toNat = 0 from rfl]
      omega
    have hcountP : (plainResults (p.baseSequenceNumber - 1)
        (p.chunks.flatMap Chunk.symbols)).countP PacketResult.received = p.deltas.length := by
      rw [countP_plainResults, hreceived, totalReceived]
    obtain ⟨out, hout, hseq, hrecv⟩ := assignDeltas_ok _ p.deltas (p.referenceTime.toInt * 64)
      hcountP.le
    refine ⟨by rw [hnew, ← totalCount_eq_sum hsized]; exact htotal, out, ?_, ?_, ?_⟩
    · rw [getPacketResults_eq, hout]
    · have hn : (p.chunks.flatMap Chunk.symbols).length = p.packetStatusCount.toNat := by
        rw [hnew]
        exact htotal
      rw [hseq, sequenceNumber_plainResults, hn, BitVec.sub_add_cancel]
    · rw [← hcountP, ← Function.id_comp PacketResult.received, ← List.countP_map,
        ← List.countP_map, hrecv]

/-- A well-formed packet of thirteen reported packets, six of them with a small delta. -/
theorem parsedSafely_iff_thirteen_packets :
    let data : List Byte := [0x8F, 0xCD, 0x00, 0x07, 0xFA, 0x17, 0xFA, 0x17, 0x09, 0xFA, 0xFF, 0x67,
      0x00, 0x27, 0x00, 0x0D, 0x5F, 0xC2, 0xF1, 0x03, 0xBF, 0x8E, 0x10, 0x00, 0x00, 0x00,
        0x00, 0x00,
      0x00, 0x1C, 0x04, 0x00]
    ∃ p, parse data = .ok (some p) ∧ p.ParsedSafely := by
  intro data
  have hparse : ∃ p, parse data = .ok (some p) := ⟨_, rfl⟩
  obtain ⟨p, hp⟩ := hparse
  exact ⟨p, hp, (parsedSafely_iff rfl hp).mpr (by decide)⟩

/-- **The counters wrap.** A packet of 18 chunks without any delta announces 65535 packets; its
chunks describe 131071 of them, 65536 as received. It is accepted, and reading its results leaves
the vector of deltas. -/
theorem accepted_without_deltas :
    let data : List Byte := [0x8F, 0xCD, 0x00, 0x0D, 0x00, 0x00, 0x00, 0x01, 0x00, 0x00, 0x00, 0x02,
      0x00, 0x01, 0xFF, 0xFF, 0x00, 0x00, 0x00, 0x00] ++ (List.replicate 8 [0x3F, 0xFF]).flatten ++
      [0x20, 0x08] ++ (List.replicate 8 [0x1F, 0xFF]).flatten ++ [0x00, 0x07]
    let p : FeedbackRtpTransportPacket :=
      { senderSsrc := 1, mediaSsrc := 2, baseSequenceNumber := 1, packetStatusCount := 65535
        chunks := List.replicate 8 (.runLength .smallDelta 8191) ++ [.runLength .smallDelta 8] ++
          List.replicate 8 (.runLength .notReceived 8191) ++ [.runLength .notReceived 7]
        deltasAndChunksSize := 36, size := 56 }
    announcedLength data = .ok data.length ∧ parse data = .ok (some p) ∧ ¬p.ParsedSafely ∧
      p.getPacketResults = .error .outOfRange := by
  intro data p
  have hread : p.getPacketResults = .error .outOfRange := by
    apply getPacketResults_outOfRange
    simp only [p, List.replicate, List.cons_append, List.nil_append, totalReceived_cons,
      Chunk.symbols, Chunk.countP_replicate_isReceived]
    decide
  refine ⟨rfl, by decide, fun hsafe ↦ ?_, hread⟩
  obtain ⟨results, hresults, -⟩ := hsafe.results
  rw [hread] at hresults
  cases hresults

end FeedbackRtpTransportPacket

end MediasoupSfu
