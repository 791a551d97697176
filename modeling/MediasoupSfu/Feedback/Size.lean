import MediasoupSfu.Feedback.Calls

/-!
# The size of a feedback packet

Before a packet is recorded `AddPacket` checks that there is room for one more chunk and a delta of
two bytes. But one packet may need more chunks than one: the run that waited, a two bit vector chunk
that the gap completes, a run length chunk for the rest of the gap, and the chunk that `Finish`
makes of the packet itself.

`chunksNeeded` counts these chunks from the context, the gap and the status. `size_bound` says that
a packet stays within the given size exactly as long as every recorded call has room for the chunks
that it needs.
-/

namespace MediasoupSfu

namespace Context

variable {ctx : Context} {status : Status}

/-- The chunks that are needed for the statuses that wait, a gap and the packet after it, including
the one that is left waiting. -/
def chunksNeeded (ctx : Context) (gap : ℕ) (status : Status) : ℕ :=
  if gap = 0 then if 7 ≤ ctx.statuses.length ∧ status ≠ ctx.currentStatus then 2 else 1
  else
    (if 7 ≤ ctx.statuses.length then 1 else 0) +
      if ctx.kept.length + gap < 7 then 1 else if ctx.kept.length + gap = 7 then 2 else 3

/-- The chunks of a step, with the one for what is left waiting. -/
def chunksOf (step : List Chunk × Context) : ℕ := step.1.length + step.2.pendingChunks.length

theorem chunksOf_append (chunks : List Chunk) (step : List Chunk × Context) :
    chunksOf (chunks ++ step.1, step.2) = chunks.length + chunksOf step := by
  rw [chunksOf, chunksOf, List.length_append, Nat.add_assoc]

theorem chunksOf_join (ctx : Context) (status : Status) : chunksOf (ctx.join status) = 1 := by
  unfold chunksOf join
  rw [length_pendingChunks]
  split
  · rfl
  · rw [if_neg (by simp [withReceived])]
    rfl

theorem chunksOf_receive (htidy : ctx.Tidy) : chunksOf (ctx.receive status) =
    if 7 ≤ ctx.statuses.length ∧ status ≠ ctx.currentStatus then 2 else 1 := by
  unfold receive
  by_cases hrun : 7 ≤ ctx.statuses.length ∧ status ≠ ctx.currentStatus
  · rw [if_pos ⟨hrun.1, (htidy.long hrun.1).1, hrun.2⟩, if_pos hrun]
    refine (chunksOf_append [ctx.run] ((ctx.cleared ctx.currentStatus).join status)).trans ?_
    rw [chunksOf_join]
    rfl
  · rw [if_neg fun h ↦ hrun ⟨h.1, h.2.2⟩, if_neg hrun, chunksOf_join]

theorem length_closedRun (ctx : Context) :
    ctx.closedRun.length = if 7 ≤ ctx.statuses.length then 1 else 0 := by
  unfold closedRun
  split <;> rfl

/-- **The chunks of one packet.** -/
theorem chunksOf_advance (htidy : ctx.Tidy) (missing : BitVec 16) (status : Status) :
    chunksOf (ctx.advance missing status) = ctx.chunksNeeded missing.toNat status := by
  unfold advance chunksNeeded
  dsimp only
  by_cases hpos : 0 < missing
  · have hgap : missing.toNat ≠ 0 := by
      have := BitVec.lt_def.mp hpos
      exact Nat.ne_of_gt this
    obtain ⟨htidy', hshort, -⟩ := skip_spec htidy missing
    rw [if_pos hpos, if_neg hgap, chunksOf_append, chunksOf_receive htidy',
      if_neg fun h ↦ absurd h.1 (Nat.not_le_of_lt hshort), ← length_closedRun]
    by_cases hfew : ctx.kept.length + missing.toNat < 7
    · rw [htidy.skip_wait hfew, if_pos hfew]
    · have hkept := ctx.length_kept_lt
      rw [htidy.skip_close (by omega), if_neg hfew, List.length_append, List.length_cons]
      unfold room
      by_cases hrest : missing.toNat = 7 - ctx.kept.length
      · rw [if_pos hrest, if_pos (by omega)]
        rfl
      · rw [if_neg hrest, if_neg (by omega)]
        rfl
  · have hzero : missing.toNat = 0 := by simpa [BitVec.lt_def] using hpos
    rw [if_neg hpos, if_pos hzero, chunksOf_append, chunksOf_receive htidy]
    exact Nat.zero_add _

end Context

namespace FeedbackRtpTransportPacket

variable {p p' : FeedbackRtpTransportPacket} {c : AddPacketCall} {result : AddPacketResult}
  {len : ℕ}

/-- The size of a packet with so many bytes of chunks and deltas. -/
def paddedSize (bytes : ℕ) : ℕ :=
  let size := feedbackHeaderSize + fixedHeaderSize + bytes
  size + padding size

/-- After `Finish` the packet has at most the given size, and `Serialize` writes as many bytes. -/
def FinishesWithin (len : ℕ) (p : FeedbackRtpTransportPacket) : Prop :=
  ∃ q bytes q', p.finish = .ok q ∧ q.getSize ≤ len ∧ p.serialize = .ok (bytes, q') ∧
    bytes.length = q.getSize

/-- There is room for the packet of a call that is recorded, with all the chunks that it needs. -/
def HasRoom (len : ℕ) (p : FeedbackRtpTransportPacket) (c : AddPacketCall) : Prop :=
  p.latestTimestamp ≠ 0 → isSeqHigherThan c.sequenceNumber p.latestSequenceNumber = true →
    paddedSize (p.deltasAndChunksSize + (serializeDelta (p.deltaOf c)).length +
      2 * p.context.chunksNeeded (p.missing c).toNat (deltaStatus (p.deltaOf c))) ≤ len

instance (len : ℕ) (p : FeedbackRtpTransportPacket) (c : AddPacketCall) :
    Decidable (HasRoom len p c) :=
  inferInstanceAs (Decidable (_ → _ → _ ≤ _))

theorem serializeChunks_written {chunks : List Chunk} (h : ∀ c ∈ chunks, c.Written) :
    ∃ bytes, serializeChunks chunks = .ok bytes ∧ bytes.length = 2 * chunks.length := by
  induction chunks with
  | nil => exact ⟨[], rfl, rfl⟩
  | cons c chunks ih =>
    obtain ⟨first, hfirst, hfirstLength⟩ := (h c List.mem_cons_self).serialize
    obtain ⟨rest, hrest, hrestLength⟩ := ih fun c' hc' ↦ h c' (List.mem_cons_of_mem _ hc')
    refine ⟨first ++ rest, ?_, ?_⟩
    · rw [serializeChunks, hfirst, hrest]
      rfl
    · rw [List.length_append, List.length_cons, hfirstLength, hrestLength]
      omega

/-- The size after `Finish`. -/
theorem Sound.finishesWithin_iff (h : p.Sound) : p.FinishesWithin len ↔
    paddedSize (p.deltasAndChunksSize + 2 * p.context.pendingChunks.length) ≤ len := by
  have hpending := addPendingChunks_eq h.tidy
  generalize hq : p.create (p.context.pendingChunks, { p.context with statuses := [] }) =
    q at hpending
  have hsize : q.getSize =
      paddedSize (p.deltasAndChunksSize + 2 * p.context.pendingChunks.length) := by
    rw [getSize, if_neg (by rw [← hq, size_create, h.local_size]; exact not_not.mpr rfl), ← hq,
      deltasAndChunksSize_create]
    rfl
  have hwritten : ∀ c ∈ q.chunks, c.Written := by
    intro c hc
    rw [← hq, chunks_create] at hc
    rcases List.mem_append.mp hc with hc | hc
    · exact h.written c hc
    · exact h.tidy.written_pendingChunks c hc
  obtain ⟨chunks, hchunks, hlength⟩ := serializeChunks_written hwritten
  constructor
  · rintro ⟨q', _, _, hfinish, hle, -⟩
    rw [finish, hpending] at hfinish
    cases hfinish
    exact hsize ▸ hle
  · intro hle
    have hdeltas : q.deltasAndChunksSize =
        2 * q.chunks.length + (q.deltas.flatMap serializeDelta).length := by
      rw [← hq, deltasAndChunksSize_create, chunks_create, deltas_create, h.bytes,
        List.length_append]
      omega
    let body := q.serializeHeader ++ Byte.set2Bytes q.baseSequenceNumber ++
      Byte.set2Bytes q.packetStatusCount ++ Byte.set3Bytes q.referenceTime ++
      [q.feedbackPacketCount] ++ chunks ++ q.deltas.flatMap serializeDelta
    have hbody : body.length = feedbackHeaderSize + fixedHeaderSize + q.deltasAndChunksSize := by
      change (q.serializeHeader ++ Byte.set2Bytes q.baseSequenceNumber ++
        Byte.set2Bytes q.packetStatusCount ++ Byte.set3Bytes q.referenceTime ++
        [q.feedbackPacketCount] ++ chunks ++ q.deltas.flatMap serializeDelta).length = _
      have hfixed : (q.serializeHeader ++ Byte.set2Bytes q.baseSequenceNumber ++
        Byte.set2Bytes q.packetStatusCount ++ Byte.set3Bytes q.referenceTime ++
        [q.feedbackPacketCount]).length = feedbackHeaderSize + fixedHeaderSize := rfl
      rw [List.length_append, List.length_append, hfixed, hlength, hdeltas]
      omega
    have hsize' : q.getSize = body.length + padding body.length := by
      rw [hsize, hbody, ← hq, deltasAndChunksSize_create]
      rfl
    refine ⟨q, body ++ List.replicate (padding body.length) 0, q, hpending, hsize ▸ hle, ?_, ?_⟩
    · unfold serialize
      rw [hpending]
      change (serializeChunks q.chunks >>= fun _ ↦ _) = _
      rw [hchunks]
      rfl
    · rw [List.length_append, List.length_replicate, hsize']

/-- The size after a call that is recorded. -/
theorem Sound.finishesWithin_record_iff (h : p.Sound) (c : AddPacketCall) :
    (p.record c).FinishesWithin len ↔
      paddedSize (p.deltasAndChunksSize + (serializeDelta (p.deltaOf c)).length +
        2 * p.context.chunksNeeded (p.missing c).toNat (deltaStatus (p.deltaOf c))) ≤ len := by
  have hchunks := Context.chunksOf_advance h.tidy (p.missing c) (deltaStatus (p.deltaOf c))
  rw [(h.record c).finishesWithin_iff, deltasAndChunksSize_record, context_record, ← hchunks,
    Context.chunksOf, Nat.mul_add, ← Nat.add_assoc]
  rfl

/-- What holds before every call of a run in which the calls have room. -/
def SizeInv (len : ℕ) (hist : List AddRecord) (p : FeedbackRtpTransportPacket) : Prop :=
  p.Sound ∧ ((∀ r ∈ hist, HasRoom len r.before r.event) → p.FinishesWithin len)

theorem sizeInv_step (hist : List AddRecord) (r : AddRecord) (h : SizeInv len hist r.before)
    (hstep : addStep r.before r.event = .ok (r.output, r.after)) :
    SizeInv len (hist ++ [r]) r.after := by
  obtain ⟨hs, hwithin⟩ := h
  have hout := (addPacket_outcome hstep).2
  refine ⟨hs.outcome hout, fun hroom ↦ ?_⟩
  have hbefore := hwithin fun r' hr' ↦ hroom r' (List.mem_append_left _ hr')
  have hr := hroom r (List.mem_append_right _ List.mem_cons_self)
  obtain ⟨before, event, output, after⟩ := r
  dsimp only at hs hout hbefore hr ⊢
  cases hout with
  | based =>
    rw [(hs.rebase event).finishesWithin_iff]
    exact hs.finishesWithin_iff.mp hbefore
  | ignored => exact hbefore
  | refused => exact hbefore
  | recorded hbase hnew => exact (hs.finishesWithin_record_iff event).mpr (hr hbase hnew)

/-- **The size bound.** Let `len` be a size, such as the one given to the calls, that is at least
that of a packet with one chunk and one delta. In a run of successful calls the packet stays within
`len` whenever `Finish` is called, exactly if every call has room for all the chunks that it
needs. -/
theorem size_bound (senderSsrc mediaSsrc : BitVec 32) (feedbackPacketCount : BitVec 8) (len : ℕ)
    (hlen : paddedSize (2 + 2) ≤ len) (calls : List AddPacketCall) (records : List AddRecord)
    (htrace : Run.trace addStep (fresh senderSsrc mediaSsrc feedbackPacketCount) calls =
      .ok records)
    (hsuccess : ∀ r ∈ records, r.output = .success) :
    (∀ r ∈ records, r.after.FinishesWithin len) ↔ ∀ r ∈ records, HasRoom len r.before r.event := by
  have hfresh : SizeInv len [] (fresh senderSsrc mediaSsrc feedbackPacketCount) := by
    refine ⟨sound_fresh _ _ _, fun _ ↦ (sound_fresh _ _ _).finishesWithin_iff.mpr ?_⟩
    have hempty : paddedSize 0 ≤ paddedSize (2 + 2) := by decide
    exact hempty.trans hlen
  constructor
  · intro hwithin r hr hbase hnew
    obtain ⟨pre, post, hsplit⟩ := List.append_of_mem hr
    obtain ⟨⟨hs, -⟩, hstep, -⟩ := Run.trace_invariant_after sizeInv_step hfresh htrace hsplit
    have hafter := hwithin r hr
    rw [(addPacket_outcome hstep).2.eq_record hbase hnew (hsuccess r hr)] at hafter
    exact (hs.finishesWithin_record_iff r.event).mp hafter
  · intro hroom r hr
    obtain ⟨pre, post, hsplit⟩ := List.append_of_mem hr
    obtain ⟨-, -, -, hafter⟩ := Run.trace_invariant_after sizeInv_step hfresh htrace hsplit
    exact hafter fun r' hr' ↦ hroom r' (Run.mem_of_split hsplit hr')

/-- Calls for every 21st sequence number, with the size that the server gives. -/
def spacedCalls (n : ℕ) : List AddPacketCall :=
  (List.range (n + 1)).map fun i ↦ ⟨BitVec.ofNat 16 (21 * i), BitVec.ofNat 64 (1000 + i), 1500⟩

theorem size_bound_three_gaps :
    ∃ records, Run.trace addStep (fresh 0 0 0) (spacedCalls 3) = .ok records ∧
      ∀ r ∈ records, r.after.FinishesWithin 1500 := by
  obtain ⟨records, htrace, hall⟩ :
      ∃ records, Run.trace addStep (fresh 0 0 0) (spacedCalls 3) = .ok records ∧
        ∀ r ∈ records, r.output = .success ∧ HasRoom 1500 r.before r.event := by
    decide +kernel
  exact ⟨records, htrace, (size_bound 0 0 0 1500 (by decide) _ records htrace
    fun r hr ↦ (hall r hr).1).mpr fun r hr ↦ (hall r hr).2⟩

/-- **The size is exceeded.** After 296 such packets, each of them accepted, the size is beyond the
one that was given. -/
theorem size_exceeded :
    ∃ records, Run.trace addStep (fresh 0 0 0) (spacedCalls 296) = .ok records ∧
      (∀ r ∈ records, r.output = .success) ∧
      ∃ r ∈ records, ∃ q, r.after.finish = .ok q ∧ q.getSize = 1504 := by
  decide +kernel

end FeedbackRtpTransportPacket

end MediasoupSfu
