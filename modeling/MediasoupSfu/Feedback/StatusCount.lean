import MediasoupSfu.Feedback.Calls

/-!
# The status count

`packetStatusCount` is a 16-bit counter of the statuses that are part of a chunk. `IsFull` compares
it with the greatest count, less a reserve of seven for what still waits in the context. But a
single call may add a gap of thousands of packets, and the run that waits may be as long, so the
reserve is too small and the counter wraps.

`status_count` gives the exact condition: the packet counts right as long as the calls report at
most 65535 packets in all, and no call finds a packet that was recorded at time zero, which it would
take for one without a base.
-/

namespace MediasoupSfu

namespace FeedbackRtpTransportPacket

variable {p p' : FeedbackRtpTransportPacket} {c : AddPacketCall} {result : AddPacketResult}

/-- The statuses that the packet stands for, in chunks or waiting. -/
def represented (p : FeedbackRtpTransportPacket) : ℕ :=
  totalCount p.chunks + p.context.statuses.length

theorem Sound.represented_record (h : p.Sound) (c : AddPacketCall)
    (hlt : p.context.statuses.length < 2 ^ 16) :
    (p.record c).represented = p.represented + ((p.missing c).toNat + 1) := by
  have hsymbols := congrArg List.length ((h.advances c).symbols hlt)
  rw [List.length_append, List.length_append, List.length_append, List.length_replicate,
    List.length_singleton, ← totalCount] at hsymbols
  rw [represented, represented, chunks_record, context_record, totalCount_append]
  omega

end FeedbackRtpTransportPacket

namespace AddRecord

/-- The call records its packet. -/
def Recorded (r : AddRecord) : Prop :=
  r.before.latestTimestamp ≠ 0 ∧
    isSeqHigherThan r.event.sequenceNumber r.before.latestSequenceNumber = true ∧
    r.output = .success

instance (r : AddRecord) : Decidable r.Recorded := inferInstanceAs (Decidable (_ ∧ _ ∧ _))

/-- The number of packets that a call reports: the gap and its packet. -/
def reported (r : AddRecord) : ℕ := if r.Recorded then (r.before.missing r.event).toNat + 1 else 0

/-- The number of packets that the calls of a run report. -/
def total (records : List AddRecord) : ℕ := (records.map reported).sum

/-- The call sets a new base although a packet has been recorded. -/
def Rebases (r : AddRecord) : Prop := r.before.latestTimestamp = 0 ∧ r.before.deltas ≠ []

theorem reported_of_recorded {r : AddRecord} (h : r.Recorded) :
    r.reported = (r.before.missing r.event).toNat + 1 := if_pos h

theorem reported_eq_zero {r : AddRecord} (h : ¬r.Recorded) : r.reported = 0 := if_neg h

theorem total_concat (hist : List AddRecord) (r : AddRecord) :
    total (hist ++ [r]) = total hist + r.reported := by
  simp [total]

theorem total_le_of_prefix {hist post : List AddRecord} : total hist ≤ total (hist ++ post) := by
  simp [total]

end AddRecord

namespace FeedbackRtpTransportPacket

variable {p p' : FeedbackRtpTransportPacket} {c : AddPacketCall} {result : AddPacketResult}

open AddRecord

/-- What the packet has to do with the calls of a run that reports `n` packets. -/
structure Counts (n : ℕ) (p : FeedbackRtpTransportPacket) : Prop where
  represented : p.represented = n
  /-- From the base to the latest sequence number there are as many packets. -/
  distance : p.latestTimestamp ≠ 0 ∨ p.deltas ≠ [] →
    p.baseSequenceNumber + BitVec.ofNat 16 n = p.latestSequenceNumber + 1
  /-- Nothing is reported without a delta. -/
  empty : p.deltas = [] ↔ n = 0

/-- One call of a run counts on. -/
theorem Counts.outcome {n : ℕ} {r : AddRecord} (h : Counts n r.before) (hs : r.before.Sound)
    (hrebase : ¬r.Rebases) (hlt : r.before.context.statuses.length < 2 ^ 16)
    (hout : Outcome r.before r.event r.output r.after) : Counts (n + r.reported) r.after := by
  obtain ⟨before, event, output, after⟩ := r
  dsimp only at h hs hlt hout
  cases hout with
  | based hbase =>
    have hnil : before.deltas = [] := by
      by_contra hne
      exact hrebase ⟨hbase, hne⟩
    have hzero := h.empty.mp hnil
    rw [reported_eq_zero fun hrec ↦ hrec.1 hbase, hzero]
    exact ⟨h.represented.trans hzero, fun _ ↦ BitVec.add_zero _,
      ⟨fun _ ↦ rfl, fun _ ↦ hnil⟩⟩
  | ignored _ hold =>
    rw [reported_eq_zero fun hrec ↦ Bool.eq_false_iff.mp hold hrec.2.1]
    exact h
  | refused _ _ hresult =>
    rw [reported_eq_zero fun hrec ↦ hresult hrec.2.2]
    exact h
  | recorded hbase hnew =>
    rw [reported_of_recorded ⟨hbase, hnew, rfl⟩]
    refine ⟨?_, fun _ ↦ ?_, by simp⟩
    · rw [hs.represented_record event hlt, h.represented]
    · have hheader := before.header_record event
      simp only [header, Prod.mk.injEq] at hheader
      rw [hheader.2.2.2.2.1]
      change _ = event.sequenceNumber + 1
      rw [BitVec.ofNat_add, BitVec.ofNat_add, ← BitVec.add_assoc, h.distance (Or.inl hbase),
        BitVec.ofNat_toNat, BitVec.setWidth_eq, ← BitVec.add_assoc]
      congr 1
      rw [missing, BitVec.add_comm, BitVec.sub_add_cancel]

/-- The invariant of the count. Without a new base in between, and while no run is as long as the
counter, the packet counts the reported packets; and while few are reported, no run is that long. -/
def CountInv (hist : List AddRecord) (p : FeedbackRtpTransportPacket) : Prop :=
  p.Sound ∧ ((∀ r ∈ hist, ¬r.Rebases) →
    ((∀ r ∈ hist, r.before.context.statuses.length < 2 ^ 16) → Counts (total hist) p) ∧
    (total hist < 2 ^ 16 → ∀ r ∈ hist, r.before.context.statuses.length < 2 ^ 16))

theorem countInv_step (hist : List AddRecord) (r : AddRecord) (h : CountInv hist r.before)
    (hstep : addStep r.before r.event = .ok (r.output, r.after)) :
    CountInv (hist ++ [r]) r.after := by
  obtain ⟨hs, hcount⟩ := h
  have hout := (addPacket_outcome hstep).2
  have hr : r ∈ hist ++ [r] := List.mem_append_right _ List.mem_cons_self
  refine ⟨hs.outcome hout, fun hrebase ↦ ?_⟩
  obtain ⟨hcounts, hshort⟩ := hcount fun r' hr' ↦ hrebase r' (List.mem_append_left _ hr')
  rw [total_concat]
  constructor
  · intro hlt
    exact (hcounts fun r' hr' ↦ hlt r' (List.mem_append_left _ hr')).outcome hs (hrebase r hr)
      (hlt r hr) hout
  · intro htotal r' hr'
    have hpast := hshort (by omega)
    rcases List.mem_append.mp hr' with hr' | hr'
    · exact hpast r' hr'
    · have hrepresented := (hcounts hpast).represented
      rw [List.mem_singleton.mp hr']
      unfold represented at hrepresented
      omega

/-! ## After `Finish` -/

/-- The status count is right as a natural number: it is the sum of the counts of the chunks, and,
once a packet is recorded, the distance from the base to the latest sequence number plus one. -/
def CountsExactly (q : FeedbackRtpTransportPacket) : Prop :=
  q.packetStatusCount.toNat = (q.chunks.map fun c ↦ c.getCount.toNat).sum ∧
    (q.deltas ≠ [] →
      q.packetStatusCount.toNat = (q.latestSequenceNumber - q.baseSequenceNumber).toNat + 1)

/-- After `Finish` the status count is right. -/
def FinishesExactly (p : FeedbackRtpTransportPacket) : Prop :=
  ∃ q, p.finish = .ok q ∧ q.CountsExactly

/-- The count of a sound packet after `Finish`, if no run is as long as the counter. -/
theorem Sound.finishesExactly_iff (h : p.Sound) (hlt : p.context.statuses.length < 2 ^ 16) {n : ℕ}
    (hcounts : Counts n p) : p.FinishesExactly ↔ n < 2 ^ 16 := by
  have htotal : totalCount (p.chunks ++ p.context.pendingChunks) = n := by
    rw [totalCount_append, totalCount, totalCount, h.tidy.symbols_pendingChunks h.waiting hlt]
    exact hcounts.represented
  have hsized : ∀ c ∈ p.chunks ++ p.context.pendingChunks, c.Sized := by
    intro c hc
    rcases List.mem_append.mp hc with hc | hc
    · exact (h.written c hc).sized
    · exact (h.tidy.written_pendingChunks c hc).sized
  -- The three numbers are `n` modulo `2 ^ 16`, `n`, and `n` less one modulo `2 ^ 16` plus one.
  have hcount : (p.create (p.context.pendingChunks,
      { p.context with statuses := [] })).packetStatusCount.toNat = n % 2 ^ 16 := by
    rw [count_create h.count fun c hc ↦ (h.tidy.written_pendingChunks c hc).sized, chunks_create,
      htotal, BitVec.toNat_ofNat]
  have hsum : ((p.create (p.context.pendingChunks, { p.context with statuses := [] })).chunks.map
      fun c ↦ c.getCount.toNat).sum = n := by
    rw [chunks_create, ← totalCount_eq_sum hsized, htotal]
  constructor
  · rintro ⟨q, hq, hexact, -⟩
    rw [finish, addPendingChunks_eq h.tidy] at hq
    cases hq
    rw [hcount, hsum] at hexact
    omega
  · intro hn
    refine ⟨_, addPendingChunks_eq h.tidy, ?_, fun hne ↦ ?_⟩
    · rw [hcount, hsum, Nat.mod_eq_of_lt hn]
    · rw [deltas_create] at hne
      obtain ⟨hheader, -, hlatest, -⟩ := foldl_createChunk_frame p p.context.pendingChunks
      simp only [header, Prod.mk.injEq] at hheader
      rw [hcount, Nat.mod_eq_of_lt hn]
      change n = ((p.context.pendingChunks.foldl createChunk p).latestSequenceNumber -
        (p.context.pendingChunks.foldl createChunk p).baseSequenceNumber).toNat + 1
      rw [hlatest, hheader.2.2.2.2.1]
      have hpos : n ≠ 0 := fun hzero ↦ hne (hcounts.empty.mpr hzero)
      have hdistance := hcounts.distance (Or.inr hne)
      have hlatest' : p.latestSequenceNumber = p.baseSequenceNumber + BitVec.ofNat 16 (n - 1) := by
        have hone : BitVec.ofNat 16 n = BitVec.ofNat 16 (n - 1) + 1 := by
          conv_lhs => rw [show n = n - 1 + 1 by omega, BitVec.ofNat_add]
          rfl
        rw [hone, ← BitVec.add_assoc] at hdistance
        exact ((BitVec.add_left_inj 1).mp hdistance).symm
      rw [hlatest', ← Serial.pos, Serial.pos_add_ofNat (by omega)]
      omega

/-- A new base after a packet was recorded spoils the count. -/
theorem Sound.not_finishesExactly_rebase (h : p.Sound) (hne : p.deltas ≠ []) (c : AddPacketCall) :
    ¬(p.rebase c).FinishesExactly := by
  rintro ⟨q, hq, -, hexact⟩
  rw [finish, addPendingChunks_eq (h.rebase c).tidy] at hq
  cases hq
  rw [deltas_create] at hexact
  have hdistance := hexact hne
  obtain ⟨hheader, -, hlatest, -⟩ :=
    foldl_createChunk_frame (p.rebase c) (p.rebase c).context.pendingChunks
  simp only [header, Prod.mk.injEq] at hheader
  have hlt := ((p.rebase c).create ((p.rebase c).context.pendingChunks,
    { (p.rebase c).context with statuses := [] })).packetStatusCount.isLt
  have hspan : (((p.rebase c).context.pendingChunks.foldl createChunk
      (p.rebase c)).latestSequenceNumber
      - ((p.rebase c).context.pendingChunks.foldl createChunk
        (p.rebase c)).baseSequenceNumber).toNat
      = 2 ^ 16 - 1 := by
    rw [hlatest, hheader.2.2.2.2.1]
    exact Serial.pos_succ_self (by decide) c.sequenceNumber
  change _ = (((p.rebase c).context.pendingChunks.foldl createChunk
    (p.rebase c)).latestSequenceNumber
      - ((p.rebase c).context.pendingChunks.foldl createChunk
        (p.rebase c)).baseSequenceNumber).toNat
      + 1 at hdistance
  omega

theorem total_le_of_split {records pre post : List AddRecord} {r : AddRecord}
    (h : records = pre ++ r :: post) : total (pre ++ [r]) ≤ total records := by
  have hassoc : records = pre ++ [r] ++ post := by rw [h, List.append_assoc]; rfl
  rw [hassoc]
  exact total_le_of_prefix

/-- **The status count.** If no call sets a new base after a packet was recorded, and fewer than
`2 ^ 16` packets are reported in all, then the status count is right after `Finish`, whenever that
is called. Conversely, in runs with sizes below `2 ^ 16`, it is not right whenever `Finish` is
called unless this is so. -/
theorem status_count (senderSsrc mediaSsrc : BitVec 32) (feedbackPacketCount : BitVec 8)
    (calls : List AddPacketCall) (records : List AddRecord)
    (htrace : Run.trace addStep (fresh senderSsrc mediaSsrc feedbackPacketCount) calls =
      .ok records) :
    ((∀ r ∈ records, ¬r.Rebases) → total records < 2 ^ 16 →
      ∀ r ∈ records, r.after.FinishesExactly) ∧
    ((∀ c ∈ calls, c.maxRtcpPacketLen < 2 ^ 16) → (∀ r ∈ records, r.after.FinishesExactly) →
      (∀ r ∈ records, ¬r.Rebases) ∧ total records < 2 ^ 16) := by
  have hfresh : CountInv [] (fresh senderSsrc mediaSsrc feedbackPacketCount) :=
    ⟨sound_fresh _ _ _, fun _ ↦ ⟨fun _ ↦ ⟨rfl, fun h ↦ h.elim (absurd rfl) (absurd rfl),
      by simp [total, fresh]⟩, fun _ ↦ List.forall_mem_nil _⟩⟩
  constructor
  · intro hrebase htotal r hr
    obtain ⟨pre, post, hsplit⟩ := List.append_of_mem hr
    obtain ⟨-, -, hs, hcount⟩ := Run.trace_invariant_after countInv_step hfresh htrace hsplit
    have hsmall := (total_le_of_split hsplit).trans_lt htotal
    obtain ⟨hcounts, hshort⟩ := hcount fun r' hr' ↦ hrebase r' (Run.mem_of_split hsplit hr')
    have hcounts' := hcounts (hshort hsmall)
    have hlt : r.after.context.statuses.length < 2 ^ 16 := by
      have hrepresented := hcounts'.represented
      unfold represented at hrepresented
      omega
    exact (hs.finishesExactly_iff hlt hcounts').mpr hsmall
  · intro hlen hexact
    have hpending : ∀ r ∈ records, r.before.Sound ∧ r.before.context.statuses.length < 2 ^ 16 ∧
        r.after.context.statuses.length < 2 ^ 16 := by
      intro r hr
      obtain ⟨hs, hbefore, -, hafter⟩ :=
        pending_of_trace (m := 65535) htrace (fun c hc ↦ Nat.le_of_lt_succ (hlen c hc)) hr
      exact ⟨hs, by omega, by omega⟩
    have hrebase : ∀ r ∈ records, ¬r.Rebases := by
      rintro r hr ⟨hbase, hne⟩
      obtain ⟨pre, post, hsplit⟩ := List.append_of_mem hr
      obtain ⟨-, hstep, -⟩ := Run.trace_invariant_after countInv_step hfresh htrace hsplit
      have hafter := hexact r hr
      rw [(addPacket_outcome hstep).2.eq_rebase hbase] at hafter
      exact (hpending r hr).1.not_finishesExactly_rebase hne r.event hafter
    refine ⟨hrebase, ?_⟩
    rcases List.eq_nil_or_concat records with rfl | ⟨pre, r, rfl⟩
    · exact Nat.two_pow_pos 16
    · rw [List.concat_eq_append] at *
      obtain ⟨-, -, hs, hcount⟩ := Run.trace_invariant_after countInv_step hfresh htrace rfl
      have hr : r ∈ pre ++ [r] := List.mem_append_right _ List.mem_cons_self
      have hcounts := (hcount hrebase).1 fun r' hr' ↦ (hpending r' hr').2.1
      exact (hs.finishesExactly_iff (hpending r hr).2.2 hcounts).mp (hexact r hr)

/-- Gaps of 8191 packets, the greatest that are accepted. -/
def longGaps (n : ℕ) : List AddPacketCall :=
  ⟨65535, 1000, 1200⟩ ::
    (List.range n).map fun i ↦
    ⟨BitVec.ofNat 16 (8192 * (i + 1) - 1), BitVec.ofNat 64 (1001 + i), 1200⟩

theorem status_count_seven_gaps :
    ∃ records, Run.trace addStep (fresh 0 0 0) (longGaps 7) = .ok records ∧
      total records = 57344 ∧ ∀ r ∈ records, r.after.FinishesExactly := by
  obtain ⟨records, htrace, htotal, hbases⟩ :
      ∃ records, Run.trace addStep (fresh 0 0 0) (longGaps 7) = .ok records ∧
        total records = 57344 ∧
        ∀ r ∈ records, r.before.latestTimestamp ≠ 0 ∨ r.before.deltas = [] := by
    decide +kernel
  refine ⟨records, htrace, htotal, (status_count 0 0 0 _ records htrace).1 ?_ (by omega)⟩
  rintro r hr ⟨hbase, hne⟩
  exact (hbases r hr).elim (· hbase) hne

/-- **The status count wraps.** Eight such gaps are accepted, and the count is zero after
`Finish`. -/
theorem status_count_wraps :
    ∃ records, Run.trace addStep (fresh 0 0 0) (longGaps 8) = .ok records ∧
      (∀ r ∈ records, Recorded r → (r.before.missing r.event).toNat ≤ maxMissingPackets) ∧
      ∃ r ∈ records, Recorded r ∧ ∃ q, r.after.finish = .ok q ∧ q.packetStatusCount = 0 ∧
        (q.chunks.map fun c ↦ c.getCount.toNat).sum = 65536 := by
  decide +kernel

end FeedbackRtpTransportPacket

end MediasoupSfu
