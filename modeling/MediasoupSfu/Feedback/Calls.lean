import MediasoupSfu.Feedback.Context
import MediasoupSfu.Library.Run

/-!
# Calls of `AddPacket`

A call of `AddPacket` sets the base of the packet, ignores an old packet, refuses a packet or
records it (`Outcome`). What a packet keeps over all runs of calls, with any arguments, is `Sound`.

Before a packet is recorded its gap is checked. The gap is computed in `int`, so when the sequence
numbers wrap between the latest packet and the new one, the difference is negative and passes any
bound. `gap_check` says that this is the only way in which the check fails, and that without such a
call no run length chunk is created that does not fit its field.
-/

namespace MediasoupSfu

namespace FeedbackRtpTransportPacket

variable {p p' : FeedbackRtpTransportPacket} {c : AddPacketCall} {result : AddPacketResult}

/-! ## One call -/

/-- The gap before the packet of a call, as `FillChunk` counts it. -/
def missing (p : FeedbackRtpTransportPacket) (c : AddPacketCall) : BitVec 16 :=
  c.sequenceNumber - (p.latestSequenceNumber + 1)

/-- The delta of the packet of a call. -/
def deltaOf (p : FeedbackRtpTransportPacket) (c : AddPacketCall) : BitVec 16 :=
  (p.delta64 c.timestamp).setWidth 16

/-- The packet after a call that sets the base. -/
def rebase (p : FeedbackRtpTransportPacket) (c : AddPacketCall) : FeedbackRtpTransportPacket :=
  { p with
    baseSequenceNumber := c.sequenceNumber + 1
    referenceTime := ((c.timestamp &&& 0x1FFFFFC0) / 64).setWidth 32
    latestSequenceNumber := c.sequenceNumber
    latestTimestamp := (c.timestamp >>> 6) * 64 }

/-- The packet after a call that is recorded. -/
def record (p : FeedbackRtpTransportPacket) (c : AddPacketCall) : FeedbackRtpTransportPacket :=
  { (p.withDelta (p.deltaOf c)).create
      (p.context.advance (p.missing c) (deltaStatus (p.deltaOf c))) with
    latestSequenceNumber := c.sequenceNumber
    latestTimestamp := c.timestamp }

/-- The delta is one that `AddPacket` accepts. -/
def DeltaFits (p : FeedbackRtpTransportPacket) (c : AddPacketCall) : Prop :=
  (p.delta64 c.timestamp).toInt ≤ maxPacketDelta ∧
  -1 * maxPacketDelta ≤ (p.delta64 c.timestamp).toInt

/-- What a call of `AddPacket` can do to a packet that is not full. -/
inductive Outcome (p : FeedbackRtpTransportPacket) (c : AddPacketCall) :
    AddPacketResult → FeedbackRtpTransportPacket → Prop
  | based (hbase : p.latestTimestamp = 0) : Outcome p c .success (p.rebase c)
  | ignored (hbase : p.latestTimestamp ≠ 0)
      (hold : isSeqHigherThan c.sequenceNumber p.latestSequenceNumber = false) :
      Outcome p c .success p
  | refused {result : AddPacketResult} (hbase : p.latestTimestamp ≠ 0)
      (hnew : isSeqHigherThan c.sequenceNumber p.latestSequenceNumber = true)
      (hresult : result ≠ .success) : Outcome p c result p
  | recorded (hbase : p.latestTimestamp ≠ 0)
      (hnew : isSeqHigherThan c.sequenceNumber p.latestSequenceNumber = true)
      (hgap : p.missingPackets c.sequenceNumber ≤ maxMissingPackets) (hdelta : p.DeltaFits c)
      (hsize : p.sizeWithAnother ≤ c.maxRtcpPacketLen) : Outcome p c .success (p.record c)

theorem addPacket_outcome
    (h : p.addPacket c.sequenceNumber c.timestamp c.maxRtcpPacketLen = .ok (result, p')) :
    p.isFull = false ∧ Outcome p c result p' := by
  simp only [addPacket, bind_eq_ok, msAssert_eq_ok] at h
  obtain ⟨-, hfull, h⟩ := h
  refine ⟨by simpa using hfull, ?_⟩
  by_cases hbase : p.latestTimestamp = 0
  · rw [if_pos hbase] at h
    cases h
    exact .based hbase
  rw [if_neg hbase] at h
  by_cases hnew : isSeqHigherThan c.sequenceNumber p.latestSequenceNumber = true
  · rw [if_neg (not_not.mpr hnew)] at h
    by_cases hgap : (maxMissingPackets : ℤ) < p.missingPackets c.sequenceNumber
    · rw [if_pos hgap] at h
      cases h
      exact .refused hbase hnew nofun
    rw [if_neg hgap] at h
    by_cases hdelta : maxPacketDelta < (p.delta64 c.timestamp).toInt ∨
        (p.delta64 c.timestamp).toInt < -1 * maxPacketDelta
    · rw [if_pos hdelta] at h
      cases h
      exact .refused hbase hnew nofun
    rw [if_neg hdelta] at h
    by_cases hsize : c.maxRtcpPacketLen < p.sizeWithAnother
    · rw [if_pos hsize] at h
      cases h
      exact .refused hbase hnew nofun
    rw [if_neg hsize] at h
    rw [not_or, not_lt, not_lt] at hdelta
    obtain ⟨rfl, rfl⟩ := Prod.mk.inj (Except.ok.inj h)
    rw [fillChunk_eq]
    exact .recorded hbase hnew (not_lt.mp hgap) hdelta (not_lt.mp hsize)
  · rw [if_pos hnew] at h
    cases h
    exact .ignored hbase (by simpa using hnew)

/-- Without a base a call sets one. -/
theorem Outcome.eq_rebase (h : Outcome p c result p') (hbase : p.latestTimestamp = 0) :
    p' = p.rebase c := by
  cases h with
  | based => rfl
  | ignored hne => exact absurd hbase hne
  | refused hne => exact absurd hbase hne
  | recorded hne => exact absurd hbase hne

/-- A newer packet that is accepted is recorded. -/
theorem Outcome.eq_record (h : Outcome p c result p') (hbase : p.latestTimestamp ≠ 0)
    (hnew : isSeqHigherThan c.sequenceNumber p.latestSequenceNumber = true)
    (hsuccess : result = .success) : p' = p.record c := by
  cases h with
  | based hzero => exact absurd hzero hbase
  | ignored _ hold => exact absurd hnew (Bool.eq_false_iff.mp hold)
  | refused _ _ hresult => exact absurd hsuccess hresult
  | recorded => rfl

/-- A call that passes every check is recorded. -/
theorem addPacket_recorded (hfull : p.isFull = false) (hbase : p.latestTimestamp ≠ 0)
    (hnew : isSeqHigherThan c.sequenceNumber p.latestSequenceNumber = true)
    (hgap : p.missingPackets c.sequenceNumber ≤ maxMissingPackets) (hdelta : p.DeltaFits c)
    (hsize : p.sizeWithAnother ≤ c.maxRtcpPacketLen) :
    p.addPacket c.sequenceNumber c.timestamp c.maxRtcpPacketLen = .ok (.success, p.record c) := by
  have hdelta' : ¬(maxPacketDelta < (p.delta64 c.timestamp).toInt ∨
      (p.delta64 c.timestamp).toInt < -1 * maxPacketDelta) := by
    rw [not_or, not_lt, not_lt]
    exact hdelta
  unfold addPacket
  rw [hfull]
  change (if _ then _ else _) = _
  rw [if_neg hbase, if_neg (not_not.mpr hnew), if_neg (not_lt.mpr hgap)]
  dsimp only
  rw [if_neg hdelta', if_neg (not_lt.mpr hsize), fillChunk_eq]
  rfl

/-- A packet that is not full takes every call. -/
theorem addPacket_total (hfull : p.isFull = false) (c : AddPacketCall) :
    ∃ result p', p.addPacket c.sequenceNumber c.timestamp c.maxRtcpPacketLen =
      .ok (result, p') := by
  simp only [addPacket, hfull, Bool.not_false, msAssert_true]
  dsimp only [bind, Except.bind, pure, Except.pure]
  split_ifs <;> exact ⟨_, _, rfl⟩

/-- A newer packet is refused for its size only if there is no room for one more chunk. -/
theorem addPacket_maxSizeExceeded
    (h : p.addPacket c.sequenceNumber c.timestamp c.maxRtcpPacketLen = .ok (.maxSizeExceeded, p')) :
    c.maxRtcpPacketLen < p.sizeWithAnother := by
  by_contra hsize
  simp only [addPacket, bind_eq_ok, msAssert_eq_ok, if_neg hsize] at h
  obtain ⟨-, -, h⟩ := h
  split_ifs at h <;> cases h

/-! ## What every run keeps -/

/-- What holds of a packet that is being built, whatever the calls were. -/
structure Sound (p : FeedbackRtpTransportPacket) : Prop where
  tidy : p.context.Tidy
  waiting : p.context.statuses ≠ [] → p.context.currentStatus.isReceived = true
  /-- A packet that is being built has no size of its own. -/
  local_size : p.size = 0
  /-- The statuses in chunks are counted, modulo `2 ^ 16`. -/
  count : p.packetStatusCount = BitVec.ofNat 16 (totalCount p.chunks)
  written : ∀ c ∈ p.chunks, c.Written
  /-- The bytes of chunks and deltas are counted. -/
  bytes : p.deltasAndChunksSize = 2 * p.chunks.length + (p.deltas.flatMap serializeDelta).length
  /-- What waits are received packets, but for a few. -/
  pending : p.context.statuses.length ≤ p.deltas.length + 6

theorem sound_fresh (senderSsrc mediaSsrc : BitVec 32) (feedbackPacketCount : BitVec 8) :
    Sound { senderSsrc := senderSsrc, mediaSsrc := mediaSsrc
            feedbackPacketCount := feedbackPacketCount } :=
  ⟨.empty rfl, fun h ↦ absurd rfl h, rfl, rfl, nofun, rfl, Nat.zero_le _⟩

/-- Chunks whose statuses are fewer than `2 ^ 16` are counted. -/
theorem sum_getCount {chunks : List Chunk} (h : ∀ c ∈ chunks, c.Sized) :
    (chunks.map Chunk.getCount).sum = BitVec.ofNat 16 (totalCount chunks) := by
  induction chunks with
  | nil => rfl
  | cons c chunks ih =>
    rw [List.map_cons, List.sum_cons, ih fun c' hc' ↦ h c' (List.mem_cons_of_mem _ hc'),
      totalCount_cons, BitVec.ofNat_add, ← (h c List.mem_cons_self).getCount_toNat,
      BitVec.ofNat_toNat, BitVec.setWidth_eq]

theorem totalCount_append (xs ys : List Chunk) :
    totalCount (xs ++ ys) = totalCount xs + totalCount ys := by
  rw [totalCount, List.flatMap_append, List.length_append]
  rfl

/-- Creating chunks keeps the counts. -/
theorem count_create {a : List Chunk × Context}
    (hcount : p.packetStatusCount = BitVec.ofNat 16 (totalCount p.chunks))
    (ha : ∀ c ∈ a.1, c.Sized) :
    (p.create a).packetStatusCount = BitVec.ofNat 16 (totalCount (p.create a).chunks) := by
  rw [packetStatusCount_create, chunks_create, totalCount_append, BitVec.ofNat_add, hcount,
    sum_getCount ha]

theorem header_create (p : FeedbackRtpTransportPacket) (a : List Chunk × Context) :
    (p.create a).header = p.header := (foldl_createChunk_frame p a.1).1

theorem size_create (p : FeedbackRtpTransportPacket) (a : List Chunk × Context) :
    (p.create a).size = p.size := by
  have hheader := header_create p a
  simp only [header, Prod.mk.injEq] at hheader
  exact hheader.2.2.2.2.2.2.2

theorem deltas_create (p : FeedbackRtpTransportPacket) (a : List Chunk × Context) :
    (p.create a).deltas = p.deltas := (foldl_createChunk_frame p a.1).2.1

/-! ### The members of a recorded packet -/

/-- What the context does for a call. -/
def advanceFor (p : FeedbackRtpTransportPacket) (c : AddPacketCall) : List Chunk × Context :=
  p.context.advance (p.missing c) (deltaStatus (p.deltaOf c))

@[simp] theorem context_record (p : FeedbackRtpTransportPacket) (c : AddPacketCall) :
    (p.record c).context = (p.advanceFor c).2 := rfl

@[simp] theorem chunks_record (p : FeedbackRtpTransportPacket) (c : AddPacketCall) :
    (p.record c).chunks = p.chunks ++ (p.advanceFor c).1 := chunks_create _ _

@[simp] theorem deltas_record (p : FeedbackRtpTransportPacket) (c : AddPacketCall) :
    (p.record c).deltas = p.deltas ++ [p.deltaOf c] := deltas_create _ _

@[simp] theorem deltasAndChunksSize_record (p : FeedbackRtpTransportPacket) (c : AddPacketCall) :
    (p.record c).deltasAndChunksSize = p.deltasAndChunksSize +
    (serializeDelta (p.deltaOf c)).length +
      2 * (p.advanceFor c).1.length := deltasAndChunksSize_create _ _

theorem header_withLatest (p : FeedbackRtpTransportPacket) (sequenceNumber : BitVec 16)
    (timestamp : BitVec 64) :
    { p with latestSequenceNumber := sequenceNumber, latestTimestamp := timestamp }.header =
      p.header := rfl

theorem header_record (p : FeedbackRtpTransportPacket) (c : AddPacketCall) :
    (p.record c).header = p.header := by
  rw [record, header_withLatest, header_create]
  rfl

namespace Sound

theorem rebase (h : p.Sound) (c : AddPacketCall) : (p.rebase c).Sound :=
  ⟨h.tidy, h.waiting, h.local_size, h.count, h.written, h.bytes, h.pending⟩

theorem advances (h : p.Sound) (c : AddPacketCall) :
    p.context.Advances (p.missing c).toNat (deltaStatus (p.deltaOf c)) (p.advanceFor c) :=
  Context.advance_spec (isReceived_deltaStatus _) h.tidy _

theorem record (h : p.Sound) (c : AddPacketCall) : (p.record c).Sound := by
  have hadv := h.advances c
  refine ⟨hadv.tidy, hadv.waiting, ?_, ?_, ?_, ?_, ?_⟩
  · exact (size_create _ _).trans h.local_size
  · exact count_create h.count fun c' hc' ↦ (hadv.written c' hc').sized
  · intro c' hc'
    rw [chunks_record] at hc'
    rcases List.mem_append.mp hc' with hc' | hc'
    · exact h.written c' hc'
    · exact hadv.written c' hc'
  · rw [deltasAndChunksSize_record, chunks_record, deltas_record, h.bytes, List.length_append,
      List.flatMap_append, List.length_append, List.flatMap_singleton]
    omega
  · rw [deltas_record, context_record, List.length_append, List.length_singleton]
    have hpending := h.pending
    rcases hadv.pending with hle | hle
    · exact hle.trans (by omega)
    · exact hle.trans (by omega)

/-- One call keeps the packet sound. -/
theorem outcome (h : p.Sound) (hout : Outcome p c result p') : p'.Sound := by
  cases hout with
  | based => exact h.rebase c
  | ignored => exact h
  | refused => exact h
  | recorded => exact h.record c

end Sound

/-- `AddPacket` as a step of a run. -/
def addStep (p : FeedbackRtpTransportPacket) (c : AddPacketCall) :
    Except Fault (AddPacketResult × FeedbackRtpTransportPacket) :=
  p.addPacket c.sequenceNumber c.timestamp c.maxRtcpPacketLen

/-- A packet as the constructor makes it, with its number. -/
def fresh (senderSsrc mediaSsrc : BitVec 32) (feedbackPacketCount : BitVec 8) :
    FeedbackRtpTransportPacket :=
  { senderSsrc := senderSsrc, mediaSsrc := mediaSsrc, feedbackPacketCount := feedbackPacketCount }

end FeedbackRtpTransportPacket

/-- One call of a run with the packets around it. -/
abbrev AddRecord := Run.Record FeedbackRtpTransportPacket AddPacketCall AddPacketResult

namespace FeedbackRtpTransportPacket

variable {p p' : FeedbackRtpTransportPacket} {c : AddPacketCall} {result : AddPacketResult}

/-- In runs whose calls give at most `m` bytes there is room for few deltas. -/
def FewDeltas (m : ℕ) (p : FeedbackRtpTransportPacket) : Prop :=
  p.deltas = [] ∨ p.deltas.length + 23 ≤ m

theorem FewDeltas.outcome {m : ℕ} (h : p.FewDeltas m) (hs : p.Sound) (hm : c.maxRtcpPacketLen ≤ m)
    (hout : Outcome p c result p') : p'.FewDeltas m := by
  cases hout with
  | based => exact h
  | ignored => exact h
  | refused => exact h
  | recorded _ _ _ _ hsize =>
    refine Or.inr ?_
    have hbytes := hs.bytes
    have hlength := Reports.length_le_flatMap_serializeDelta p.deltas
    have hmore : feedbackHeaderSize + fixedHeaderSize + p.deltasAndChunksSize + 2 + 2
        ≤ p.sizeWithAnother := Nat.le_add_right _ _
    unfold feedbackHeaderSize fixedHeaderSize at hmore
    rw [deltas_record, List.length_append, List.length_singleton]
    omega

theorem FewDeltas.pending {m : ℕ} (h : p.FewDeltas m) (hs : p.Sound) :
    p.context.statuses.length ≤ max 6 m := by
  have hpending := hs.pending
  rcases h with hnil | hle
  · rw [hnil] at hpending
    exact hpending.trans (Nat.le_max_left 6 m)
  · omega

/-- The invariant of runs with at most `m` bytes. -/
def FewInv (m : ℕ) (hist : List AddRecord) (p : FeedbackRtpTransportPacket) : Prop :=
  (∀ r ∈ hist, r.event.maxRtcpPacketLen ≤ m) → p.Sound ∧ p.FewDeltas m

theorem fewInv_step {m : ℕ} (hist : List AddRecord) (r : AddRecord) (h : FewInv m hist r.before)
    (hstep : addStep r.before r.event = .ok (r.output, r.after)) :
    FewInv m (hist ++ [r]) r.after := by
  intro hlen
  obtain ⟨hs, hfew⟩ := h fun r' hr' ↦ hlen r' (List.mem_append_left _ hr')
  have hout := (addPacket_outcome hstep).2
  exact ⟨hs.outcome hout,
    hfew.outcome hs (hlen r (List.mem_append_right _ List.mem_cons_self)) hout⟩

/-- In every run the packet is sound, and what waits is bounded by the given sizes. -/
theorem pending_of_trace {senderSsrc mediaSsrc : BitVec 32} {feedbackPacketCount : BitVec 8}
    {calls : List AddPacketCall} {records : List AddRecord} {m : ℕ}
    (htrace : Run.trace addStep (fresh senderSsrc mediaSsrc feedbackPacketCount) calls =
      .ok records)
    (hlen : ∀ c ∈ calls, c.maxRtcpPacketLen ≤ m) {r : AddRecord} (hr : r ∈ records) :
    r.before.Sound ∧ r.before.context.statuses.length ≤ max 6 m ∧
      r.after.Sound ∧ r.after.context.statuses.length ≤ max 6 m := by
  obtain ⟨pre, post, hsplit⟩ := List.append_of_mem hr
  have hfresh : FewInv m [] (fresh senderSsrc mediaSsrc feedbackPacketCount) := fun _ ↦
    ⟨sound_fresh _ _ _, Or.inl rfl⟩
  obtain ⟨hbefore, -, hafter⟩ := Run.trace_invariant_after fewInv_step hfresh htrace hsplit
  have hlen' : ∀ r' ∈ records, r'.event.maxRtcpPacketLen ≤ m := fun r' hr' ↦
    hlen r'.event (Run.trace_events htrace ▸ List.mem_map_of_mem hr')
  obtain ⟨hs, hfew⟩ := hbefore fun r' hr' ↦ hlen' r' (hsplit ▸ List.mem_append_left _ hr')
  obtain ⟨hs', hfew'⟩ := hafter fun r' hr' ↦ hlen' r' (Run.mem_of_split hsplit hr')
  exact ⟨hs, hfew.pending hs, hs', hfew'.pending hs'⟩

/-! ## The gap check -/

/-- The difference in `int` is the gap, unless the sequence numbers wrap. -/
theorem missingPackets_cases (p : FeedbackRtpTransportPacket) (c : AddPacketCall) :
    (p.latestSequenceNumber.toNat < c.sequenceNumber.toNat ∧
      p.missingPackets c.sequenceNumber = (p.missing c).toNat) ∨
    (c.sequenceNumber.toNat ≤ p.latestSequenceNumber.toNat ∧
      p.missingPackets c.sequenceNumber < 0) := by
  have hlatest := p.latestSequenceNumber.isLt
  have hseq := c.sequenceNumber.isLt
  unfold missingPackets missing
  rcases Nat.lt_or_ge p.latestSequenceNumber.toNat c.sequenceNumber.toNat with hlt | hge
  · refine Or.inl ⟨hlt, ?_⟩
    rw [BitVec.toNat_sub, BitVec.toNat_add]
    change _ = (((2 ^ 16 - (p.latestSequenceNumber.toNat + 1) % 2 ^ 16 + c.sequenceNumber.toNat)
      % 2 ^ 16 : ℕ) : ℤ)
    omega
  · exact Or.inr ⟨hge, by omega⟩

/-- The gap check is passed although the gap is too long: the sequence numbers wrap, and nothing
else keeps the packet from being recorded. -/
def GapOverlooked (p : FeedbackRtpTransportPacket) (c : AddPacketCall) : Prop :=
  p.latestTimestamp ≠ 0 ∧ isSeqHigherThan c.sequenceNumber p.latestSequenceNumber = true ∧
    c.sequenceNumber.toNat ≤ p.latestSequenceNumber.toNat ∧
      maxMissingPackets < (p.missing c).toNat ∧
    p.DeltaFits c ∧ p.sizeWithAnother ≤ c.maxRtcpPacketLen

/-- The call answers as the gap check promises: a newer packet is accepted only after a gap of at
most `maxMissingPackets`. -/
def GapChecked (p : FeedbackRtpTransportPacket) (c : AddPacketCall) (result : AddPacketResult) :
    Prop :=
  p.latestTimestamp ≠ 0 → isSeqHigherThan c.sequenceNumber p.latestSequenceNumber = true →
    result = .success → (p.missing c).toNat ≤ maxMissingPackets

theorem gapChecked_iff (h : p.addStep c = .ok (result, p')) :
    GapChecked p c result ↔ ¬GapOverlooked p c := by
  obtain ⟨hfull, hout⟩ := addPacket_outcome h
  constructor
  · rintro hchecked ⟨hbase, hnew, hwrap, hgap, hdelta, hsize⟩
    rcases missingPackets_cases p c with ⟨hlt, -⟩ | ⟨-, hneg⟩
    · omega
    · have hmax : p.missingPackets c.sequenceNumber ≤ maxMissingPackets := by
        unfold maxMissingPackets
        omega
      have hok := addPacket_recorded hfull hbase hnew hmax hdelta hsize
      rw [addStep, hok] at h
      cases h
      exact absurd (hchecked hbase hnew rfl) (by omega)
  · intro hover hbase hnew hsuccess
    cases hout with
    | based hzero => exact absurd hzero hbase
    | ignored _ hold => rw [hold] at hnew; cases hnew
    | refused _ _ hresult => exact absurd hsuccess hresult
    | recorded _ _ hgap hdelta hsize =>
      rcases missingPackets_cases p c with ⟨-, heq⟩ | ⟨hwrap, -⟩
      · rw [heq] at hgap
        exact_mod_cast hgap
      · by_contra hlong
        exact hover ⟨hbase, hnew, hwrap, by omega, hdelta, hsize⟩

/-- The count of every run length chunk fits its field of 13 bits. -/
def RunsFit (chunks : List Chunk) : Prop :=
  ∀ status count, Chunk.runLength status count ∈ chunks → count.toNat ≤ 0x1FFF

theorem runsFit_outcome (hs : p.Sound) (h : RunsFit p.chunks)
    (hpending : p.context.statuses.length ≤ 0x1FFF) (hchecked : GapChecked p c result)
    (hout : Outcome p c result p') : RunsFit p'.chunks := by
  cases hout with
  | based => exact h
  | ignored => exact h
  | refused => exact h
  | recorded hbase hnew =>
    intro status count hc
    rw [chunks_record] at hc
    rcases List.mem_append.mp hc with hc | hc
    · exact h status count hc
    · have hgap : (p.missing c).toNat ≤ 0x1FFF := hchecked hbase hnew rfl
      rcases (hs.advances c).runs status count hc with hle | ⟨-, hle⟩
      · exact hle.trans hgap
      · exact hle.trans hpending

/-- The invariant of the gap check. -/
def GapInv (hist : List AddRecord) (p : FeedbackRtpTransportPacket) : Prop :=
  (∀ r ∈ hist, r.before.Sound ∧ r.before.context.statuses.length ≤ 0x1FFF) →
    (∀ r ∈ hist, ¬GapOverlooked r.before r.event) → RunsFit p.chunks

theorem gapInv_step (hist : List AddRecord) (r : AddRecord) (h : GapInv hist r.before)
    (hstep : addStep r.before r.event = .ok (r.output, r.after)) :
    GapInv (hist ++ [r]) r.after := by
  intro hpending hover
  have hr : r ∈ hist ++ [r] := List.mem_append_right _ List.mem_cons_self
  have hruns := h (fun r' hr' ↦ hpending r' (List.mem_append_left _ hr'))
    fun r' hr' ↦ hover r' (List.mem_append_left _ hr')
  exact runsFit_outcome (hpending r hr).1 hruns (hpending r hr).2
    ((gapChecked_iff hstep).mpr (hover r hr)) (addPacket_outcome hstep).2

/-- **The gap check.** A call answers as promised exactly if it does not overlook a gap that wraps.
In a run without such a call every newer packet that is accepted comes after a gap of at most
`maxMissingPackets`, and after `Finish` no run length chunk has a count beyond 13 bits. -/
theorem gap_check (senderSsrc mediaSsrc : BitVec 32) (feedbackPacketCount : BitVec 8)
    (calls : List AddPacketCall) (records : List AddRecord)
    (htrace : Run.trace addStep (fresh senderSsrc mediaSsrc feedbackPacketCount) calls =
      .ok records) :
    (∀ p p' c result, addStep p c = .ok (result, p') →
      (GapChecked p c result ↔ ¬GapOverlooked p c)) ∧
    ((∀ c ∈ calls, c.maxRtcpPacketLen ≤ 8191) → (∀ r ∈ records, ¬GapOverlooked r.before r.event) →
      ∀ r ∈ records, GapChecked r.before r.event r.output ∧
        ∃ q, r.after.finish = .ok q ∧ RunsFit q.chunks) := by
  refine ⟨fun p p' c result h ↦ gapChecked_iff h, ?_⟩
  intro hlen hover r hr
  obtain ⟨pre, post, hsplit⟩ := List.append_of_mem hr
  have hfresh : GapInv [] (fresh senderSsrc mediaSsrc feedbackPacketCount) := fun _ _ ↦ nofun
  obtain ⟨-, hstep, hafter⟩ := Run.trace_invariant_after gapInv_step hfresh htrace hsplit
  have hpast : ∀ r' ∈ pre ++ [r],
      r'.before.Sound ∧ r'.before.context.statuses.length ≤ 0x1FFF := by
    intro r' hr'
    obtain ⟨hs, hpending, -⟩ := pending_of_trace htrace hlen (Run.mem_of_split hsplit hr')
    exact ⟨hs, hpending⟩
  have hruns := hafter hpast fun r' hr' ↦ hover r' (Run.mem_of_split hsplit hr')
  obtain ⟨-, -, hs, hpending⟩ := pending_of_trace htrace hlen hr
  refine ⟨(gapChecked_iff hstep).mpr (hover r hr), _, addPendingChunks_eq hs.tidy, ?_⟩
  intro status count hc
  rw [chunks_create] at hc
  rcases List.mem_append.mp hc with hc | hc
  · exact hruns status count hc
  · exact (Context.runs_pendingChunks hc).trans hpending

/-- A gap across the wrap that is short enough. -/
theorem gap_check_short_wrap :
    ∃ records, Run.trace addStep (fresh 0 0 0) [⟨65530, 1000, 1200⟩, ⟨5, 1001, 1200⟩] =
      .ok records ∧
      records.length = 2 ∧ ∀ r ∈ records, GapChecked r.before r.event r.output ∧
        ∃ q, r.after.finish = .ok q ∧ RunsFit q.chunks := by
  have hrun : ∃ first second : AddRecord, Run.trace addStep (fresh 0 0 0)
      [⟨65530, 1000, 1200⟩, ⟨5, 1001, 1200⟩] = .ok [first, second] ∧
      first.before.latestTimestamp = 0 ∧ (second.before.missing second.event).toNat = 10 :=
    ⟨_, _, rfl, rfl, rfl⟩
  obtain ⟨first, second, htrace, hfirst, hsecond⟩ := hrun
  refine ⟨_, htrace, rfl, (gap_check 0 0 0 _ _ htrace).2 (by decide) fun r hr ↦ ?_⟩
  rintro ⟨hbase, -, -, hgap, -⟩
  rcases List.mem_cons.mp hr with rfl | hr
  · exact hbase hfirst
  · rw [List.mem_singleton.mp hr, hsecond] at hgap
    exact absurd hgap (by decide)

/-- **A gap across the wrap is overlooked.** The packet is accepted although 15535 sequence numbers
are skipped, and the run length chunk for most of them does not fit. -/
theorem wrapped_gap_accepted :
    ∃ first second : AddRecord, Run.trace addStep (fresh 0 0 0)
      [⟨60000, 1000, 1200⟩, ⟨10000, 1001, 1200⟩] = .ok [first, second] ∧
      isSeqHigherThan second.event.sequenceNumber second.before.latestSequenceNumber = true ∧
      second.output = .success ∧ (second.before.missing second.event).toNat = 15535 ∧
      ∃ q, second.after.finish = .ok q ∧ Chunk.runLength .notReceived 15528 ∈ q.chunks ∧
        ¬RunsFit q.chunks := by
  refine ⟨_, _, rfl, rfl, rfl, rfl, _, rfl, by decide, fun hfit ↦ ?_⟩
  exact absurd (hfit .notReceived 15528 (by decide)) (by decide)

end FeedbackRtpTransportPacket

end MediasoupSfu
