import MediasoupSfu.Feedback.Encoder

/-!
# Runs of the feedback encoder

The first `AddPacket` of a packet only fixes its base: the sequence number after the given one, the
arrival time rounded down to a multiple of 64 ms. Every later call either records its packet or
ignores it, because a packet that is not newer than the latest recorded one is not reported.

`recorded` selects the calls that are recorded, in terms of the sequence numbers alone, and
`reportedStatuses` and `reportedDeltas` state what the packet has to represent after them. The run
lemma `Encodes.addPackets` shows that it does.
-/

namespace MediasoupSfu

/-- The arguments of one call of `AddPacket`. -/
structure AddPacketCall where
  sequenceNumber : BitVec 16
  timestamp : BitVec 64
  maxRtcpPacketLen : ℕ
  deriving DecidableEq, Repr

/-- The calls whose packet is newer than every earlier one when it is added. -/
def recorded (latest : BitVec 16) : List AddPacketCall → List AddPacketCall
  | [] => []
  | c :: cs =>
    if isSeqHigherThan c.sequenceNumber latest then c :: recorded c.sequenceNumber cs
    else recorded latest cs

/-- The number of packets between two consecutive reported ones. -/
def gap (latest : BitVec 16) (c : AddPacketCall) : ℕ := (c.sequenceNumber - (latest + 1)).toNat

/-- Every gap is one that the encoder accepts. -/
def GapsFit (latest : BitVec 16) : List AddPacketCall → Prop
  | [] => True
  | c :: cs => gap latest c ≤ FeedbackRtpTransportPacket.maxMissingPackets ∧
    GapsFit c.sequenceNumber cs

/-- The number of packets from the one after `latest` to the last call. -/
def span (latest : BitVec 16) : List AddPacketCall → ℕ
  | [] => 0
  | c :: cs => gap latest c + 1 + span c.sequenceNumber cs

/-- The delta that the encoder writes, in multiples of 250 us. -/
def arrivalDelta (time : BitVec 64) (c : AddPacketCall) : BitVec 64 := (c.timestamp - time) * 4

/-- The deltas of the calls. -/
def reportedDeltas (time : BitVec 64) : List AddPacketCall → List (BitVec 16)
  | [] => []
  | c :: cs => (arrivalDelta time c).setWidth 16 :: reportedDeltas c.timestamp cs

/-- The statuses of the calls and of the gaps before them. -/
def reportedStatuses (latest : BitVec 16) (time : BitVec 64) : List AddPacketCall → List Status
  | [] => []
  | c :: cs => List.replicate (gap latest c) .notReceived ++
    FeedbackRtpTransportPacket.deltaStatus ((arrivalDelta time c).setWidth 16) ::
      reportedStatuses c.sequenceNumber c.timestamp cs

/-- Every delta is one that the encoder accepts. -/
def DeltasFit (time : BitVec 64) : List AddPacketCall → Prop
  | [] => True
  | c :: cs =>
    (-1 * FeedbackRtpTransportPacket.maxPacketDelta ≤ (arrivalDelta time c).toInt ∧
      (arrivalDelta time c).toInt ≤ FeedbackRtpTransportPacket.maxPacketDelta) ∧
    DeltasFit c.timestamp cs

/-- The last sequence number of the calls. -/
def lastSequenceNumber (latest : BitVec 16) : List AddPacketCall → BitVec 16
  | [] => latest
  | c :: cs => lastSequenceNumber c.sequenceNumber cs

theorem length_reportedStatuses (latest : BitVec 16) (time : BitVec 64)
    (cs : List AddPacketCall) : (reportedStatuses latest time cs).length = span latest cs := by
  induction cs generalizing latest time with
  | nil => rfl
  | cons c cs ih =>
    rw [reportedStatuses, span, List.length_append, List.length_cons, List.length_replicate, ih]
    omega

theorem add_gap (latest : BitVec 16) (c : AddPacketCall) :
    latest + BitVec.ofNat 16 (gap latest c) + 1 = c.sequenceNumber := by
  rw [gap, BitVec.ofNat_toNat, BitVec.setWidth_eq, BitVec.add_assoc, BitVec.add_comm,
    BitVec.add_assoc, BitVec.add_comm 1 latest, BitVec.sub_add_cancel]

/-- The span leads from the base to the last sequence number. -/
theorem add_span (latest : BitVec 16) (cs : List AddPacketCall) :
    latest + BitVec.ofNat 16 (span latest cs) = lastSequenceNumber latest cs := by
  induction cs generalizing latest with
  | nil => simp [span, lastSequenceNumber]
  | cons c cs ih =>
    rw [span, lastSequenceNumber, ← ih, BitVec.ofNat_add, BitVec.ofNat_add, ← BitVec.add_assoc,
      ← BitVec.add_assoc]
    congr 1
    exact add_gap latest c

namespace FeedbackRtpTransportPacket

/-- A run of calls of `AddPacket`: their results and the packet after them. -/
def addPackets : FeedbackRtpTransportPacket → List AddPacketCall →
    Except Fault (List AddPacketResult × FeedbackRtpTransportPacket)
  | p, [] => .ok ([], p)
  | p, c :: cs => do
    let (result, p) ← p.addPacket c.sequenceNumber c.timestamp c.maxRtcpPacketLen
    let (results, p) ← p.addPackets cs
    return (result :: results, p)

theorem addPackets_cons {p q : FeedbackRtpTransportPacket} {c : AddPacketCall}
    {cs : List AddPacketCall} {results : List AddPacketResult}
    (h : p.addPackets (c :: cs) = .ok (results, q)) :
    ∃ result p' rest, p.addPacket c.sequenceNumber c.timestamp c.maxRtcpPacketLen
        = .ok (result, p') ∧ p'.addPackets cs = .ok (rest, q) ∧ results = result :: rest := by
  rw [addPackets, bind_eq_ok] at h
  obtain ⟨⟨result, p'⟩, hfirst, h⟩ := h
  simp only [bind_eq_ok] at h
  obtain ⟨⟨rest, q'⟩, hrest, h⟩ := h
  simp only [pure, Except.pure, Except.ok.injEq, Prod.mk.injEq] at h
  obtain ⟨rfl, rfl⟩ := h
  exact ⟨result, p', rest, hfirst, hrest, rfl⟩

/-- What a successful call does once the base is set. -/
theorem addPacket_success {p p' : FeedbackRtpTransportPacket} {c : AddPacketCall}
    (hbase : p.latestTimestamp ≠ 0)
    (h : p.addPacket c.sequenceNumber c.timestamp c.maxRtcpPacketLen = .ok (.success, p')) :
    (¬isSeqHigherThan c.sequenceNumber p.latestSequenceNumber = true ∧ p' = p) ∨
    (isSeqHigherThan c.sequenceNumber p.latestSequenceNumber = true ∧
      (-1 * maxPacketDelta ≤ (arrivalDelta p.latestTimestamp c).toInt ∧
        (arrivalDelta p.latestTimestamp c).toInt ≤ maxPacketDelta) ∧
      p.sizeWithAnother ≤ c.maxRtcpPacketLen ∧
      p' = { p.fillChunk p.latestSequenceNumber c.sequenceNumber
               ((arrivalDelta p.latestTimestamp c).setWidth 16) with
             latestSequenceNumber := c.sequenceNumber
             latestTimestamp := c.timestamp }) := by
  simp only [addPacket, bind_eq_ok, msAssert_eq_ok, hbase, if_false] at h
  obtain ⟨-, -, h⟩ := h
  by_cases hnew : isSeqHigherThan c.sequenceNumber p.latestSequenceNumber = true
  · rw [if_neg (not_not.mpr hnew)] at h
    by_cases hgap : (maxMissingPackets : ℤ) < p.missingPackets c.sequenceNumber
    · rw [if_pos hgap] at h
      cases h
    rw [if_neg hgap] at h
    by_cases hdelta : maxPacketDelta < (p.delta64 c.timestamp).toInt ∨
        (p.delta64 c.timestamp).toInt < -1 * maxPacketDelta
    · rw [if_pos hdelta] at h
      cases h
    rw [if_neg hdelta] at h
    by_cases hsize : c.maxRtcpPacketLen < p.sizeWithAnother
    · rw [if_pos hsize] at h
      cases h
    rw [if_neg hsize] at h
    rw [not_or, not_lt, not_lt] at hdelta
    have hp' := (Prod.mk.inj (Except.ok.inj h)).2
    exact Or.inr ⟨hnew, ⟨hdelta.2, hdelta.1⟩, not_lt.mp hsize, hp'.symm⟩
  · rw [if_pos hnew] at h
    cases h
    exact Or.inl ⟨hnew, rfl⟩

/-- Closing the context or not leaves the header. -/
theorem header_close {c : Prop} [Decidable c] (p : FeedbackRtpTransportPacket) (chunk : Chunk)
    (status : Status) :
    (if c then (p.createChunk chunk).setContext [] status else p).header = p.header := by
  by_cases h : c
  · rw [if_pos h]
    rfl
  · rw [if_neg h]

theorem header_fillMissing (p : FeedbackRtpTransportPacket) (missing : BitVec 16) :
    (p.fillMissing missing).header = p.header :=
  (header_close _ _ _).trans ((header_close _ _ _).trans (header_close p _ _))

theorem header_fillReceived (p : FeedbackRtpTransportPacket) (delta : BitVec 16) :
    (p.fillReceived delta).header = p.header :=
  (header_close _ _ _).trans (header_close p _ _)

theorem header_fillChunk (p : FeedbackRtpTransportPacket) (previous sequenceNumber : BitVec 16)
    (delta : BitVec 16) : (p.fillChunk previous sequenceNumber delta).header = p.header := by
  unfold fillChunk
  dsimp only
  rw [header_fillReceived]
  split_ifs
  · exact header_fillMissing _ _
  · rfl

theorem header_latest (p : FeedbackRtpTransportPacket) (sequenceNumber : BitVec 16)
    (timestamp : BitVec 64) :
    header { p with latestSequenceNumber := sequenceNumber, latestTimestamp := timestamp }
      = p.header := rfl

/-- What holds of the encoder between two calls. -/
structure Reports (p : FeedbackRtpTransportPacket) (statuses : List Status)
    (deltas : List (BitVec 16)) : Prop extends p.Encodes statuses deltas where
  /-- The last status of the context is that of a received packet. -/
  waiting : p.context.statuses ≠ [] → p.context.currentStatus.isReceived = true
  /-- A run of received packets fits a run length chunk. -/
  few : deltas.length ≤ 0x1FFF

namespace Reports

variable {p : FeedbackRtpTransportPacket} {statuses : List Status} {deltas : List (BitVec 16)}

theorem latest (h : p.Reports statuses deltas) (sequenceNumber : BitVec 16)
    (timestamp : BitVec 64) :
    Reports { p with latestSequenceNumber := sequenceNumber, latestTimestamp := timestamp }
      statuses deltas :=
  ⟨⟨⟨h.symbols, h.plain, h.received, h.deltas_eq, h.full, h.count, h.size⟩, h.tidy⟩, h.waiting,
    h.few⟩

theorem length_le_flatMap_serializeDelta (deltas : List (BitVec 16)) :
    deltas.length ≤ (deltas.flatMap serializeDelta).length := by
  induction deltas with
  | nil => exact Nat.le_refl _
  | cons d ds ih =>
    rw [List.flatMap_cons, List.length_append, List.length_cons, length_serializeDelta]
    split <;> omega

/-- **One recorded call.** -/
theorem record (h : p.Reports statuses deltas) {c : AddPacketCall}
    (hlen : c.maxRtcpPacketLen ≤ 0x1FFF) (hsize : p.sizeWithAnother ≤ c.maxRtcpPacketLen)
    (hgap : gap p.latestSequenceNumber c ≤ maxMissingPackets) (delta : BitVec 16) :
    Reports { p.fillChunk p.latestSequenceNumber c.sequenceNumber delta with
      latestSequenceNumber := c.sequenceNumber
      latestTimestamp := c.timestamp }
      (statuses ++ (List.replicate (gap p.latestSequenceNumber c) .notReceived ++
        [deltaStatus delta])) (deltas ++ [delta]) := by
  obtain ⟨henc, hwait⟩ := h.toEncodes.fillChunk h.few hgap delta
  have hbytes := length_le_flatMap_serializeDelta deltas
  have hdcs := h.size
  have hmore : feedbackHeaderSize + fixedHeaderSize + p.deltasAndChunksSize + 2 + 2
      ≤ p.sizeWithAnother := Nat.le_add_right _ _
  rw [← List.append_assoc]
  refine latest ⟨henc, hwait, ?_⟩ c.sequenceNumber c.timestamp
  rw [List.length_append, List.length_singleton]
  omega

/-- **A run of calls.** The packet represents exactly the recorded calls and the gaps before
them. -/
theorem addPackets (cs : List AddPacketCall) :
    ∀ {p q : FeedbackRtpTransportPacket} {statuses : List Status} {deltas : List (BitVec 16)}
      {results : List AddPacketResult}, p.Reports statuses deltas →
      (cs ≠ [] → p.latestTimestamp ≠ 0) → (∀ c ∈ cs.dropLast, c.timestamp ≠ 0) →
      (∀ c ∈ cs, c.maxRtcpPacketLen ≤ 0x1FFF) →
      GapsFit p.latestSequenceNumber (recorded p.latestSequenceNumber cs) →
      p.addPackets cs = .ok (results, q) → (∀ r ∈ results, r = .success) →
      q.Reports
          (statuses ++ reportedStatuses p.latestSequenceNumber p.latestTimestamp
            (recorded p.latestSequenceNumber cs))
          (deltas ++ reportedDeltas p.latestTimestamp (recorded p.latestSequenceNumber cs)) ∧
        DeltasFit p.latestTimestamp (recorded p.latestSequenceNumber cs) ∧
        q.header = p.header ∧
        q.latestSequenceNumber
          = lastSequenceNumber p.latestSequenceNumber (recorded p.latestSequenceNumber cs) := by
  induction cs with
  | nil =>
    intro p q statuses deltas results h _ _ _ _ hrun _
    cases hrun
    simpa [recorded, reportedStatuses, reportedDeltas, DeltasFit, lastSequenceNumber] using h
  | cons c cs ih =>
    intro p q statuses deltas results h hbase hzero hlen hgaps hrun hsucc
    obtain ⟨result, p', rest, hcall, hrest, rfl⟩ := addPackets_cons hrun
    obtain rfl : result = .success := hsucc result List.mem_cons_self
    have hsucc' : ∀ r ∈ rest, r = .success := fun r hr ↦ hsucc r (List.mem_cons_of_mem _ hr)
    have hlen' : ∀ c' ∈ cs, c'.maxRtcpPacketLen ≤ 0x1FFF := fun c' hc' ↦
      hlen c' (List.mem_cons_of_mem _ hc')
    have hzero' : ∀ c' ∈ cs.dropLast, c'.timestamp ≠ 0 := by
      intro c' hc'
      cases cs with
      | nil => cases hc'
      | cons d ds => exact hzero c' (List.mem_cons_of_mem _ hc')
    have hbase' : p.latestTimestamp ≠ 0 := hbase (List.cons_ne_nil c cs)
    rcases addPacket_success hbase' hcall with ⟨hold, rfl⟩ | ⟨hnew, hdelta, hsize, rfl⟩
    · rw [recorded, if_neg hold] at hgaps ⊢
      exact ih h (fun _ ↦ hbase') hzero' hlen' hgaps hrest hsucc'
    · rw [recorded, if_pos hnew] at hgaps ⊢
      have hstep := h.record (hlen c List.mem_cons_self) hsize hgaps.1
        ((arrivalDelta p.latestTimestamp c).setWidth 16)
      have hnext : cs ≠ [] → c.timestamp ≠ 0 := by
        intro hne
        cases cs with
        | nil => exact absurd rfl hne
        | cons d ds => exact hzero c List.mem_cons_self
      obtain ⟨hreports, hfit, hheader, hlast⟩ :=
        ih hstep hnext hzero' hlen' hgaps.2 hrest hsucc'
      refine ⟨?_, ⟨hdelta, hfit⟩, ?_, hlast⟩
      · simpa [reportedStatuses, reportedDeltas] using hreports
      · rw [hheader, header_latest, header_fillChunk]

/-- The first call on a fresh packet fixes the base. -/
theorem addPacket_fresh {p p' : FeedbackRtpTransportPacket} {result : AddPacketResult}
    {c : AddPacketCall} (hfresh : p.latestTimestamp = 0)
    (h : p.addPacket c.sequenceNumber c.timestamp c.maxRtcpPacketLen = .ok (result, p')) :
    p' = { p with
      baseSequenceNumber := c.sequenceNumber + 1
      referenceTime := ((c.timestamp &&& 0x1FFFFFC0) / 64).setWidth 32
      latestSequenceNumber := c.sequenceNumber
      latestTimestamp := (c.timestamp >>> 6) * 64 } := by
  simp only [addPacket, bind_eq_ok, msAssert_eq_ok, hfresh, if_true] at h
  obtain ⟨-, -, h⟩ := h
  cases h
  rfl

end Reports

end FeedbackRtpTransportPacket

end MediasoupSfu
