import MediasoupSfu.Library.Run
import MediasoupSfu.Rtcp.Reports
import MediasoupSfu.Stream.SequenceCount

/-!
# Loss statistics of a receiving stream

`RtpStreamRecv` computes its receiver reports and its score from differences: how many packets were
expected and how many were received since the last time. What it subtracts from is the total of
`GetExpectedPackets`, which is made of three counters of `UpdateSeq`.

As long as the stream goes on, the total is the number of sequence numbers from the first to the
highest one (`Follows`), so a difference of totals is the number of new sequence numbers. Three
things break this. A stream that is taken to have restarted begins with a new base number, but keeps
its cycles and the totals of the last report. A stream that begins with the number 0 counts a cycle
at once. And before the first packet the total is 1.

The floating-point quotient of the fraction lost is exact before it is rounded, so it is an integer
division here. The score itself is computed with floating-point numbers; the model stops at what it
is computed from. Jitter, bitrates, the listener and the extended reports are not part of the model.
-/

namespace MediasoupSfu

open Serial Rtcp

/-! ## The code -/

/-- The members of `RtpStreamRecv` that its reports and its score are computed from. -/
structure LossStats where
  seqState : SeqState := {}
  /-- `mediaTransmissionCounter.GetPacketCount()`. -/
  mediaPacketCount : ℕ := 0
  packetsLost : BitVec 32 := 0
  fractionLost : Byte := 0
  packetsRetransmitted : ℕ := 0
  packetsRepaired : ℕ := 0
  /-- Packets expected at last interval. -/
  expectedPrior : BitVec 32 := 0
  /-- Packets expected at last interval for score calculation. -/
  expectedPriorScore : BitVec 32 := 0
  /-- Packets received at last interval. -/
  receivedPrior : BitVec 32 := 0
  /-- Packets received at last interval for score calculation. -/
  receivedPriorScore : BitVec 32 := 0
  /-- Packets repaired at last interval for score calculation. -/
  repairedPriorScore : ℕ := 0
  /-- Packets retransmitted at last interval for score calculation. -/
  retransmittedPriorScore : ℕ := 0
  reportedPacketLost : BitVec 32 := 0
  /-- The middle 32 bits of the NTP timestamp of the most recent sender report. -/
  lastSrTimestamp : BitVec 32 := 0
  /-- When the most recent sender report arrived. -/
  lastSrReceived : BitVec 64 := 0
  inactive : Bool := false
  deriving DecidableEq, Repr

/-- What `UpdateScore` passes on. -/
inductive ScoreUpdate where
  /-- The stream is inactive. -/
  | none
  /-- `RtpStream::UpdateScore(10)`: no packet was expected. -/
  | best
  /-- `RtpStream::UpdateScore` of what the ratios of these numbers give. -/
  | ratios (received lost repaired retransmitted : BitVec 32)
  deriving DecidableEq, Repr

/-- The value that `SetTotalLost(totalLost)` stores. -/
def setTotalLost (totalLost : BitVec 32) : BitVec 24 :=
  if 0 ≤ totalLost.toInt then
    let clamp := if totalLost.toInt > 0x07FFFFF then 0x07FFFFF else totalLost
    (clamp &&& 0x07FFFFF).setWidth 24
  else
    let clamp := if (-totalLost).toInt > 0x0800000 then 0x0800000 else -totalLost
    (clamp ||| 0x0800000).setWidth 24

/-- `std::round` of a quotient: halves are rounded away from zero. -/
def roundQuotient (a : ℤ) (b : ℕ) : ℤ := a.sign * ((2 * a.natAbs + b) / (2 * b) : ℕ)

namespace LossStats

/-- `expectedInterval`, the number of packets expected since the last report. -/
def expectedInterval (s : LossStats) : BitVec 32 := s.seqState.getExpectedPackets - s.expectedPrior

/-- `expected` of `UpdateScore`, the number of packets expected since the last score. -/
def expectedForScore (s : LossStats) : BitVec 32 :=
  s.seqState.getExpectedPackets - s.expectedPriorScore

/-- `fractionLost`, in 256ths. The conversion to eight bits keeps the low ones. -/
def fractionOf (expectedInterval lostInterval : BitVec 32) : Byte :=
  if expectedInterval = 0 ∨ lostInterval.toInt ≤ 0 then 0
  else BitVec.ofInt 8 (roundQuotient (lostInterval <<< 8).toInt expectedInterval.toNat)

/-- The delay since the last sender report, in units of 1/65536 seconds. -/
def delaySinceLastSenderReport (s : LossStats) (nowMs : BitVec 64) : BitVec 32 :=
  let delayMs := (nowMs - s.lastSrReceived).setWidth 32
  (delayMs / 1000) <<< 16 ||| (delayMs % 1000) * 65536 / 1000

/-- `GetRtcpReceiverReport()`, given the worst fraction lost that the listener knows of. -/
def getRtcpReceiverReport (s : LossStats) (ssrc jitter : BitVec 32) (worstRemoteFractionLost : Byte)
    (nowMs : BitVec 64) : ReceiverReport × LossStats :=
  let prevPacketsLost := s.packetsLost
  let expected := s.seqState.getExpectedPackets
  let packetsLost := if expected.toNat > s.mediaPacketCount
    then BitVec.ofNat 32 (expected.toNat - s.mediaPacketCount) else 0
  let expectedInterval := s.expectedInterval
  let receivedInterval := BitVec.ofNat 32 s.mediaPacketCount - s.receivedPrior
  let fractionLost := fractionOf expectedInterval (expectedInterval - receivedInterval)
  let s := { s with
    packetsLost := packetsLost
    expectedPrior := expected
    receivedPrior := BitVec.ofNat 32 s.mediaPacketCount
    fractionLost := fractionLost }
  -- Worst remote fraction lost is not worse than local one.
  let (reported, fraction) :=
    if worstRemoteFractionLost ≤ fractionLost then
      (s.reportedPacketLost + (packetsLost - prevPacketsLost), fractionLost)
    else
      let newLostInterval := (worstRemoteFractionLost.setWidth 32 * expectedInterval) >>> 8
      let newReceivedInterval := expectedInterval - newLostInterval
      (s.reportedPacketLost + (receivedInterval - newReceivedInterval), worstRemoteFractionLost)
  ({ ssrc := ssrc
     fractionLost := fraction
     totalLost := setTotalLost reported
     lastSeq := s.seqState.maxSeq.setWidth 32 + s.seqState.cycles
     jitter := jitter
     lsr := if s.lastSrReceived = 0#64 then 0 else s.lastSrTimestamp
     dlsr := if s.lastSrReceived = 0#64 then 0 else s.delaySinceLastSenderReport nowMs },
   { s with reportedPacketLost := reported })

/-- `UpdateScore()`. -/
def updateScore (s : LossStats) (hasRtx : Bool) : ScoreUpdate × LossStats :=
  let expected := s.expectedForScore
  let received := BitVec.ofNat 32 s.mediaPacketCount - s.receivedPriorScore
  let lost := if expected < received then 0 else expected - received
  let repaired := BitVec.ofNat 32 s.packetsRepaired - BitVec.ofNat 32 s.repairedPriorScore
  let retransmitted :=
    BitVec.ofNat 32 s.packetsRetransmitted - BitVec.ofNat 32 s.retransmittedPriorScore
  let s := { s with
    expectedPriorScore := s.seqState.getExpectedPackets
    receivedPriorScore := BitVec.ofNat 32 s.mediaPacketCount
    repairedPriorScore := s.packetsRepaired
    retransmittedPriorScore := s.packetsRetransmitted }
  if s.inactive then (.none, s)
  -- We didn't expect more packets to come.
  else if expected = 0 then (.best, s)
  else
    let lost := if lost > received then received else lost
    if repaired > lost then
      -- With RTX, `retransmitted` is reduced by what `repaired` exceeds `lost` by after it was set.
      if hasRtx then (.ratios received lost lost (retransmitted - (lost - lost)), s)
      else (.ratios received repaired repaired retransmitted, s)
    else (.ratios received lost repaired retransmitted, s)

/-- `ReceiveRtcpSenderReport(report)`. -/
def receiveRtcpSenderReport (s : LossStats) (ntpSec ntpFrac : BitVec 32) (hasRtx : Bool)
    (nowMs : BitVec 64) : ScoreUpdate × LossStats :=
  updateScore { s with
    lastSrReceived := nowMs
    lastSrTimestamp := (ntpSec <<< 16) + (ntpFrac >>> 16) } hasRtx

/-- `ReceivePacket(packet)`. Whether there is no RTX and the NACK generator had requested the packet
comes with it. -/
def receivePacket (s : LossStats) (seq : BitVec 16) (timestamp : BitVec 32) (nacked : Bool)
    (nowMs : BitVec 64) : Bool × LossStats :=
  let (valid, seqState) := s.seqState.receivePacket seq timestamp nowMs
  let s := { s with seqState := seqState }
  if ¬valid then (false, s)
  else
    (true, { s with
      packetsRetransmitted := s.packetsRetransmitted + nacked.toNat
      packetsRepaired := s.packetsRepaired + nacked.toNat
      mediaPacketCount := s.mediaPacketCount + 1
      inactive := false })

/-- `ReceiveRtxPacket(packet)` from where it has the original packet. Whether the NACK generator had
requested the packet comes with it. -/
def receiveRtxPacket (s : LossStats) (seq : BitVec 16) (timestamp : BitVec 32) (nacked : Bool)
    (nowMs : BitVec 64) : Bool × LossStats :=
  let (valid, seqState) := s.seqState.updateSeq seq timestamp nowMs
  let s := { s with seqState := seqState }
  if ¬valid then (false, s)
  else
    (true, { s with
      packetsRetransmitted := s.packetsRetransmitted + 1
      packetsRepaired := s.packetsRepaired + nacked.toNat
      inactive := s.inactive && !nacked })

/-- What can happen to the statistics. -/
inductive Event where
  | receivePacket (seq : BitVec 16) (timestamp : BitVec 32) (nacked : Bool) (nowMs : BitVec 64)
  | receiveRtxPacket (seq : BitVec 16) (timestamp : BitVec 32) (nacked : Bool) (nowMs : BitVec 64)
  | getRtcpReceiverReport (ssrc jitter : BitVec 32) (worstRemoteFractionLost : Byte)
      (nowMs : BitVec 64)
  | receiveRtcpSenderReport (ntpSec ntpFrac : BitVec 32) (hasRtx : Bool) (nowMs : BitVec 64)
  /-- The inactivity timer expires. -/
  | timer

/-- One event. -/
def step (s : LossStats) : Event → LossStats
  | .receivePacket seq timestamp nacked nowMs => (s.receivePacket seq timestamp nacked nowMs).2
  | .receiveRtxPacket seq timestamp nacked nowMs =>
    (s.receiveRtxPacket seq timestamp nacked nowMs).2
  | .getRtcpReceiverReport ssrc jitter worstRemoteFractionLost nowMs =>
    (s.getRtcpReceiverReport ssrc jitter worstRemoteFractionLost nowMs).2
  | .receiveRtcpSenderReport ntpSec ntpFrac hasRtx nowMs =>
    (s.receiveRtcpSenderReport ntpSec ntpFrac hasRtx nowMs).2
  | .timer => { s with inactive := true }

/-- Whether a packet is accepted, and its sequence number. -/
def received (s : LossStats) : Event → Option (BitVec 16)
  | .receivePacket seq timestamp nacked nowMs =>
    if (s.receivePacket seq timestamp nacked nowMs).1 then some seq else none
  | .receiveRtxPacket seq timestamp nacked nowMs =>
    if (s.receiveRtxPacket seq timestamp nacked nowMs).1 then some seq else none
  | _ => none

end LossStats

/-! ## What is to be counted -/

/-- The sequence numbers of a stream, as its sender counts them. -/
structure Progress where
  /-- The highest number so far, unwrapped. -/
  highest : Option ℤ := none
  /-- How many numbers there were so far, received or not. -/
  count : ℕ := 0
  /-- How many of them there were at the last report. -/
  reported : ℕ := 0
  /-- How many of them there were at the last score. -/
  scored : ℕ := 0

namespace Progress

/-- A packet is accepted. One that is outside the window is the second one of a sender that has
restarted. -/
def receive (p : Progress) (seq : BitVec 16) : Progress :=
  match p.highest with
  | none => { p with highest := some seq.toNat, count := 1 }
  | some m =>
    let n := Serial.unwrap m seq
    if n < m + maxDropout ∧ m - maxMisorder < n then
      { p with highest := some (max m n), count := p.count + (n - m).toNat }
    else { p with highest := some seq.toNat, count := p.count + 2 }

/-- One event, given the packet that it accepts. -/
def step (p : Progress) (received : Option (BitVec 16)) : LossStats.Event → Progress
  | .getRtcpReceiverReport .. => { p with reported := p.count }
  | .receiveRtcpSenderReport .. => { p with scored := p.count }
  | _ => received.elim p p.receive

end Progress

/-- The statistics, and what they count. -/
structure LossRun where
  stats : LossStats := {}
  progress : Progress := {}

namespace LossRun

/-- One event. -/
def step (x : LossRun) (e : LossStats.Event) : LossRun where
  stats := x.stats.step e
  progress := x.progress.step (x.stats.received e) e

/-- Since the total was `prior` and `count` sequence numbers were known, it has not decreased, and
the difference is at most the number of new sequence numbers. -/
def Grows (x : LossRun) (prior : BitVec 32) (count : ℕ) : Prop :=
  prior.toNat ≤ x.stats.seqState.getExpectedPackets.toNat ∧
    (x.stats.seqState.getExpectedPackets - prior).toNat ≤ x.progress.count - count

/-- **No underflow.** A report and a score find totals that have grown. -/
def NoUnderflow (x : LossRun) : LossStats.Event → Prop
  | .getRtcpReceiverReport .. => x.Grows x.stats.expectedPrior x.progress.reported
  | .receiveRtcpSenderReport .. => x.Grows x.stats.expectedPriorScore x.progress.scored
  | _ => True

/-- The stream goes on: the packet does not follow directly on a discarded one, and it does not
overflow the count of cycles. -/
def GoesOn (s : SeqState) (seq : BitVec 16) : Prop :=
  (maxDropout ≤ pos s.maxSeq seq → pos s.maxSeq seq ≤ rtpSeqMod - maxMisorder →
    seq.setWidth 32 ≠ s.badSeq) ∧
  (pos s.maxSeq seq < maxDropout → seq < s.maxSeq → s.cycles.toNat + rtpSeqMod < 2 ^ 32)

/-- The first packet comes first and does not have the number 0, and every later one goes on. -/
def Regular (x : LossRun) : LossStats.Event → Prop
  | .receivePacket seq .. =>
    if x.stats.seqState.started then GoesOn x.stats.seqState seq else seq ≠ 0
  | .receiveRtxPacket seq .. => x.stats.seqState.started = true ∧ GoesOn x.stats.seqState seq
  | .timer => True
  | _ => x.stats.seqState.started = true

instance (x : LossRun) (e : LossStats.Event) : Decidable (x.NoUnderflow e) := by
  unfold NoUnderflow Grows
  split <;> infer_instance

instance (s : SeqState) (seq : BitVec 16) : Decidable (GoesOn s seq) := by
  unfold GoesOn
  infer_instance

instance (x : LossRun) (e : LossStats.Event) : Decidable (x.Regular e) := by
  unfold Regular
  split <;> infer_instance

end LossRun

/-! ## The invariant -/

namespace SeqState

/-- The counters of a stream that has seen `count` sequence numbers up to `m`. The base number is
not 0, so the total is at most `2 ^ 32 - 1`. -/
structure Follows (s : SeqState) (m : ℤ) (count : ℕ) : Prop where
  started : s.started = true
  maxSeq_eq : s.maxSeq = BitVec.ofInt 16 m
  total_eq : s.cycles.toNat + s.maxSeq.toNat + 1 = s.baseSeq.toNat + count
  cycles_le : s.cycles.toNat + rtpSeqMod ≤ 2 ^ 32
  cycles_dvd : rtpSeqMod ∣ s.cycles.toNat
  baseSeq_pos : 0 < s.baseSeq.toNat

variable {s : SeqState} {seq : BitVec 16} {m : ℤ} {count : ℕ}

/-- The total does not overflow, so it is the number of sequence numbers. -/
theorem Follows.getExpectedPackets (h : s.Follows m count) :
    s.getExpectedPackets.toNat = count := by
  have htotal := h.total_eq
  have hcycles := h.cycles_le
  have hbase := h.baseSeq_pos
  have hmax := s.maxSeq.isLt
  unfold rtpSeqMod at hcycles
  unfold SeqState.getExpectedPackets
  bv_omega

/-- The extended number grows by the distance. -/
theorem extended_add_nat (hcycles : seq < s.maxSeq → s.cycles.toNat + rtpSeqMod < 2 ^ 32) :
    (if seq < s.maxSeq then s.cycles + BitVec.ofNat 32 rtpSeqMod else s.cycles).toNat +
      seq.toNat = s.cycles.toNat + s.maxSeq.toNat + pos s.maxSeq seq := by
  have hseq := seq.isLt
  have hmax := s.maxSeq.isLt
  unfold rtpSeqMod at *
  rcases toNat_sub_cases seq s.maxSeq with ⟨hle, hsub⟩ | ⟨hlt, hsub⟩
  · have hnot : ¬seq < s.maxSeq := Nat.not_lt.mpr hle
    rw [if_neg hnot, pos, hsub]
    omega
  · have hwrapped : seq < s.maxSeq := hlt
    have hroom := hcycles hwrapped
    rw [if_pos hwrapped, pos, hsub, BitVec.toNat_add, BitVec.toNat_ofNat]
    omega

/-- The cycles stay a count of 16-bit cycles below the limit. -/
theorem Follows.cycles_add (h : s.Follows m count)
    (hcycles : seq < s.maxSeq → s.cycles.toNat + rtpSeqMod < 2 ^ 32) :
    (if seq < s.maxSeq then s.cycles + BitVec.ofNat 32 rtpSeqMod else s.cycles).toNat +
        rtpSeqMod ≤ 2 ^ 32 ∧
      rtpSeqMod ∣ (if seq < s.maxSeq then s.cycles + BitVec.ofNat 32 rtpSeqMod
        else s.cycles).toNat := by
  have hold := h.cycles_le
  have hdvd := h.cycles_dvd
  unfold rtpSeqMod at *
  split
  · rename_i hwrapped
    have hroom := hcycles hwrapped
    rw [BitVec.toNat_add, BitVec.toNat_ofNat]
    omega
  · exact ⟨hold, hdvd⟩

/-- What becomes of a packet of a stream that goes on. -/
def Takes (m : ℤ) (count : ℕ) (seq : BitVec 16) (result : Bool × SeqState) : Prop :=
  result.1 = false ∧ result.2.Follows m count ∨
    result.1 = true ∧
      (Serial.unwrap m seq < m + maxDropout ∧ m - maxMisorder < Serial.unwrap m seq) ∧
      result.2.Follows (max m (Serial.unwrap m seq)) (count + (Serial.unwrap m seq - m).toNat)

/-- What `UpdateSeq` does to a stream that goes on. -/
theorem Follows.updateSeq (h : s.Follows m count) (hgo : LossRun.GoesOn s seq)
    (timestamp : BitVec 32) (nowMs : BitVec 64) :
    Takes m count seq (s.updateSeq seq timestamp nowMs) := by
  have hpos := pos_lt s.maxSeq seq
  have hdropout : maxDropout = 3000 := rfl
  have hmisorder : maxMisorder = 1500 := rfl
  have hmod : rtpSeqMod = 2 ^ 16 := rfl
  rcases Nat.lt_or_ge (pos s.maxSeq seq) maxDropout with hahead | hfar
  · -- In order: the total grows by the distance.
    have hunwrap := unwrap_of_lt (m := m) (x := seq) (by rw [← h.maxSeq_eq]; omega)
    rw [← h.maxSeq_eq] at hunwrap
    obtain ⟨hle, hdvd⟩ := h.cycles_add (hgo.2 hahead)
    have hextended := extended_add_nat (hgo.2 hahead)
    have htotal := h.total_eq
    rw [updateSeq_ahead hahead, Takes, max_eq_right (by omega)]
    refine Or.inr
      ⟨rfl, by omega, h.started, (ofInt_unwrap m seq).symm, ?_, hle, hdvd, h.baseSeq_pos⟩
    dsimp only
    omega
  rcases Nat.lt_or_ge (rtpSeqMod - maxMisorder) (pos s.maxSeq seq) with hbehind | hout
  · -- Misordered: nothing changes.
    have hunwrap := unwrap_of_le (m := m) (x := seq) (by rw [← h.maxSeq_eq]; omega)
    rw [← h.maxSeq_eq] at hunwrap
    have hnone : (Serial.unwrap m seq - m).toNat = 0 := Int.toNat_of_nonpos (by omega)
    rw [updateSeq_behind hbehind, Takes, max_eq_left (by omega), hnone]
    exact Or.inr ⟨rfl, by omega, h⟩
  · -- Outside the window, and not the second one there.
    have hdiscarded : s.updateSeq seq timestamp nowMs = (false, { s with
        badSeq := (seq + 1).setWidth 32
        packetsDiscarded := s.packetsDiscarded + 1 }) :=
      (if_neg (Nat.not_lt.mpr hfar)).trans ((if_pos hout).trans (if_neg (hgo.1 hfar hout)))
    rw [hdiscarded]
    exact Or.inl ⟨rfl, h.started, h.maxSeq_eq, h.total_eq, h.cycles_le, h.cycles_dvd, h.baseSeq_pos⟩

/-- After the first packet, `ReceivePacket` does what `UpdateSeq` does, up to the timestamps. -/
theorem receivePacket_started (hstarted : s.started = true) (seq : BitVec 16)
    (timestamp : BitVec 32) (nowMs : BitVec 64) :
    ∃ maxPacketTs maxPacketMs, s.receivePacket seq timestamp nowMs =
      ((s.updateSeq seq timestamp nowMs).1, { (s.updateSeq seq timestamp nowMs).2 with
        maxPacketTs := maxPacketTs
        maxPacketMs := maxPacketMs }) := by
  unfold SeqState.receivePacket
  rw [if_pos hstarted]
  dsimp only
  split
  · rename_i hvalid
    exact ⟨timestamp, nowMs, Prod.ext (Bool.and_eq_true_iff.mp hvalid).1.symm rfl⟩
  · exact ⟨_, _, rfl⟩

theorem Follows.setTimestamp (h : s.Follows m count) (timestamp : BitVec 32) (nowMs : BitVec 64) :
    ({ s with maxPacketTs := timestamp, maxPacketMs := nowMs } : SeqState).Follows m count :=
  ⟨h.started, h.maxSeq_eq, h.total_eq, h.cycles_le, h.cycles_dvd, h.baseSeq_pos⟩

/-- What `ReceivePacket` does to a stream that goes on. -/
theorem Follows.receivePacket (h : s.Follows m count) (hgo : LossRun.GoesOn s seq)
    (timestamp : BitVec 32) (nowMs : BitVec 64) :
    Takes m count seq (s.receivePacket seq timestamp nowMs) := by
  obtain ⟨maxPacketTs, maxPacketMs, hreceive⟩ :=
    receivePacket_started h.started seq timestamp nowMs
  rw [hreceive]
  rcases h.updateSeq hgo timestamp nowMs with ⟨hfalse, hfollows⟩ | ⟨htrue, hwindow, hfollows⟩
  · exact Or.inl ⟨hfalse, hfollows.setTimestamp _ _⟩
  · exact Or.inr ⟨htrue, hwindow, hfollows.setTimestamp _ _⟩

theorem cycles_beforeFirst (seq : BitVec 16) (timestamp : BitVec 32) (nowMs : BitVec 64) :
    (beforeFirst seq timestamp nowMs).cycles.toNat = 0 := rfl

theorem follows_beforeFirst (hne : seq ≠ 0) (timestamp : BitVec 32) (nowMs : BitVec 64) :
    (beforeFirst seq timestamp nowMs).Follows (seq.toNat - 1) 0 := by
  have hpos : seq.toNat ≠ 0 := fun h ↦ hne (BitVec.eq_of_toNat_eq h)
  have hlast : (seq - 1).toNat = seq.toNat - 1 := BitVec.toNat_sub_of_le (by bv_omega)
  have hcycles := cycles_beforeFirst seq timestamp nowMs
  refine ⟨rfl, (tracks_beforeFirst seq timestamp nowMs).maxSeq_eq, ?_, ?_, ?_, ?_⟩
  · change 0 + (seq - 1).toNat + 1 = (seq.setWidth 32).toNat + 0
    rw [hlast, BitVec.toNat_setWidth]
    omega
  · rw [hcycles]
    decide
  · exact ⟨0, hcycles⟩
  · change 0 < (seq.setWidth 32).toNat
    rw [BitVec.toNat_setWidth]
    omega

/-- The first packet, unless it has the number 0. -/
theorem follows_first (hne : seq ≠ 0) (timestamp : BitVec 32) (nowMs : BitVec 64) :
    (receivePacket {} seq timestamp nowMs).1 = true ∧
      (receivePacket {} seq timestamp nowMs).2.Follows seq.toNat 1 := by
  have hbefore := follows_beforeFirst hne timestamp nowMs
  have hpos : seq.toNat ≠ 0 := fun h ↦ hne (BitVec.eq_of_toNat_eq h)
  have hone : pos (beforeFirst seq timestamp nowMs).maxSeq seq = 1 := by
    change (seq - (seq - 1)).toNat = 1
    bv_omega
  have hahead : pos (beforeFirst seq timestamp nowMs).maxSeq seq < maxDropout := by
    rw [hone]
    decide
  have hgo : LossRun.GoesOn (beforeFirst seq timestamp nowMs) seq :=
    ⟨fun hfar ↦ absurd hahead (Nat.not_lt.mpr hfar), fun _ _ ↦ by
      rw [cycles_beforeFirst]
      decide⟩
  have hunwrap : Serial.unwrap ((seq.toNat : ℤ) - 1) seq = seq.toNat := by
    rw [unwrap_of_lt (by rw [← hbefore.maxSeq_eq, hone]; decide), ← hbefore.maxSeq_eq, hone]
    omega
  have hfirst : receivePacket {} seq timestamp nowMs =
    (beforeFirst seq timestamp nowMs).receivePacket seq timestamp nowMs := rfl
  obtain ⟨maxPacketTs, maxPacketMs, hreceive⟩ :=
    receivePacket_started hbefore.started seq timestamp nowMs
  have hvalid : (receivePacket {} seq timestamp nowMs).1 = true := by
    rw [hfirst, hreceive, updateSeq_ahead hahead]
  rcases hbefore.receivePacket hgo timestamp nowMs with ⟨hfalse, -⟩ | ⟨-, -, hfollows⟩
  · exact absurd (hvalid.symm.trans (hfirst ▸ hfalse)) (by decide)
  · have hcount : 0 + ((seq.toNat : ℤ) - (seq.toNat - 1)).toNat = 1 := by omega
    rw [hunwrap, max_eq_right (by omega), hcount] at hfollows
    exact ⟨hvalid, hfollows⟩

end SeqState

/-! ## What the calls leave alone -/

namespace LossStats

/-- A packet moves the sequence numbers and leaves the totals of the last report and score alone. -/
theorem receivePacket_frame (s : LossStats) (seq : BitVec 16) (timestamp : BitVec 32)
    (nacked : Bool) (nowMs : BitVec 64) :
    (s.receivePacket seq timestamp nacked nowMs).1 =
        (s.seqState.receivePacket seq timestamp nowMs).1 ∧
      (s.receivePacket seq timestamp nacked nowMs).2.seqState =
        (s.seqState.receivePacket seq timestamp nowMs).2 ∧
      (s.receivePacket seq timestamp nacked nowMs).2.expectedPrior = s.expectedPrior ∧
      (s.receivePacket seq timestamp nacked nowMs).2.expectedPriorScore =
        s.expectedPriorScore := by
  unfold receivePacket
  cases hvalid : (s.seqState.receivePacket seq timestamp nowMs).1 <;> simp [hvalid]

theorem receiveRtxPacket_frame (s : LossStats) (seq : BitVec 16) (timestamp : BitVec 32)
    (nacked : Bool) (nowMs : BitVec 64) :
    (s.receiveRtxPacket seq timestamp nacked nowMs).1 =
        (s.seqState.updateSeq seq timestamp nowMs).1 ∧
      (s.receiveRtxPacket seq timestamp nacked nowMs).2.seqState =
        (s.seqState.updateSeq seq timestamp nowMs).2 ∧
      (s.receiveRtxPacket seq timestamp nacked nowMs).2.expectedPrior = s.expectedPrior ∧
      (s.receiveRtxPacket seq timestamp nacked nowMs).2.expectedPriorScore =
        s.expectedPriorScore := by
  unfold receiveRtxPacket
  cases hvalid : (s.seqState.updateSeq seq timestamp nowMs).1 <;> simp [hvalid]

/-- A score keeps the total, for scores. -/
theorem updateScore_frame (s : LossStats) (hasRtx : Bool) :
    (s.updateScore hasRtx).2.seqState = s.seqState ∧
      (s.updateScore hasRtx).2.expectedPrior = s.expectedPrior ∧
      (s.updateScore hasRtx).2.expectedPriorScore = s.seqState.getExpectedPackets := by
  unfold updateScore
  dsimp only
  repeat' split
  all_goals exact ⟨rfl, rfl, rfl⟩

end LossStats

namespace LossRun

variable {x : LossRun}

/-- No packet has been received yet. -/
structure Fresh (x : LossRun) : Prop where
  seqState_eq : x.stats.seqState = {}
  expectedPrior_eq : x.stats.expectedPrior = 0
  expectedPriorScore_eq : x.stats.expectedPriorScore = 0
  progress_eq : x.progress = {}

/-- The totals are the numbers of sequence numbers. -/
structure Counted (x : LossRun) (m : ℤ) : Prop where
  highest_eq : x.progress.highest = some m
  follows : x.stats.seqState.Follows m x.progress.count
  expectedPrior_eq : x.stats.expectedPrior.toNat = x.progress.reported
  reported_le : x.progress.reported ≤ x.progress.count
  expectedPriorScore_eq : x.stats.expectedPriorScore.toNat = x.progress.scored
  scored_le : x.progress.scored ≤ x.progress.count

/-- The invariant. -/
def Inv (x : LossRun) : Prop := x.Fresh ∨ ∃ m, x.Counted m

/-- A total that was right then has grown since. -/
theorem grows {m : ℤ} {prior : ℕ} {last : BitVec 32}
    (h : x.stats.seqState.Follows m x.progress.count) (hlast : last.toNat = prior)
    (hle : prior ≤ x.progress.count) : x.Grows last prior := by
  have htotal := h.getExpectedPackets
  have hle' : last.toNat ≤ x.stats.seqState.getExpectedPackets.toNat := by omega
  refine ⟨hle', ?_⟩
  rw [BitVec.toNat_sub_of_le hle']
  omega

theorem Counted.noUnderflow {m : ℤ} (h : x.Counted m) (e : LossStats.Event) : x.NoUnderflow e := by
  cases e with
  | getRtcpReceiverReport => exact grows h.follows h.expectedPrior_eq h.reported_le
  | receiveRtcpSenderReport => exact grows h.follows h.expectedPriorScore_eq h.scored_le
  | receivePacket | receiveRtxPacket | timer => trivial

/-- The sequence numbers may become more, as long as what was reported and scored stays. -/
theorem Counted.advance {y : LossRun} {m m' : ℤ} (h : x.Counted m)
    (hhighest : y.progress.highest = some m')
    (hfollows : y.stats.seqState.Follows m' y.progress.count)
    (hprior : y.stats.expectedPrior = x.stats.expectedPrior)
    (hpriorScore : y.stats.expectedPriorScore = x.stats.expectedPriorScore)
    (hreported : y.progress.reported = x.progress.reported)
    (hscored : y.progress.scored = x.progress.scored)
    (hcount : x.progress.count ≤ y.progress.count) : y.Counted m' where
  highest_eq := hhighest
  follows := hfollows
  expectedPrior_eq := by rw [hprior, hreported, h.expectedPrior_eq]
  reported_le := hreported ▸ h.reported_le.trans hcount
  expectedPriorScore_eq := by rw [hpriorScore, hscored, h.expectedPriorScore_eq]
  scored_le := hscored ▸ h.scored_le.trans hcount

/-- A packet, whatever else it does to the statistics. -/
theorem Counted.receive {y : LossRun} {m : ℤ} {result : Bool × SeqState} (h : x.Counted m)
    (seq : BitVec 16) (htakes : SeqState.Takes m x.progress.count seq result)
    (hseqState : y.stats.seqState = result.2)
    (hprior : y.stats.expectedPrior = x.stats.expectedPrior)
    (hpriorScore : y.stats.expectedPriorScore = x.stats.expectedPriorScore)
    (hprogress : y.progress = if result.1 then x.progress.receive seq else x.progress) :
    y.Inv := by
  unfold SeqState.Takes at htakes
  rw [← hseqState] at htakes
  rcases htakes with ⟨hfalse, hfollows⟩ | ⟨htrue, hwindow, hfollows⟩
  · have hsame : y.progress = x.progress := hprogress.trans (if_neg (by rw [hfalse]; decide))
    rw [← hsame] at hfollows
    exact Or.inr ⟨m, h.advance (by rw [hsame, h.highest_eq]) hfollows hprior hpriorScore
      (by rw [hsame])
      (by rw [hsame]) (by rw [hsame])⟩
  · have hnew : y.progress = { x.progress with
        highest := some (max m (Serial.unwrap m seq))
        count := x.progress.count + (Serial.unwrap m seq - m).toNat } := by
      rw [hprogress, if_pos htrue, Progress.receive, h.highest_eq]
      exact if_pos hwindow
    have hcount : x.progress.count ≤ y.progress.count := by
      rw [hnew]
      exact Nat.le_add_right _ _
    exact Or.inr ⟨max m (Serial.unwrap m seq),
      h.advance (by rw [hnew]) (by rw [hnew]; exact hfollows)
      hprior hpriorScore (by rw [hnew]) (by rw [hnew]) hcount⟩

theorem progress_receivePacket (x : LossRun) (seq : BitVec 16) (timestamp : BitVec 32)
    (nacked : Bool) (nowMs : BitVec 64) :
    (x.step (.receivePacket seq timestamp nacked nowMs)).progress =
      if (x.stats.seqState.receivePacket seq timestamp nowMs).1 then x.progress.receive seq
      else x.progress := by
  obtain ⟨hvalid, -⟩ := LossStats.receivePacket_frame x.stats seq timestamp nacked nowMs
  rw [← hvalid]
  unfold step LossStats.received
  dsimp only
  split <;> rfl

theorem progress_receiveRtxPacket (x : LossRun) (seq : BitVec 16) (timestamp : BitVec 32)
    (nacked : Bool) (nowMs : BitVec 64) :
    (x.step (.receiveRtxPacket seq timestamp nacked nowMs)).progress =
      if (x.stats.seqState.updateSeq seq timestamp nowMs).1 then x.progress.receive seq
      else x.progress := by
  obtain ⟨hvalid, -⟩ := LossStats.receiveRtxPacket_frame x.stats seq timestamp nacked nowMs
  rw [← hvalid]
  unfold step LossStats.received
  dsimp only
  split <;> rfl

/-- **One event** of a stream that goes on. -/
theorem Counted.step {m : ℤ} (h : x.Counted m) {e : LossStats.Event} (hregular : x.Regular e) :
    (x.step e).Inv := by
  have htotal := h.follows.getExpectedPackets
  cases e with
  | receivePacket seq timestamp nacked nowMs =>
    have hgo : GoesOn x.stats.seqState seq := by
      change (if x.stats.seqState.started then _ else _) at hregular
      rwa [if_pos h.follows.started] at hregular
    obtain ⟨-, hseq, hprior, hpriorScore⟩ :=
      LossStats.receivePacket_frame x.stats seq timestamp nacked nowMs
    exact h.receive seq (h.follows.receivePacket hgo timestamp nowMs) hseq hprior hpriorScore
      (x.progress_receivePacket seq timestamp nacked nowMs)
  | receiveRtxPacket seq timestamp nacked nowMs =>
    obtain ⟨-, hseq, hprior, hpriorScore⟩ :=
      LossStats.receiveRtxPacket_frame x.stats seq timestamp nacked nowMs
    exact h.receive seq (h.follows.updateSeq hregular.2 timestamp nowMs) hseq hprior hpriorScore
      (x.progress_receiveRtxPacket seq timestamp nacked nowMs)
  | getRtcpReceiverReport ssrc jitter worst nowMs =>
    exact Or.inr ⟨m, h.highest_eq, h.follows, htotal, le_rfl, h.expectedPriorScore_eq, h.scored_le⟩
  | receiveRtcpSenderReport ntpSec ntpFrac hasRtx nowMs =>
    obtain ⟨hseq, hprior, hpriorScore⟩ := LossStats.updateScore_frame { x.stats with
      lastSrReceived := nowMs
      lastSrTimestamp := (ntpSec <<< 16) + (ntpFrac >>> 16) } hasRtx
    refine Or.inr ⟨m, h.highest_eq, ?_, ?_, h.reported_le, ?_, le_rfl⟩
    · exact hseq ▸ h.follows
    · exact (congrArg BitVec.toNat hprior).trans h.expectedPrior_eq
    · exact (congrArg BitVec.toNat hpriorScore).trans htotal
  | timer =>
    exact Or.inr ⟨m, h.highest_eq, h.follows, h.expectedPrior_eq, h.reported_le,
      h.expectedPriorScore_eq, h.scored_le⟩

/-- **The first packet** is the first event that counts. -/
theorem Fresh.step (h : x.Fresh) {e : LossStats.Event} (hregular : x.Regular e) :
    (x.step e).Inv := by
  have hstopped : x.stats.seqState.started ≠ true := by
    rw [h.seqState_eq]
    decide
  cases e with
  | receivePacket seq timestamp nacked nowMs =>
    have hne : seq ≠ 0 := by
      change (if x.stats.seqState.started then _ else _) at hregular
      rwa [if_neg hstopped] at hregular
    obtain ⟨hvalid, hfollows⟩ := SeqState.follows_first hne timestamp nowMs
    obtain ⟨-, hseq, hprior, hpriorScore⟩ :=
      LossStats.receivePacket_frame x.stats seq timestamp nacked nowMs
    have hprogress := x.progress_receivePacket seq timestamp nacked nowMs
    rw [h.seqState_eq] at hseq hprogress
    rw [if_pos hvalid, h.progress_eq] at hprogress
    rw [← hseq] at hfollows
    refine Or.inr ⟨seq.toNat,
      by rw [hprogress]; rfl, by rw [hprogress]; exact hfollows, ?_, ?_, ?_, ?_⟩
    · rw [hprogress]
      exact congrArg BitVec.toNat (hprior.trans h.expectedPrior_eq)
    · rw [hprogress]
      exact Nat.zero_le 1
    · rw [hprogress]
      exact congrArg BitVec.toNat (hpriorScore.trans h.expectedPriorScore_eq)
    · rw [hprogress]
      exact Nat.zero_le 1
  | receiveRtxPacket => exact absurd hregular.1 hstopped
  | getRtcpReceiverReport => exact absurd hregular hstopped
  | receiveRtcpSenderReport => exact absurd hregular hstopped
  | timer =>
    exact Or.inl ⟨h.seqState_eq, h.expectedPrior_eq, h.expectedPriorScore_eq, h.progress_eq⟩

theorem Inv.step (h : x.Inv) {e : LossStats.Event} (hregular : x.Regular e) : (x.step e).Inv := by
  rcases h with hfresh | ⟨m, hcounted⟩
  · exact hfresh.step hregular
  · exact hcounted.step hregular

theorem Inv.noUnderflow (h : x.Inv) {e : LossStats.Event} (hregular : x.Regular e) :
    x.NoUnderflow e := by
  rcases h with hfresh | ⟨m, hcounted⟩
  · have hstopped : x.stats.seqState.started ≠ true := by
      rw [hfresh.seqState_eq]
      decide
    cases e with
    | getRtcpReceiverReport | receiveRtcpSenderReport => exact absurd hregular hstopped
    | receivePacket | receiveRtxPacket | timer => trivial
  · exact hcounted.noUnderflow e

/-- **Loss statistics never underflow** in a run that goes on from a first packet with a number
other than 0. -/
theorem run_noUnderflow (events : List LossStats.Event)
    (hregular : Run.All step Regular {} events) : Run.All step NoUnderflow {} events :=
  Run.All.of_invariant Inv (fun _ _ h he ↦ h.step he) (fun _ _ h he ↦ h.noUnderflow he)
    (Or.inl ⟨rfl, rfl, rfl, rfl⟩) hregular

/-- A run with a wrap, a discarded packet and a recovered one. -/
theorem noUnderflow_wrapping :
    Run.All step NoUnderflow {} [.receivePacket 65534 0 false 10, .getRtcpReceiverReport 1 0 0 15,
      .receivePacket 1 0 false 20, .receivePacket 20000 0 false 30,
      .receiveRtcpSenderReport 7 0 true 35, .receiveRtxPacket 65535 0 true 40,
      .receivePacket 2 0 false 45, .getRtcpReceiverReport 1 0 0 50] :=
  run_noUnderflow _ (by decide)

/-- **A re-synchronised stream.** Three packets are reported, then two sequential ones follow far
away. The total falls from 3 to 1. -/
theorem not_noUnderflow_resync :
    ¬Run.All step NoUnderflow {} [.receivePacket 1000 0 false 10, .receivePacket 1001 0 false 20,
      .receivePacket 1002 0 false 30, .getRtcpReceiverReport 1 0 0 35,
      .receivePacket 20000 0 false 40, .receivePacket 20001 0 false 50,
      .getRtcpReceiverReport 1 0 0 55] := by decide

end LossRun

end MediasoupSfu
