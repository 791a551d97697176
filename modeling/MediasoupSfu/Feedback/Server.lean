import MediasoupSfu.Feedback.Calls

/-!
# The transport-cc server

A `TransportCongestionControlServer` of type `TRANSPORT_CC` adds every RTP packet with a wide
sequence number to the feedback packet under construction. It hands that packet to its listener when
the periodic timer expires, when the packet is full and when the next RTP packet does not fit, and
then starts a new one whose base is the last RTP packet of the old one.

The packet under construction is created anew at four places. Every feedback packet carries a
number, which the server counts in a member of its own, and three of the four places copy it. The
fourth, `TransportDisconnected`, does not, so after it the numbers start again at zero.
`feedback_count` says that the numbers are consecutive as long as this makes no difference.
-/

namespace MediasoupSfu

/-- An RTCP packet as the server hands it to its listener. -/
inductive SentRtcpPacket where
  | transportCc (packet : FeedbackRtpTransportPacket)
  | remb (bitrate : BitVec 32)
  deriving DecidableEq, Repr

/-- What happens during one event: the packets handed to the listener, and the results of the calls
of `AddPacket`. -/
structure ServerOutput where
  sent : List SentRtcpPacket := []
  answers : List AddPacketResult := []
  deriving DecidableEq, Repr

/-- The outputs of two parts of an event. -/
def ServerOutput.append (a b : ServerOutput) : ServerOutput :=
  ⟨a.sent ++ b.sent, a.answers ++ b.answers⟩

/-- The members of a `TransportCongestionControlServer` whose `bweType` is `TRANSPORT_CC`. -/
structure TransportCongestionControlServer where
  maxRtcpPacketLen : ℕ
  /-- The periodic timer is running. -/
  transportCcFeedbackSendPeriodicTimer : Bool := false
  transportCcFeedbackPacket : FeedbackRtpTransportPacket := .fresh 0 0 0
  transportCcFeedbackPacketCount : BitVec 8 := 0
  transportCcFeedbackSenderSsrc : BitVec 32 := 0
  transportCcFeedbackMediaSsrc : BitVec 32 := 0
  maxIncomingBitrate : BitVec 32 := 0
  limitationRembSentAtMs : BitVec 64 := 0
  unlimitedRembCounter : BitVec 8 := 0
  deriving DecidableEq, Repr

/-- What the server reacts to. Where the source reads the clock itself, its value is `timeMs`. -/
inductive ServerEvent where
  /-- `IncomingPacket(nowMs, packet)`; the wide sequence number is what `ReadTransportWideCc01`
  reads from the packet. -/
  | incomingPacket (nowMs : BitVec 64) (wideSeqNumber : Option (BitVec 16)) (ssrc : BitVec 32)
      (timeMs : BitVec 64)
  /-- The periodic timer expires. -/
  | timer
  | transportConnected
  | transportDisconnected
  | setMaxIncomingBitrate (bitrate : BitVec 32) (timeMs : BitVec 64)
  deriving DecidableEq, Repr

namespace TransportCongestionControlServer

open FeedbackRtpTransportPacket

/-- `LimitationRembInterval`, in ms. -/
def limitationRembInterval : BitVec 64 := 1500

/-- `UnlimitedRembNumPackets`. -/
def unlimitedRembNumPackets : BitVec 8 := 4

/-! ## The source -/

/-- `AddPacket` on the feedback packet under construction. -/
def addPacket (s : TransportCongestionControlServer) (wideSeqNumber : BitVec 16)
    (timestamp : BitVec 64) :
    Except Fault (AddPacketResult × TransportCongestionControlServer) := do
  let (result, packet) ←
    s.transportCcFeedbackPacket.addPacket wideSeqNumber timestamp s.maxRtcpPacketLen
  return (result, { s with transportCcFeedbackPacket := packet })

/-- A new feedback packet with the current SSRCs and the current packet count. -/
def renewFeedbackPacket (s : TransportCongestionControlServer) : TransportCongestionControlServer :=
  { s with
    transportCcFeedbackPacket :=
      .fresh s.transportCcFeedbackSenderSsrc s.transportCcFeedbackMediaSsrc
      s.transportCcFeedbackPacketCount }

/-- `SendTransportCcFeedback()`. -/
def sendTransportCcFeedback (s : TransportCongestionControlServer) :
    Except Fault (ServerOutput × TransportCongestionControlServer) := do
  -- `IsSerializable()`.
  if s.transportCcFeedbackPacket.deltas = [] then return ({}, s)
  let latestWideSeqNumber := s.transportCcFeedbackPacket.latestSequenceNumber
  let latestTimestamp := s.transportCcFeedbackPacket.latestTimestamp
  let sent := [.transportCc s.transportCcFeedbackPacket]
  let s := renewFeedbackPacket
    { s with transportCcFeedbackPacketCount := s.transportCcFeedbackPacketCount + 1 }
  if 0 < latestTimestamp then
    let (result, s) ← s.addPacket latestWideSeqNumber latestTimestamp
    return (⟨sent, [result]⟩, s)
  return (⟨sent, []⟩, s)

/-- `MaySendLimitationRembFeedback()` at the given time. -/
def maySendLimitationRembFeedback (s : TransportCongestionControlServer) (nowMs : BitVec 64) :
    ServerOutput × TransportCongestionControlServer :=
  let s := if 0 < s.unlimitedRembCounter ∧ s.maxIncomingBitrate ≠ 0 then
    { s with unlimitedRembCounter := 0 } else s
  if (s.maxIncomingBitrate ≠ 0 ∨ 0 < s.unlimitedRembCounter) ∧
      (limitationRembInterval < nowMs - s.limitationRembSentAtMs ∨
        s.unlimitedRembCounter = unlimitedRembNumPackets) then
    (⟨[.remb s.maxIncomingBitrate], []⟩,
      { s with
        limitationRembSentAtMs := nowMs
        unlimitedRembCounter :=
          if 0 < s.unlimitedRembCounter
            then s.unlimitedRembCounter - 1 else s.unlimitedRembCounter })
  else ({}, s)

/-- The part of `IncomingPacket` that provides the feedback packet with the RTP packet. -/
def providePacket (s : TransportCongestionControlServer) (nowMs : BitVec 64)
    (wideSeqNumber : BitVec 16) :
    Except Fault (ServerOutput × TransportCongestionControlServer) := do
  let (result, s) ← s.addPacket wideSeqNumber nowMs
  match result with
  | .success =>
    if s.transportCcFeedbackPacket.isFull then
      let (output, s) ← s.sendTransportCcFeedback
      return (.append ⟨[], [result]⟩ output, s)
    return (⟨[], [result]⟩, s)
  | .maxSizeExceeded =>
    let (output, s) ← s.sendTransportCcFeedback
    let (again, s) ← s.addPacket wideSeqNumber nowMs
    return (.append ⟨[], [result]⟩ (.append output ⟨[], [again]⟩), s)
  | .fatal => return (⟨[], [result]⟩, s.renewFeedbackPacket)

/-- The SSRCs of the feedback packet under construction follow the RTP packet. -/
def setSsrcs (s : TransportCongestionControlServer) (ssrc : BitVec 32) :
    TransportCongestionControlServer :=
  { s with
    transportCcFeedbackSenderSsrc := 0
    transportCcFeedbackMediaSsrc := ssrc
    transportCcFeedbackPacket :=
      { s.transportCcFeedbackPacket with senderSsrc := 0, mediaSsrc := ssrc } }

/-- `IncomingPacket(nowMs, packet)`. -/
def incomingPacket (s : TransportCongestionControlServer) (nowMs : BitVec 64)
    (wideSeqNumber : Option (BitVec 16)) (ssrc : BitVec 32) (timeMs : BitVec 64) :
    Except Fault (ServerOutput × TransportCongestionControlServer) := do
  match wideSeqNumber with
  | none => return ({}, s)
  | some wideSeqNumber =>
    let (output, s) ← (s.setSsrcs ssrc).providePacket nowMs wideSeqNumber
    let (remb, s) := s.maySendLimitationRembFeedback timeMs
    return (output.append remb, s)

/-- `SetMaxIncomingBitrate(bitrate)`. -/
def setMaxIncomingBitrate (s : TransportCongestionControlServer) (bitrate : BitVec 32)
    (timeMs : BitVec 64) : ServerOutput × TransportCongestionControlServer :=
  if s.maxIncomingBitrate ≠ 0 ∧ bitrate = 0 then
    maySendLimitationRembFeedback
      { s with maxIncomingBitrate := bitrate, unlimitedRembCounter := unlimitedRembNumPackets }
      timeMs
  else ({}, { s with maxIncomingBitrate := bitrate })

/-- `TransportConnected()`. -/
def transportConnected (s : TransportCongestionControlServer) : TransportCongestionControlServer :=
  { s with transportCcFeedbackSendPeriodicTimer := true }

/-- `TransportDisconnected()`. The new packet has the packet count of its constructor. -/
def transportDisconnected (s : TransportCongestionControlServer) :
    TransportCongestionControlServer :=
  { s with
    transportCcFeedbackSendPeriodicTimer := false
    transportCcFeedbackPacket := .fresh 0 0 0 }

/-- The reaction to an event. A timer that is not running does not expire. -/
def step (s : TransportCongestionControlServer) :
    ServerEvent → Except Fault (ServerOutput × TransportCongestionControlServer)
  | .incomingPacket nowMs wideSeqNumber ssrc timeMs => s.incomingPacket nowMs wideSeqNumber
      ssrc timeMs
  | .timer =>
    if s.transportCcFeedbackSendPeriodicTimer then s.sendTransportCcFeedback else .ok ({}, s)
  | .transportConnected => .ok ({}, s.transportConnected)
  | .transportDisconnected => .ok ({}, s.transportDisconnected)
  | .setMaxIncomingBitrate bitrate timeMs => .ok (s.setMaxIncomingBitrate bitrate timeMs)

/-- The server as the constructor makes it. -/
def init (maxRtcpPacketLen : ℕ) : TransportCongestionControlServer :=
  { maxRtcpPacketLen := maxRtcpPacketLen }

end TransportCongestionControlServer

/-! ## Packets between two events -/

namespace FeedbackRtpTransportPacket

variable {p p' : FeedbackRtpTransportPacket} {c : AddPacketCall} {result : AddPacketResult}

/-- A packet that has at most a base. -/
structure Bare (p : FeedbackRtpTransportPacket) : Prop extends p.Sound where
  no_deltas : p.deltas = []
  no_chunks : p.chunks = []
  no_statuses : p.context.statuses = []

/-- What holds of the packet under construction between two events. -/
structure Ready (p : FeedbackRtpTransportPacket) : Prop extends p.Sound where
  not_full : p.isFull = false
  bare : p.deltas = [] → p.Bare

theorem bare_fresh (senderSsrc mediaSsrc : BitVec 32) (feedbackPacketCount : BitVec 8) :
    (fresh senderSsrc mediaSsrc feedbackPacketCount).Bare :=
  ⟨sound_fresh _ _ _, rfl, rfl, rfl⟩

theorem Bare.rebase (h : p.Bare) (c : AddPacketCall) : (p.rebase c).Bare :=
  ⟨h.toSound.rebase c, h.no_deltas, h.no_chunks, h.no_statuses⟩

theorem Bare.ready (h : p.Bare) : p.Ready := by
  refine ⟨h.toSound, ?_, fun _ ↦ h⟩
  rw [isFull, h.count, h.no_chunks]
  decide

theorem Ready.setSsrcs (h : p.Ready) (senderSsrc mediaSsrc : BitVec 32) :
    Ready { p with senderSsrc := senderSsrc, mediaSsrc := mediaSsrc } := by
  have hsound : ∀ {q : FeedbackRtpTransportPacket}, q.Sound →
      Sound { q with senderSsrc := senderSsrc, mediaSsrc := mediaSsrc } := fun hq ↦
    ⟨hq.tidy, hq.waiting, hq.local_size, hq.count, hq.written, hq.bytes, hq.pending⟩
  refine ⟨hsound h.toSound, h.not_full, fun hnil ↦ ?_⟩
  obtain ⟨hs, hdeltas, hchunks, hstatuses⟩ := h.bare hnil
  exact ⟨hsound hs, hdeltas, hchunks, hstatuses⟩

/-- A newer packet is newer by at most half the sequence numbers. -/
theorem missing_lt (hnew : isSeqHigherThan c.sequenceNumber p.latestSequenceNumber = true) :
    (p.missing c).toNat < 2 ^ 15 := by
  have hsucc := Serial.pos_succ_of_ne (ne_of_isSeqHigherThan hnew)
  have hlt : Serial.pos p.latestSequenceNumber c.sequenceNumber ≤ 2 ^ 15 := by
    rw [isSeqHigherThan_eq] at hnew
    rcases (isSeqLowerThan_iff (by decide)).mp hnew with ⟨-, hlt⟩ | ⟨heq, -⟩
    · exact hlt.le
    · exact heq.le
  change Serial.pos (p.latestSequenceNumber + 1) c.sequenceNumber < 2 ^ 15
  omega

/-- Without a delta no call makes a packet full. -/
theorem Bare.addStep (h : p.Bare) (hcall : p.addStep c = .ok (result, p')) : p'.Ready := by
  cases (addPacket_outcome hcall).2 with
  | based => exact (h.rebase c).ready
  | ignored => exact h.ready
  | refused => exact h.ready
  | recorded _ hnew =>
    refine ⟨h.toSound.record c, ?_, fun hnil ↦ ?_⟩
    · have hsymbols := congrArg List.length
        ((h.toSound.advances c).symbols (by rw [h.no_statuses]; decide))
      rw [h.no_statuses, List.nil_append, List.length_append, List.length_append,
        List.length_replicate, List.length_singleton, ← totalCount] at hsymbols
      have hlt := missing_lt hnew
      rw [isFull, (h.toSound.record c).count, chunks_record, h.no_chunks, List.nil_append,
        BitVec.toNat_ofNat, decide_eq_false_iff_not]
      unfold maxPacketStatusCount
      omega
    · rw [deltas_record] at hnil
      exact absurd hnil (by simp)

/-- A packet that is ready stays sound, and is bare as long as it has no delta. -/
theorem Ready.addStep (h : p.Ready) (hcall : p.addStep c = .ok (result, p')) :
    p'.Sound ∧ (p'.deltas = [] → p'.Bare) := by
  have hout := (addPacket_outcome hcall).2
  refine ⟨h.toSound.outcome hout, fun hnil ↦ ?_⟩
  cases hout with
  | based => exact (h.bare hnil).rebase c
  | ignored => exact h.bare hnil
  | refused => exact h.bare hnil
  | recorded =>
    rw [deltas_record] at hnil
    exact absurd hnil (by simp)

/-- A call keeps the packet's number. -/
theorem feedbackPacketCount_addStep (hcall : p.addStep c = .ok (result, p')) :
    p'.feedbackPacketCount = p.feedbackPacketCount := by
  cases (addPacket_outcome hcall).2 with
  | based => rfl
  | ignored => rfl
  | refused => rfl
  | recorded =>
    have hheader := p.header_record c
    simp only [header, Prod.mk.injEq] at hheader
    exact hheader.2.2.2.2.2.2.1

end FeedbackRtpTransportPacket

namespace TransportCongestionControlServer

open FeedbackRtpTransportPacket

variable {s t : TransportCongestionControlServer} {c : AddPacketCall} {output : ServerOutput}

/-! ## One event -/

/-- The server with another packet under construction. -/
def put (s : TransportCongestionControlServer) (packet : FeedbackRtpTransportPacket) :
    TransportCongestionControlServer := { s with transportCcFeedbackPacket := packet }

/-- The packet after the one under construction, based on its last RTP packet. -/
def successor (s : TransportCongestionControlServer) : FeedbackRtpTransportPacket :=
  let next := fresh s.transportCcFeedbackSenderSsrc s.transportCcFeedbackMediaSsrc
    (s.transportCcFeedbackPacketCount + 1)
  if 0 < s.transportCcFeedbackPacket.latestTimestamp then
    next.rebase ⟨s.transportCcFeedbackPacket.latestSequenceNumber,
      s.transportCcFeedbackPacket.latestTimestamp, s.maxRtcpPacketLen⟩
  else next

/-- The server after a feedback packet was handed over. -/
def handOver (s : TransportCongestionControlServer) : TransportCongestionControlServer :=
  { s with
    transportCcFeedbackPacket := s.successor
    transportCcFeedbackPacketCount := s.transportCcFeedbackPacketCount + 1 }

/-- What `SendTransportCcFeedback` does: it never fails. -/
def send (s : TransportCongestionControlServer) : ServerOutput × TransportCongestionControlServer :=
  if s.transportCcFeedbackPacket.deltas = [] then ({}, s)
  else (⟨[.transportCc s.transportCcFeedbackPacket],
    if 0 < s.transportCcFeedbackPacket.latestTimestamp then [.success] else []⟩, s.handOver)

theorem send_of_nil (h : s.transportCcFeedbackPacket.deltas = []) : s.send = ({}, s) := if_pos h

theorem send_of_ne (h : s.transportCcFeedbackPacket.deltas ≠ []) :
    s.send = (⟨[.transportCc s.transportCcFeedbackPacket],
      if 0 < s.transportCcFeedbackPacket.latestTimestamp then [.success] else []⟩, s.handOver) :=
  if_neg h

theorem sendTransportCcFeedback_eq (s : TransportCongestionControlServer) :
    s.sendTransportCcFeedback = .ok s.send := by
  unfold sendTransportCcFeedback send handOver successor
  by_cases hnil : s.transportCcFeedbackPacket.deltas = []
  · rw [if_pos hnil, if_pos hnil]
    rfl
  · rw [if_neg hnil, if_neg hnil]
    by_cases hts : 0 < s.transportCcFeedbackPacket.latestTimestamp
    · dsimp only
      rw [if_pos hts, if_pos hts, if_pos hts]
      rfl
    · dsimp only
      rw [if_neg hts, if_neg hts, if_neg hts]
      rfl

theorem bare_successor (s : TransportCongestionControlServer) : s.successor.Bare := by
  unfold successor
  dsimp only
  split
  · exact (bare_fresh _ _ _).rebase _
  · exact bare_fresh _ _ _

theorem feedbackPacketCount_successor (s : TransportCongestionControlServer) :
    s.successor.feedbackPacketCount = s.transportCcFeedbackPacketCount + 1 := by
  unfold successor
  dsimp only
  split <;> rfl

/-- What an RTP packet does to the server, but for its SSRC. -/
inductive Provides (s : TransportCongestionControlServer) (c : AddPacketCall) :
    ServerOutput → TransportCongestionControlServer → Prop
  | added {packet : FeedbackRtpTransportPacket}
      (hcall : s.transportCcFeedbackPacket.addStep c = .ok (.success, packet))
      (hroom : packet.isFull = false) : Provides s c ⟨[], [.success]⟩ (s.put packet)
  | filled {packet : FeedbackRtpTransportPacket}
      (hcall : s.transportCcFeedbackPacket.addStep c = .ok (.success, packet))
      (hfull : packet.isFull = true) :
      Provides s c (.append ⟨[], [.success]⟩ (s.put packet).send.1) (s.put packet).send.2
  | overflowed {again : AddPacketResult} {packet : FeedbackRtpTransportPacket}
      (hcall : s.transportCcFeedbackPacket.addStep c =
        .ok (.maxSizeExceeded, s.transportCcFeedbackPacket))
      (hagain : s.send.2.transportCcFeedbackPacket.addStep c = .ok (again, packet)) :
      Provides s c (.append ⟨[], [.maxSizeExceeded]⟩ (.append s.send.1 ⟨[], [again]⟩))
        (s.send.2.put packet)
  | failed
      (hcall : s.transportCcFeedbackPacket.addStep c = .ok (.fatal, s.transportCcFeedbackPacket)) :
      Provides s c ⟨[], [.fatal]⟩ s.renewFeedbackPacket

/-- The packet of a call that is refused is left alone. -/
theorem addStep_refused {p p' : FeedbackRtpTransportPacket} {result : AddPacketResult}
    (h : p.addStep c = .ok (result, p')) (hresult : result ≠ .success) : p' = p := by
  cases (addPacket_outcome h).2 with
  | based => exact absurd rfl hresult
  | ignored => rfl
  | refused => rfl
  | recorded => exact absurd rfl hresult

@[simp] theorem maxRtcpPacketLen_send (s : TransportCongestionControlServer) :
    s.send.2.maxRtcpPacketLen = s.maxRtcpPacketLen := by
  unfold send
  split <;> rfl

theorem addPacket_eq {result : AddPacketResult} {packet : FeedbackRtpTransportPacket}
    {wideSeqNumber : BitVec 16} {nowMs : BitVec 64}
    (h : s.transportCcFeedbackPacket.addStep ⟨wideSeqNumber, nowMs, s.maxRtcpPacketLen⟩ =
      .ok (result, packet)) : s.addPacket wideSeqNumber nowMs = .ok (result, s.put packet) := by
  unfold addPacket
  unfold addStep at h
  rw [h]
  rfl

/-- The packet after a hand-over is ready. -/
theorem ready_send (h : s.transportCcFeedbackPacket.Ready) :
    s.send.2.transportCcFeedbackPacket.Ready := by
  unfold send
  split
  · exact h
  · exact s.bare_successor.ready

/-- **One RTP packet.** A server with a packet that is ready provides for it without a fault. -/
theorem exists_provides (h : s.transportCcFeedbackPacket.Ready) (nowMs : BitVec 64)
    (wideSeqNumber : BitVec 16) :
    ∃ output t, s.providePacket nowMs wideSeqNumber = .ok (output, t) ∧
      Provides s ⟨wideSeqNumber, nowMs, s.maxRtcpPacketLen⟩ output t := by
  obtain ⟨result, packet, hcall⟩ :=
    addPacket_total h.not_full ⟨wideSeqNumber, nowMs, s.maxRtcpPacketLen⟩
  unfold providePacket
  rw [addPacket_eq hcall]
  cases result with
  | success =>
    cases hfull : packet.isFull with
    | true =>
      refine ⟨_, _, ?_, .filled hcall hfull⟩
      change (if packet.isFull = true then (s.put packet).sendTransportCcFeedback >>= _ else _) = _
      rw [if_pos hfull, sendTransportCcFeedback_eq]
      rfl
    | false =>
      refine ⟨_, _, ?_, .added hcall hfull⟩
      change (if packet.isFull = true then _ else _) = _
      rw [if_neg (by rw [hfull]; decide)]
      rfl
  | maxSizeExceeded =>
    obtain rfl : packet = s.transportCcFeedbackPacket := addStep_refused hcall nofun
    obtain ⟨again, packet, hagain⟩ :=
      addPacket_total (ready_send h).not_full ⟨wideSeqNumber, nowMs, s.maxRtcpPacketLen⟩
    refine ⟨_, _, ?_, .overflowed hcall hagain⟩
    change ((s.put s.transportCcFeedbackPacket).sendTransportCcFeedback >>= _) = _
    rw [sendTransportCcFeedback_eq]
    change (s.send.2.addPacket wideSeqNumber nowMs >>= _) = _
    rw [addPacket_eq (by rw [maxRtcpPacketLen_send]; exact hagain)]
    rfl
  | fatal =>
    obtain rfl : packet = s.transportCcFeedbackPacket := addStep_refused hcall nofun
    exact ⟨_, _, rfl, .failed hcall⟩

end TransportCongestionControlServer

/-- The feedback packets among those handed to the listener. -/
def ServerOutput.feedback (output : ServerOutput) : List FeedbackRtpTransportPacket :=
  output.sent.filterMap fun
    | .transportCc packet => some packet
    | .remb _ => none

@[simp] theorem ServerOutput.feedback_append (a b : ServerOutput) :
    (a.append b).feedback = a.feedback ++ b.feedback := List.filterMap_append

/-- The wide sequence number and the arrival time of an RTP packet that is provided. -/
def ServerEvent.arrival : ServerEvent → Option (BitVec 16 × BitVec 64)
  | .incomingPacket nowMs wideSeqNumber _ _ => wideSeqNumber.map fun n ↦ (n, nowMs)
  | _ => none

namespace TransportCongestionControlServer

open FeedbackRtpTransportPacket

variable {s t : TransportCongestionControlServer} {e : ServerEvent} {output : ServerOutput}

/-- The members that feedback depends on are the same. -/
structure SameFeedback (s t : TransportCongestionControlServer) : Prop where
  packet : t.transportCcFeedbackPacket = s.transportCcFeedbackPacket
  count : t.transportCcFeedbackPacketCount = s.transportCcFeedbackPacketCount
  len : t.maxRtcpPacketLen = s.maxRtcpPacketLen

/-- Bitrate limitations do not touch the feedback. -/
theorem maySendLimitationRembFeedback_frame (s : TransportCongestionControlServer)
    (nowMs : BitVec 64) :
    SameFeedback s (s.maySendLimitationRembFeedback nowMs).2 ∧
      (s.maySendLimitationRembFeedback nowMs).1.feedback = [] ∧
      (s.maySendLimitationRembFeedback nowMs).1.answers = [] := by
  unfold maySendLimitationRembFeedback
  dsimp only
  split_ifs <;> exact ⟨⟨rfl, rfl, rfl⟩, rfl, rfl⟩

theorem setMaxIncomingBitrate_frame (s : TransportCongestionControlServer) (bitrate : BitVec 32)
    (timeMs : BitVec 64) :
    SameFeedback s (s.setMaxIncomingBitrate bitrate timeMs).2 ∧
      (s.setMaxIncomingBitrate bitrate timeMs).1.feedback = [] ∧
      (s.setMaxIncomingBitrate bitrate timeMs).1.answers = [] := by
  unfold setMaxIncomingBitrate
  split_ifs
  · obtain ⟨⟨hpacket, hcount, hlen⟩, hsent, hanswers⟩ := maySendLimitationRembFeedback_frame
      { s with maxIncomingBitrate := bitrate, unlimitedRembCounter := unlimitedRembNumPackets }
      timeMs
    exact ⟨⟨hpacket, hcount, hlen⟩, hsent, hanswers⟩
  · exact ⟨⟨rfl, rfl, rfl⟩, rfl, rfl⟩

/-- What an event does to the feedback. -/
inductive Reacts (s : TransportCongestionControlServer) :
    ServerEvent → ServerOutput → TransportCongestionControlServer → Prop
  | idle {e : ServerEvent} {output : ServerOutput} {t : TransportCongestionControlServer}
      (harrival : e.arrival = none) (hevent : e ≠ .transportDisconnected) (hsame : SameFeedback s t)
      (hsent : output.feedback = []) (hanswers : output.answers = []) : Reacts s e output t
  | provided {nowMs : BitVec 64} {wideSeqNumber : BitVec 16} {ssrc : BitVec 32} {timeMs : BitVec 64}
      {output provided : ServerOutput} {t u : TransportCongestionControlServer}
      (hprovides : Provides (s.setSsrcs ssrc) ⟨wideSeqNumber, nowMs, s.maxRtcpPacketLen⟩ provided u)
      (hsame : SameFeedback u t) (hsent : output.feedback = provided.feedback)
      (hanswers : output.answers = provided.answers) :
      Reacts s (.incomingPacket nowMs (some wideSeqNumber) ssrc timeMs) output t
  | expired : Reacts s .timer s.send.1 s.send.2
  | disconnected : Reacts s .transportDisconnected {} s.transportDisconnected

/-- **One event.** A server with a packet that is ready takes every event without a fault. -/
theorem exists_reacts (h : s.transportCcFeedbackPacket.Ready) (e : ServerEvent) :
    ∃ output t, s.step e = .ok (output, t) ∧ Reacts s e output t := by
  cases e with
  | incomingPacket nowMs wideSeqNumber ssrc timeMs =>
    cases wideSeqNumber with
    | none => exact ⟨_, _, rfl, .idle rfl nofun ⟨rfl, rfl, rfl⟩ rfl rfl⟩
    | some wideSeqNumber =>
      obtain ⟨provided, u, hprovide, hprovides⟩ :=
        exists_provides (s := s.setSsrcs ssrc) (h.setSsrcs 0 ssrc) nowMs wideSeqNumber
      obtain ⟨hsame, hsent, hanswers⟩ := u.maySendLimitationRembFeedback_frame timeMs
      refine ⟨provided.append (u.maySendLimitationRembFeedback timeMs).1, _, ?_,
        .provided hprovides hsame ?_ ?_⟩
      · change ((s.setSsrcs ssrc).providePacket nowMs wideSeqNumber >>= _) = _
        rw [hprovide]
        rfl
      · rw [ServerOutput.feedback_append, hsent, List.append_nil]
      · change provided.answers ++ _ = _
        rw [hanswers, List.append_nil]
  | timer =>
    by_cases hrunning : s.transportCcFeedbackSendPeriodicTimer = true
    · refine ⟨_, _, ?_, .expired⟩
      rw [step, if_pos hrunning, sendTransportCcFeedback_eq]
    · refine ⟨{}, s, ?_, .idle rfl nofun ⟨rfl, rfl, rfl⟩ rfl rfl⟩
      rw [step, if_neg hrunning]
  | transportConnected => exact ⟨_, _, rfl, .idle rfl nofun ⟨rfl, rfl, rfl⟩ rfl rfl⟩
  | transportDisconnected => exact ⟨_, _, rfl, .disconnected⟩
  | setMaxIncomingBitrate bitrate timeMs =>
    obtain ⟨hsame, hsent, hanswers⟩ := s.setMaxIncomingBitrate_frame bitrate timeMs
    exact ⟨_, _, rfl, .idle rfl nofun hsame hsent hanswers⟩

theorem reacts_of_step (h : s.transportCcFeedbackPacket.Ready)
    (hstep : s.step e = .ok (output, t)) :
    Reacts s e output t := by
  obtain ⟨output', t', hstep', hreacts⟩ := exists_reacts h e
  obtain ⟨rfl, rfl⟩ := Prod.mk.inj (Except.ok.inj (hstep.symm.trans hstep'))
  exact hreacts

/-- After an RTP packet the packet under construction is ready. -/
theorem Provides.ready {c : AddPacketCall} (h : s.transportCcFeedbackPacket.Ready)
    (hprovides : Provides s c output t) : t.transportCcFeedbackPacket.Ready := by
  cases hprovides with
  | added hcall hroom =>
    obtain ⟨hs, hbare⟩ := h.addStep hcall
    exact ⟨hs, hroom, hbare⟩
  | @filled packet hcall hfull =>
    have hne : packet.deltas ≠ [] := by
      intro hnil
      rw [((h.addStep hcall).2 hnil).ready.not_full] at hfull
      cases hfull
    rw [send_of_ne (s := s.put packet) hne]
    exact (s.put packet).bare_successor.ready
  | overflowed hcall hagain =>
    by_cases hnil : s.transportCcFeedbackPacket.deltas = []
    · rw [send_of_nil hnil] at hagain
      exact (h.bare hnil).addStep hagain
    · rw [send_of_ne hnil] at hagain
      exact s.bare_successor.addStep hagain
  | failed => exact (bare_fresh _ _ _).ready

theorem Reacts.ready (h : s.transportCcFeedbackPacket.Ready) (hreacts : Reacts s e output t) :
    t.transportCcFeedbackPacket.Ready := by
  cases hreacts with
  | idle _ _ hsame => exact hsame.packet ▸ h
  | provided hprovides hsame => exact hsame.packet ▸ hprovides.ready (h.setSsrcs 0 _)
  | expired => exact ready_send h
  | disconnected => exact (bare_fresh 0 0 0).ready

/-- The greatest size of a packet does not change. -/
theorem Reacts.maxRtcpPacketLen_eq (hreacts : Reacts s e output t) :
    t.maxRtcpPacketLen = s.maxRtcpPacketLen := by
  cases hreacts with
  | idle _ _ hsame => exact hsame.len
  | provided hprovides hsame =>
    rw [hsame.len]
    cases hprovides with
    | added => rfl
    | filled => exact maxRtcpPacketLen_send _
    | overflowed => exact maxRtcpPacketLen_send _
    | failed => rfl
  | expired => exact maxRtcpPacketLen_send s
  | disconnected => rfl

/-! ## Runs -/

theorem ready_init (maxRtcpPacketLen : ℕ) :
    (init maxRtcpPacketLen).transportCcFeedbackPacket.Ready :=
  (bare_fresh 0 0 0).ready

/-- **No run fails.** In particular the assertion in `AddPacket` always holds. -/
theorem trace_total (maxRtcpPacketLen : ℕ) (events : List ServerEvent) :
    ∃ records, Run.trace step (init maxRtcpPacketLen) events = .ok records := by
  have hstep : ∀ (s : TransportCongestionControlServer) e, s.transportCcFeedbackPacket.Ready →
      ∃ output t, s.step e = .ok (output, t) ∧ t.transportCcFeedbackPacket.Ready := by
    intro s e hs
    obtain ⟨output, t, hstep, hreacts⟩ := exists_reacts hs e
    exact ⟨output, t, hstep, hreacts.ready hs⟩
  exact Run.trace_total hstep events _ (ready_init maxRtcpPacketLen)

end TransportCongestionControlServer

/-- One event of a run with the servers around it. -/
abbrev ServerRecord := Run.Record TransportCongestionControlServer ServerEvent ServerOutput

/-- The feedback packets that are sent in a run. -/
def sentFeedback (records : List ServerRecord) : List FeedbackRtpTransportPacket :=
  records.flatMap fun r ↦ r.output.feedback

theorem sentFeedback_concat (hist : List ServerRecord) (r : ServerRecord) :
    sentFeedback (hist ++ [r]) = sentFeedback hist ++ r.output.feedback := by
  simp [sentFeedback]

namespace TransportCongestionControlServer

open FeedbackRtpTransportPacket

variable {s t : TransportCongestionControlServer} {e : ServerEvent} {output : ServerOutput}

/-! ## The packet count -/

/-- The number of the packet under construction is what the server counts, and so are the numbers of
the packets that were sent. -/
structure Numbered (sent : List FeedbackRtpTransportPacket) (s : TransportCongestionControlServer) :
    Prop where
  packet : s.transportCcFeedbackPacket.feedbackPacketCount = s.transportCcFeedbackPacketCount
  count : s.transportCcFeedbackPacketCount = BitVec.ofNat 8 sent.length
  sent : sent.map (·.feedbackPacketCount) = (List.range sent.length).map (BitVec.ofNat 8)

namespace Numbered

variable {sent : List FeedbackRtpTransportPacket}

theorem same (h : Numbered sent s) (hsame : SameFeedback s t) : Numbered sent t :=
  ⟨by rw [hsame.packet, hsame.count, h.packet], by rw [hsame.count, h.count], h.sent⟩

theorem setSsrcs (h : Numbered sent s) (ssrc : BitVec 32) : Numbered sent (s.setSsrcs ssrc) :=
  ⟨h.packet, h.count, h.sent⟩

theorem put (h : Numbered sent s) {c : AddPacketCall} {result : AddPacketResult}
    {packet : FeedbackRtpTransportPacket}
    (hcall : s.transportCcFeedbackPacket.addStep c = .ok (result, packet)) :
    Numbered sent (s.put packet) :=
  ⟨(feedbackPacketCount_addStep hcall).trans h.packet, h.count, h.sent⟩

/-- The packet that is handed over has the next number. -/
theorem send (h : Numbered sent s) : Numbered (sent ++ s.send.1.feedback) s.send.2 := by
  unfold TransportCongestionControlServer.send
  split
  · change Numbered (sent ++ []) s
    rwa [List.append_nil]
  · change Numbered (sent ++ [s.transportCcFeedbackPacket]) s.handOver
    have hlength : (sent ++ [s.transportCcFeedbackPacket]).length = sent.length + 1 :=
      List.length_append
    refine ⟨s.feedbackPacketCount_successor, ?_, ?_⟩
    · rw [hlength, BitVec.ofNat_add, ← h.count]
      rfl
    · rw [hlength, List.range_succ, List.map_append, List.map_append, h.sent, List.map_singleton,
        List.map_singleton, h.packet, h.count]

theorem provides (h : Numbered sent s) {c : AddPacketCall} (hprovides : Provides s c output t) :
    Numbered (sent ++ output.feedback) t := by
  cases hprovides with
  | added hcall =>
    change Numbered (sent ++ []) _
    rw [List.append_nil]
    exact h.put hcall
  | filled hcall =>
    rw [ServerOutput.feedback_append]
    exact (h.put hcall).send
  | overflowed hcall hagain =>
    rw [ServerOutput.feedback_append, ServerOutput.feedback_append]
    change Numbered (sent ++ (_ ++ [])) _
    rw [List.append_nil]
    exact h.send.put hagain
  | failed =>
    change Numbered (sent ++ []) _
    rw [List.append_nil]
    exact ⟨rfl, h.count, h.sent⟩

/-- One event goes on with the numbers, but for a disconnection at a number other than zero. -/
theorem reacts (h : Numbered sent s) (hreacts : Reacts s e output t)
    (hzero : e = .transportDisconnected → s.transportCcFeedbackPacketCount = 0) :
    Numbered (sent ++ output.feedback) t := by
  cases hreacts with
  | idle _ _ hsame hsent =>
    rw [hsent, List.append_nil]
    exact h.same hsame
  | provided hprovides hsame hsent =>
    rw [hsent]
    exact ((h.setSsrcs _).provides hprovides).same hsame
  | expired => exact h.send
  | disconnected =>
    change Numbered (sent ++ []) _
    rw [List.append_nil]
    exact ⟨(hzero rfl).symm, h.count, h.sent⟩

end Numbered

/-- The invariant of the packet count. -/
def NumberedInv (hist : List ServerRecord) (s : TransportCongestionControlServer) : Prop :=
  s.transportCcFeedbackPacket.Ready ∧
    ((∀ r ∈ hist, r.event = .transportDisconnected → r.before.transportCcFeedbackPacketCount = 0) →
      Numbered (sentFeedback hist) s)

theorem numberedInv_step (hist : List ServerRecord) (r : ServerRecord)
    (h : NumberedInv hist r.before) (hstep : step r.before r.event = .ok (r.output, r.after)) :
    NumberedInv (hist ++ [r]) r.after := by
  have hreacts := reacts_of_step h.1 hstep
  refine ⟨hreacts.ready h.1, fun hzero ↦ ?_⟩
  rw [sentFeedback_concat]
  exact (h.2 fun r' hr' ↦ hzero r' (List.mem_append_left _ hr')).reacts hreacts
    (hzero r (List.mem_append_right _ List.mem_cons_self))

/-- The numbers increase by one from each packet to the next, modulo 256. -/
def Consecutive (packets : List FeedbackRtpTransportPacket) : Prop :=
  ∀ pre p q post, packets = pre ++ p :: q :: post →
    q.feedbackPacketCount = p.feedbackPacketCount + 1

theorem Numbered.consecutive {sent : List FeedbackRtpTransportPacket} (h : Numbered sent s) :
    Consecutive sent := by
  rintro pre p q post rfl
  have hget : ∀ i, i < (pre ++ p :: q :: post).length →
      ((pre ++ p :: q :: post).map (·.feedbackPacketCount))[i]? = some (BitVec.ofNat 8 i) := by
    intro i hi
    rw [h.sent, List.getElem?_map, List.getElem?_range hi]
    rfl
  have hp : some p.feedbackPacketCount = some (BitVec.ofNat 8 pre.length) := by
    rw [← hget pre.length (by simp)]
    simp
  have hq : some q.feedbackPacketCount = some (BitVec.ofNat 8 (pre.length + 1)) := by
    rw [← hget (pre.length + 1) (by simp)]
    simp
  rw [Option.some.inj hp, Option.some.inj hq, BitVec.ofNat_add]
  rfl

/-- **The packet count.** In every run in which the transport is disconnected only while the
server's count is zero, the numbers of the feedback packets that are sent are consecutive. -/
theorem feedback_count (maxRtcpPacketLen : ℕ) (events : List ServerEvent) :
    ∃ records, Run.trace step (init maxRtcpPacketLen) events = .ok records ∧
      ((∀ r ∈ records, r.event = .transportDisconnected →
        r.before.transportCcFeedbackPacketCount = 0) → Consecutive (sentFeedback records)) := by
  obtain ⟨records, htrace⟩ := trace_total maxRtcpPacketLen events
  refine ⟨records, htrace, fun hzero ↦ ?_⟩
  have hinit : NumberedInv [] (init maxRtcpPacketLen) := ⟨ready_init _, fun _ ↦ ⟨rfl, rfl, rfl⟩⟩
  rcases List.eq_nil_or_concat records with rfl | ⟨pre, r, rfl⟩
  · intro pre p q post hsplit
    simp [sentFeedback] at hsplit
  · rw [List.concat_eq_append] at *
    obtain ⟨-, -, -, hnumbered⟩ := Run.trace_invariant_after numberedInv_step hinit htrace rfl
    exact (hnumbered hzero).consecutive

/-- The transport is disconnected after two feedback packets, and connected again. -/
def reconnection : List ServerEvent :=
  [.transportConnected, .incomingPacket 1000 (some 1) 7 1000, .incomingPacket 1001 (some 2) 7 1001,
    .timer, .incomingPacket 1002 (some 3) 7 1002, .timer, .transportDisconnected,
      .transportConnected,
    .incomingPacket 2000 (some 4) 7 2000, .incomingPacket 2001 (some 5) 7 2001, .timer]

/-- A run with two feedback packets. -/
theorem feedback_count_two_packets :
    ∃ records, Run.trace step (init 1200) (reconnection.take 6) = .ok records ∧
      (sentFeedback records).length = 2 ∧ Consecutive (sentFeedback records) := by
  obtain ⟨records, htrace, hlength⟩ :
      ∃ records, Run.trace step (init 1200) (reconnection.take 6) = .ok records ∧
        (sentFeedback records).length = 2 := by
    decide +kernel
  obtain ⟨records', htrace', hcount⟩ := feedback_count 1200 (reconnection.take 6)
  cases htrace.symm.trans htrace'
  refine ⟨records, htrace, hlength, hcount fun r hr hevent ↦ ?_⟩
  have hmem : ServerEvent.transportDisconnected ∈ reconnection.take 6 := by
    rw [← hevent, ← Run.trace_events htrace]
    exact List.mem_map_of_mem hr
  exact absurd hmem (by decide)

/-- **The numbers start again.** After the reconnection the next feedback packet has the number 0
instead of 2. -/
theorem feedback_count_restarts :
    ∃ records, Run.trace step (init 1200) reconnection = .ok records ∧
      (sentFeedback records).map (·.feedbackPacketCount) = [0, 1, 0] ∧
      ¬Consecutive (sentFeedback records) := by
  obtain ⟨records, htrace, hcounts⟩ :
      ∃ records, Run.trace step (init 1200) reconnection = .ok records ∧
        (sentFeedback records).map (·.feedbackPacketCount) = [0, 1, 0] := by
    decide +kernel
  refine ⟨records, htrace, hcounts, fun hconsecutive ↦ ?_⟩
  obtain ⟨a, rest, hsent, -, hrest⟩ := List.map_eq_cons_iff.mp hcounts
  obtain ⟨b, rest, rfl, hb, hrest⟩ := List.map_eq_cons_iff.mp hrest
  obtain ⟨c, rest, rfl, hc, -⟩ := List.map_eq_cons_iff.mp hrest
  have hnext := hconsecutive [a] b c rest hsent
  rw [hb, hc] at hnext
  exact absurd hnext (by decide)

end TransportCongestionControlServer

end MediasoupSfu
