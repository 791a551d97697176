import MediasoupSfu.Producer.Mangling
import MediasoupSfu.SeqManager.Manager
import MediasoupSfu.Stream.Resend

/-!
# The consumer of a single stream

`SimpleConsumer` forwards the packets of a single stream of a producer, under its own SSRC and with
its own sequence numbers. It starts over at the next packet, or at the next key frame if the codec
has some, when its transport gets connected and when it is resumed while everything else is ready
for packets. `SendRtpPacket` rewrites the shared packet, lets its stream and the transport have it,
and restores it.

The numbers go on where they stopped: `numbers_continue` says this of every run in which the packets
arrive in order.
-/

namespace MediasoupSfu

open Serial

/-- The members of `SimpleConsumer` and of its parent class that sending works on, but for the
stream. -/
structure SimpleMembers where
  kind : MediaKind
  /-- `rtpParameters.mid`. -/
  mid : List Byte := []
  /-- The ssrc of the encoding. -/
  encodingSsrc : BitVec 32
  supportedCodecPayloadTypes : List Byte
  keyFrameSupported : Bool
  externallyManagedBitrate : Bool := false
  transportConnected : Bool := false
  paused : Bool := false
  producerPaused : Bool := false
  producerClosed : Bool := false
  /-- The score of `producerRtpStream`, unless that is null. -/
  producerScore : Option Byte := none
  syncRequired : Bool := false
  rtpSeqManager : SeqManager 16 := {}
  deriving DecidableEq, Repr

/-- What happens to a consumer besides packets. -/
inductive SimpleControl where
  /-- The requests `CONSUMER_PAUSE`, `CONSUMER_RESUME` and `CONSUMER_REQUEST_KEY_FRAME`. -/
  | pause
  | resume
  | requestKeyFrame
  | producerPaused
  | producerResumed
  | producerClosed
  | transportConnected
  | transportDisconnected
  /-- `ProducerRtpStream` or `ProducerNewRtpStream`, with the score of the stream, or a change of
  this score. -/
  | producerRtpStream (score : Byte)
  /-- `ReceiveKeyFrameRequest`. -/
  | receiveKeyFrameRequest
  deriving DecidableEq, Repr

/-- Whom the consumer calls. -/
structure SimpleSignals where
  /-- `OnConsumerKeyFrameRequested`. -/
  keyFrameRequested : Bool := false
  /-- `OnConsumerNeedZeroBitrate`. -/
  zeroBitrateNeeded : Bool := false
  /-- `rtpStream->Pause()`. -/
  streamPaused : Bool := false
  deriving DecidableEq, Repr

namespace SimpleMembers

/-! ## The code -/

/-- `IsActive()`. -/
def isActive (s : SimpleMembers) : Bool :=
  s.transportConnected && !s.paused && !s.producerPaused && !s.producerClosed &&
    s.producerScore.any fun score ↦ decide (0 < score)

/-- `RequestKeyFrame()` if the consumer is active. -/
def keyFrameSignal (s : SimpleMembers) : SimpleSignals :=
  { keyFrameRequested := s.isActive && decide (s.kind = .video) }

/-- `UserOnTransportConnected()`, and `UserOnResumed()` is the same. -/
def userOnResumed (s : SimpleMembers) : SimpleSignals × SimpleMembers :=
  let s := { s with syncRequired := true }
  (s.keyFrameSignal, s)

/-- `UserOnPaused()`. -/
def userOnPaused (s : SimpleMembers) : SimpleSignals × SimpleMembers :=
  ({ streamPaused := true
     zeroBitrateNeeded := s.externallyManagedBitrate && decide (s.kind = .video) }, s)

/-- What a method of the parent class does once it has reset a reason for not being active. -/
def resumed (s : SimpleMembers) : SimpleSignals × SimpleMembers :=
  if s.isActive then s.userOnResumed else ({}, s)

/-- One event besides packets. -/
def control (s : SimpleMembers) : SimpleControl → SimpleSignals × SimpleMembers
  | .pause =>
    if s.paused then ({}, s)
    else if s.isActive then userOnPaused { s with paused := true }
    else ({}, { s with paused := true })
  | .resume => if ¬s.paused then ({}, s) else resumed { s with paused := false }
  | .requestKeyFrame => (s.keyFrameSignal, s)
  | .producerPaused =>
    if s.producerPaused then ({}, s)
    else if s.isActive then userOnPaused { s with producerPaused := true }
    else ({}, { s with producerPaused := true })
  | .producerResumed =>
    if ¬s.producerPaused then ({}, s) else resumed { s with producerPaused := false }
  | .producerClosed => ({}, { s with producerClosed := true })
  | .transportConnected => userOnResumed { s with transportConnected := true }
  | .transportDisconnected => ({ streamPaused := true }, { s with transportConnected := false })
  | .producerRtpStream score => ({}, { s with producerScore := some score })
  | .receiveKeyFrameRequest => (s.keyFrameSignal, s)

/-- The first part of `SendRtpPacket`: unless the packet is ignored, whether it is the first one
after a re-sync, what `Input` has written, and the members afterwards. -/
def number (s : SimpleMembers) (header : RtpHeader) (isKeyFrame : Bool) :
    Option (Bool × Option (BitVec 16) × SimpleMembers) :=
  if ¬s.isActive then none
  -- This may happen if this consumer supports just some codecs of those in the producer.
  else if header.payloadType.setWidth 8 ∉ s.supportedCodecPayloadTypes then none
  -- If we need to sync, support key frames and this is not a key frame, ignore the packet.
  else if s.syncRequired ∧ s.keyFrameSupported ∧ ¬isKeyFrame then none
  else
    let isSyncPacket := s.syncRequired
    let rtpSeqManager :=
      if isSyncPacket then s.rtpSeqManager.sync (header.sequenceNumber - 1) else s.rtpSeqManager
    let (seq, rtpSeqManager) := rtpSeqManager.input header.sequenceNumber
    some (isSyncPacket, seq, { s with syncRequired := false, rtpSeqManager := rtpSeqManager })

end SimpleMembers

/-- What `SendRtpPacket` finds outside of the consumer. -/
structure SendSurroundings where
  /-- `packet->IsKeyFrame()`. -/
  isKeyFrame : Bool := false
  /-- The time when the stream receives the packet, and when it is handed to the transport. -/
  nowMs : BitVec 64 := 0
  sendMs : BitVec 64 := 0
  /-- What the uninitialized variable for the sequence number holds. -/
  uninitializedSeq : BitVec 16 := 0
  deriving DecidableEq, Repr

/-- What `SendRtpPacket` does to the packet and to the transport. -/
structure SendResult where
  isSyncPacket : Bool
  /-- What `Input` has written. -/
  seq : Option (BitVec 16)
  /-- The packet as the transport sends it, if the stream accepts it. -/
  sent : Option RtpPacket
  /-- The packet afterwards. -/
  packet : RtpPacket
  /-- The last transport-wide sequence number afterwards. -/
  transportWideCcSeq : Option (BitVec 16)

/-- The members of `SimpleConsumer` with its stream. -/
structure SendingSimpleConsumer extends SimpleMembers where
  rtpStream : RtpStreamSend

namespace SendingSimpleConsumer

/-- `SendRtpPacket(packet)`. Nothing is returned for a packet that is ignored. -/
def sendRtpPacket (c : SendingSimpleConsumer) (env : SendSurroundings)
    (transportWideCcSeq : Option (BitVec 16)) (packet : RtpPacket) :
    Except Fault (Option SendResult × SendingSimpleConsumer) :=
  match c.number packet.header env.isKeyFrame with
  | none => .ok (none, c)
  | some (isSyncPacket, seq, members) => do
    -- Save original packet fields.
    let origSsrc := packet.getSsrc
    let origSeq := packet.getSequenceNumber
    -- Rewrite packet.
    let packet :=
      (packet.setSsrc c.encodingSsrc).setSequenceNumber (seq.getD env.uninitializedSeq)
    -- `ReceivePacket` of the stream returns what that of its base class does.
    let (accepted, _) := c.rtpStream.seqState.receivePacket packet.getSequenceNumber
      packet.getTimestamp env.nowMs
    let rtpStream ← c.rtpStream.receivePacket packet env.nowMs
    let (packet, transportWideCcSeq) ←
      if accepted then packet.onConsumerRetransmitRtpPacket env.sendMs transportWideCcSeq
      else .ok (packet, transportWideCcSeq)
    return (some {
      isSyncPacket := isSyncPacket
      seq := seq
      sent := if accepted then some packet else none
      -- Restore packet fields.
      packet := (packet.setSsrc origSsrc).setSequenceNumber origSeq
      transportWideCcSeq := transportWideCcSeq },
      { toSimpleMembers := members, rtpStream := rtpStream })

/-- One event besides packets. -/
def control (c : SendingSimpleConsumer) (e : SimpleControl) :
    Except Fault (SimpleSignals × SendingSimpleConsumer) := do
  let (signals, members) := c.toSimpleMembers.control e
  let rtpStream ← if signals.streamPaused then c.rtpStream.clearBuffer else .ok c.rtpStream
  return (signals, { toSimpleMembers := members, rtpStream := rtpStream })

/-- What can happen to a consumer. -/
inductive SimpleEvent where
  | control (e : SimpleControl)
  /-- A call of `SendRtpPacket`, and the last transport-wide sequence number of the transport. -/
  | sendRtpPacket (env : SendSurroundings) (transportWideCcSeq : Option (BitVec 16))
    (packet : RtpPacket)

/-- What comes of it. -/
inductive SimpleOutput where
  | signals (signals : SimpleSignals)
  | result (result : Option SendResult)

/-- One event. -/
def step (c : SendingSimpleConsumer) :
    SimpleEvent → Except Fault (SimpleOutput × SendingSimpleConsumer)
  | .control e => do
    let (signals, c) ← c.control e
    return (.signals signals, c)
  | .sendRtpPacket env transportWideCcSeq packet => do
    let (result, c) ← c.sendRtpPacket env transportWideCcSeq packet
    return (.result result, c)

end SendingSimpleConsumer

/-! ## Control -/

namespace SimpleMembers

variable {s : SimpleMembers} {header : RtpHeader} {isKeyFrame : Bool}

/-- Whether the event starts something over: the transport is connected, or the consumer or its
producer is resumed and that makes the consumer active. -/
def startsOver (s : SimpleMembers) : SimpleControl → Bool
  | .transportConnected => true
  | .resume => !s.isActive && (s.control .resume).2.isActive
  | .producerResumed => !s.isActive && (s.control .producerResumed).2.isActive
  | _ => false

@[simp] theorem rtpSeqManager_resumed (s : SimpleMembers) :
    s.resumed.2.rtpSeqManager = s.rtpSeqManager := by
  unfold resumed userOnResumed
  split <;> rfl

@[simp] theorem transportConnected_resumed (s : SimpleMembers) :
    s.resumed.2.transportConnected = s.transportConnected := by
  unfold resumed userOnResumed
  split <;> rfl

@[simp] theorem isActive_resumed (s : SimpleMembers) : s.resumed.2.isActive = s.isActive := by
  unfold resumed userOnResumed
  split <;> rfl

@[simp] theorem syncRequired_resumed (s : SimpleMembers) :
    s.resumed.2.syncRequired = (s.syncRequired || s.isActive) := by
  unfold resumed userOnResumed
  split
  · rename_i hactive
    exact ((congrArg _ hactive).trans (Bool.or_true _)).symm
  · rename_i hinactive
    exact ((congrArg _ (Bool.eq_false_of_not_eq_true hinactive)).trans (Bool.or_false _)).symm

/-- Nothing but packets moves the numbers. -/
theorem rtpSeqManager_control (s : SimpleMembers) (e : SimpleControl) :
    (s.control e).2.rtpSeqManager = s.rtpSeqManager := by
  cases e with
  | pause | producerPaused =>
    unfold control userOnPaused
    dsimp only
    split
    · rfl
    · split <;> rfl
  | resume | producerResumed =>
    unfold control
    dsimp only
    split
    · rfl
    · exact rtpSeqManager_resumed _
  | requestKeyFrame | producerClosed | transportConnected | transportDisconnected
  | producerRtpStream | receiveKeyFrameRequest => rfl

theorem mid_resumed (s : SimpleMembers) : s.resumed.2.mid = s.mid := by
  unfold resumed userOnResumed
  split <;> rfl

/-- The MID stays. -/
theorem mid_control (s : SimpleMembers) (e : SimpleControl) : (s.control e).2.mid = s.mid := by
  cases e with
  | pause | producerPaused =>
    unfold control userOnPaused
    dsimp only
    split
    · rfl
    · split <;> rfl
  | resume | producerResumed =>
    unfold control
    dsimp only
    split
    · rfl
    · exact mid_resumed _
  | requestKeyFrame | producerClosed | transportConnected | transportDisconnected
  | producerRtpStream | receiveKeyFrameRequest => rfl

/-- What a method that resumes says about a sync. -/
theorem syncRequired_of_resumed {reason : Bool} {t : SimpleMembers}
    (hreason : reason = true → s.isActive = false) (hsync : t.syncRequired = s.syncRequired) :
    (if ¬reason = true then ({}, s) else t.resumed : SimpleSignals × SimpleMembers).2.syncRequired =
      (s.syncRequired || (!s.isActive &&
        (if ¬reason = true then ({}, s) else t.resumed : SimpleSignals × SimpleMembers
          ).2.isActive)) := by
  cases reason with
  | false =>
    rw [if_pos Bool.false_ne_true, Bool.not_and_self, Bool.or_false]
  | true =>
    rw [if_neg (not_not.mpr rfl), syncRequired_resumed, isActive_resumed, hreason rfl, hsync]
    rfl

/-- Exactly what starts something over makes a sync necessary. -/
theorem syncRequired_control (s : SimpleMembers) (e : SimpleControl) :
    (s.control e).2.syncRequired = (s.syncRequired || s.startsOver e) := by
  cases e with
  | transportConnected => exact (Bool.or_true _).symm
  | pause | producerPaused =>
    refine Eq.trans ?_ (Bool.or_false _).symm
    unfold control userOnPaused
    dsimp only
    split
    · rfl
    · split <;> rfl
  | resume => exact syncRequired_of_resumed (fun hpaused ↦ by simp [isActive, hpaused]) rfl
  | producerResumed =>
    exact syncRequired_of_resumed (fun hpaused ↦ by simp [isActive, hpaused]) rfl
  | requestKeyFrame | producerClosed | transportDisconnected | producerRtpStream
  | receiveKeyFrameRequest => exact (Bool.or_false _).symm

/-- Connecting the transport starts over. -/
theorem transportConnected_control {e : SimpleControl}
    (h : (s.control e).2.transportConnected = true) :
    s.transportConnected = true ∨ s.startsOver e = true := by
  cases e with
  | transportConnected => exact Or.inr rfl
  | pause | producerPaused =>
    unfold control userOnPaused at h
    dsimp only at h
    split at h
    · exact Or.inl h
    · split at h <;> exact Or.inl h
  | resume | producerResumed =>
    unfold control at h
    dsimp only at h
    split at h
    · exact Or.inl h
    · rw [transportConnected_resumed] at h
      exact Or.inl h
  | transportDisconnected => cases h
  | requestKeyFrame | producerClosed | producerRtpStream | receiveKeyFrameRequest => exact Or.inl h

/-! ## Numbers -/

/-- What a packet that is not ignored does to the members. -/
theorem of_number {isSyncPacket : Bool} {seq : Option (BitVec 16)} {t : SimpleMembers}
    (h : s.number header isKeyFrame = some (isSyncPacket, seq, t)) :
    s.isActive = true ∧ header.payloadType.setWidth 8 ∈ s.supportedCodecPayloadTypes ∧
      (s.syncRequired = true → s.keyFrameSupported = true → isKeyFrame = true) ∧
      isSyncPacket = s.syncRequired ∧
      (seq, t.rtpSeqManager) = (if s.syncRequired = true then
        s.rtpSeqManager.sync (header.sequenceNumber - 1) else s.rtpSeqManager).input
          header.sequenceNumber ∧
      t = { s with syncRequired := false, rtpSeqManager := t.rtpSeqManager } := by
  unfold number at h
  split at h
  · cases h
  rename_i hactive
  split at h
  · cases h
  rename_i hsupported
  split at h
  · cases h
  rename_i hkey
  cases h
  refine ⟨not_not.mp hactive, not_not.mp hsupported, fun hsync hframes ↦ ?_, rfl, rfl, rfl⟩
  by_contra hno
  exact hkey ⟨hsync, hframes, hno⟩

theorem isActive_iff : s.isActive = true ↔ s.transportConnected = true ∧ s.paused = false ∧
    s.producerPaused = false ∧ s.producerClosed = false ∧
      (s.producerScore.any fun score ↦ decide (0 < score)) = true := by
  simp [isActive, and_assoc]

/-- A number that is neither too far ahead of the highest one nor too late. -/
def Near (highest seq : BitVec 16) : Prop :=
  pos highest seq < maxDropout ∨ rtpSeqMod - maxMisorder < pos highest seq

instance (highest seq : BitVec 16) : Decidable (Near highest seq) :=
  inferInstanceAs (Decidable (_ ∨ _))

/-- The manager is where the last packets have left it: `original` is the highest of their numbers
since the last sync, and it was forwarded as `sent`. -/
structure InStep (original sent : BitVec 16) (s : SimpleMembers) : Prop where
  dropped : s.rtpSeqManager.dropped = []
  maxOutput : s.rtpSeqManager.maxOutput = sent
  base : s.transportConnected = true → s.syncRequired = false →
    s.rtpSeqManager.base = sent - original ∧ s.rtpSeqManager.maxInput = original

theorem InStep.control {original sent : BitVec 16} (h : InStep original sent s)
    (e : SimpleControl) : InStep original sent (s.control e).2 where
  dropped := by
    rw [rtpSeqManager_control]
    exact h.dropped
  maxOutput := by
    rw [rtpSeqManager_control]
    exact h.maxOutput
  base hconnected hsync := by
    rw [syncRequired_control, Bool.or_eq_false_iff] at hsync
    rw [rtpSeqManager_control]
    refine h.base ?_ hsync.1
    rcases transportConnected_control hconnected with hold | hnew
    · exact hold
    · rw [hsync.2] at hnew
      cases hnew

/-- The answer to an input near the highest one, if none has been dropped. -/
theorem input_near {sm : SeqManager 16} {x : BitVec 16} (hdropped : sm.dropped = [])
    (hbase : sm.base = sm.maxOutput - sm.maxInput) (hnear : Near sm.maxInput x) :
    sm.input x = (some (sm.maxOutput + (x - sm.maxInput)),
      if pos sm.maxInput x < maxDropout then
        { sm with maxInput := x, maxOutput := sm.maxOutput + (x - sm.maxInput) }
      else sm) := by
  have houtput : x + sm.base = sm.maxOutput + (x - sm.maxInput) := by
    rw [hbase]
    bv_omega
  have hdelta : sm.maxOutput + (x - sm.maxInput) - sm.maxOutput = x - sm.maxInput := by
    rw [BitVec.add_comm, BitVec.add_sub_cancel]
  -- What is ahead of the highest input for the stream is so for the manager.
  have hahead : (x - sm.maxInput).toNat < maxValue 16 / 2 ↔ pos sm.maxInput x < maxDropout := by
    have hmax : maxValue 16 / 2 = 32767 := rfl
    have hdropout : maxDropout = 3000 := rfl
    have hmisorder : rtpSeqMod - maxMisorder = 64036 := rfl
    unfold Near pos at hnear
    unfold pos
    omega
  rw [SeqManager.input, hdropped, List.isEmpty_nil, if_pos rfl, SeqManager.emit, houtput, hdelta]
  by_cases hlt : pos sm.maxInput x < maxDropout
  · rw [if_pos (hahead.mpr hlt), if_pos (hahead.mpr hlt), if_pos hlt, hdropped]
  · rw [if_neg (mt hahead.mp hlt), if_neg (mt hahead.mp hlt), if_neg hlt]

/-- The number of the next packet, and where that leaves the manager. -/
theorem InStep.number {original sent : BitVec 16} (h : InStep original sent s) {isSyncPacket : Bool}
    {seq : Option (BitVec 16)} {t : SimpleMembers}
    (hnumber : s.number header isKeyFrame = some (isSyncPacket, seq, t))
    (hnear : s.syncRequired = false → Near s.rtpSeqManager.maxInput header.sequenceNumber) :
    ∃ next, next = sent + (if isSyncPacket = true then 1 else header.sequenceNumber - original) ∧
      seq = some next ∧ Near sent next ∧
      (pos sent next < maxDropout ↔
        isSyncPacket = true ∨ pos original header.sequenceNumber < maxDropout) ∧
      InStep (if pos sent next < maxDropout then header.sequenceNumber else original)
        (if pos sent next < maxDropout then next else sent) t := by
  obtain ⟨hactive, -, -, rfl, hinput, ht⟩ := of_number hnumber
  have hconnected := (isActive_iff.mp hactive).1
  -- The manager with which the packet is numbered, and how far ahead of it the packet is.
  obtain ⟨sm, hsm, hdropped, hbase, hmax, hoffset, hnear', hahead, hlast⟩ : ∃ sm : SeqManager 16,
      (if s.syncRequired = true then s.rtpSeqManager.sync (header.sequenceNumber - 1)
        else s.rtpSeqManager) = sm ∧ sm.dropped = [] ∧ sm.base = sm.maxOutput - sm.maxInput ∧
      sm.maxOutput = sent ∧
      header.sequenceNumber - sm.maxInput =
        (if s.syncRequired = true then 1 else header.sequenceNumber - original) ∧
      Near sm.maxInput header.sequenceNumber ∧
      (pos sm.maxInput header.sequenceNumber < maxDropout ↔
        s.syncRequired = true ∨ pos original header.sequenceNumber < maxDropout) ∧
      (¬pos sm.maxInput header.sequenceNumber < maxDropout → sm.maxInput = original) := by
    cases hsync : s.syncRequired with
    | true =>
      have hone : header.sequenceNumber - (header.sequenceNumber - 1) = 1 := by
        bv_omega
      have hlt : pos (header.sequenceNumber - 1) header.sequenceNumber < maxDropout := by
        unfold pos
        rw [hone]
        decide
      exact ⟨_, if_pos rfl, rfl, rfl, h.maxOutput, hone, Or.inl hlt, iff_of_true hlt (Or.inl rfl),
        fun hno ↦ absurd hlt hno⟩
    | false =>
      obtain ⟨hbase, hlast⟩ := h.base hconnected hsync
      refine ⟨_, if_neg Bool.false_ne_true, h.dropped, ?_, h.maxOutput, ?_, hnear hsync, ?_,
        fun _ ↦ hlast⟩
      · rw [hbase, h.maxOutput, hlast]
      · rw [hlast]
        rfl
      · rw [hlast]
        exact ⟨Or.inr, Or.rec (fun hno ↦ absurd hno Bool.false_ne_true) id⟩
  rw [hsm, input_near hdropped hbase hnear', hmax, hoffset] at hinput
  obtain ⟨rfl, hmanager⟩ := Prod.mk.inj hinput
  have hpos : pos sent (sent + if s.syncRequired = true then 1 else
      header.sequenceNumber - original) = pos sm.maxInput header.sequenceNumber := by
    unfold pos
    rw [hoffset, BitVec.add_comm, BitVec.add_sub_cancel]
  refine ⟨_, rfl, rfl, ?_, ?_, ?_⟩
  · unfold Near
    rw [hpos]
    exact hnear'
  · rw [hpos]
    exact hahead
  · rw [hpos]
    by_cases hlt : pos sm.maxInput header.sequenceNumber < maxDropout
    · rw [if_pos hlt] at hmanager
      rw [if_pos hlt, if_pos hlt]
      refine ⟨?_, ?_, fun _ _ ↦ ⟨?_, ?_⟩⟩ <;> rw [hmanager]
      · exact hdropped
      · dsimp only
        rw [hbase, hmax, ← hoffset]
        bv_omega
    · rw [if_neg hlt] at hmanager
      rw [if_neg hlt, if_neg hlt]
      refine ⟨?_, ?_, fun _ _ ↦ ⟨?_, ?_⟩⟩ <;> rw [hmanager]
      · exact hdropped
      · exact hmax
      · rw [hbase, hmax, hlast hlt]
      · exact hlast hlt

end SimpleMembers

/-! ## The stream -/

/-- A first packet is accepted, and so is one near the highest number. -/
theorem SeqState.receivePacket_near (s : SeqState) {highest seq : BitVec 16}
    (hstarted : s.started = true → s.maxSeq = highest) (hnear : SimpleMembers.Near highest seq)
    (hfirst : s.started = false → pos highest seq < maxDropout) (timestamp : BitVec 32)
    (nowMs : BitVec 64) :
    ∃ t, s.receivePacket seq timestamp nowMs = (true, t) ∧ t.started = true ∧
      t.maxSeq = if pos highest seq < maxDropout then seq else highest := by
  -- The members once the stream has started, and how far ahead of them the packet is.
  obtain ⟨u, hu, hvalid⟩ : ∃ u : SeqState,
      (if s.started then s else { s.initSeq seq with
        started := true, maxSeq := seq - 1, maxPacketTs := timestamp, maxPacketMs := nowMs }) = u ∧
      ∃ v, u.updateSeq seq timestamp nowMs = (true, v) ∧ v.started = true ∧
        v.maxSeq = if pos highest seq < maxDropout then seq else highest := by
    cases hold : s.started with
    | false =>
      have hone : seq - (seq - 1) = 1 := by
        bv_omega
      refine ⟨_, if_neg Bool.false_ne_true, ?_⟩
      unfold updateSeq
      dsimp only
      rw [hone, if_pos (by decide), if_pos (hfirst hold)]
      exact ⟨_, rfl, rfl, rfl⟩
    | true =>
      refine ⟨s, if_pos rfl, ?_⟩
      unfold updateSeq
      dsimp only
      rw [hstarted hold]
      change ∃ v, (if pos highest seq < maxDropout then _ else _) = _ ∧ _
      by_cases hlt : pos highest seq < maxDropout
      · rw [if_pos hlt, if_pos hlt]
        exact ⟨_, rfl, hold, rfl⟩
      · have hlate : ¬(seq - highest).toNat ≤ rtpSeqMod - maxMisorder :=
          Nat.not_le_of_lt (hnear.resolve_left hlt)
        rw [if_neg hlt, if_neg hlt, if_neg hlate]
        exact ⟨s, rfl, hold, hstarted hold⟩
  obtain ⟨v, hupdate, hvstarted, hmax⟩ := hvalid
  unfold receivePacket
  rw [hu]
  dsimp only
  rw [hupdate]
  dsimp only
  split
  · exact ⟨_, rfl, hvstarted, hmax⟩
  · exact ⟨v, rfl, hvstarted, hmax⟩

namespace RtpStreamSend

variable {n : ℕ} {s : RtpStreamSend}

/-- How large a buffer may be: no packets at all, or at least two. -/
def IsRoom (n : ℕ) : Prop := n = 0 ∨ 2 ≤ n

theorem Inv.isEmpty (h : Inv n s) (hn : n = 0) : s.storage.isEmpty = true := by
  rw [List.isEmpty_iff_length_eq_zero]
  exact h.length.trans hn

/-- `ReceivePacket` returns, and tracks the number. -/
theorem receivePacket_returns (h : Inv n s) (hn : IsRoom n) {packet : RtpPacket}
    (hp : packet.Formed) (nowMs : BitVec 64) :
    ∃ t, s.receivePacket packet nowMs = .ok t ∧ Inv n t ∧ t.seqState =
      (s.seqState.receivePacket packet.getSequenceNumber packet.getTimestamp nowMs).2 := by
  have hinv : Inv n { s with seqState :=
      (s.seqState.receivePacket packet.getSequenceNumber packet.getTimestamp nowMs).2 } :=
    h.congr rfl rfl rfl rfl
  unfold receivePacket
  dsimp only
  split
  · exact ⟨_, rfl, hinv, rfl⟩
  split
  · rename_i hstorage
    have hroom : 2 ≤ n := by
      rcases hn with hzero | hroom
      · exact absurd (h.isEmpty hzero) hstorage
      · exact hroom
    obtain ⟨t, hstore, houtcome⟩ := storePacket_spec hinv (by omega) hp
    refine ⟨t, hstore, houtcome.inv hinv hroom, ?_⟩
    cases houtcome <;> rfl
  · exact ⟨_, rfl, hinv, rfl⟩

/-- `ClearBuffer` returns, and leaves the number alone. -/
theorem clearBuffer_returns (h : Inv n s) (hn : IsRoom n) :
    ∃ t, s.clearBuffer = .ok t ∧ Inv n t ∧ t.seqState = s.seqState := by
  rcases hn with hzero | hroom
  · exact ⟨s, if_pos (h.isEmpty hzero), h, rfl⟩
  · obtain ⟨storage, hclear, hlength, hblank⟩ := clearBuffer_spec h (by omega)
    exact ⟨_, hclear, inv_of_empty hlength hblank rfl rfl, rfl⟩

end RtpStreamSend

/-! ## Runs -/

/-- Restoring the SSRC and the sequence number leaves only what was written into the elements. -/
theorem RtpPacket.Rewrites.restore {p q : RtpPacket} {ssrc : BitVec 32} {seq : BitVec 16}
    (h : ((p.setSsrc ssrc).setSequenceNumber seq).Rewrites q) (hsync : q.InSync) :
    ((q.setSsrc p.getSsrc).setSequenceNumber p.getSequenceNumber).InSync ∧
      p.Rewrites ((q.setSsrc p.getSsrc).setSequenceNumber p.getSequenceNumber) := by
  have hrestored : ((q.setSsrc p.getSsrc).setSequenceNumber p.getSequenceNumber).InSync :=
    hsync.setHeader rfl rfl rfl rfl
  refine ⟨hrestored, ?_, h.length, h.cells, hrestored.located, h.getExtension⟩
  rw [h.eq]
  rfl

namespace SendingSimpleConsumer

open SimpleMembers RtpStreamSend

variable {n : ℕ} {c : SendingSimpleConsumer} {original sent : BitVec 16}

/-- A consumer that has just been constructed, with a stream with room for `n` packets. -/
structure IsNew (n : ℕ) (c : SendingSimpleConsumer) : Prop where
  transportConnected : c.transportConnected = false
  syncRequired : c.syncRequired = false
  rtpSeqManager : c.rtpSeqManager = {}
  rtpStream : ∃ params, c.rtpStream = .init params n

/-- The members of the packets agree with their bytes. -/
def SimpleEvent.InSync : SimpleEvent → Prop
  | .control _ => True
  | .sendRtpPacket _ _ packet => packet.InSync

/-- A packet that is not ignored is near the highest one since the last sync. -/
def InOrder (c : SendingSimpleConsumer) : SimpleEvent → Prop
  | .control _ => True
  | .sendRtpPacket env _ packet =>
    c.number packet.header env.isKeyFrame ≠ none → c.syncRequired = false →
      Near c.rtpSeqManager.maxInput packet.getSequenceNumber

instance : ∀ (c : SendingSimpleConsumer) (e : SimpleEvent), Decidable (InOrder c e)
  | _, .control _ => isTrue trivial
  | c, .sendRtpPacket env _ packet =>
    inferInstanceAs (Decidable (c.number packet.header env.isKeyFrame ≠ none → _ → Near _ _))

/-- Why a packet may be ignored. -/
def Ignores (c : SendingSimpleConsumer) (env : SendSurroundings) (packet : RtpPacket) : Prop :=
  c.isActive = false ∨
    packet.header.payloadType.setWidth 8 ∉ c.supportedCodecPayloadTypes ∨
      (c.syncRequired = true ∧ c.keyFrameSupported = true ∧ env.isKeyFrame = false)

/-- The packet is sent as `next`, and is restored. -/
structure Forwards (c : SendingSimpleConsumer) (packet : RtpPacket) (next : BitVec 16)
    (result : SendResult) : Prop where
  seq : result.seq = some next
  sent : ∃ q, result.sent = some q ∧ q.InSync ∧
    ((packet.setSsrc c.encodingSsrc).setSequenceNumber next).Rewrites q
  restored : result.packet.InSync ∧ packet.Rewrites result.packet

/-- What the records of a run show, if `original` is the highest number since the last sync, which
was sent as `sent`, and `pending` says whether something has been started over since then. The next
packet that is not ignored is the next one after a sync, and otherwise as far from `sent` as it is
from `original`. -/
def Continues (pending : Bool) (original sent : BitVec 16) :
    List (Run.Record SendingSimpleConsumer SimpleEvent SimpleOutput) → Prop
  | [] => True
  | ⟨c, .control e, _, _⟩ :: records => Continues (pending || c.startsOver e) original sent records
  | ⟨c, .sendRtpPacket env _ packet, output, _⟩ :: records =>
    match output with
    | .signals _ => False
    | .result none => Ignores c env packet ∧ Continues pending original sent records
    | .result (some result) =>
      let seq := packet.getSequenceNumber
      let next := sent + if pending then 1 else seq - original
      result.isSyncPacket = pending ∧
        (pending = true → c.keyFrameSupported = true → env.isKeyFrame = true) ∧
        Forwards c packet next result ∧
        Continues false (if pos sent next < maxDropout then seq else original)
          (if pos sent next < maxDropout then next else sent) records

/-- The state between two events. -/
structure Ready (n : ℕ) (original sent : BitVec 16) (c : SendingSimpleConsumer) : Prop where
  inStep : InStep original sent c.toSimpleMembers
  inv : Inv n c.rtpStream
  maxSeq : c.rtpStream.seqState.started = true → c.rtpStream.seqState.maxSeq = sent
  /-- A stream that has not started waits for a sync. -/
  waiting : c.rtpStream.seqState.started = false → c.transportConnected = true →
    c.syncRequired = true

theorem IsNew.ready (h : IsNew n c) : Ready n 0 0 c where
  inStep := by
    refine ⟨?_, ?_, fun hconnected ↦ ?_⟩
    · rw [h.rtpSeqManager]
    · rw [h.rtpSeqManager]
    · rw [h.transportConnected] at hconnected
      cases hconnected
  inv := by
    obtain ⟨params, hstream⟩ := h.rtpStream
    rw [hstream]
    exact inv_init params n
  maxSeq hstarted := by
    obtain ⟨params, hstream⟩ := h.rtpStream
    rw [hstream] at hstarted
    cases hstarted
  waiting _ hconnected := by
    rw [h.transportConnected] at hconnected
    cases hconnected

/-- What an event besides packets does to the stream. -/
theorem control_returns (h : Inv n c.rtpStream) (hn : IsRoom n) (e : SimpleControl) :
    ∃ stream, c.control e = .ok ((c.toSimpleMembers.control e).1,
        { toSimpleMembers := (c.toSimpleMembers.control e).2, rtpStream := stream }) ∧
      Inv n stream ∧ stream.seqState = c.rtpStream.seqState := by
  unfold SendingSimpleConsumer.control
  dsimp only
  split
  · obtain ⟨stream, hclear, hinv, hseq⟩ := clearBuffer_returns h hn
    rw [hclear]
    exact ⟨stream, rfl, hinv, hseq⟩
  · exact ⟨_, rfl, h, rfl⟩

/-- An event besides packets. -/
theorem Ready.control (h : Ready n original sent c) (hn : IsRoom n) (e : SimpleControl) :
    ∃ signals t, c.control e = .ok (signals, t)
      ∧ t.syncRequired = (c.syncRequired || c.startsOver e) ∧ Ready n original sent t := by
  obtain ⟨stream, hcontrol, hinv, hseq⟩ := control_returns h.inv hn e
  refine ⟨_, _, hcontrol, syncRequired_control _ e, h.inStep.control e, hinv, ?_,
    fun hstarted hconnected ↦ ?_⟩
  · rw [hseq]
    exact h.maxSeq
  · rw [hseq] at hstarted
    refine (syncRequired_control _ e).trans ?_
    rcases transportConnected_control hconnected with hold | hnew
    · rw [h.waiting hstarted hold]
      rfl
    · rw [hnew, Bool.or_true]

/-- Why `SendRtpPacket` ignores a packet. -/
theorem ignores_of_number {env : SendSurroundings} {packet : RtpPacket}
    (h : c.number packet.header env.isKeyFrame = none) : Ignores c env packet := by
  unfold SimpleMembers.number at h
  split at h
  · rename_i hinactive
    exact Or.inl (Bool.eq_false_of_not_eq_true hinactive)
  split at h
  · rename_i hunsupported
    exact Or.inr (Or.inl hunsupported)
  split at h
  · rename_i hwaits
    exact Or.inr (Or.inr ⟨hwaits.1, hwaits.2.1, Bool.eq_false_of_not_eq_true hwaits.2.2⟩)
  · cases h

/-- A packet. -/
theorem Ready.sendRtpPacket (h : Ready n original sent c) (hn : IsRoom n) (env : SendSurroundings)
    (transportWideCcSeq : Option (BitVec 16)) {packet : RtpPacket} (hsync : packet.InSync)
    (hnear : InOrder c (.sendRtpPacket env transportWideCcSeq packet)) :
    (c.sendRtpPacket env transportWideCcSeq packet = .ok (none, c) ∧ Ignores c env packet) ∨
    ∃ result t next, c.sendRtpPacket env transportWideCcSeq packet = .ok (some result, t) ∧
      next = sent + (if c.syncRequired = true then 1 else packet.getSequenceNumber - original) ∧
      result.isSyncPacket = c.syncRequired ∧
      (c.syncRequired = true → c.keyFrameSupported = true → env.isKeyFrame = true) ∧
      Forwards c packet next result ∧ t.syncRequired = false ∧
      Ready n (if pos sent next < maxDropout then packet.getSequenceNumber else original)
        (if pos sent next < maxDropout then next else sent) t := by
  unfold SendingSimpleConsumer.sendRtpPacket
  cases hnumber : c.number packet.header env.isKeyFrame with
  | none => exact Or.inl ⟨rfl, ignores_of_number hnumber⟩
  | some numbered =>
    right
    obtain ⟨isSyncPacket, seq, members⟩ := numbered
    obtain ⟨hactive, -, hkeyFrame, hpacket, -, hmembers⟩ := of_number hnumber
    obtain ⟨next, hnext, rfl, hnear', hahead, hstep⟩ :=
      h.inStep.number hnumber (hnear (hnumber ▸ Option.some_ne_none _))
    rw [hpacket] at hnext hahead
    -- The packet as it is rewritten.
    have hrewritten : ((packet.setSsrc c.encodingSsrc).setSequenceNumber next).InSync :=
      hsync.setHeader rfl rfl rfl rfl
    have hfirst : c.rtpStream.seqState.started = false → pos sent next < maxDropout := fun hold ↦
      hahead.mpr (Or.inl (h.waiting hold (isActive_iff.mp hactive).1))
    obtain ⟨state, haccepted, hstarted, hmaxSeq⟩ := c.rtpStream.seqState.receivePacket_near h.maxSeq
      hnear' hfirst packet.getTimestamp env.nowMs
    change c.rtpStream.seqState.receivePacket
      ((packet.setSsrc c.encodingSsrc).setSequenceNumber next).getSequenceNumber
      ((packet.setSsrc c.encodingSsrc).setSequenceNumber next).getTimestamp env.nowMs = _
        at haccepted
    obtain ⟨stream, hstream, hinv, hstate⟩ :=
      receivePacket_returns h.inv hn hrewritten.formed env.nowMs
    rw [haccepted] at hstate
    obtain ⟨q, wide, hsend, hq⟩ :=
      hrewritten.onConsumerRetransmitRtpPacket env.sendMs transportWideCcSeq
    obtain ⟨q', wide', hsend', hrewrites⟩ := hrewritten.located.onConsumerRetransmitRtpPacket
      hrewritten.formed env.sendMs transportWideCcSeq
    obtain ⟨rfl, rfl⟩ := Prod.mk.inj (Except.ok.inj (hsend.symm.trans hsend'))
    refine ⟨{
        isSyncPacket := isSyncPacket
        seq := some next
        sent := some q
        packet := (q.setSsrc packet.getSsrc).setSequenceNumber packet.getSequenceNumber
        transportWideCcSeq := wide },
      { toSimpleMembers := members, rtpStream := stream }, next, ?_, hnext, hpacket,
      hkeyFrame, ⟨rfl, ⟨q, rfl, hq, hrewrites⟩, ?_⟩, ?_, hstep, hinv, ?_, ?_⟩
    · simp only [Option.getD_some, haccepted, hstream, if_true, hsend, bind, Except.bind, pure,
        Except.pure]
    · exact hrewrites.restore hq
    · rw [hmembers]
    · intro _
      dsimp only
      rw [hstate]
      exact hmaxSeq
    · intro hfresh
      dsimp only at hfresh
      rw [hstate, hstarted] at hfresh
      cases hfresh

/-- One event of a run. -/
theorem step_control {e : SimpleControl} {signals : SimpleSignals} {t : SendingSimpleConsumer}
    (h : c.control e = .ok (signals, t)) : c.step (.control e) = .ok (.signals signals, t) := by
  rw [step, h]
  rfl

theorem step_sendRtpPacket {env : SendSurroundings} {transportWideCcSeq : Option (BitVec 16)}
    {packet : RtpPacket} {result : Option SendResult} {t : SendingSimpleConsumer}
    (h : c.sendRtpPacket env transportWideCcSeq packet = .ok (result, t)) :
    c.step (.sendRtpPacket env transportWideCcSeq packet) = .ok (.result result, t) := by
  rw [step, h]
  rfl

/-- The run from a state between two events. -/
theorem Ready.continues (hn : IsRoom n) (events : List SimpleEvent) :
    ∀ {c : SendingSimpleConsumer} {original sent : BitVec 16}, Ready n original sent c →
      (∀ e ∈ events, e.InSync) → Run.Obeys step InOrder c events →
      ∃ records, Run.trace step c events = .ok records ∧
        Continues c.syncRequired original sent records := by
  induction events with
  | nil => exact fun _ _ _ ↦ ⟨[], rfl, trivial⟩
  | cons event events ih =>
    rintro c original sent h hinSync ⟨horder, hrest⟩
    obtain ⟨hevent, hevents⟩ := List.forall_mem_cons.mp hinSync
    cases event with
    | control e =>
      obtain ⟨signals, t, hcontrol, hsync, ht⟩ := h.control hn e
      obtain ⟨records, htrace, hcontinues⟩ := ih ht hevents (hrest _ t (step_control hcontrol))
      rw [hsync] at hcontinues
      exact ⟨_, Run.trace_cons_ok (step_control hcontrol) htrace, hcontinues⟩
    | sendRtpPacket env transportWideCcSeq packet =>
      rcases h.sendRtpPacket hn env transportWideCcSeq hevent horder with
        ⟨hsend, hignores⟩ |
          ⟨result, t, next, hsend, hnext, hpacket, hkeyFrame, hforwards, hsync, ht⟩
      · obtain ⟨records, htrace, hcontinues⟩ := ih h hevents (hrest _ c (step_sendRtpPacket hsend))
        exact ⟨_, Run.trace_cons_ok (step_sendRtpPacket hsend) htrace, hignores, hcontinues⟩
      · obtain ⟨records, htrace, hcontinues⟩ := ih ht hevents (hrest _ t (step_sendRtpPacket hsend))
        rw [hsync] at hcontinues
        subst hnext
        exact ⟨_, Run.trace_cons_ok (step_sendRtpPacket hsend) htrace, hpacket, hkeyFrame,
          hforwards, hcontinues⟩

/-- **The numbers of a consumer continue.** In every run of a new consumer in which the packets it
does not ignore arrive near the highest one, nothing goes wrong, its stream accepts all of them, and
their numbers go on where they stopped: the first packet after something was started over gets the
next number, and every other one is as far from the highest number sent as it was from the highest
number received. Each of them is sent with the SSRC of the consumer and is restored afterwards. -/
theorem numbers_continue (hn : IsRoom n) (hnew : IsNew n c) (events : List SimpleEvent)
    (hinSync : ∀ e ∈ events, e.InSync) (horder : Run.Obeys step InOrder c events) :
    ∃ records, Run.trace step c events = .ok records ∧ Continues false 0 0 records := by
  have hcontinues := hnew.ready.continues hn events hinSync horder
  rwa [hnew.syncRequired] at hcontinues

/-- A video packet of one payload byte, with nothing but a sequence number. -/
def framePacket (seq : BitVec 16) : RtpPacket :=
  .view { version := 2, padding := false, extension := false, csrcCount := 0, marker := false
          payloadType := 101, sequenceNumber := seq, timestamp := 0, ssrc := 7 }
    [0x10] none 0 1 0 13

theorem not_hasForm_framePacket (seq : BitVec 16) (type : Byte) :
    ¬(framePacket seq).hasForm type = true := by
  unfold RtpPacket.hasForm
  split
  · exact Bool.false_ne_true
  · have hmask : ¬decide ((0 : BitVec 16) &&& 0xFFF0 = 0x1000) = true := by
      decide
    exact hmask

theorem inSync_framePacket (seq : BitVec 16) : (framePacket seq).InSync where
  formed := ⟨rfl, rfl, rfl, rfl, rfl, Nat.le_refl _⟩
  version := rfl
  one := (RtpPacket.found_of_not_hasForm 1 (not_hasForm_framePacket seq 1)).symm
  two := (RtpPacket.found_of_not_hasForm 2 (not_hasForm_framePacket seq 2)).symm
  padding hpadding := absurd rfl hpadding
  short := Nat.zero_le _

/-- A video consumer without a buffer for retransmissions. -/
def frameConsumer : SendingSimpleConsumer where
  kind := .video
  encodingSsrc := 1000
  supportedCodecPayloadTypes := [101]
  keyFrameSupported := true
  rtpStream := .init { ssrc := 1000, payloadType := 101, clockRate := 90000, useNack := false } 0

/-- The numbers of a consumer whose packets are 65535, 1 and 0, and 9000 once it was paused and
resumed. It waits for a key frame each time. -/
theorem numbers_continue_frameConsumer :
    let packet := fun isKeyFrame seq ↦ SimpleEvent.sendRtpPacket { isKeyFrame := isKeyFrame } none
      (framePacket seq)
    let events := [.control .transportConnected, packet true 7, .control (.producerRtpStream 10),
      packet false 65534, packet true 65535, packet false 1, packet false 0, .control .pause,
      packet false 2, .control .resume, packet true 9000]
    ∃ records, Run.trace step frameConsumer events = .ok records ∧
      Continues false 0 0 records := by
  intro packet events
  refine numbers_continue (Or.inl rfl) ⟨rfl, rfl, rfl, _, rfl⟩ events (fun e he ↦ ?_) (by decide)
  have hpacket : e = .control .transportConnected ∨ e = .control (.producerRtpStream 10) ∨
      e = .control .pause ∨ e = .control .resume ∨
        ∃ isKeyFrame seq, e = packet isKeyFrame seq := by
    simp only [events, List.mem_cons, List.not_mem_nil, or_false] at he
    grind
  rcases hpacket with rfl | rfl | rfl | rfl | ⟨isKeyFrame, seq, rfl⟩
  · trivial
  · trivial
  · trivial
  · trivial
  · exact inSync_framePacket seq

end SendingSimpleConsumer

end MediasoupSfu
