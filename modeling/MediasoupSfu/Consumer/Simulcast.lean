import MediasoupSfu.Consumer.Codecs
import MediasoupSfu.SeqManager.InOrder
import MediasoupSfu.Stream.Send

/-!
# The simulcast consumer

`SimulcastConsumer` sends one of several simulcast streams of a producer to a remote endpoint as one
RTP stream. `SendRtpPacket` ignores the packets of the other streams, starts over at a key frame
when it switches to another stream or has to resync, and otherwise asks the codec whether the packet
is to be sent. A packet that the codec rejects is dropped from the numbering of `rtpSeqManager`; any
other packet is given a number by `Input`, sent under this number, and recorded by the sending
stream.

## Numbers that are never written

`Input` answers `false` for a number that is recorded as dropped, and then writes nothing.
`SendRtpPacket` ignores the answer. The codec may reject a packet and let a second one with the same
sequence number through, after a change of the target temporal layer: H264 decides anew each time,
while VP8 has its own record of dropped pictures. So it may happen that a packet is sent under
whatever number the variable held (`forwarded_unassigned`). `forwarded_assigned` says exactly when.

The events of the model are the calls that touch the members involved. What a call finds outside of
the consumer, the clock and the sender reports of the producer streams among it, is part of the
event.
-/

namespace MediasoupSfu

open Serial

/-- What `GetSenderReportNtpMs` and `GetSenderReportTs` of a stream return. -/
structure SenderReport where
  ntpMs : BitVec 64
  ts : BitVec 32
  deriving DecidableEq, Repr

/-- What `SendRtpPacket` finds outside of the consumer. -/
structure ConsumerSurroundings where
  /-- `IsActive()`. -/
  isActive : Bool := true
  /-- The sender report of `GetProducerTsReferenceRtpStream()`, unless that is null. -/
  producerTsReferenceRtpStream : Option SenderReport := none
  /-- The sender report of `GetProducerTargetRtpStream()`, unless that is null. -/
  producerTargetRtpStream : Option SenderReport := none
  /-- What the uninitialized variable for the sequence number holds. -/
  uninitializedSeq : BitVec 16 := 0
  nowMs : BitVec 64 := 0
  deriving DecidableEq, Repr

/-- The members of `SimulcastConsumer` that sending works on. -/
structure SimulcastConsumer (codec : Codec) where
  rtpStream : RtpStreamSend
  supportedCodecPayloadTypes : List Byte
  /-- The ssrc of the encoding that is sent. -/
  encodingSsrc : BitVec 32
  mapMappedSsrcSpatialLayer : BitVec 32 → Option ℤ
  syncRequired : Bool := false
  rtpSeqManager : SeqManager 16 := {}
  targetSpatialLayer : ℤ := -1
  targetTemporalLayer : ℤ := -1
  currentSpatialLayer : ℤ := -1
  /-- Used for RTP TS sync. -/
  tsReferenceSpatialLayer : ℤ := -1
  encodingContext : EncodingContext codec.Members
  /-- RTP Timestamp offset. -/
  tsOffset : BitVec 32 := 0
  keyFrameForTsOffsetRequested : Bool := false

/-- What can happen to a consumer. -/
inductive ConsumerEvent (codec : Codec) where
  /-- A call of `SendRtpPacket`. -/
  | sendRtpPacket (env : ConsumerSurroundings) (packet : CodecPacket codec)
  /-- A call of `UpdateTargetLayers`. -/
  | updateTargetLayers (newTargetSpatialLayer newTargetTemporalLayer : ℤ)
  /-- A call of `UserOnTransportConnected`, before it looks for other layers. -/
  | userOnTransportConnected
  /-- A call of `UserOnResumed`, before it looks for other layers. -/
  | userOnResumed
  /-- Anything else that happens to `rtpStream`. -/
  | rtpStream (e : SendEvent)

/-- What comes of an event. -/
inductive ConsumerOutput where
  /-- Nothing is sent or dropped. -/
  | nothing
  /-- `RequestKeyFrameForTargetSpatialLayer` is called. -/
  | keyFrameRequested
  /-- The codec has rejected the packet. -/
  | dropped (isSyncPacket : Bool)
  /-- The packet that the stream receives, what `Input` has written, and whether the stream has
  accepted the packet, so that the listener sends it. -/
  | forwarded (isSyncPacket : Bool) (seq : Option (BitVec 16)) (packet : RtpPacket) (sent : Bool)

namespace SimulcastConsumer

variable {codec : Codec}

/-! ## The code -/

/-- `MaxExtraOffsetMs`. -/
def maxExtraOffsetMs : BitVec 32 := 75

/-- `MsOffset`: (1 / 30 * 1000). -/
def msOffset : BitVec 32 := 33

/-- The checks of `SendRtpPacket` before the stream is synced: unless the packet is ignored, its
spatial layer and whether the current spatial layer is to be switched to it. -/
def select (s : SimulcastConsumer codec) (env : ConsumerSurroundings) (packet : CodecPacket codec) :
    Except Fault (Option (ℤ × Bool)) :=
  if ¬env.isActive then .ok none
  else if s.targetTemporalLayer = -1 then .ok none
  else if packet.getPayloadType ∉ s.supportedCodecPayloadTypes then .ok none
  else match s.mapMappedSsrcSpatialLayer packet.getSsrc with
  | none => .error .outOfRange
  | some spatialLayer =>
    -- Check whether this is the packet we are waiting for in order to update the current spatial
    -- layer.
    if s.currentSpatialLayer ≠ s.targetSpatialLayer ∧ spatialLayer = s.targetSpatialLayer then
      if packet.isKeyFrame then .ok (some (spatialLayer, true)) else .ok none
    else if spatialLayer ≠ s.currentSpatialLayer then .ok none
    -- If we need to sync and this is not a key frame, ignore the packet.
    else if s.syncRequired ∧ ¬packet.isKeyFrame then .ok none
    else .ok (some (spatialLayer, false))

/-- The offset between the timestamps of a producer stream and those of the reference stream. -/
def referenceTsOffset (s : SimulcastConsumer codec) (env : ConsumerSurroundings)
    (spatialLayer : ℤ) :
    Except Fault (BitVec 32) :=
  if spatialLayer = s.tsReferenceSpatialLayer then .ok 0
  else match env.producerTsReferenceRtpStream, env.producerTargetRtpStream with
  | some report₁, some report₂ => do
    msAssert (report₁.ntpMs ≠ 0) "no Sender Report for TS reference RTP stream"
    msAssert (report₂.ntpMs ≠ 0) "no Sender Report for current RTP stream"
    let diffMs :=
      if report₁.ntpMs ≤ report₂.ntpMs then report₂.ntpMs - report₁.ntpMs
      else -1 * (report₁.ntpMs - report₂.ntpMs)
    let diffTs := (diffMs.toInt * s.rtpStream.params.clockRate.toNat).tdiv 1000
    let newTs2 := BitVec.ofInt 32 (report₂.ts.toNat - diffTs)
    return newTs2 - report₁.ts
  | _, _ => .error .nullPointer

/-- The extra offset that lifts the timestamp of the key frame above the highest one sent. Without
one, a key frame is to be requested instead. -/
def tsExtraOffset (s : SimulcastConsumer codec) (timestamp tsOffset : BitVec 32) :
    Option (BitVec 32) :=
  let maxTsExtraOffset := maxExtraOffsetMs * s.rtpStream.params.clockRate / 1000
  let tsExtraOffset := s.rtpStream.seqState.maxPacketTs - timestamp + tsOffset
  if s.keyFrameForTsOffsetRequested then
    -- Give up and use the theoretical offset.
    if maxTsExtraOffset < tsExtraOffset then some 1 else some tsExtraOffset
  else if maxTsExtraOffset < tsExtraOffset then none
  -- Apply an expected offset for a new frame in a 30fps stream.
  else if tsExtraOffset = 0 then some (msOffset * s.rtpStream.params.clockRate / 1000)
  else some tsExtraOffset

/-- Sync sequence number and timestamp, unless a key frame is requested for a better offset. -/
def syncStream (s : SimulcastConsumer codec) (env : ConsumerSurroundings)
    (packet : CodecPacket codec)
    (spatialLayer : ℤ) (shouldSwitch : Bool) : Except Fault (Bool × SimulcastConsumer codec) := do
  let tsOffset ← s.referenceTsOffset env spatialLayer
  let tsExtraOffset :=
    if shouldSwitch ∧ packet.getTimestamp - tsOffset ≤ s.rtpStream.seqState.maxPacketTs then
      s.tsExtraOffset packet.getTimestamp tsOffset
    else some 0
  match tsExtraOffset with
  | none => return (false, { s with keyFrameForTsOffsetRequested := true })
  | some tsExtraOffset => return (true, { s with
      tsOffset := tsOffset - tsExtraOffset
      rtpSeqManager := s.rtpSeqManager.sync (packet.getSequenceNumber - 1)
      encodingContext := { s.encodingContext with
        members := codec.syncRequired s.encodingContext.members }
      syncRequired := false
      keyFrameForTsOffsetRequested := false })

/-- The end of `SendRtpPacket`: update RTP seq number and timestamp, and send the packet. -/
def forward (s : SimulcastConsumer codec) (env : ConsumerSurroundings) (isSyncPacket : Bool)
    (packet : RtpPacket) : Except Fault (ConsumerOutput × SimulcastConsumer codec) := do
  let timestamp := packet.getTimestamp - s.tsOffset
  let (seq, rtpSeqManager) := s.rtpSeqManager.input packet.getSequenceNumber
  let packet := ((packet.setSsrc s.encodingSsrc).setSequenceNumber
    (seq.getD env.uninitializedSeq)).setTimestamp timestamp
  -- `ReceivePacket` of the stream returns what that of its base class does.
  let (sent, _) := s.rtpStream.seqState.receivePacket packet.getSequenceNumber packet.getTimestamp
    env.nowMs
  let rtpStream ← s.rtpStream.receivePacket packet env.nowMs
  return (.forwarded isSyncPacket seq packet sent, { s with
    rtpSeqManager := rtpSeqManager
    rtpStream := rtpStream })

/-- `SendRtpPacket` on a key frame that the consumer switches to. -/
def sendSwitched (s : SimulcastConsumer codec) (env : ConsumerSurroundings)
    (packet : CodecPacket codec) : Except Fault (ConsumerOutput × SimulcastConsumer codec) := do
  let (_, rewritten, encodingContext) ← packet.processPayload { s.encodingContext with
    targetTemporalLayer := s.targetTemporalLayer
    currentTemporalLayer := packet.getTemporalLayer }
  forward { s with
    currentSpatialLayer := s.targetSpatialLayer
    encodingContext := encodingContext } env true rewritten

/-- `SendRtpPacket` on a packet of the current stream: rewrite payload if needed, drop packet if
necessary. -/
def sendCurrent (s : SimulcastConsumer codec) (env : ConsumerSurroundings) (isSyncPacket : Bool)
    (packet : CodecPacket codec) : Except Fault (ConsumerOutput × SimulcastConsumer codec) := do
  let (passed, rewritten, encodingContext) ← packet.processPayload s.encodingContext
  let s := { s with encodingContext := encodingContext }
  if ¬passed then
    return (.dropped isSyncPacket,
      { s with rtpSeqManager := s.rtpSeqManager.drop packet.getSequenceNumber })
  else s.forward env isSyncPacket rewritten

/-- `SendRtpPacket(packet)`. The packet itself is restored at the end. -/
def sendRtpPacket (s : SimulcastConsumer codec) (env : ConsumerSurroundings)
    (packet : CodecPacket codec) : Except Fault (ConsumerOutput × SimulcastConsumer codec) := do
  match ← s.select env packet with
  | none => return (.nothing, s)
  | some (spatialLayer, shouldSwitch) =>
    -- Need to resync the stream when switching.
    let s := { s with syncRequired := s.syncRequired || shouldSwitch }
    if ¬s.syncRequired then s.sendCurrent env false packet
    else
      let (synced, s) ← s.syncStream env packet spatialLayer shouldSwitch
      if ¬synced then return (.keyFrameRequested, s)
      else if shouldSwitch then s.sendSwitched env packet
      else s.sendCurrent env true packet

/-- `UpdateTargetLayers(newTargetSpatialLayer, newTargetTemporalLayer)`. -/
def updateTargetLayers (s : SimulcastConsumer codec)
    (newTargetSpatialLayer newTargetTemporalLayer : ℤ) :
    ConsumerOutput × SimulcastConsumer codec :=
  -- If we don't have yet a RTP timestamp reference, set it now.
  let s :=
    if newTargetSpatialLayer ≠ -1 ∧ s.tsReferenceSpatialLayer = -1 then
      { s with tsReferenceSpatialLayer := newTargetSpatialLayer }
    else s
  -- Unset current and target layers.
  if newTargetSpatialLayer = -1 then
    (.nothing, { s with
      targetSpatialLayer := -1
      targetTemporalLayer := -1
      currentSpatialLayer := -1
      encodingContext := { s.encodingContext with
        targetTemporalLayer := -1
        currentTemporalLayer := -1 } })
  else
    let s := { s with
      targetSpatialLayer := newTargetSpatialLayer
      targetTemporalLayer := newTargetTemporalLayer }
    if s.targetSpatialLayer = s.currentSpatialLayer then
      (.nothing, { s with
        encodingContext := { s.encodingContext with targetTemporalLayer := s.targetTemporalLayer }
          })
    else (.keyFrameRequested, s)

/-- `UserOnTransportConnected()` and `UserOnResumed()` up to `MayChangeLayers()`. -/
def requireSync (s : SimulcastConsumer codec) : SimulcastConsumer codec :=
  { s with syncRequired := true, keyFrameForTsOffsetRequested := false }

/-- `mapMappedSsrcSpatialLayer` of the given encodings. -/
def spatialLayers (consumableSsrcs : List (BitVec 32)) : BitVec 32 → Option ℤ :=
  consumableSsrcs.zipIdx.foldl (fun map (ssrc, idx) ↦ Function.update map ssrc (some (idx : ℤ)))
    fun _ ↦ none

/-- `SimulcastConsumer(...)` and `CreateRtpStream()`. -/
def init (codec : Codec) (params : RtpStreamParams) (supportedCodecPayloadTypes : List Byte)
    (consumableSsrcs : List (BitVec 32)) : SimulcastConsumer codec where
  rtpStream := RtpStreamSend.init params (if params.useNack then 600 else 0)
  supportedCodecPayloadTypes := supportedCodecPayloadTypes
  encodingSsrc := params.ssrc
  mapMappedSsrcSpatialLayer := spatialLayers consumableSsrcs
  encodingContext := { members := codec.members }

/-- One event. -/
def step (s : SimulcastConsumer codec) :
    ConsumerEvent codec → Except Fault (ConsumerOutput × SimulcastConsumer codec)
  | .sendRtpPacket env packet => s.sendRtpPacket env packet
  | .updateTargetLayers newTargetSpatialLayer newTargetTemporalLayer =>
    .ok (s.updateTargetLayers newTargetSpatialLayer newTargetTemporalLayer)
  | .userOnTransportConnected => .ok (.nothing, s.requireSync)
  | .userOnResumed => .ok (.nothing, s.requireSync)
  | .rtpStream e => do
    let (_, rtpStream) ← s.rtpStream.step e
    return (.nothing, { s with rtpStream := rtpStream })

end SimulcastConsumer

end MediasoupSfu
