import MediasoupSfu.Feedback.Chunk
import MediasoupSfu.SeqManager.Compare

/-!
# The transport-wide feedback packet

`FeedbackRtpTransportPacket` has two lives. On the receiving side it is built by `Parse` from the
bytes of an RTCP packet and read by `GetPacketResults`. On the sending side it starts empty, every
received RTP packet is reported by `AddPacket`, and `Serialize` writes it out.

The encoder keeps the statuses that are not yet part of a chunk in a *context*. A run of equal
statuses is kept open until another status or a gap ends it; a mixed sequence is closed into a two
bit vector chunk as soon as it has seven statuses. `AddPendingChunks` closes what is left.
-/

namespace MediasoupSfu

/-- `FeedbackRtpTransportPacket::Context`. -/
structure Context where
  allSameStatus : Bool := true
  currentStatus : Status := .none
  statuses : List Status := []
  deriving DecidableEq, Repr

/-- `FeedbackRtpTransportPacket::AddPacketResult`. -/
inductive AddPacketResult where
  | success
  | maxSizeExceeded
  | fatal
  deriving DecidableEq, Repr

/-- The members of `FeedbackRtpTransportPacket` and of its base classes. A packet whose
`isCorrect` is false is never handed out, so that member is the absence of a parse result. -/
structure FeedbackRtpTransportPacket where
  /-- `Packet::type`; `Type::RTPFB` for a local packet. -/
  type : BitVec 8 := 205
  /-- `FeedbackPacket::messageType`; `MessageType::TCC` for a local packet. -/
  messageType : BitVec 8 := 15
  senderSsrc : BitVec 32
  mediaSsrc : BitVec 32
  baseSequenceNumber : BitVec 16 := 0
  /-- An `int32_t`, in multiples of 64 ms. -/
  referenceTime : BitVec 32 := 0
  latestSequenceNumber : BitVec 16 := 0
  latestTimestamp : BitVec 64 := 0
  packetStatusCount : BitVec 16 := 0
  feedbackPacketCount : BitVec 8 := 0
  chunks : List Chunk := []
  /-- The deltas, each an `int16_t` in multiples of 250 us. -/
  deltas : List (BitVec 16) := []
  context : Context := {}
  deltasAndChunksSize : ℕ := 0
  size : ℕ := 0
  deriving DecidableEq, Repr

namespace FeedbackRtpTransportPacket

/-- `sizeof(CommonHeader) + sizeof(FeedbackPacket::Header)`, the size of a bare feedback packet. -/
def feedbackHeaderSize : ℕ := 12

/-- `FeedbackRtpTransportPacket::fixedHeaderSize`. -/
def fixedHeaderSize : ℕ := 8

/-- `FeedbackRtpTransportPacket::maxMissingPackets`. -/
def maxMissingPackets : ℕ := 2 ^ 13 - 1

/-- `FeedbackRtpTransportPacket::maxPacketStatusCount`. -/
def maxPacketStatusCount : ℕ := 2 ^ 16 - 1

/-- `FeedbackRtpTransportPacket::maxPacketDelta`. -/
def maxPacketDelta : ℤ := 0x7FFF

/-- `(-size) & 3`, the bytes missing to the next multiple of four. -/
def padding (size : ℕ) : ℕ := (4 - size % 4) % 4

/-- `IsFull()`. -/
def isFull (p : FeedbackRtpTransportPacket) : Bool :=
  decide (maxPacketStatusCount - 7 ≤ p.packetStatusCount.toNat)

/-- `GetSize()`. -/
def getSize (p : FeedbackRtpTransportPacket) : ℕ :=
  if p.size ≠ 0 then p.size
  else
    let size := feedbackHeaderSize + fixedHeaderSize + p.deltasAndChunksSize
    size + padding size

/-! ## Parsing -/

/-- `parseReferenceTime`: the sign extension of 24 bits. -/
def parseReferenceTime (unsignedVal : BitVec 32) : BitVec 32 :=
  if (unsignedVal >>> 16) &&& 0x80 ≠ 0 then 0xFF000000 ||| unsignedVal else unsignedVal

/-- What the first loop of the parsing constructor leaves: the chunks, the bytes after them and the
two `uint16_t` counters. -/
structure ChunkScan where
  chunks : List Chunk
  rest : List Byte
  count : BitVec 16
  receivedPacketStatusCount : BitVec 16
  deriving DecidableEq, Repr

/-- The first loop of the parsing constructor: read chunks while packets remain to be described and
content is left. -/
def parseChunks (packetStatusCount : BitVec 16) :
    List Byte → List Chunk → BitVec 16 → BitVec 16 → Except Fault (Option ChunkScan)
  | [], chunks, count, received => .ok (some ⟨chunks, [], count, received⟩)
  | [b₀], chunks, count, received =>
    if count < packetStatusCount then .ok none else .ok (some ⟨chunks, [b₀], count, received⟩)
  | b₀ :: b₁ :: content, chunks, count, received =>
    if count < packetStatusCount then do
      match ← Chunk.parse (b₀ :: b₁ :: content) (packetStatusCount - count) with
      | none => .ok none
      | some chunk =>
        parseChunks packetStatusCount content (chunks ++ [chunk]) (count + chunk.getCount)
          (received + chunk.getReceivedStatusCount)
    else .ok (some ⟨chunks, b₀ :: b₁ :: content, count, received⟩)

/-- The second loop of the parsing constructor: read the deltas of each chunk while content is
left. The deltas and the bytes after them. -/
def parseDeltas : List Chunk → List Byte → List (BitVec 16) → Option (List (BitVec 16) × List Byte)
  | [], content, deltas => some (deltas, content)
  | _ :: _, [], deltas => some (deltas, [])
  | chunk :: chunks, content, deltas =>
    match chunk.addDeltas content with
    | none => none
    | some (new, rest) => parseDeltas chunks rest (deltas ++ new)

/-- The length announced by the RTCP common header. -/
def announcedLength (data : List Byte) : Except Fault ℕ := do
  let length ← Byte.get2Bytes data 2
  return (length.toNat + 1) * 4

/-- `FeedbackRtpTransportPacket::Parse(data, len)` with its parsing constructor; `none` where the
source returns `nullptr`. -/
def parse (data : List Byte) : Except Fault (Option FeedbackRtpTransportPacket) := do
  if data.length < feedbackHeaderSize + fixedHeaderSize then return none
  let len ← announcedLength data
  if data.length < len then return none
  let flags ← Byte.get1Byte data 0
  let type ← Byte.get1Byte data 1
  let senderSsrc ← Byte.get4Bytes data 4
  let mediaSsrc ← Byte.get4Bytes data 8
  let baseSequenceNumber ← Byte.get2Bytes data 12
  let packetStatusCount ← Byte.get2Bytes data 14
  let referenceTime ← Byte.get3Bytes data 16
  let feedbackPacketCount ← Byte.get1Byte data 19
  -- `contentLen` is a `size_t`: below the fixed header it wraps and the loops leave the buffer.
  if len < feedbackHeaderSize + fixedHeaderSize then throw .outOfBounds
  let content := (data.take len).drop (feedbackHeaderSize + fixedHeaderSize)
  match ← parseChunks packetStatusCount content [] 0 0 with
  | none => return none
  | some scan =>
    if scan.count ≠ packetStatusCount then return none
    match parseDeltas scan.chunks scan.rest [] with
    | none => return none
    | some (deltas, rest) =>
      if deltas.length ≠ scan.receivedPacketStatusCount.toNat then return none
      return some
        { type := type
          messageType := flags &&& 0x1F
          senderSsrc := senderSsrc
          mediaSsrc := mediaSsrc
          baseSequenceNumber := baseSequenceNumber
          packetStatusCount := packetStatusCount
          referenceTime := parseReferenceTime referenceTime
          feedbackPacketCount := feedbackPacketCount
          chunks := scan.chunks
          deltas := deltas
          deltasAndChunksSize := scan.chunks.length * 2 + (scan.rest.length - rest.length)
          size := len }

/-! ## Results -/

/-- The loop of `GetPacketResults` that gives each received result its delta and arrival time. The
deltas are consumed in order, as `deltas.at(deltaIdx)` with a growing index does. -/
def assignDeltas : List PacketResult → List (BitVec 16) → ℤ → Except Fault (List PacketResult)
  | [], _, _ => .ok []
  | result :: results, deltas, currentReceivedAtMs =>
    if result.received then
      match deltas with
      | [] => .error .outOfRange
      | delta :: deltas => do
        let receivedAtMs := currentReceivedAtMs + delta.toInt.tdiv 4
        let rest ← assignDeltas results deltas receivedAtMs
        return { result with delta := delta, receivedAtMs := receivedAtMs } :: rest
    else do
      let rest ← assignDeltas results deltas currentReceivedAtMs
      return result :: rest

/-- `GetPacketResults()`. -/
def getPacketResults (p : FeedbackRtpTransportPacket) : Except Fault (List PacketResult) :=
  let packetResults :=
    (p.chunks.foldl (fun acc chunk ↦ chunk.fillResults acc) ([], p.baseSequenceNumber - 1)).1
  assignDeltas packetResults p.deltas (p.referenceTime.toInt * 64)

/-! ## Encoding -/

/-- The common body of the `Create*Chunk` methods. -/
def createChunk (p : FeedbackRtpTransportPacket) (chunk : Chunk) : FeedbackRtpTransportPacket :=
  { p with
    chunks := p.chunks ++ [chunk]
    packetStatusCount := p.packetStatusCount + chunk.getCount
    deltasAndChunksSize := p.deltasAndChunksSize + 2 }

/-- `CreateRunLengthChunk(status, count)`. -/
def createRunLengthChunk (p : FeedbackRtpTransportPacket) (status : Status) (count : BitVec 16) :
    FeedbackRtpTransportPacket := p.createChunk (.runLength status count)

/-- `CreateOneBitVectorChunk(statuses)`. -/
def createOneBitVectorChunk (p : FeedbackRtpTransportPacket) (statuses : List Status) :
    FeedbackRtpTransportPacket := p.createChunk (.oneBitVector statuses)

/-- `CreateTwoBitVectorChunk(statuses)`. -/
def createTwoBitVectorChunk (p : FeedbackRtpTransportPacket) (statuses : List Status) :
    FeedbackRtpTransportPacket := p.createChunk (.twoBitVector statuses)

/-- Set the statuses and the current status of the context, the rest unchanged. -/
def setContext (p : FeedbackRtpTransportPacket) (statuses : List Status) (status : Status) :
    FeedbackRtpTransportPacket :=
  { p with context := { p.context with statuses := statuses, currentStatus := status } }

/-- The first part of `FillChunk`, for a gap of `missingPackets > 0` packets: top up the context to
seven statuses and put what is left of the gap into a run length chunk. -/
def fillMissing (p : FeedbackRtpTransportPacket) (missingPackets : BitVec 16) :
    FeedbackRtpTransportPacket :=
  let p :=
    if 7 ≤ p.context.statuses.length ∧ p.context.allSameStatus then
      (p.createRunLengthChunk p.context.currentStatus
        (BitVec.ofNat 16 p.context.statuses.length)).setContext [] .none
    else p
  let representedPackets := min missingPackets.toNat (7 - p.context.statuses.length)
  let p := p.setContext
    (p.context.statuses ++ List.replicate representedPackets .notReceived) .notReceived
  let p :=
    if p.context.statuses.length = 7 then
      (p.createTwoBitVectorChunk p.context.statuses).setContext [] .none
    else p
  let missingPackets := missingPackets - BitVec.ofNat 16 representedPackets
  if missingPackets ≠ 0 then
    (p.createRunLengthChunk .notReceived missingPackets).setContext [] .none
  else p

/-- The status of a received packet with this delta. -/
def deltaStatus (delta : BitVec 16) : Status :=
  if 0 ≤ delta.toInt ∧ delta.toInt ≤ 255 then .smallDelta else .largeDelta

/-- The second part of `FillChunk`: add the status and the delta of the received packet. -/
def fillReceived (p : FeedbackRtpTransportPacket) (delta : BitVec 16) :
    FeedbackRtpTransportPacket :=
  let status := deltaStatus delta
  let p :=
    if 7 ≤ p.context.statuses.length ∧ p.context.allSameStatus ∧ status ≠ p.context.currentStatus
    then
      (p.createRunLengthChunk p.context.currentStatus
        (BitVec.ofNat 16 p.context.statuses.length)).setContext [] p.context.currentStatus
    else p
  let statuses := p.context.statuses ++ [status]
  let allSameStatus := decide (p.context.currentStatus = .none) ||
    (p.context.allSameStatus && decide (p.context.currentStatus = status))
  let p :=
    { p with
      deltas := p.deltas ++ [delta]
      deltasAndChunksSize := p.deltasAndChunksSize + if status = .smallDelta then 1 else 2
      context := { allSameStatus := allSameStatus, currentStatus := status, statuses := statuses } }
  if statuses.length = 7 ∧ ¬allSameStatus then
    (p.createTwoBitVectorChunk statuses).setContext [] .none
  else p

/-- `FillChunk(previousSequenceNumber, sequenceNumber, delta)`. -/
def fillChunk (p : FeedbackRtpTransportPacket) (previousSequenceNumber sequenceNumber : BitVec 16)
    (delta : BitVec 16) : FeedbackRtpTransportPacket :=
  let missingPackets := sequenceNumber - (previousSequenceNumber + 1)
  let p := if 0 < missingPackets then p.fillMissing missingPackets else p
  p.fillReceived delta

/-- `AddPendingChunks()`. -/
def addPendingChunks (p : FeedbackRtpTransportPacket) :
    Except Fault FeedbackRtpTransportPacket := do
  if p.context.statuses = [] then return p
  let p ←
    if p.context.allSameStatus then
      pure (p.createRunLengthChunk p.context.currentStatus
        (BitVec.ofNat 16 p.context.statuses.length))
    else do
      msAssert (p.context.statuses.length < 7) "already 7 status packets present"
      pure (p.createTwoBitVectorChunk p.context.statuses)
  return { p with context := { p.context with statuses := [] } }

/-- `Finish()`. -/
def finish (p : FeedbackRtpTransportPacket) : Except Fault FeedbackRtpTransportPacket :=
  p.addPendingChunks

/-- The difference that `AddPacket` compares with `maxMissingPackets`, computed in `int`. -/
def missingPackets (p : FeedbackRtpTransportPacket) (sequenceNumber : BitVec 16) : ℤ :=
  (sequenceNumber.toNat : ℤ) - ((p.latestSequenceNumber.toNat : ℤ) + 1)

/-- The delta of a packet in multiples of 250 us, an `int64_t`. -/
def delta64 (p : FeedbackRtpTransportPacket) (timestamp : BitVec 64) : BitVec 64 :=
  (timestamp - p.latestTimestamp) * 4

/-- The size the packet would have with one more chunk and one more large delta. -/
def sizeWithAnother (p : FeedbackRtpTransportPacket) : ℕ :=
  let size := feedbackHeaderSize + fixedHeaderSize + p.deltasAndChunksSize + 2 + 2
  size + padding size

/-- `AddPacket(sequenceNumber, timestamp, maxRtcpPacketLen)`. -/
def addPacket (p : FeedbackRtpTransportPacket) (sequenceNumber : BitVec 16)
    (timestamp : BitVec 64) (maxRtcpPacketLen : ℕ) :
    Except Fault (AddPacketResult × FeedbackRtpTransportPacket) := do
  msAssert (!p.isFull) "packet is full"
  if p.latestTimestamp = 0 then
    return (.success,
      { p with
        baseSequenceNumber := sequenceNumber + 1
        referenceTime := ((timestamp &&& 0x1FFFFFC0) / 64).setWidth 32
        latestSequenceNumber := sequenceNumber
        latestTimestamp := (timestamp >>> 6) * 64 })
  if ¬isSeqHigherThan sequenceNumber p.latestSequenceNumber then return (.success, p)
  if (maxMissingPackets : ℤ) < p.missingPackets sequenceNumber then return (.fatal, p)
  let delta64 := p.delta64 timestamp
  if maxPacketDelta < delta64.toInt ∨ delta64.toInt < -1 * maxPacketDelta then return (.fatal, p)
  if maxRtcpPacketLen < p.sizeWithAnother then return (.maxSizeExceeded, p)
  return (.success,
    { p.fillChunk p.latestSequenceNumber sequenceNumber (delta64.setWidth 16) with
      latestSequenceNumber := sequenceNumber
      latestTimestamp := timestamp })

/-! ## Serialization -/

/-- The bytes of one delta. -/
def serializeDelta (delta : BitVec 16) : List Byte :=
  if 0 ≤ delta.toInt ∧ delta.toInt ≤ 255 then [delta.setWidth 8] else Byte.set2Bytes delta

/-- `Packet::Serialize` and `FeedbackPacket::Serialize`: the common header and the two SSRCs. -/
def serializeHeader (p : FeedbackRtpTransportPacket) : List Byte :=
  [0x80 ||| (p.messageType &&& 0x1F), p.type] ++
    Byte.set2Bytes (BitVec.ofNat 16 (p.getSize / 4 - 1)) ++
    Byte.set4Bytes p.senderSsrc ++ Byte.set4Bytes p.mediaSsrc

/-- The chunks, one after the other. -/
def serializeChunks : List Chunk → Except Fault (List Byte)
  | [] => .ok []
  | chunk :: chunks => do
    let bytes ← chunk.serialize
    let rest ← serializeChunks chunks
    return bytes ++ rest

/-- `Serialize(buffer)`: the bytes written and the packet afterwards. -/
def serialize (p : FeedbackRtpTransportPacket) :
    Except Fault (List Byte × FeedbackRtpTransportPacket) := do
  let p ← p.addPendingChunks
  let chunks ← serializeChunks p.chunks
  let bytes := p.serializeHeader ++ Byte.set2Bytes p.baseSequenceNumber ++
    Byte.set2Bytes p.packetStatusCount ++ Byte.set3Bytes p.referenceTime ++
    [p.feedbackPacketCount] ++ chunks ++ p.deltas.flatMap serializeDelta
  return (bytes ++ List.replicate (padding bytes.length) 0, p)

end FeedbackRtpTransportPacket

end MediasoupSfu
