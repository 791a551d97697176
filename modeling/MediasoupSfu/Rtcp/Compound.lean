import MediasoupSfu.Rtcp.Reports

/-!
# Compound packets

`Packet::Parse` takes a buffer apart into RTCP packets; a packet that cannot be parsed ends it, and
what was parsed before is returned. `CompoundPacket` collects reports and writes them as one buffer.
Its `GetSize` returns a member that is computed by `Serialize`, and is 0 before.

`Transport::SendRtcp` sends a compound packet for each sender report, and then collects the receiver
reports of all Producers. The time since the last report is compared in floating point, which is a
parameter here, as is the NTP time. The parsers of BYE and of feedback packets have no part in
regular reports; a parameter tells whether they return a packet.
-/

namespace MediasoupSfu

namespace Rtcp

open Byte

/-! ## Parsing -/

/-- What `Packet::Parse` returns a list of. -/
inductive Packet where
  | senderReports (reports : List SenderReport)
  | receiverReports (packet : ReceiverReportPacket)
  | sdes (chunks : List SdesChunk)
  | extendedReports (packet : ExtendedReportPacket)
  /-- A BYE or feedback packet. -/
  | other (type : PacketType) (data : List Byte)
  deriving DecidableEq, Repr

namespace Packet

/-- The receiver reports of a packet. -/
def getReceiverReports : Packet → List ReceiverReport
  | receiverReports packet => packet.reports
  | _ => []

/-- `IsRtcp(data, len)`. -/
def isRtcp (data : List Byte) : Except Fault Bool :=
  if data.length < 4 then .ok false
  else do
    let b₀ ← get1Byte data 0
    let packetType ← get1Byte data 1
    -- RTP Version must be 2.
    return decide (127 < b₀ ∧ b₀ < 192) && decide (b₀ >>> 6 = 2) &&
      decide (192 ≤ packetType ∧ packetType ≤ 223)

/-- A sender report and, if the count is not 0, the receiver reports behind it. -/
def parseSenderReports (data : List Byte) : Except Fault (List Packet) := do
  let reports ← parseSenderReportPacket data
  let count ← headerCount data
  if 0 < count then
    match ← ReceiverReportPacket.parse data (senderReportPacketSize reports) with
    | none => return [senderReports reports]
    | some packet => return [senderReports reports, receiverReports packet]
  else return [senderReports reports]

/-- The packet at the front of the buffer, `data`, parsed according to its type; nothing where the
source has `nullptr`. -/
def parseFirst (acceptsOther : PacketType → List Byte → Bool) (data : List Byte) :
    Except Fault (List Packet) := do
  let packetType ← get1Byte data 1
  match PacketType.ofByte packetType with
  | some .sr => parseSenderReports data
  | some .rr => return ((← ReceiverReportPacket.parse data 0).map receiverReports).toList
  | some .sdes => return [sdes (← parseSdesPacket data)]
  | some .xr => return ((← ExtendedReportPacket.parse data).map extendedReports).toList
  | some .app | none => return []
  | some type => return if acceptsOther type data then [other type data] else []

/-- `Packet::Parse(data, len)`: the packets from `first` on. -/
def parse (acceptsOther : PacketType → List Byte → Bool) (data : List Byte) :
    Except Fault (List Packet) :=
  if hdata : data = [] then .ok []
  else do
    if ¬(← isRtcp data) then return []
    else
      let length ← get2Bytes data 2
      let packetLen := (length.toNat + 1) * 4
      if data.length < packetLen then return []
      else
        match ← parseFirst acceptsOther (data.take packetLen) with
        | [] => return []
        | current =>
          let packets ← parse acceptsOther (data.drop packetLen)
          return current ++ packets
  termination_by data.length
  decreasing_by
    have hpos := List.length_pos_iff.mpr hdata
    rw [List.length_drop]
    omega

end Packet

/-! ## Serializing -/

/-- `BufferSize`. -/
def bufferSize : ℕ := 65536

/-- The members of `CompoundPacket`. -/
structure CompoundPacket where
  /-- The bytes from `header` on. -/
  data : List Byte := []
  size : ℕ := 0
  senderReports : List SenderReport := []
  receiverReportPacket : ReceiverReportPacket := {}
  sdesChunks : List SdesChunk := []
  xrPacket : ExtendedReportPacket := {}
  deriving DecidableEq, Repr

namespace CompoundPacket

/-- `GetSize()`. -/
def getSize (p : CompoundPacket) : ℕ := p.size

/-- `GetReceiverReportCount()`. -/
def getReceiverReportCount (p : CompoundPacket) : ℕ := p.receiverReportPacket.reports.length

/-- `HasSenderReport()`. -/
def hasSenderReport (p : CompoundPacket) : Bool := !p.senderReports.isEmpty

/-- `HasReceiverReferenceTime()`. -/
def hasReceiverReferenceTime (p : CompoundPacket) : Bool :=
  p.xrPacket.reports.any ExtendedReportBlock.isReceiverReferenceTime

/-- `AddSenderReport(report)`. -/
def addSenderReport (p : CompoundPacket) (report : SenderReport) : Except Fault CompoundPacket := do
  msAssert (!p.hasSenderReport) "a Sender Report is already present"
  return { p with senderReports := p.senderReports ++ [report] }

/-- `AddReceiverReport(report)`. -/
def addReceiverReport (p : CompoundPacket) (report : ReceiverReport) : CompoundPacket :=
  { p with receiverReportPacket.reports := p.receiverReportPacket.reports ++ [report] }

/-- `AddSdesChunk(chunk)`. -/
def addSdesChunk (p : CompoundPacket) (chunk : SdesChunk) : CompoundPacket :=
  { p with sdesChunks := p.sdesChunks ++ [chunk] }

/-- `AddReceiverReferenceTime(report)`. -/
def addReceiverReferenceTime (p : CompoundPacket) (report : ExtendedReportBlock) : CompoundPacket :=
  { p with xrPacket.reports := p.xrPacket.reports ++ [report] }

/-- The total required size for the entire message. -/
def requiredSize (p : CompoundPacket) : ℕ :=
  (if p.hasSenderReport then
      senderReportPacketSize p.senderReports + ReceiverReport.size * p.getReceiverReportCount
    else p.receiverReportPacket.getSize) +
    (if p.sdesChunks = [] then 0 else sdesPacketSize p.sdesChunks) +
    (if p.xrPacket.reports = [] then 0 else p.xrPacket.getSize)

/-- The header in front of a sender report. The length and the count are fixed if there are receiver
reports. -/
def senderReportHeader (p : CompoundPacket) : List Byte :=
  if p.getReceiverReportCount = 0
    then serializeHeader 0 .sr (senderReportPacketSize p.senderReports)
  else
    commonHeader p.getReceiverReportCount .sr
      ((SenderReport.size + ReceiverReport.size * p.getReceiverReportCount) / 4)

/-- The head of the compound packet: a sender report, or a receiver report packet, which may be
empty. -/
def serializeHead (p : CompoundPacket) : Except Fault (List Byte) :=
  if p.hasSenderReport then do
    msAssert (p.senderReports.length = 1) "invalid number of sender reports"
    return p.senderReportHeader ++ p.senderReports.flatMap SenderReport.serialize ++
      p.receiverReportPacket.reports.flatMap ReceiverReport.serialize
  else .ok p.receiverReportPacket.serialize

/-- `Serialize(data)`, where `data` is the buffer of `bufferSize` bytes. -/
def serialize (p : CompoundPacket) : Except Fault CompoundPacket := do
  let head ← p.serializeHead
  let sdes := if p.sdesChunks = [] then [] else serializeSdesPacket p.sdesChunks
  let xr := if p.xrPacket.reports = [] then [] else p.xrPacket.serialize
  if bufferSize < (head ++ sdes ++ xr).length then .error .outOfBounds
  else return { p with data := head ++ sdes ++ xr, size := p.requiredSize }

/-- The bytes `GetData()`..`GetSize()`. -/
def bytes (p : CompoundPacket) : List Byte := p.data.take p.getSize

end CompoundPacket

/-! ## Sending -/

/-- `RTC::MtuSize`. -/
def mtuSize : ℕ := 1500

/-- What sending RTCP depends on besides the Consumers and Producers. -/
structure RtcpSurroundings where
  nowMs : BitVec 64
  /-- `Utils::Time::TimeMs2Ntp(nowMs)`: the seconds and the fractions. -/
  ntp : BitVec 32 × BitVec 32
  /-- `static_cast<float>((nowMs - lastRtcpSentTime) * 1.15) < maxRtcpInterval`, as a function of
  the difference and of the interval. -/
  tooEarly : BitVec 64 → BitVec 16 → Bool

/-- A stream of a Consumer. -/
structure SendStream where
  ssrc : BitVec 32
  cname : List Byte
  /-- What `GetRtcpSenderReport(nowMs)` returns. -/
  senderReport : Option SenderReport
  deriving DecidableEq, Repr

/-- The members of a Consumer that its `GetRtcp` uses. -/
structure RtcpConsumer where
  rtpStreams : List SendStream
  lastRtcpSentTime : BitVec 64
  maxRtcpInterval : BitVec 16
  /-- It is a `PipeConsumer`, whose streams are all asked in one loop. -/
  pipe : Bool
  deriving DecidableEq, Repr

/-- A stream of a Producer. -/
structure RecvStream where
  /-- What `GetRtcpReceiverReport()` returns. -/
  receiverReport : ReceiverReport
  /-- What `GetRtxRtcpReceiverReport()` returns. -/
  rtxReceiverReport : Option ReceiverReport
  deriving DecidableEq, Repr

/-- The members of a Producer that its `GetRtcp` uses. -/
structure RtcpProducer where
  /-- `mapSsrcRtpStream`, in the order of the SSRCs. -/
  rtpStreams : List RecvStream
  lastRtcpSentTime : BitVec 64
  maxRtcpInterval : BitVec 16
  deriving DecidableEq, Repr

namespace RtpStreamSend

/-- `GetRtcpSdesChunk()`: the CNAME. -/
def getRtcpSdesChunk (stream : SendStream) : SdesChunk where
  ssrc := stream.ssrc
  items := [SdesItem.make 1 stream.cname]

end RtpStreamSend

namespace RtcpConsumer

/-- Nothing is reported yet. -/
def waits (c : RtcpConsumer) (env : RtcpSurroundings) : Bool :=
  !(c.pipe && decide (env.nowMs = c.lastRtcpSentTime)) &&
    env.tooEarly (env.nowMs - c.lastRtcpSentTime) c.maxRtcpInterval

/-- `GetRtcp(packet, rtpStream, nowMs)`. -/
def getRtcp (c : RtcpConsumer) (env : RtcpSurroundings) (stream : SendStream)
    (packet : CompoundPacket) :
    Except Fault (CompoundPacket × RtcpConsumer) :=
  if c.waits env then .ok (packet, c)
  else match stream.senderReport with
    | none => .ok (packet, c)
    | some report => do
      let packet ← packet.addSenderReport report
      return (packet.addSdesChunk (RtpStreamSend.getRtcpSdesChunk stream),
        { c with lastRtcpSentTime := env.nowMs })

/-- Send a compound packet for each of the streams that has a sender report. -/
def sendReports (env : RtcpSurroundings) : List SendStream → RtcpConsumer →
    Except Fault (List CompoundPacket × RtcpConsumer)
  | [], c => .ok ([], c)
  | stream :: streams, c => do
    let (packet, c) ← c.getRtcp env stream {}
    let sent ← if packet.hasSenderReport then packet.serialize.map ([·]) else .ok []
    let (others, c) ← sendReports env streams c
    return (sent ++ others, c)

end RtcpConsumer

namespace RtcpProducer

/-- Nothing is reported yet. -/
def waits (p : RtcpProducer) (env : RtcpSurroundings) : Bool :=
  env.tooEarly (env.nowMs - p.lastRtcpSentTime) p.maxRtcpInterval

/-- Add the reports of a stream. -/
def addReports (packet : CompoundPacket) (stream : RecvStream) : CompoundPacket :=
  let packet := packet.addReceiverReport stream.receiverReport
  match stream.rtxReceiverReport with
  | some report => packet.addReceiverReport report
  | none => packet

/-- `GetRtcp(packet, nowMs)`. -/
def getRtcp (p : RtcpProducer) (env : RtcpSurroundings) (packet : CompoundPacket) :
    CompoundPacket × RtcpProducer :=
  if p.waits env then (packet, p)
  else
    let packet := p.rtpStreams.foldl addReports packet
    -- Add a receiver reference time report if no present in the packet.
    let packet :=
      if packet.hasReceiverReferenceTime then packet
      else packet.addReceiverReferenceTime (.receiverReferenceTime env.ntp.1 env.ntp.2)
    (packet, { p with lastRtcpSentTime := env.nowMs })

end RtcpProducer

/-- The loop of `SendRtcp` over the Consumers. -/
def sendSenderReports (env : RtcpSurroundings) : List RtcpConsumer →
    Except Fault (List CompoundPacket × List RtcpConsumer)
  | [] => .ok ([], [])
  | c :: consumers => do
    let (sent, c) ← RtcpConsumer.sendReports env c.rtpStreams c
    let (others, consumers) ← sendSenderReports env consumers
    return (sent ++ others, c :: consumers)

/-- The loop of `SendRtcp` over the Producers, from a compound packet on, and what follows it. -/
def sendReceiverReports (env : RtcpSurroundings) : CompoundPacket → List RtcpProducer →
    Except Fault (List CompoundPacket × List RtcpProducer)
  | packet, [] =>
    if packet.getReceiverReportCount = 0 then .ok ([], [])
    else do
      let packet ← packet.serialize
      return ([packet], [])
  | packet, p :: producers =>
    let (packet, p) := p.getRtcp env packet
    -- One more RR would exceed the MTU, send the compound packet now.
    if mtuSize < packet.getSize + ReceiverReport.size then do
      let packet ← packet.serialize
      let (others, producers) ← sendReceiverReports env {} producers
      return (packet :: others, p :: producers)
    else do
      let (sent, producers) ← sendReceiverReports env packet producers
      return (sent, p :: producers)

/-- `Transport::SendRtcp(nowMs)`: the compound packets that are sent, and the Consumers and
Producers afterwards. -/
def sendRtcp (env : RtcpSurroundings) (consumers : List RtcpConsumer)
    (producers : List RtcpProducer) :
    Except Fault (List CompoundPacket × List RtcpConsumer × List RtcpProducer) := do
  let (senderPackets, consumers) ← sendSenderReports env consumers
  let (receiverPackets, producers) ← sendReceiverReports env {} producers
  return (senderPackets ++ receiverPackets, consumers, producers)

end Rtcp

end MediasoupSfu
