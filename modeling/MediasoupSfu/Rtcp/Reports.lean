import MediasoupSfu.Utils.Byte
import Mathlib.Algebra.BigOperators.Group.List.Basic

/-!
# The packets of regular RTCP

Sender reports, receiver reports, source descriptions and extended reports, each with `Serialize`
and `Parse`. An RTCP packet begins with a header of four bytes whose first byte holds a count in its
low five bits. `Serialize` writes there how many parts the packet has, whatever their number;
`Parse` reads as many parts as the count says.

`Parse(data, len)` is given the bytes of one packet, so reading beyond them is the fault
`outOfBounds`.
-/

namespace MediasoupSfu

namespace Rtcp

open Byte

/-! ## The common header -/

/-- `RTCP::Type`. -/
inductive PacketType where
  | sr
  | rr
  | sdes
  | bye
  | app
  | rtpfb
  | psfb
  | xr
  deriving DecidableEq, Repr

namespace PacketType

/-- The value of the enumerator. -/
def toByte : PacketType → Byte
  | sr => 200
  | rr => 201
  | sdes => 202
  | bye => 203
  | app => 204
  | rtpfb => 205
  | psfb => 206
  | xr => 207

/-- `Type(header->packetType)`, if it is one of the enumerators. -/
def ofByte (packetType : Byte) : Option PacketType :=
  [sr, rr, sdes, bye, app, rtpfb, psfb, xr].find? fun type ↦ type.toByte = packetType

@[simp] theorem ofByte_toByte (type : PacketType) : ofByte type.toByte = some type := by
  cases type <;> rfl

end PacketType

/-- The common header, with version 2 and no padding. The count has five bits. -/
def commonHeader (count : ℕ) (type : PacketType) (length : ℕ) : List Byte :=
  ((2 : BitVec 2) ++ (0 : BitVec 1) ++ BitVec.ofNat 5 count) ::
    type.toByte :: set2Bytes (BitVec.ofNat 16 length)

/-- `Packet::Serialize`, for a packet of the given size. -/
def serializeHeader (count : ℕ) (type : PacketType) (size : ℕ) : List Byte :=
  commonHeader count type (size / 4 - 1)

/-- `header->count`. -/
def headerCount (data : List Byte) : Except Fault ℕ := do
  let b ← get1Byte data 0
  return (b.setWidth 5).toNat

@[simp] theorem length_commonHeader (count : ℕ) (type : PacketType) (length : ℕ) :
    (commonHeader count type length).length = 4 := rfl

@[simp] theorem length_serializeHeader (count : ℕ) (type : PacketType) (size : ℕ) :
    (serializeHeader count type size).length = 4 := rfl

/-! ## Sender reports -/

/-- The fields of `SenderReport::Header`. -/
structure SenderReport where
  ssrc : BitVec 32
  ntpSec : BitVec 32
  ntpFrac : BitVec 32
  rtpTs : BitVec 32
  packetCount : BitVec 32
  octetCount : BitVec 32
  deriving DecidableEq, Repr

namespace SenderReport

/-- `GetSize()`. -/
def size : ℕ := 24

/-- `Serialize(buffer)`. -/
def serialize (r : SenderReport) : List Byte :=
  set4Bytes r.ssrc ++ set4Bytes r.ntpSec ++ set4Bytes r.ntpFrac ++ set4Bytes r.rtpTs ++
    set4Bytes r.packetCount ++ set4Bytes r.octetCount

/-- `Parse(data, len)`. -/
def parse (data : List Byte) : Except Fault (Option SenderReport) :=
  if data.length < size then .ok none
  else do
    let ssrc ← get4Bytes data 0
    let ntpSec ← get4Bytes data 4
    let ntpFrac ← get4Bytes data 8
    let rtpTs ← get4Bytes data 12
    let packetCount ← get4Bytes data 16
    let octetCount ← get4Bytes data 20
    return some { ssrc, ntpSec, ntpFrac, rtpTs, packetCount, octetCount }

@[simp] theorem length_serialize (r : SenderReport) : r.serialize.length = size := rfl

end SenderReport

/-- `SenderReportPacket::GetSize()`. -/
def senderReportPacketSize (reports : List SenderReport) :
    ℕ := 4 + SenderReport.size * reports.length

/-- `SenderReportPacket::Parse(data, len)`, without the common header. -/
def parseSenderReportPacket (data : List Byte) : Except Fault (List SenderReport) := do
  return (← SenderReport.parse (data.drop 4)).toList

/-! ## Receiver reports -/

/-- The fields of `ReceiverReport::Header`. -/
structure ReceiverReport where
  ssrc : BitVec 32
  fractionLost : Byte
  totalLost : BitVec 24
  lastSeq : BitVec 32
  jitter : BitVec 32
  lsr : BitVec 32
  dlsr : BitVec 32
  deriving DecidableEq, Repr

namespace ReceiverReport

/-- `GetSize()`, which is `sizeof(ReceiverReport::Header)`. -/
def size : ℕ := 24

/-- `Serialize(buffer)`. -/
def serialize (r : ReceiverReport) : List Byte :=
  set4Bytes r.ssrc ++ [r.fractionLost] ++ set3Bytes (r.totalLost.setWidth 32) ++
    set4Bytes r.lastSeq ++
    set4Bytes r.jitter ++ set4Bytes r.lsr ++ set4Bytes r.dlsr

/-- `Parse(data, len)`. -/
def parse (data : List Byte) : Except Fault (Option ReceiverReport) :=
  if data.length < size then .ok none
  else do
    let ssrc ← get4Bytes data 0
    let fractionLost ← get1Byte data 4
    let totalLost ← get3Bytes data 5
    let lastSeq ← get4Bytes data 8
    let jitter ← get4Bytes data 12
    let lsr ← get4Bytes data 16
    let dlsr ← get4Bytes data 20
    return some { ssrc, fractionLost, totalLost := totalLost.setWidth 24, lastSeq, jitter, lsr
                  dlsr }

@[simp] theorem length_serialize (r : ReceiverReport) : r.serialize.length = size := rfl

end ReceiverReport

/-- `ReceiverReportPacket`. -/
structure ReceiverReportPacket where
  ssrc : BitVec 32 := 0
  reports : List ReceiverReport := []
  deriving DecidableEq, Repr

namespace ReceiverReportPacket

/-- `GetSize()`. -/
def getSize (p : ReceiverReportPacket) : ℕ := 4 + 4 + ReceiverReport.size * p.reports.length

/-- `Serialize(buffer)`. -/
def serialize (p : ReceiverReportPacket) : List Byte :=
  serializeHeader p.reports.length .rr p.getSize ++ set4Bytes p.ssrc ++
    p.reports.flatMap ReceiverReport.serialize

/-- Read so many reports, as long as there is something left. -/
def parseReports : ℕ → List Byte → Except Fault (List ReceiverReport)
  | 0, _ => .ok []
  | count + 1, data =>
    if data = [] then .ok []
    else do
      match ← ReceiverReport.parse data with
      | none => return []
      | some report =>
        let reports ← parseReports count (data.drop ReceiverReport.size)
        return report :: reports

/-- `Parse(data, len, offset)`; `none` where the source returns `nullptr`. -/
def parse (data : List Byte) (offset : ℕ) : Except Fault (Option ReceiverReportPacket) :=
  -- Ensure there is space for the common header and the SSRC of packet sender.
  if data.length < 4 + 4 then .ok none
  else do
    let ssrc ← get4Bytes data 4
    let count ← headerCount data
    let reports ← parseReports count (data.drop (if offset = 0 then 4 + 4 else offset))
    return some { ssrc, reports }

end ReceiverReportPacket

/-! ## Source descriptions -/

/-- `SdesItem`, with the value of `header->type`; 1 is CNAME. -/
structure SdesItem where
  type : Byte
  value : List Byte
  deriving DecidableEq, Repr

namespace SdesItem

/-- The constructor, which keeps of the value as much as its length, in eight bits, says. -/
def make (type : Byte) (value : List Byte) : SdesItem where
  type := type
  value := value.take (value.length % 2 ^ 8)

/-- `GetSize()`. -/
def getSize (item : SdesItem) : ℕ := 2 + item.value.length

/-- `Serialize(buffer)`. -/
def serialize (item : SdesItem) : List Byte :=
  item.type :: BitVec.ofNat 8 item.value.length :: item.value

/-- `Parse(data, len)`. -/
def parse (data : List Byte) : Except Fault (Option SdesItem) :=
  if data.length < 2 then .ok none
  else do
    let type ← get1Byte data 0
    let length ← get1Byte data 1
    -- data size must be >= header + length value.
    if data.length < 2 + length.toNat then return none
    else if type = 0 then return none
    else return some { type, value := (data.drop 2).take length.toNat }

theorem getSize_pos (item : SdesItem) : 0 < item.getSize := by
  rw [getSize]
  omega

end SdesItem

/-- `SdesChunk`. -/
structure SdesChunk where
  ssrc : BitVec 32
  items : List SdesItem := []
  deriving DecidableEq, Repr

namespace SdesChunk

/-- The size without the padding. -/
def unpaddedSize (c : SdesChunk) : ℕ := 4 + (c.items.map SdesItem.getSize).sum

/-- `GetSize()`. -/
def getSize (c : SdesChunk) : ℕ := (c.unpaddedSize + 3) / 4 * 4

/-- `Serialize(buffer)`. -/
def serialize (c : SdesChunk) : List Byte :=
  set4Bytes c.ssrc ++ c.items.flatMap SdesItem.serialize ++
    List.replicate (c.getSize - c.unpaddedSize) 0

/-- The items of a chunk. -/
def parseItems (data : List Byte) : Except Fault (List SdesItem) :=
  if hdata : data = [] then .ok []
  else do
    match ← SdesItem.parse data with
    | none => return []
    | some item =>
      let items ← parseItems (data.drop item.getSize)
      return item :: items
  termination_by data.length
  decreasing_by
    have hitem := item.getSize_pos
    have hpos := List.length_pos_iff.mpr hdata
    rw [List.length_drop]
    omega

/-- `Parse(data, len)`. -/
def parse (data : List Byte) : Except Fault (Option SdesChunk) :=
  if data.length < 4 then .ok none
  else do
    let ssrc ← get4Bytes data 0
    let items ← parseItems (data.drop 4)
    return some { ssrc, items }

end SdesChunk

/-- `SdesPacket::GetSize()`. -/
def sdesPacketSize (chunks : List SdesChunk) : ℕ := 4 + (chunks.map SdesChunk.getSize).sum

/-- `SdesPacket::Serialize(buffer)`. -/
def serializeSdesPacket (chunks : List SdesChunk) : List Byte :=
  serializeHeader chunks.length .sdes (sdesPacketSize chunks) ++ chunks.flatMap SdesChunk.serialize

/-- Read so many chunks, as long as there is something left. -/
def parseSdesChunks : ℕ → List Byte → Except Fault (List SdesChunk)
  | 0, _ => .ok []
  | count + 1, data =>
    if data = [] then .ok []
    else do
      match ← SdesChunk.parse data with
      | none => return []
      | some chunk =>
        let chunks ← parseSdesChunks count (data.drop chunk.getSize)
        return chunk :: chunks

/-- `SdesPacket::Parse(data, len)`. -/
def parseSdesPacket (data : List Byte) : Except Fault (List SdesChunk) := do
  let count ← headerCount data
  parseSdesChunks count (data.drop 4)

/-! ## Extended reports -/

/-- The fields of `DelaySinceLastRr::SsrcInfo::Body`. -/
structure SsrcInfo where
  ssrc : BitVec 32
  lrr : BitVec 32
  dlrr : BitVec 32
  deriving DecidableEq, Repr

namespace SsrcInfo

/-- `GetSize()`. -/
def size : ℕ := 12

/-- `Serialize(buffer)`. -/
def serialize (info : SsrcInfo) : List Byte :=
  set4Bytes info.ssrc ++ set4Bytes info.lrr ++ set4Bytes info.dlrr

/-- `Parse(data, len)`. -/
def parse (data : List Byte) : Except Fault (Option SsrcInfo) :=
  if data.length < size then .ok none
  else do
    let ssrc ← get4Bytes data 0
    let lrr ← get4Bytes data 4
    let dlrr ← get4Bytes data 8
    return some { ssrc, lrr, dlrr }

end SsrcInfo

/-- `ExtendedReportBlock`, of the two kinds that are read and written. -/
inductive ExtendedReportBlock where
  /-- `ReceiverReferenceTime`. -/
  | receiverReferenceTime (ntpSec ntpFrac : BitVec 32)
  /-- `DelaySinceLastRr`. -/
  | delaySinceLastRr (ssrcInfos : List SsrcInfo)
  deriving DecidableEq, Repr

namespace ExtendedReportBlock

/-- The type is `ExtendedReportBlock::Type::RRT`. -/
def isReceiverReferenceTime : ExtendedReportBlock → Bool
  | receiverReferenceTime _ _ => true
  | delaySinceLastRr _ => false

/-- `GetSize()`. -/
def getSize : ExtendedReportBlock → ℕ
  | receiverReferenceTime _ _ => 4 + 8
  | delaySinceLastRr ssrcInfos => 4 + SsrcInfo.size * ssrcInfos.length

/-- `Serialize(buffer)`. -/
def serialize : ExtendedReportBlock → List Byte
  | receiverReferenceTime ntpSec ntpFrac =>
    [4, 0] ++ set2Bytes 2 ++ (set4Bytes ntpSec ++ set4Bytes ntpFrac)
  | delaySinceLastRr ssrcInfos =>
    [5, 0] ++ set2Bytes (BitVec.ofNat 16 (SsrcInfo.size * ssrcInfos.length / 4)) ++
      ssrcInfos.flatMap SsrcInfo.serialize

/-- `ReceiverReferenceTime::Parse(data, len)`. -/
def parseReceiverReferenceTime (data : List Byte) : Except Fault (Option ExtendedReportBlock) :=
  if data.length < 4 + 8 then .ok none
  else do
    let ntpSec ← get4Bytes data 4
    let ntpFrac ← get4Bytes data 8
    return some (receiverReferenceTime ntpSec ntpFrac)

/-- Read so many sub-blocks, as long as there is something left. The offset is advanced twice for
each. -/
def parseSsrcInfos : ℕ → List Byte → Except Fault (List SsrcInfo)
  | 0, _ => .ok []
  | count + 1, data =>
    if data = [] then .ok []
    else do
      match ← SsrcInfo.parse data with
      | none => return []
      | some ssrcInfo =>
        let ssrcInfos ← parseSsrcInfos count (data.drop (SsrcInfo.size + SsrcInfo.size))
        return ssrcInfo :: ssrcInfos

/-- `DelaySinceLastRr::Parse(data, len)`. The length in bytes is kept in 16 bits. -/
def parseDelaySinceLastRr (data : List Byte) : Except Fault (Option ExtendedReportBlock) := do
  let length ← get2Bytes data 2
  let reportLength := length * 4
  let ssrcInfos ← parseSsrcInfos (reportLength.toNat / SsrcInfo.size) (data.drop 4)
  return some (delaySinceLastRr ssrcInfos)

/-- `Parse(data, len)`. -/
def parse (data : List Byte) : Except Fault (Option ExtendedReportBlock) :=
  -- Ensure there is space for the common header.
  if data.length < 4 then .ok none
  else do
    let blockType ← get1Byte data 0
    if blockType = 4 then parseReceiverReferenceTime data
    else if blockType = 5 then parseDelaySinceLastRr data
    else return none

theorem getSize_pos (block : ExtendedReportBlock) : 0 < block.getSize := by
  cases block with
  | receiverReferenceTime ntpSec ntpFrac => exact Nat.succ_pos _
  | delaySinceLastRr ssrcInfos =>
    rw [getSize]
    omega

end ExtendedReportBlock

/-- `ExtendedReportPacket`. -/
structure ExtendedReportPacket where
  ssrc : BitVec 32 := 0
  reports : List ExtendedReportBlock := []
  deriving DecidableEq, Repr

namespace ExtendedReportPacket

/-- `GetSize()`. -/
def getSize (p : ExtendedReportPacket) : ℕ :=
  4 + 4 + (p.reports.map ExtendedReportBlock.getSize).sum

/-- `Serialize(buffer)`. The count is 0. -/
def serialize (p : ExtendedReportPacket) : List Byte :=
  serializeHeader 0 .xr p.getSize ++ set4Bytes p.ssrc ++
    p.reports.flatMap ExtendedReportBlock.serialize

/-- The blocks of a packet. -/
def parseBlocks (data : List Byte) : Except Fault (List ExtendedReportBlock) :=
  if hdata : data = [] then .ok []
  else do
    match ← ExtendedReportBlock.parse data with
    | none => return []
    | some block =>
      let blocks ← parseBlocks (data.drop block.getSize)
      return block :: blocks
  termination_by data.length
  decreasing_by
    have hblock := block.getSize_pos
    have hpos := List.length_pos_iff.mpr hdata
    rw [List.length_drop]
    omega

/-- `Parse(data, len)`. -/
def parse (data : List Byte) : Except Fault (Option ExtendedReportPacket) :=
  -- Ensure there is space for the common header and the SSRC of packet sender.
  if data.length < 4 + 4 then .ok none
  else do
    let ssrc ← get4Bytes data 4
    let reports ← parseBlocks (data.drop (4 + 4))
    return some { ssrc, reports }

end ExtendedReportPacket

end Rtcp

end MediasoupSfu
