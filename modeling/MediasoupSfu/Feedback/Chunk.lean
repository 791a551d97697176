import MediasoupSfu.Utils.Byte

/-!
# Packet status chunks of the transport-wide feedback

The transport-wide congestion control feedback reports, for a contiguous range of wide sequence
numbers, whether each packet arrived. The reports are packed into 16-bit *chunks* of three kinds: a
run length chunk repeats one status up to 8191 times, a one bit vector chunk holds up to fourteen
statuses of one bit, a two bit vector chunk up to seven statuses of two bits. The receive deltas of
the packets that did arrive follow all chunks.

This file transcribes the three chunk classes and relates each to the list of the statuses it
stands for (`Chunk.symbols`): the counters, the results and the deltas of a chunk are functions of
that list.
-/

namespace MediasoupSfu

/-- `FeedbackRtpTransportPacket::Status`. -/
inductive Status where
  | notReceived
  | smallDelta
  | largeDelta
  | reserved
  | none
  deriving DecidableEq, Repr

namespace Status

/-- The underlying `uint8_t` of the enumeration. -/
def toBits : Status → ℕ
  | notReceived => 0
  | smallDelta => 1
  | largeDelta => 2
  | reserved => 3
  | none => 4

/-- `static_cast<Status>` of the bits of a chunk. -/
def ofBits : ℕ → Status
  | 0 => notReceived
  | 1 => smallDelta
  | 2 => largeDelta
  | 3 => reserved
  | _ => none

/-- The status means that the packet arrived and has a delta. -/
def isReceived (s : Status) : Bool := s == smallDelta || s == largeDelta

@[simp] theorem ofBits_toBits (s : Status) : ofBits s.toBits = s := by
  cases s <;> rfl

/-- The three statuses an encoder writes. -/
def Plain (s : Status) : Prop := s = notReceived ∨ s = smallDelta ∨ s = largeDelta

theorem Plain.toBits_le {s : Status} (h : s.Plain) : s.toBits ≤ 2 := by
  rcases h with rfl | rfl | rfl <;> decide

end Status

/-- The three classes derived from `FeedbackRtpTransportPacket::Chunk`. -/
inductive Chunk where
  /-- `RunLengthChunk`. -/
  | runLength (status : Status) (count : BitVec 16)
  /-- `OneBitVectorChunk`. -/
  | oneBitVector (statuses : List Status)
  /-- `TwoBitVectorChunk`. -/
  | twoBitVector (statuses : List Status)
  deriving DecidableEq, Repr

/-- `FeedbackRtpTransportPacket::PacketResult`. -/
structure PacketResult where
  /-- The wide sequence number. -/
  sequenceNumber : BitVec 16
  /-- Whether the packet arrived. -/
  received : Bool
  /-- The delta of an arrived packet, as `int16_t`. -/
  delta : BitVec 16 := 0
  /-- The arrival time in milliseconds, in the reference of the sender of the feedback. -/
  receivedAtMs : ℤ := 0
  deriving DecidableEq, Repr

namespace Chunk

/-- The statuses that a chunk stands for. -/
def symbols : Chunk → List Status
  | runLength status count => List.replicate count.toNat status
  | oneBitVector statuses => statuses
  | twoBitVector statuses => statuses

/-- `GetCount`, an `uint16_t`. -/
def getCount : Chunk → BitVec 16
  | runLength _ count => count
  | oneBitVector statuses => BitVec.ofNat 16 statuses.length
  | twoBitVector statuses => BitVec.ofNat 16 statuses.length

/-- `GetReceivedStatusCount`, an `uint16_t`. -/
def getReceivedStatusCount : Chunk → BitVec 16
  | runLength status count => if status.isReceived then count else 0
  | oneBitVector statuses => BitVec.ofNat 16 (statuses.countP Status.isReceived)
  | twoBitVector statuses => BitVec.ofNat 16 (statuses.countP Status.isReceived)

/-! ## Parsing -/

/-- `RunLengthChunk::RunLengthChunk(uint16_t buffer)`. -/
def ofRunLength (buffer : BitVec 16) : Status × BitVec 16 :=
  (Status.ofBits ((buffer >>> 13) &&& 0x03).toNat, buffer &&& 0x1FFF)

/-- The loop of the two vector constructors: the first `size` symbols of `bits` bits, as long as
`count` packets remain to be described. -/
def vectorStatuses (size bits : ℕ) (mask buffer count : BitVec 16) : List Status :=
  (List.range (min size count.toNat)).map fun i ↦
    Status.ofBits ((buffer >>> (bits * (size - 1 - i))) &&& mask).toNat

/-- `OneBitVectorChunk::OneBitVectorChunk(uint16_t buffer, uint16_t count)`. -/
def ofOneBitVector (buffer count : BitVec 16) : Except Fault Chunk := do
  msAssert (buffer &&& 0x8000 != 0) "invalid one bit vector chunk"
  return oneBitVector (vectorStatuses 14 1 0x01 buffer count)

/-- `TwoBitVectorChunk::TwoBitVectorChunk(uint16_t buffer, uint16_t count)`. -/
def ofTwoBitVector (buffer count : BitVec 16) : Except Fault Chunk := do
  msAssert (buffer &&& 0xC000 != 0) "invalid two bit vector chunk"
  return twoBitVector (vectorStatuses 7 2 0x03 buffer count)

/-- `Chunk::Parse(data, len, count)`; `none` where the source returns `nullptr`. -/
def parse (data : List Byte) (count : BitVec 16) : Except Fault (Option Chunk) :=
  match data with
  | b₀ :: b₁ :: _ =>
    let bytes := Byte.join2 b₀ b₁
    if (bytes >>> 15) &&& 0x01 = 0 then
      match ofRunLength bytes with
      | (.notReceived, n) => .ok (some (runLength .notReceived n))
      | (.smallDelta, n) => .ok (some (runLength .smallDelta n))
      | (.largeDelta, n) => .ok (some (runLength .largeDelta n))
      | _ => .ok none
    else if b₀ &&& 0x40 = 0 then some <$> ofOneBitVector bytes count
    else some <$> ofTwoBitVector bytes count
  | _ => .ok none

/-! ## Deltas -/

/-- The loop that reads `count` deltas of one byte. -/
def smallDeltas (count : ℕ) (data : List Byte) : List (BitVec 16) :=
  (data.take count).map (BitVec.setWidth 16)

/-- The loop that reads `count` deltas of two bytes. -/
def largeDeltas : ℕ → List Byte → List (BitVec 16)
  | count + 1, b₀ :: b₁ :: data => Byte.join2 b₀ b₁ :: largeDeltas count data
  | _, _ => []

/-- The loop of `OneBitVectorChunk::AddDeltas`: the deltas read and the bytes left. -/
def oneBitVectorDeltas : List Status → List Byte → Option (List (BitVec 16) × List Byte)
  | [], data => some ([], data)
  | .notReceived :: statuses, data => oneBitVectorDeltas statuses data
  | .smallDelta :: statuses, b₀ :: data => do
    let (deltas, rest) ← oneBitVectorDeltas statuses data
    return (b₀.setWidth 16 :: deltas, rest)
  | _ :: _, _ => none

/-- The loop of `TwoBitVectorChunk::AddDeltas`: the deltas read and the bytes left. -/
def twoBitVectorDeltas : List Status → List Byte → Option (List (BitVec 16) × List Byte)
  | [], data => some ([], data)
  | .smallDelta :: statuses, b₀ :: data => do
    let (deltas, rest) ← twoBitVectorDeltas statuses data
    return (b₀.setWidth 16 :: deltas, rest)
  | .smallDelta :: _, [] => none
  | .largeDelta :: statuses, b₀ :: b₁ :: data => do
    let (deltas, rest) ← twoBitVectorDeltas statuses data
    return (Byte.join2 b₀ b₁ :: deltas, rest)
  | .largeDelta :: _, _ => none
  | _ :: statuses, data => twoBitVectorDeltas statuses data

/-- `AddDeltas(data, len, deltas, offset)`: the deltas it appends and the bytes left, or `none`
where the source returns `false`. -/
def addDeltas : Chunk → List Byte → Option (List (BitVec 16) × List Byte)
  | runLength .smallDelta count, data =>
    if data.length < count.toNat * 1 then none
    else some (smallDeltas count.toNat data, data.drop (count.toNat * 1))
  | runLength .largeDelta count, data =>
    if data.length < count.toNat * 2 then none
    else some (largeDeltas count.toNat data, data.drop (count.toNat * 2))
  | runLength _ _, data => some ([], data)
  | oneBitVector statuses, data => oneBitVectorDeltas statuses data
  | twoBitVector statuses, data => twoBitVectorDeltas statuses data

/-! ## Results -/

/-- `FillResults(packetResults, currentSequenceNumber)`: the results appended and the sequence
number reached. -/
def fillResults (chunk : Chunk) (acc : List PacketResult × BitVec 16) :
    List PacketResult × BitVec 16 :=
  chunk.symbols.foldl
    (fun acc status ↦ (acc.1 ++ [{ sequenceNumber := acc.2 + 1, received := status.isReceived }],
      acc.2 + 1)) acc

/-! ## Serialization -/

/-- The loop of the two vector `Serialize`: or the statuses in, from bit `i` down. -/
def packStatuses (bits : ℕ) : ℕ → BitVec 16 → List Status → BitVec 16
  | _, bytes, [] => bytes
  | i, bytes, status :: statuses =>
    packStatuses bits (i - bits) (bytes ||| BitVec.ofNat 16 status.toBits <<< i) statuses

/-- `Serialize(buffer)`: the bytes written. -/
def serialize : Chunk → Except Fault (List Byte)
  | runLength status count =>
    .ok (Byte.set2Bytes (BitVec.ofNat 16 status.toBits <<< 13 ||| (count &&& 0x1FFF)))
  | oneBitVector statuses => do
    msAssert (statuses.length ≤ 14) "packet info size must be 14 or less"
    return Byte.set2Bytes (packStatuses 1 13 0x8000 statuses)
  | twoBitVector statuses => do
    msAssert (statuses.length ≤ 7) "packet info size must be 7 or less"
    return Byte.set2Bytes (packStatuses 2 12 (0x8000 ||| 0x01 <<< 14) statuses)

end Chunk

end MediasoupSfu
