import MediasoupSfu.Library.Slots
import MediasoupSfu.Nack.Item
import MediasoupSfu.Rtp.Sending
import MediasoupSfu.Stream.Recv

/-!
# The sending stream

`RtpStreamSend` keeps clones of the last packets that it sent so as to retransmit them. A packet is
found by its sequence number in `buffer`, a table of 65536 pointers into `storage`, which has room
for a fixed number of packets. The packets are stored one after the other until the storage is full;
then the packet at `bufferStartIdx` has to go, and the next used entry of the table, found by a
circular scan, becomes the start.

A NACK packet asks for packets by sequence number. The stored packets are encoded into the RTX
format in place, the first time they are resent, and then handed to the listener; the transport at
its end rewrites the header extension values that are set on sending.

Pointers into `storage` are indices, and access through them is checked. The transmission counter
and the score are not part of the model.
-/

namespace MediasoupSfu

open Serial Slots

/-- `MtuSize`. -/
def mtuSize : ℕ := 1500

/-- Don't retransmit packets older than this (ms). -/
def maxRetransmissionDelay : BitVec 32 := 2000

/-- 17: 16 bit mask + the initial sequence number. -/
def maxRequestedPackets : ℕ := 17

/-- The bytes of a `store` behind the place of the header. -/
def storeSize : ℕ := mtuSize + 100 - RtpHeader.bytes

/-- `RtpStreamSend::StorageItem`. -/
structure StorageItem where
  /-- Cloned packet. -/
  packet : Option RtpPacket := none
  /-- Memory to hold the cloned packet, behind the place of its header. While there is a packet this
  memory is its body. -/
  store : List Byte := List.replicate storeSize 0
  /-- Last time this packet was resent. -/
  resentAtMs : BitVec 64 := 0
  /-- Number of times this packet was resent. -/
  sentTimes : Byte := 0
  /-- Whether the packet has been already RTX encoded. -/
  rtxEncoded : Bool := false

/-- The members of `RtpStreamSend` that storing and retransmitting packets works on. -/
structure RtpStreamSend where
  params : RtpStreamParams
  seqState : SeqState := {}
  /-- `HasRtx()`. -/
  hasRtx : Bool := false
  nackCount : ℕ := 0
  nackPacketCount : ℕ := 0
  packetsRetransmitted : ℕ := 0
  packetsRepaired : ℕ := 0
  buffer : BitVec 16 → Option ℕ := fun _ ↦ none
  bufferStartIdx : BitVec 16 := 0
  bufferSize : ℕ := 0
  storage : List StorageItem
  rtxSeq : BitVec 16 := 0

/-- A packet that `Parse` may have accepted. -/
abbrev FormedPacket := { p : RtpPacket // p.Formed }

/-- What can happen to a sending stream. -/
inductive SendEvent where
  /-- A call of `ReceivePacket`. -/
  | receivePacket (packet : FormedPacket) (nowMs : BitVec 64)
  /-- A call of `StorePacket`. -/
  | storePacket (packet : FormedPacket)
  /-- A call of `FillRetransmissionContainer`. -/
  | fillRetransmissionContainer (seq bitmask rtt : BitVec 16) (nowMs : BitVec 64)
  /-- A call of `ReceiveNack`. The packets are handed to a transport at `sendMs`, when
  `transportWideCcSeq` is its last transport-wide sequence number. -/
  | receiveNack (items : List FeedbackRtpNackItem) (rtt : BitVec 16) (nowMs sendMs : BitVec 64)
      (transportWideCcSeq : Option (BitVec 16))
  /-- A call of `ClearBuffer`, by `Pause` or by the destructor. -/
  | clearBuffer
  /-- A call of `SetRtx`, with the random number for the first sequence number. -/
  | setRtx (payloadType : Byte) (ssrc : BitVec 32) (rtxSeq : BitVec 16)

/-! ## Storage items -/

/-- The item behind a pointer. -/
def itemAt (storage : List StorageItem) (ptr : ℕ) : Except Fault StorageItem :=
  match storage[ptr]? with
  | some item => .ok item
  | none => .error .outOfBounds

/-- The packet that `storageItem->packet` points to. -/
def StorageItem.getPacket (item : StorageItem) : Except Fault RtpPacket :=
  match item.packet with
  | some packet => .ok packet
  | none => .error .nullPointer

/-- An item after its packet has been deleted. -/
def StorageItem.reset (item : StorageItem) : StorageItem where
  store :=
    match item.packet with
    | some packet => packet.body
    | none => item.store

/-- `resetStorageItem(storageItem)`. -/
def resetStorageItem (storage : List StorageItem) (storageItem : Option ℕ) :
    Except Fault (List StorageItem) :=
  match storageItem with
  | none => .error (.assertion "storageItem cannot be nullptr")
  | some ptr => do
    let item ← itemAt storage ptr
    return storage.set ptr item.reset

namespace RtpStreamSend

/-! ## Storing packets -/

/-- The next used entry of the table, or the given one if there is none. -/
def nextUsed (buffer : BitVec 16 → Option ℕ) (seq : BitVec 16) : BitVec 16 :=
  (scan (fun seq ↦ (buffer seq).isSome) (2 ^ 16) (seq + 1)).getD seq

/-- `UpdateBufferStartIdx()`. -/
def updateBufferStartIdx (s : RtpStreamSend) : RtpStreamSend :=
  { s with bufferStartIdx := nextUsed s.buffer s.bufferStartIdx }

/-- The end of `StorePacket`: clone the packet into the retrieved storage item. -/
def clonePacket (s : RtpStreamSend) (ptr : ℕ) (packet : RtpPacket) :
    Except Fault RtpStreamSend := do
  let item ← itemAt s.storage ptr
  let clone ← packet.clone item.store
  return { s with storage := s.storage.set ptr { item with packet := some clone } }

/-- `StorePacket(packet)`. -/
def storePacket (s : RtpStreamSend) (packet : RtpPacket) : Except Fault RtpStreamSend :=
  if mtuSize < packet.size then .ok s
  else
    let seq := packet.getSequenceNumber
    -- Buffer is empty.
    if s.bufferSize = 0 then
      clonePacket { s with
        buffer := Function.update s.buffer seq (some 0)
        bufferSize := s.bufferSize + 1
        bufferStartIdx := seq } 0 packet
    else match s.buffer seq with
    -- The buffer item is already used. Check whether we should replace its storage with the new
    -- packet or just ignore it (if duplicated packet).
    | some storageItem => do
      let item ← itemAt s.storage storageItem
      let storedPacket ← item.getPacket
      if packet.getTimestamp = storedPacket.getTimestamp then return s
      else
        let storage ← resetStorageItem s.storage (some storageItem)
        let s := { s with storage := storage }
        let s := if s.bufferStartIdx = seq then s.updateBufferStartIdx else s
        s.clonePacket storageItem packet
    | none =>
      -- Buffer not yet full, add an entry.
      if s.bufferSize < s.storage.length then
        clonePacket { s with
          buffer := Function.update s.buffer seq (some s.bufferSize)
          bufferSize := s.bufferSize + 1 } s.bufferSize packet
      -- Buffer full, remove oldest entry and add new one.
      else do
        let firstStorageItem := s.buffer s.bufferStartIdx
        let storage ← resetStorageItem s.storage firstStorageItem
        let s := { s with
          storage := storage
          buffer := Function.update s.buffer s.bufferStartIdx none }
        let s := s.updateBufferStartIdx
        match firstStorageItem with
        | none => .error .nullPointer
        | some ptr =>
          clonePacket { s with buffer := Function.update s.buffer seq (some ptr) } ptr packet

/-- The loop of `ClearBuffer` over `n` entries of the table from `idx` on. -/
def clearFrom (s : RtpStreamSend) : ℕ → BitVec 16 → Except Fault RtpStreamSend
  | 0, _ => .ok s
  | n + 1, idx =>
    match s.buffer idx with
    | none => clearFrom s n (idx + 1)
    | some storageItem => do
      let storage ← resetStorageItem s.storage (some storageItem)
      clearFrom { s with
        storage := storage
        buffer := Function.update s.buffer idx none } n (idx + 1)

/-- `ClearBuffer()`. -/
def clearBuffer (s : RtpStreamSend) : Except Fault RtpStreamSend :=
  if s.storage.isEmpty then .ok s
  else do
    let s ← s.clearFrom (2 ^ 16) 0
    return { s with bufferStartIdx := 0, bufferSize := 0 }

/-- `ReceivePacket(packet)`. -/
def receivePacket (s : RtpStreamSend) (packet : RtpPacket) (nowMs : BitVec 64) :
    Except Fault RtpStreamSend :=
  let (valid, seqState) :=
    s.seqState.receivePacket packet.getSequenceNumber packet.getTimestamp nowMs
  let s := { s with seqState := seqState }
  if ¬valid then .ok s
  -- If bufferSize was given, store the packet into the buffer.
  else if ¬s.storage.isEmpty then s.storePacket packet
  else .ok s

/-! ## Retransmitting packets -/

/-- Stored packet is valid for retransmission. Resend it. -/
def resend (s : RtpStreamSend) (storageItem : ℕ) (item : StorageItem) (packet : RtpPacket)
    (nowMs : BitVec 64) : Except Fault RtpStreamSend := do
  -- If we use RTX and the packet has not yet been resent, encode it now.
  let rtxSeq := if s.hasRtx then s.rtxSeq + 1 else s.rtxSeq
  let packet ←
    if ¬s.hasRtx then .ok packet
    else if ¬item.rtxEncoded then packet.rtxEncode s.params.rtxPayloadType s.params.rtxSsrc rtxSeq
    else .ok (packet.setSequenceNumber rtxSeq)
  return { s with
    rtxSeq := rtxSeq
    storage := s.storage.set storageItem { item with
      packet := some packet
      rtxEncoded := item.rtxEncoded || s.hasRtx
      resentAtMs := nowMs
      sentTimes := item.sentTimes + 1 } }

/-- One requested packet in the loop of `FillRetransmissionContainer`: the item that goes into the
container, if the packet is found and is to be resent. -/
def fillRequested (s : RtpStreamSend) (currentSeq rtt : BitVec 16) (nowMs : BitVec 64) :
    Except Fault (Option ℕ × RtpStreamSend) :=
  if s.storage.isEmpty then .error .outOfBounds
  else match s.buffer currentSeq with
  -- Packet not found.
  | none => .ok (none, s)
  | some storageItem => do
    let item ← itemAt s.storage storageItem
    let packet ← item.getPacket
    let diffTs := s.seqState.maxPacketTs - packet.getTimestamp
    if s.params.clockRate = 0 then .error .divisionByZero
    else
      let diffMs := diffTs * 1000 / s.params.clockRate
      -- Don't resend the packet if older than MaxRetransmissionDelay ms.
      if maxRetransmissionDelay < diffMs then return (none, s)
      -- Don't resent the packet if it was resent in the last RTT ms.
      else if item.resentAtMs ≠ 0 ∧ nowMs - item.resentAtMs ≤ rtt.setWidth 64 then return (none, s)
      else
        let s ← s.resend storageItem item packet nowMs
        return (some storageItem, s)

/-- The loop of `FillRetransmissionContainer`, for at most `n` rounds. -/
def fillLoop (rtt : BitVec 16) (nowMs : BitVec 64) : ℕ → RtpStreamSend → BitVec 16 → Bool →
    BitVec 16 → Except Fault (List ℕ × RtpStreamSend)
  | 0, s, _, _, _ => .ok ([], s)
  | n + 1, s, currentSeq, requested, bitmask =>
    if requested || decide (bitmask ≠ 0) then do
      let (sent, s) ← if requested then s.fillRequested currentSeq rtt nowMs else .ok (none, s)
      let (rest, s) ← fillLoop rtt nowMs n s (currentSeq + 1) (bitmask.getLsbD 0) (bitmask >>> 1)
      return (sent.toList ++ rest, s)
    else .ok ([], s)

/-- `FillRetransmissionContainer(seq, bitmask)`: the items in the container. -/
def fillRetransmissionContainer (s : RtpStreamSend) (seq bitmask rtt : BitVec 16)
    (nowMs : BitVec 64) : Except Fault (List ℕ × RtpStreamSend) :=
  -- If NACK is not supported, exit.
  if ¬s.params.useNack then .ok ([], s)
  else fillLoop rtt nowMs maxRequestedPackets s seq true bitmask

/-- The loop of `ReceiveNack` over the container: the packets that the listener is given, and the
last transport-wide sequence number afterwards. -/
def retransmit (sendMs : BitVec 64) : RtpStreamSend → Option (BitVec 16) → List ℕ →
    Except Fault (List RtpPacket × Option (BitVec 16) × RtpStreamSend)
  | s, transportWideCcSeq, [] => .ok ([], transportWideCcSeq, s)
  | s, transportWideCcSeq, storageItem :: container => do
    let item ← itemAt s.storage storageItem
    let packet ← item.getPacket
    -- Retransmit the packet.
    let (sent, transportWideCcSeq) ←
      packet.onConsumerRetransmitRtpPacket sendMs transportWideCcSeq
    let s := { s with
      storage := s.storage.set storageItem { item with packet := some sent }
      packetsRetransmitted := s.packetsRetransmitted + 1
      -- Mark the packet as repaired (only if this is the first retransmission).
      packetsRepaired := if item.sentTimes = 1 then s.packetsRepaired + 1 else s.packetsRepaired }
    let (rest, transportWideCcSeq, s) ← retransmit sendMs s transportWideCcSeq container
    return (packet :: rest, transportWideCcSeq, s)

/-- The loop of `ReceiveNack` over the items of the packet. -/
def receiveNackItems (rtt : BitVec 16) (nowMs sendMs : BitVec 64) : RtpStreamSend →
    Option (BitVec 16) → List FeedbackRtpNackItem → Except Fault (List RtpPacket × RtpStreamSend)
  | s, _, [] => .ok ([], s)
  | s, transportWideCcSeq, item :: items => do
    let s := { s with nackPacketCount := s.nackPacketCount + item.countRequestedPackets }
    let (container, s) ← s.fillRetransmissionContainer item.getPacketId item.getLostPacketBitmask
      rtt nowMs
    let (packets, transportWideCcSeq, s) ← retransmit sendMs s transportWideCcSeq container
    let (rest, s) ← receiveNackItems rtt nowMs sendMs s transportWideCcSeq items
    return (packets ++ rest, s)

/-- `ReceiveNack(nackPacket)`: the packets that the listener is given. -/
def receiveNack (s : RtpStreamSend) (items : List FeedbackRtpNackItem) (rtt : BitVec 16)
    (nowMs sendMs : BitVec 64) (transportWideCcSeq : Option (BitVec 16)) :
    Except Fault (List RtpPacket × RtpStreamSend) :=
  receiveNackItems rtt nowMs sendMs { s with nackCount := s.nackCount + 1 } transportWideCcSeq items

/-- `SetRtx(payloadType, ssrc)`. -/
def setRtx (s : RtpStreamSend) (payloadType : Byte) (ssrc : BitVec 32) (rtxSeq : BitVec 16) :
    RtpStreamSend :=
  { s with
    params := { s.params with rtxPayloadType := payloadType, rtxSsrc := ssrc }
    hasRtx := true
    rtxSeq := rtxSeq }

/-- `RtpStreamSend(listener, params, bufferSize)`. -/
def init (params : RtpStreamParams) (bufferSize : ℕ) : RtpStreamSend where
  params := params
  storage := List.replicate bufferSize {}

/-- One event: the packets that the listener is given, and the stream afterwards. -/
def step (s : RtpStreamSend) : SendEvent → Except Fault (List RtpPacket × RtpStreamSend)
  | .receivePacket packet nowMs => do return ([], ← s.receivePacket packet.1 nowMs)
  | .storePacket packet => do return ([], ← s.storePacket packet.1)
  | .fillRetransmissionContainer seq bitmask rtt nowMs => do
    return ([], (← s.fillRetransmissionContainer seq bitmask rtt nowMs).2)
  | .receiveNack items rtt nowMs sendMs transportWideCcSeq =>
    s.receiveNack items rtt nowMs sendMs transportWideCcSeq
  | .clearBuffer => do return ([], ← s.clearBuffer)
  | .setRtx payloadType ssrc rtxSeq => .ok ([], s.setRtx payloadType ssrc rtxSeq)

end RtpStreamSend

end MediasoupSfu
