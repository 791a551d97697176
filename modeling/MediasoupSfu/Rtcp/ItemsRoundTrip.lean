import Mathlib.Data.List.Forall2
import MediasoupSfu.Library.Run
import MediasoupSfu.Library.Significand
import MediasoupSfu.Rtcp.Feedback
import MediasoupSfu.Rtp.Packet

/-!
# Items of feedback packets, there and back

An item is built from its fields, a packet of such items is serialized, and its bytes are parsed
again. Most items are built as the header that is serialized later, in memory from `new`, which
contains anything until it is written. SLI and TMMB items have members for their fields, and are
packed when they are serialized.

Two constructors do not write what parsing reads. That of RPSI leaves the payload type as it is in
the memory, pads to a multiple of four bytes where parsing pads to six, and writes behind the header
if there are two bytes of padding or more. That of VBCM copies two bytes of the value, whatever its
length is.

## Main results

* `parseItems_flatten` : items are parsed one after the other.
* `roundTrips_iff` : exactly when the items of a packet are read back.
-/

namespace MediasoupSfu

namespace Rtcp

open Byte FeedbackItem FeedbackRtpTransportPacket Memory

/-! ## Building items -/

/-- What an item is built from: the arguments of its constructor, or what its setters are given. A
pointer with a length is the list of the bytes. -/
inductive ItemFields where
  | fir (ssrc : BitVec 32) (sequenceNumber : Byte)
  | sli (first number : BitVec 16) (pictureId : Byte)
  | rpsi (payloadType : Byte) (bitString : List Byte)
  | tst (ssrc : BitVec 32) (sequenceNumber index : Byte)
  | vbcm (ssrc : BitVec 32) (sequenceNumber payloadType : Byte) (value : List Byte)
  | lei (ssrc : BitVec 32)
  | nack (packetId lostPacketBitmask : BitVec 16)
  | tllei (packetId lostPacketBitmask : BitVec 16)
  | tmmb (ssrc : BitVec 32) (bitrate : BitVec 64) (overhead : BitVec 16)
  deriving DecidableEq, Repr

/-- The class of the item. -/
def ItemFields.cls : ItemFields → ItemClass
  | fir _ _ => .fir
  | sli _ _ _ => .sli
  | rpsi _ _ => .rpsi
  | tst _ _ _ => .tst
  | vbcm _ _ _ _ => .vbcm
  | lei _ => .lei
  | nack _ _ => .nack
  | tllei _ _ => .tllei
  | tmmb _ _ _ => .tmmb

/-- An item: its header, or its members. -/
inductive BuiltItem where
  | header (cls : ItemClass) (raw : List Byte)
  | sli (first number : BitVec 16) (pictureId : Byte)
  | tmmb (ssrc : BitVec 32) (bitrate : BitVec 64) (overhead : BitVec 16)
  deriving DecidableEq, Repr

/-- `new uint8_t[n]`, with what the memory contains. -/
def newBytes (memory : ℕ → Byte) (n : ℕ) : List Byte := (List.range n).map memory

/-- `std::memcpy` from memory. -/
def copyBytes (data : List Byte) (i n : ℕ) : Except Fault (List Byte) :=
  if i + n ≤ data.length then .ok (slice data i n) else .error .outOfBounds

/-- The header of `FeedbackPsRpsiItem(payloadType, bitString, length)`. -/
def newRpsi (memory : ℕ → Byte) (payloadType : Byte) (bitString : List Byte) :
    Except Fault (List Byte) := do
  msAssert (payloadType ≤ 0x7f) "rpsi payload type exceeds the maximum value"
  msAssert (bitString.length ≤ maxBitStringSize) "rpsi bit string length exceeds the maximum value"
  let raw := newBytes memory ItemClass.rpsi.headerSize
  -- 32 bits padding.
  let raw ← writeBytes raw 0 [BitVec.ofNat 8 (padding bitString.length * 8)]
  -- The bit-field `zero` is the lowest bit of its byte.
  let b₁ ← get1Byte raw 1
  let raw ← writeBytes raw 1 [b₁ &&& 0xFE]
  let raw ← writeBytes raw 2 bitString
  -- Fill padding.
  (List.range (padding bitString.length)).foldlM
    (fun raw i ↦ writeBytes raw (ItemClass.rpsi.headerSize + i - 1) [0]) raw

/-- The header of `FeedbackPsVbcmItem(ssrc, sequenceNumber, payloadType, length, value)`. -/
def newVbcm (memory : ℕ → Byte) (ssrc : BitVec 32) (sequenceNumber payloadType : Byte)
    (value : List Byte) : Except Fault (List Byte) := do
  let length := BitVec.ofNat 16 value.length
  let raw := newBytes memory (8 + length.toNat)
  -- The bit-field `zero` is the lowest bit of its byte.
  let raw ← writeBytes raw 0
    (set4Bytes ssrc ++ [sequenceNumber, payloadType <<< 1] ++ set2Bytes length)
  -- `sizeof(length)` bytes.
  let copied ← copyBytes value 0 2
  writeBytes raw 8 copied

/-- The constructors, and the setters of SLI and TMMB items. -/
def build (memory : ℕ → Byte) : ItemFields → Except Fault BuiltItem
  | .fir ssrc sequenceNumber => .ok (.header .fir (set4Bytes ssrc ++ [sequenceNumber, 0, 0, 0]))
  | .sli first number pictureId => .ok (.sli first number pictureId)
  | .rpsi payloadType bitString => do
    return .header .rpsi (← newRpsi memory payloadType bitString)
  | .tst ssrc sequenceNumber index =>
    .ok (.header .tst (set4Bytes ssrc ++ [sequenceNumber, 0, 0, index <<< 3]))
  | .vbcm ssrc sequenceNumber payloadType value => do
    return .header .vbcm (← newVbcm memory ssrc sequenceNumber payloadType value)
  | .lei ssrc => .ok (.header .lei (set4Bytes ssrc))
  | .nack packetId lostPacketBitmask =>
    .ok (.header .nack (set2Bytes packetId ++ set2Bytes lostPacketBitmask))
  | .tllei packetId lostPacketBitmask =>
    .ok (.header .tllei (set2Bytes packetId ++ set2Bytes lostPacketBitmask))
  | .tmmb ssrc bitrate overhead => .ok (.tmmb ssrc bitrate overhead)

/-! ## Serializing -/

/-- The loop of `FeedbackRtpTmmbItem::Serialize`: the mantissa and the exponent. -/
def normalizeTmmb (mantissa : BitVec 64) (exponent : BitVec 32) : BitVec 64 × BitVec 32 :=
  if 0x1ffff < mantissa then normalizeTmmb (mantissa >>> 1) (exponent + 1)
  else (mantissa, exponent)
termination_by mantissa.toNat
decreasing_by
  have hlt : 0x1ffff < mantissa.toNat := ‹_›
  rw [BitVec.toNat_ushiftRight, Nat.shiftRight_eq_div_pow]
  omega

/-- The 4 bytes block of a TMMB item. -/
def tmmbCompact (mantissa : BitVec 64) (exponent : BitVec 32) (overhead : BitVec 16) : BitVec 32 :=
  ((exponent <<< 26).setWidth 64 ||| mantissa <<< 9 ||| overhead.setWidth 64).setWidth 32

/-- `FeedbackRtpTmmbItem::Serialize`. -/
def serializeTmmb (ssrc : BitVec 32) (bitrate : BitVec 64) (overhead : BitVec 16) : List Byte :=
  let (mantissa, exponent) := normalizeTmmb bitrate 0
  set4Bytes ssrc ++ set4Bytes (tmmbCompact mantissa exponent overhead)

/-- The 4 bytes block of a SLI item. -/
def sliCompact (first number : BitVec 16) (pictureId : Byte) : BitVec 32 :=
  first.setWidth 32 <<< 19 ||| number.setWidth 32 <<< 6 ||| pictureId.setWidth 32

/-- `FeedbackPsVbcmItem::Serialize`. -/
def serializeVbcm (raw : List Byte) : Except Fault (List Byte) := do
  -- Add minimum header.
  let head ← copyBytes raw 0 8
  -- Copy the content.
  let length ← get2Bytes raw 6
  let value ← copyBytes raw 8 length.toNat
  -- 32 bits padding.
  return head ++ value ++ List.replicate (padding (8 + length.toNat)) 0

namespace BuiltItem

/-- `Serialize(buffer)`. -/
def serialize : BuiltItem → Except Fault (List Byte)
  | header .vbcm raw => serializeVbcm raw
  | header cls raw => copyBytes raw 0 cls.headerSize
  | sli first number pictureId => .ok (set4Bytes (sliCompact first number pictureId))
  | tmmb ssrc bitrate overhead => .ok (serializeTmmb ssrc bitrate overhead)

/-- `GetSize()`. -/
def getSize : BuiltItem → Except Fault ℕ
  | header .vbcm raw => do
    let length ← get2Bytes raw 6
    return (8 + length.toNat + 3) / 4 * 4
  | header cls _ => .ok cls.headerSize
  | sli _ _ _ => .ok ItemClass.sli.headerSize
  | tmmb _ _ _ => .ok ItemClass.tmmb.headerSize

end BuiltItem

/-- The kinds of packets of items that can be built. -/
inductive ItemsKind where
  | fir
  | sli
  | rpsi
  | tstr
  | tstn
  | vbcm
  | pslei
  | nack
  | tllei
  | tmmbr
  | tmmbn
  deriving DecidableEq, Repr

namespace ItemsKind

/-- The class of the items. -/
def cls : ItemsKind → ItemClass
  | fir => .fir
  | sli => .sli
  | rpsi => .rpsi
  | tstr | tstn => .tst
  | vbcm => .vbcm
  | pslei => .lei
  | nack => .nack
  | tllei => .tllei
  | tmmbr | tmmbn => .tmmb

/-- `rtcpType`. -/
def rtcpType : ItemsKind → PacketType
  | fir | sli | rpsi | tstr | tstn | vbcm | pslei => .psfb
  | nack | tllei | tmmbr | tmmbn => .rtpfb

/-- `Item::messageType`. That of VBCM items is FIR. -/
def messageType : ItemsKind → ℕ
  | nack => 1
  | sli => 2
  | rpsi | tmmbr => 3
  | fir | vbcm | tmmbn => 4
  | tstr => 5
  | tstn => 6
  | tllei => 7
  | pslei => 8

/-- `FeedbackPsItemsPacket<Item>::Parse(data, len)` or `FeedbackRtpItemsPacket<Item>::Parse(data,
len)`. -/
def parse (kind : ItemsKind) (data : List Byte) : Except Fault (Option FeedbackBody) :=
  if kind.rtcpType = .rtpfb then parseRtpItemsPacket kind.cls data
  else parsePsItemsPacket kind.cls data

/-- `Serialize(buffer)` of both. -/
def serialize (kind : ItemsKind) (senderSsrc mediaSsrc : BitVec 32) (items : List BuiltItem) :
    Except Fault (List Byte) := do
  let sizes ← items.mapM BuiltItem.getSize
  let bodies ← items.mapM BuiltItem.serialize
  return serializeHeader kind.messageType kind.rtcpType (feedbackHeaderSize + sizes.sum) ++
    set4Bytes senderSsrc ++ set4Bytes mediaSsrc ++ bodies.flatten

end ItemsKind

/-! ## There and back -/

/-- The items that were parsed, each with the bytes it has from its header on. -/
def withBytes : List FeedbackItem → List Byte → List (FeedbackItem × List Byte)
  | [], _ => []
  | item :: items, data =>
    (item, data.take item.getSize) :: withBytes items (data.drop item.getSize)

/-- What is parsed of the bytes of a packet of items, which are built in the given memory. -/
def readBack (kind : ItemsKind) (senderSsrc mediaSsrc : BitVec 32)
    (items : List ((ℕ → Byte) × ItemFields)) :
    Except Fault (Option (List (FeedbackItem × List Byte))) := do
  let built ← items.mapM fun item ↦ build item.1 item.2
  let bytes ← kind.serialize senderSsrc mediaSsrc built
  match ← kind.parse bytes with
  | some (.items parsed) => return some (withBytes parsed (bytes.drop feedbackHeaderSize))
  | _ => return none

/-- Fields within their ranges: what the constructor of RPSI asserts, a length that is a `uint16_t`,
and what has a place among the bits of SLI and TMMB. -/
def InRange : ItemFields → Prop
  | .sli first number pictureId =>
    first.toNat < 2 ^ 13 ∧ number.toNat < 2 ^ 13 ∧ pictureId.toNat < 2 ^ 6
  | .rpsi payloadType bitString => payloadType ≤ 0x7f ∧ bitString.length ≤ maxBitStringSize
  | .vbcm _ _ _ value => value.length < 2 ^ 16
  | .tmmb _ _ overhead => overhead.toNat < 2 ^ 9
  | .fir _ _ | .tst _ _ _ | .lei _ | .nack _ _ | .tllei _ _ => True

/-- The getters of an item that was parsed, with its bytes, return the fields. An index has five
bits and a payload type has seven; 17 bits of the bit rate are kept. -/
def ReadsAs : ItemFields → FeedbackItem × List Byte → Prop
  | .fir ssrc sequenceNumber, (.fir ssrc' sequenceNumber', _) =>
    ssrc' = ssrc ∧ sequenceNumber' = sequenceNumber
  | .sli first number pictureId, (.sli first' number' pictureId', _) =>
    first' = first ∧ number' = number ∧ pictureId' = pictureId
  | .rpsi payloadType bitString, (.rpsi _ payloadType' bitString' length' _, _) =>
    payloadType' = payloadType ∧ length'.toNat = bitString.length ∧
      bitString'.take length'.toNat = bitString
  | .tst ssrc sequenceNumber index, (.tst ssrc' sequenceNumber' index', _) =>
    ssrc' = ssrc ∧ sequenceNumber' = sequenceNumber ∧ index' = index &&& 0x1F
  | .vbcm ssrc sequenceNumber payloadType value,
    (.vbcm ssrc' sequenceNumber' payloadType' length', bytes) =>
    ssrc' = ssrc ∧ sequenceNumber' = sequenceNumber ∧ payloadType' = payloadType &&& 0x7F ∧
      length'.toNat = value.length ∧ slice bytes 8 length'.toNat = value
  | .lei ssrc, (.lei ssrc', _) => ssrc' = ssrc
  | .nack packetId lostPacketBitmask, (.nack item, _) =>
    item.getPacketId = packetId ∧ item.getLostPacketBitmask = lostPacketBitmask
  | .tllei packetId lostPacketBitmask, (.tllei packetId' lostPacketBitmask', _) =>
    packetId' = packetId ∧ lostPacketBitmask' = lostPacketBitmask
  | .tmmb ssrc bitrate overhead, (.tmmb ssrc' bitrate' overhead' isCorrect, _) =>
    ssrc' = ssrc ∧ bitrate'.toNat = Significand.roundDown 17 bitrate.toNat ∧
      overhead' = overhead ∧ isCorrect = true
  | _, _ => False

/-- **The items of a packet are read back**, all of them and in their order. -/
def RoundTrips (kind : ItemsKind) (senderSsrc mediaSsrc : BitVec 32)
    (items : List ((ℕ → Byte) × ItemFields)) : Prop :=
  ∃ read, readBack kind senderSsrc mediaSsrc items = .ok (some read) ∧
    List.Forall₂ (fun item r ↦ ReadsAs item.2 r) items read

/-- The condition for it: there is no RPSI item, and the value of a VBCM item has two bytes at
least, which are copied, while the memory happens to contain the others. -/
def Survives (memory : ℕ → Byte) : ItemFields → Prop
  | .rpsi _ _ => False
  | .vbcm _ _ _ value => 2 ≤ value.length ∧ ∀ i, 2 ≤ i → i < value.length →
      value[i]? = some (memory (8 + i))
  | .fir _ _ | .sli _ _ _ | .tst _ _ _ | .lei _ | .nack _ _ | .tllei _ _ | .tmmb _ _ _ => True

/-! ## One item after the other -/

/-- Bytes at the front of the data are parsed as an item, which ends where they end. -/
structure ParsedAs (cls : ItemClass) (piece : List Byte) (item : FeedbackItem) : Prop where
  parse_eq : ∀ rest, FeedbackItem.parse cls (piece ++ rest) = .ok (some item)
  getSize_eq : item.getSize = piece.length
  isCorrect : item.isCorrect = true

section Pieces

variable {cls : ItemClass} {pieces : List (List Byte)} {items : List FeedbackItem}

/-- **Items are parsed one after the other**, when the loop keeps what is correct. -/
theorem parseItems_flatten {keeps : FeedbackItem → Bool}
    (hkeeps : ∀ item, item.isCorrect = true → keeps item = true)
    (h : List.Forall₂ (ParsedAs cls) pieces items) :
    parseItems cls keeps pieces.flatten = .ok items := by
  induction h with
  | nil => rw [List.flatten_nil, parseItems, dif_pos rfl]
  | @cons piece item pieces items hone _ ih =>
    have hpos := item.getSize_pos
    have hne : piece ++ pieces.flatten ≠ [] := by
      refine List.append_ne_nil_of_left_ne_nil (List.length_pos_iff.mp ?_) _
      rwa [← hone.getSize_eq]
    have hdrop : (piece ++ pieces.flatten).drop item.getSize = pieces.flatten := by
      rw [hone.getSize_eq, List.drop_left]
    rw [List.flatten_cons, parseItems, dif_neg hne, hone.parse_eq]
    dsimp only [bind, Except.bind]
    rw [if_pos (hkeeps item hone.isCorrect), hdrop, ih]
    rfl

/-- Each has its own bytes. -/
theorem withBytes_flatten (h : List.Forall₂ (ParsedAs cls) pieces items) :
    withBytes items pieces.flatten = items.zip pieces := by
  induction h with
  | nil => rfl
  | cons hone _ ih =>
    rw [List.flatten_cons, withBytes, hone.getSize_eq, List.take_left, List.drop_left, ih]
    rfl

end Pieces

/-! ## Items that are their header -/

/-- How a built item is read: the bytes it is serialized to are parsed as an item, whose getters
return the fields exactly when they survive. -/
structure ReadOf (memory : ℕ → Byte) (fields : ItemFields) (item : BuiltItem) (piece : List Byte)
    (read : FeedbackItem) : Prop where
  serialize_eq : item.serialize = .ok piece
  getSize_eq : item.getSize = .ok piece.length
  parsedAs : ParsedAs fields.cls piece read
  readsAs_iff : ReadsAs fields (read, piece) ↔ Survives memory fields

theorem parsedAs_of_make {cls : ItemClass} {piece : List Byte} {item : FeedbackItem}
    (hsize : cls.headerSize ≤ piece.length)
    (hmake : ∀ rest, make cls (piece ++ rest) = .ok item) (hitem : item.getSize = piece.length)
    (hcorrect : item.isCorrect = true) : ParsedAs cls piece item where
  parse_eq rest := by
    have hlong : ¬ (piece ++ rest).length < cls.headerSize := by
      rw [List.length_append]
      omega
    rw [FeedbackItem.parse, if_neg hlong, hmake]
    rfl
  getSize_eq := hitem
  isCorrect := hcorrect

theorem copyBytes_self (data : List Byte) : copyBytes data 0 data.length = .ok data := by
  rw [copyBytes, if_pos (Nat.zero_add _).le, slice, List.drop_zero, List.take_length]

/-- A header that is serialized as it is. -/
theorem readOf_header {memory : ℕ → Byte} {fields : ItemFields} {cls : ItemClass}
    {raw : List Byte} {read : FeedbackItem} (hfields : fields.cls = cls) (hcls : cls ≠ .vbcm)
    (hsize : raw.length = cls.headerSize) (hmake : ∀ rest, make cls (raw ++ rest) = .ok read)
    (hread : read.getSize = cls.headerSize) (hcorrect : read.isCorrect = true)
    (hiff : ReadsAs fields (read, raw) ↔ Survives memory fields) :
    ReadOf memory fields (.header cls raw) raw read where
  serialize_eq := by
    have hcopy := copyBytes_self raw
    rw [hsize] at hcopy
    cases cls with
    | vbcm => exact absurd rfl hcls
    | fir | sli | rpsi | tst | lei | nack | tllei | tmmb | ecn => exact hcopy
  getSize_eq := by
    rw [hsize]
    cases cls with
    | vbcm => exact absurd rfl hcls
    | fir | sli | rpsi | tst | lei | nack | tllei | tmmb | ecn => rfl
  parsedAs := by
    rw [hfields]
    exact parsedAs_of_make hsize.ge hmake (hread.trans hsize.symm) hcorrect
  readsAs_iff := hiff

/-- A bit-field at the top of a byte. -/
theorem shiftLeft_shiftRight_eq_and (b : Byte) :
    b <<< 3 >>> 3 = b &&& 0x1F ∧ b <<< 1 >>> 1 = b &&& 0x7F := by
  decide +revert

section Headers

variable (memory : ℕ → Byte)

theorem readOf_fir (ssrc : BitVec 32) (sequenceNumber : Byte) :
    ReadOf memory (.fir ssrc sequenceNumber)
      (.header .fir (set4Bytes ssrc ++ [sequenceNumber, 0, 0, 0]))
      (set4Bytes ssrc ++ [sequenceNumber, 0, 0, 0]) (.fir ssrc sequenceNumber) := by
  refine readOf_header rfl (by decide) rfl (fun rest ↦ ?_) rfl rfl (iff_of_true ⟨rfl, rfl⟩ trivial)
  exact congrArg (fun s ↦ Except.ok (FeedbackItem.fir s sequenceNumber)) (join4_set4Bytes ssrc)

theorem readOf_tst (ssrc : BitVec 32) (sequenceNumber index : Byte) :
    ReadOf memory (.tst ssrc sequenceNumber index)
      (.header .tst (set4Bytes ssrc ++ [sequenceNumber, 0, 0, index <<< 3]))
      (set4Bytes ssrc ++ [sequenceNumber, 0, 0, index <<< 3])
      (.tst ssrc sequenceNumber (index <<< 3 >>> 3)) := by
  have hindex := (shiftLeft_shiftRight_eq_and index).1
  refine readOf_header rfl (by decide) rfl (fun rest ↦ ?_) rfl rfl
    (iff_of_true ⟨rfl, rfl, hindex⟩ trivial)
  exact congrArg (fun s ↦ Except.ok (FeedbackItem.tst s sequenceNumber (index <<< 3 >>> 3)))
    (join4_set4Bytes ssrc)

theorem readOf_lei (ssrc : BitVec 32) :
    ReadOf memory (.lei ssrc) (.header .lei (set4Bytes ssrc)) (set4Bytes ssrc) (.lei ssrc) := by
  refine readOf_header rfl (by decide) rfl (fun rest ↦ ?_) rfl rfl (iff_of_true rfl trivial)
  exact congrArg (fun s ↦ Except.ok (FeedbackItem.lei s)) (join4_set4Bytes ssrc)

theorem readOf_nack (packetId lostPacketBitmask : BitVec 16) :
    ReadOf memory (.nack packetId lostPacketBitmask)
      (.header .nack (set2Bytes packetId ++ set2Bytes lostPacketBitmask))
      (set2Bytes packetId ++ set2Bytes lostPacketBitmask)
      (.nack (.make packetId lostPacketBitmask)) := by
  have hgetters := And.intro (FeedbackRtpNackItem.getPacketId_make packetId lostPacketBitmask)
    (FeedbackRtpNackItem.getLostPacketBitmask_make packetId lostPacketBitmask)
  refine readOf_header rfl (by decide) rfl (fun rest ↦ ?_) rfl rfl (iff_of_true hgetters trivial)
  exact congrArg₂ (fun p b ↦ Except.ok (FeedbackItem.nack (.make p b)))
    (join2_set2Bytes packetId) (join2_set2Bytes lostPacketBitmask)

theorem readOf_tllei (packetId lostPacketBitmask : BitVec 16) :
    ReadOf memory (.tllei packetId lostPacketBitmask)
      (.header .tllei (set2Bytes packetId ++ set2Bytes lostPacketBitmask))
      (set2Bytes packetId ++ set2Bytes lostPacketBitmask)
      (.tllei packetId lostPacketBitmask) := by
  refine readOf_header rfl (by decide) rfl (fun rest ↦ ?_) rfl rfl (iff_of_true ⟨rfl, rfl⟩ trivial)
  exact congrArg₂ (fun p b ↦ Except.ok (FeedbackItem.tllei p b)) (join2_set2Bytes packetId)
    (join2_set2Bytes lostPacketBitmask)

end Headers

/-! ## RPSI items -/

theorem length_newBytes (memory : ℕ → Byte) (n : ℕ) : (newBytes memory n).length = n := by
  rw [newBytes, List.length_map, List.length_range]

section Rpsi

variable {memory : ℕ → Byte} {payloadType : Byte} {bitString raw : List Byte}

/-- The header of an RPSI item, if it is built: nothing is written behind the first byte to it. -/
theorem of_newRpsi (h : newRpsi memory payloadType bitString = .ok raw) :
    bitString.length ≤ maxBitStringSize ∧ raw.length = ItemClass.rpsi.headerSize ∧
      raw[0]? = some (BitVec.ofNat 8 (padding bitString.length * 8)) := by
  obtain ⟨-, -, h⟩ := bind_eq_ok.mp h
  obtain ⟨_, hassert, h⟩ := bind_eq_ok.mp h
  have hlength := of_decide_eq_true (msAssert_eq_ok.mp hassert)
  obtain ⟨raw₀, h₀, h⟩ := bind_eq_ok.mp h
  obtain ⟨b₁, -, h⟩ := bind_eq_ok.mp h
  obtain ⟨raw₁, h₁, h⟩ := bind_eq_ok.mp h
  obtain ⟨raw₂, h₂, h⟩ := bind_eq_ok.mp h
  -- A write behind the first byte leaves the length and the first byte.
  have hkeep {s t value : List Byte} {ptr : ℕ} (hptr : 0 < ptr)
      (hs : s.length = ItemClass.rpsi.headerSize ∧
        s[0]? = some (BitVec.ofNat 8 (padding bitString.length * 8)))
      (hw : writeBytes s ptr value = .ok t) : t.length = ItemClass.rpsi.headerSize ∧
        t[0]? = some (BitVec.ofNat 8 (padding bitString.length * 8)) := by
    obtain ⟨hin, rfl⟩ := of_writeBytes hw
    exact ⟨(length_splice hin).trans hs.1, (getElem?_splice_of_lt hin hptr).trans hs.2⟩
  have hfirst : raw₀.length = ItemClass.rpsi.headerSize ∧
      raw₀[0]? = some (BitVec.ofNat 8 (padding bitString.length * 8)) := by
    obtain ⟨hin, rfl⟩ := of_writeBytes h₀
    exact ⟨(length_splice hin).trans (length_newBytes _ _), rfl⟩
  refine ⟨hlength, Run.foldlM_preserves (fun s i t hs hw ↦ hkeep ?_ hs hw)
    (hkeep Nat.two_pos (hkeep Nat.one_pos hfirst h₁) h₂) h⟩
  rw [ItemClass.headerSize]
  omega

/-- **An RPSI item is read with another length**: what is padded to a multiple of four bytes is
taken for what is padded to six. -/
theorem readOf_rpsi (h : newRpsi memory payloadType bitString = .ok raw) :
    ∃ read, ReadOf memory (.rpsi payloadType bitString) (.header .rpsi raw) raw read := by
  obtain ⟨hlength, hsize, hfirst⟩ := of_newRpsi h
  have hsize' : raw.length = 8 := hsize
  have hmultiple : (bitString.length + padding bitString.length) % 4 = 0 := by
    rw [padding]
    omega
  have hpadding : padding bitString.length < 4 := Nat.mod_lt _ (by decide)
  generalize padding bitString.length = n at hfirst hmultiple hpadding
  have hbits : (BitVec.ofNat 8 (n * 8)).toNat = n * 8 := by
    rw [BitVec.toNat_ofNat, Nat.mod_eq_of_lt (by omega)]
  have hleft : (BitVec.ofNat 64 maxBitStringSize - BitVec.ofNat 64 n).toNat =
      maxBitStringSize - n := by
    rw [maxBitStringSize, BitVec.toNat_sub, BitVec.toNat_ofNat, BitVec.toNat_ofNat]
    omega
  have hmake (rest : List Byte) : make .rpsi (raw ++ rest) =
      .ok (.rpsi (BitVec.ofNat 8 (n * 8)) (raw.getD 1 0 >>> 1) (slice raw 2 maxBitStringSize)
        (BitVec.ofNat 64 maxBitStringSize - BitVec.ofNat 64 n) true) := by
    have hget : get1Byte (raw ++ rest) 0 = .ok (BitVec.ofNat 8 (n * 8)) := by
      rw [get1Byte_append_left (by omega), get1Byte, hfirst]
    have hcorrect : (decide (n * 8 % 8 = 0) && decide (n ≤ maxBitStringSize)) = true := by
      rw [Bool.and_eq_true, decide_eq_true_iff, decide_eq_true_iff, maxBitStringSize]
      omega
    have hslice : ((raw ++ rest).drop 2).take maxBitStringSize = slice raw 2 maxBitStringSize := by
      rw [List.drop_append_of_le_length (by omega), List.take_append_of_le_length, slice]
      rw [List.length_drop, maxBitStringSize]
      omega
    rw [make, makeRpsi, hget, get1Byte_append_left (by omega), get1Byte_of_lt (by omega)]
    simp only [bind, Except.bind, pure, Except.pure, hslice, hbits, hcorrect,
      Nat.mul_div_cancel n (show 0 < 8 by decide)]
  refine ⟨_, readOf_header rfl (by decide) hsize hmake rfl rfl (iff_of_false ?_ id)⟩
  rintro ⟨-, hsame, -⟩
  rw [hleft, maxBitStringSize] at hsame
  omega

end Rpsi

/-! ## VBCM items -/

theorem copyBytes_append (a b c : List Byte) :
    copyBytes (a ++ (b ++ c)) a.length b.length = .ok b := by
  rw [copyBytes, if_pos (by simp only [List.length_append]; omega), slice_append]

/-- The bytes of a VBCM item in front of its value. -/
def vbcmHead (ssrc : BitVec 32) (sequenceNumber payloadType : Byte) (n : ℕ) : List Byte :=
  set4Bytes ssrc ++ [sequenceNumber, payloadType <<< 1] ++ set2Bytes (BitVec.ofNat 16 n)

/-- The value that a VBCM item has: two bytes are copied, the others are what the memory
contains. -/
def storedValue (memory : ℕ → Byte) (value : List Byte) : List Byte :=
  value.take 2 ++ (newBytes memory (8 + value.length)).drop 10

section Vbcm

variable {memory : ℕ → Byte} {ssrc : BitVec 32} {sequenceNumber payloadType : Byte}
  {value raw : List Byte}

theorem length_storedValue (h : 2 ≤ value.length) :
    (storedValue memory value).length = value.length := by
  rw [storedValue, List.length_append, List.length_take, List.length_drop, length_newBytes]
  omega

theorem getElem?_storedValue {i : ℕ} (hmin : 2 ≤ i) (hi : i < value.length) :
    (storedValue memory value)[i]? = some (memory (8 + i)) := by
  have htake : (value.take 2).length = 2 := by
    rw [List.length_take]
    omega
  rw [storedValue, List.getElem?_append_right (by omega), htake, List.getElem?_drop, newBytes,
    List.getElem?_map, List.getElem?_range (by omega), Option.map_some]
  congr 2
  omega

/-- What is stored is the value exactly when the memory contains the rest of it. -/
theorem storedValue_eq_iff (hmin : 2 ≤ value.length) : storedValue memory value = value ↔
    ∀ i, 2 ≤ i → i < value.length → value[i]? = some (memory (8 + i)) := by
  constructor
  · intro h i hi hlt
    rw [← getElem?_storedValue hi hlt, h]
  · intro h
    apply List.ext_getElem?
    intro i
    rcases lt_or_ge i 2 with hcopied | hi
    · have htake : i < (value.take 2).length := by
        rw [List.length_take]
        omega
      rw [storedValue, List.getElem?_append_left htake, List.getElem?_take_of_lt hcopied]
    · rcases lt_or_ge i value.length with hlt | hend
      · rw [getElem?_storedValue hi hlt, h i hi hlt]
      · rw [List.getElem?_eq_none hend,
          List.getElem?_eq_none ((length_storedValue hmin).trans_le hend)]

theorem vbcmLength_toNat (hrange : value.length < 2 ^ 16) :
    (BitVec.ofNat 16 value.length).toNat = value.length := by
  rw [BitVec.toNat_ofNat, Nat.mod_eq_of_lt hrange]

/-- **What the constructor of VBCM items does**: values of less than two bytes are copied out of
bounds. -/
theorem newVbcm_eq (hrange : value.length < 2 ^ 16) :
    newVbcm memory ssrc sequenceNumber payloadType value =
      if 2 ≤ value.length then
        .ok (vbcmHead ssrc sequenceNumber payloadType value.length ++ storedValue memory value)
      else .error .outOfBounds := by
  have hhead : writeBytes (newBytes memory (8 + value.length)) 0
      (vbcmHead ssrc sequenceNumber payloadType value.length) =
        .ok (vbcmHead ssrc sequenceNumber payloadType value.length ++
          (newBytes memory (8 + value.length)).drop 8) := by
    rw [writeBytes_eq_ok]
    · exact congrArg Except.ok (splice_append [] _ _)
    · rw [length_newBytes]
      change 0 + 8 ≤ _
      omega
  have hcopy : newVbcm memory ssrc sequenceNumber payloadType value = copyBytes value 0 2 >>=
      writeBytes (vbcmHead ssrc sequenceNumber payloadType value.length ++
        (newBytes memory (8 + value.length)).drop 8) 8 := by
    rw [newVbcm, vbcmLength_toNat hrange]
    change (writeBytes _ 0 (vbcmHead ssrc sequenceNumber payloadType value.length) >>= _) = _
    rw [hhead]
    rfl
  rw [hcopy, copyBytes, Nat.zero_add]
  split
  · have htake : (value.take 2).length = 2 := by
      rw [List.length_take]
      omega
    have hvalue := splice_append (vbcmHead ssrc sequenceNumber payloadType value.length)
      ((newBytes memory (8 + value.length)).drop 8) (value.take 2)
    rw [htake, List.drop_drop] at hvalue
    change writeBytes _ 8 (value.take 2) = _
    rw [writeBytes_eq_ok]
    · exact congrArg Except.ok hvalue
    · rw [List.length_append, List.length_drop, length_newBytes, htake]
      change 10 ≤ 8 + _
      omega
  · rfl

theorem of_newVbcm (hrange : value.length < 2 ^ 16)
    (h : newVbcm memory ssrc sequenceNumber payloadType value = .ok raw) : 2 ≤ value.length ∧
      raw = vbcmHead ssrc sequenceNumber payloadType value.length ++ storedValue memory value := by
  rw [newVbcm_eq hrange] at h
  split at h
  · exact ⟨‹_›, (Except.ok.inj h).symm⟩
  · cases h

/-- The bytes of a VBCM item. -/
def vbcmPiece (memory : ℕ → Byte) (ssrc : BitVec 32) (sequenceNumber payloadType : Byte)
    (value : List Byte) : List Byte :=
  vbcmHead ssrc sequenceNumber payloadType value.length ++
    (storedValue memory value ++ List.replicate (padding (8 + value.length)) 0)

theorem length_vbcmPiece (hmin : 2 ≤ value.length) :
    (vbcmPiece memory ssrc sequenceNumber payloadType value).length =
      (8 + value.length + 3) / 4 * 4 := by
  rw [vbcmPiece, List.length_append, List.length_append, length_storedValue hmin,
    List.length_replicate, padding]
  change 8 + _ = _
  omega

theorem get2Bytes_vbcmHead (rest : List Byte) :
    get2Bytes (vbcmHead ssrc sequenceNumber payloadType value.length ++ rest) 6 =
      .ok (BitVec.ofNat 16 value.length) :=
  congrArg Except.ok (join2_set2Bytes _)

/-- **How a VBCM item is read**: its fields are those of the header, its value is what is stored. -/
theorem readOf_vbcm (hrange : value.length < 2 ^ 16)
    (h : newVbcm memory ssrc sequenceNumber payloadType value = .ok raw) :
    ReadOf memory (.vbcm ssrc sequenceNumber payloadType value) (.header .vbcm raw)
      (vbcmPiece memory ssrc sequenceNumber payloadType value)
      (.vbcm ssrc sequenceNumber (payloadType <<< 1 >>> 1) (BitVec.ofNat 16 value.length)) := by
  obtain ⟨hmin, rfl⟩ := of_newVbcm hrange h
  have hlength := vbcmLength_toNat hrange
  have hstored : (storedValue memory value).length = value.length := length_storedValue hmin
  have hsize : (vbcmPiece memory ssrc sequenceNumber payloadType value).length =
      (8 + value.length + 3) / 4 * 4 := length_vbcmPiece hmin
  refine ⟨?_, ?_, parsedAs_of_make ?_ (fun rest ↦ ?_) ?_ rfl, ?_⟩
  · have hhead : copyBytes (vbcmHead ssrc sequenceNumber payloadType value.length ++
        storedValue memory value) 0 8 =
          .ok (vbcmHead ssrc sequenceNumber payloadType value.length) :=
      copyBytes_append [] (vbcmHead ssrc sequenceNumber payloadType value.length) _
    have hvalue : copyBytes (vbcmHead ssrc sequenceNumber payloadType value.length ++
        storedValue memory value) 8 value.length = .ok (storedValue memory value) := by
      have hcopy := copyBytes_append (vbcmHead ssrc sequenceNumber payloadType value.length)
        (storedValue memory value) []
      rwa [hstored, List.append_nil] at hcopy
    change serializeVbcm _ = _
    rw [serializeVbcm, hhead, get2Bytes_vbcmHead]
    dsimp only [bind, Except.bind]
    rw [hlength, hvalue]
    exact congrArg Except.ok (List.append_assoc _ _ _)
  · change (get2Bytes _ 6 >>= _) = _
    rw [get2Bytes_vbcmHead, hsize]
    change Except.ok ((8 + (BitVec.ofNat 16 value.length).toNat + 3) / 4 * 4) = _
    rw [hlength]
  · rw [hsize]
    change 8 ≤ _
    omega
  · exact congrArg₂ (fun s n ↦ Except.ok
      (FeedbackItem.vbcm s sequenceNumber (payloadType <<< 1 >>> 1) n)) (join4_set4Bytes ssrc)
      (join2_set2Bytes _)
  · rw [FeedbackItem.getSize, hlength, hsize]
  · have hslice : slice (vbcmPiece memory ssrc sequenceNumber payloadType value) 8 value.length =
        storedValue memory value := by
      rw [← hstored]
      exact slice_append _ _ _
    have hpayload := (shiftLeft_shiftRight_eq_and payloadType).2
    rw [ReadsAs, Survives, hlength, hslice, storedValue_eq_iff hmin]
    exact ⟨fun h ↦ ⟨hmin, h.2.2.2.2⟩, fun h ↦ ⟨rfl, rfl, hpayload, rfl, h.2⟩⟩

end Vbcm

/-! ## Items that are packed -/

section Packed

variable {memory : ℕ → Byte} {ssrc : BitVec 32} {bitrate : BitVec 64}
  {first number overhead : BitVec 16} {pictureId : Byte}

theorem sliCompact_toNat (hfirst : first.toNat < 2 ^ 13) (hnumber : number.toNat < 2 ^ 13)
    (hpicture : pictureId.toNat < 2 ^ 6) : (sliCompact first number pictureId).toNat =
      first.toNat * 2 ^ 19 + number.toNat * 2 ^ 6 + pictureId.toNat := by
  rw [← Packing.or_or_eq_add (j := 13) hnumber hpicture]
  simp only [sliCompact, BitVec.toNat_or, BitVec.toNat_shiftLeft, BitVec.toNat_setWidth,
    Nat.shiftLeft_eq]
  rw [Nat.mod_eq_of_lt (show first.toNat < 2 ^ 32 by omega),
    Nat.mod_eq_of_lt (show number.toNat < 2 ^ 32 by omega),
    Nat.mod_eq_of_lt (show pictureId.toNat < 2 ^ 32 by omega),
    Nat.mod_eq_of_lt (show first.toNat * 2 ^ 19 < 2 ^ 32 by omega),
    Nat.mod_eq_of_lt (show number.toNat * 2 ^ 6 < 2 ^ 32 by omega)]

/-- **How a SLI item is read**: with its fields. -/
theorem readOf_sli (hrange : InRange (.sli first number pictureId)) :
    ReadOf memory (.sli first number pictureId) (.sli first number pictureId)
      (set4Bytes (sliCompact first number pictureId)) (.sli first number pictureId) := by
  obtain ⟨hfirst, hnumber, hpicture⟩ := hrange
  refine ⟨rfl, rfl, parsedAs_of_make le_rfl (fun rest ↦ ?_) rfl rfl,
    iff_of_true ⟨rfl, rfl, rfl⟩ trivial⟩
  have hget : get4Bytes (set4Bytes (sliCompact first number pictureId) ++ rest) 0 =
      .ok (sliCompact first number pictureId) := congrArg Except.ok (join4_set4Bytes _)
  change makeSli _ = _
  rw [makeSli, hget]
  have hcompact := sliCompact_toNat hfirst hnumber hpicture
  generalize sliCompact first number pictureId = compact at hcompact
  have hfirst' : (compact >>> 19).setWidth 16 = first := by
    apply BitVec.eq_of_toNat_eq
    rw [BitVec.toNat_setWidth, BitVec.toNat_ushiftRight, Nat.shiftRight_eq_div_pow]
    omega
  have hnumber' : ((compact >>> 6) &&& 0x1fff).setWidth 16 = number := by
    apply BitVec.eq_of_toNat_eq
    rw [BitVec.toNat_setWidth, Packing.toNat_field (k := 13) compact 6 rfl]
    omega
  have hpicture' : (compact &&& 0x3f).setWidth 8 = pictureId := by
    apply BitVec.eq_of_toNat_eq
    rw [BitVec.toNat_setWidth, Packing.toNat_and_mask (k := 6) compact rfl]
    omega
  dsimp only [bind, Except.bind]
  rw [hfirst', hnumber', hpicture']
  rfl

/-- **The search for the exponent** drops the bits after the first 17. -/
theorem normalizeTmmb_eq (mantissa : BitVec 64) (exponent : BitVec 32) :
    normalizeTmmb mantissa exponent = (mantissa >>> Significand.dropped 17 mantissa.toNat,
      exponent + BitVec.ofNat 32 (Significand.dropped 17 mantissa.toNat)) := by
  refine Significand.normalize_eq (by decide) (fun m e ↦ ?_) mantissa exponent
  rw [normalizeTmmb]
  rfl

theorem tmmbCompact_toNat {mantissa : BitVec 64} {exponent : BitVec 32}
    (hmantissa : mantissa.toNat < 2 ^ 17) (hexponent : exponent.toNat < 2 ^ 6)
    (hoverhead : overhead.toNat < 2 ^ 9) : (tmmbCompact mantissa exponent overhead).toNat =
      exponent.toNat * 2 ^ 26 + mantissa.toNat * 2 ^ 9 + overhead.toNat := by
  rw [← Packing.or_or_eq_add (j := 17) hmantissa hoverhead]
  simp only [tmmbCompact, BitVec.toNat_setWidth, BitVec.toNat_or, BitVec.toNat_shiftLeft,
    Nat.shiftLeft_eq]
  rw [Nat.mod_eq_of_lt (show exponent.toNat * 2 ^ 26 < 2 ^ 32 by omega),
    Nat.mod_eq_of_lt (show exponent.toNat * 2 ^ 26 < 2 ^ 64 by omega),
    Nat.mod_eq_of_lt (show mantissa.toNat * 2 ^ 9 < 2 ^ 64 by omega),
    Nat.mod_eq_of_lt (show overhead.toNat < 2 ^ 64 by omega),
    Packing.or_or_eq_add (j := 17) hmantissa hoverhead, Nat.mod_eq_of_lt]
  omega

/-- What a TMMB item is read from: exponent, mantissa and overhead. -/
theorem makeTmmb_eq (ssrc : BitVec 32) {mantissa : BitVec 64} {exponent : BitVec 32}
    (hmantissa : mantissa.toNat < 2 ^ 17) (hexponent : exponent.toNat < 2 ^ 6)
    (hoverhead : overhead.toNat < 2 ^ 9) (rest : List Byte) :
    makeTmmb (set4Bytes ssrc ++ set4Bytes (tmmbCompact mantissa exponent overhead) ++ rest) =
      .ok (.tmmb ssrc (mantissa <<< exponent.toNat) overhead
        (decide (mantissa <<< exponent.toNat >>> exponent.toNat = mantissa))) := by
  have hssrc : get4Bytes (set4Bytes ssrc ++
      set4Bytes (tmmbCompact mantissa exponent overhead) ++ rest) 0 = .ok ssrc :=
    congrArg Except.ok (join4_set4Bytes _)
  have hget : get4Bytes (set4Bytes ssrc ++
      set4Bytes (tmmbCompact mantissa exponent overhead) ++ rest) 4 =
        .ok (tmmbCompact mantissa exponent overhead) :=
    congrArg Except.ok (join4_set4Bytes _)
  rw [makeTmmb, hssrc]
  dsimp only [bind, Except.bind]
  rw [hget]
  have hcompact := tmmbCompact_toNat hmantissa hexponent hoverhead
  generalize tmmbCompact mantissa exponent overhead = compact at hcompact
  have hexponent' : (compact >>> 26).toNat = exponent.toNat := by
    rw [BitVec.toNat_ushiftRight, Nat.shiftRight_eq_div_pow]
    omega
  have hmantissa' : ((compact >>> 9) &&& 0x1ffff).setWidth 64 = mantissa := by
    apply BitVec.eq_of_toNat_eq
    rw [BitVec.toNat_setWidth, Packing.toNat_field (k := 17) compact 9 rfl]
    omega
  have hoverhead' : (compact &&& 0x1ff).setWidth 16 = overhead := by
    apply BitVec.eq_of_toNat_eq
    rw [BitVec.toNat_setWidth, Packing.toNat_and_mask (k := 9) compact rfl]
    omega
  dsimp only
  rw [hexponent', hmantissa', hoverhead']
  rfl

/-- **How a TMMB item is read**: with its bit rate rounded down. -/
theorem readOf_tmmb (hrange : InRange (.tmmb ssrc bitrate overhead)) : ∃ read,
    ReadOf memory (.tmmb ssrc bitrate overhead) (.tmmb ssrc bitrate overhead)
      (serializeTmmb ssrc bitrate overhead) read := by
  have hdropped := Significand.dropped_le (by decide)
    (show bitrate.toNat < 2 ^ (17 + 47) from bitrate.isLt)
  have hmantissa := Significand.div_dropped_lt 17 bitrate.toNat
  have hround := Significand.shiftRight_shiftLeft_dropped 17 bitrate
  rw [← Nat.shiftRight_eq_div_pow, ← BitVec.toNat_ushiftRight] at hmantissa
  have hexponent : (0 + BitVec.ofNat 32 (Significand.dropped 17 bitrate.toNat)).toNat =
      Significand.dropped 17 bitrate.toNat := by
    rw [show 0 + BitVec.ofNat 32 _ = BitVec.ofNat 32 _ from BitVec.zero_add _, BitVec.toNat_ofNat,
      Nat.mod_eq_of_lt (by omega)]
  refine ⟨.tmmb ssrc (bitrate >>> Significand.dropped 17 bitrate.toNat <<<
    Significand.dropped 17 bitrate.toNat) overhead true, rfl, rfl,
    parsedAs_of_make le_rfl (fun rest ↦ ?_) rfl rfl, iff_of_true ⟨rfl, hround.1, rfl, rfl⟩ trivial⟩
  have hmake := makeTmmb_eq ssrc hmantissa (hexponent.trans_lt (by omega)) hrange rest
  rw [hexponent, decide_eq_true hround.2] at hmake
  change makeTmmb (serializeTmmb ssrc bitrate overhead ++ rest) = _
  rw [serializeTmmb, normalizeTmmb_eq]
  exact hmake

end Packed

/-! ## Every item -/

section Items

variable {memory : ℕ → Byte} {fields : ItemFields}

/-- **An item that is built is parsed** as an item, whose getters return the fields exactly when
they survive. -/
theorem exists_readOf {item : BuiltItem} (hrange : InRange fields)
    (h : build memory fields = .ok item) : ∃ piece read, ReadOf memory fields item piece read := by
  cases fields with
  | fir ssrc sequenceNumber =>
    obtain rfl := Except.ok.inj h
    exact ⟨_, _, readOf_fir memory ssrc sequenceNumber⟩
  | sli first number pictureId =>
    obtain rfl := Except.ok.inj h
    exact ⟨_, _, readOf_sli hrange⟩
  | rpsi payloadType bitString =>
    obtain ⟨raw, hraw, h⟩ := bind_eq_ok.mp h
    obtain rfl := Except.ok.inj h
    exact ⟨_, readOf_rpsi hraw⟩
  | tst ssrc sequenceNumber index =>
    obtain rfl := Except.ok.inj h
    exact ⟨_, _, readOf_tst memory ssrc sequenceNumber index⟩
  | vbcm ssrc sequenceNumber payloadType value =>
    obtain ⟨raw, hraw, h⟩ := bind_eq_ok.mp h
    obtain rfl := Except.ok.inj h
    exact ⟨_, _, readOf_vbcm hrange hraw⟩
  | lei ssrc =>
    obtain rfl := Except.ok.inj h
    exact ⟨_, _, readOf_lei memory ssrc⟩
  | nack packetId lostPacketBitmask =>
    obtain rfl := Except.ok.inj h
    exact ⟨_, _, readOf_nack memory packetId lostPacketBitmask⟩
  | tllei packetId lostPacketBitmask =>
    obtain rfl := Except.ok.inj h
    exact ⟨_, _, readOf_tllei memory packetId lostPacketBitmask⟩
  | tmmb ssrc bitrate overhead =>
    obtain rfl := Except.ok.inj h
    exact ⟨_, readOf_tmmb hrange⟩

/-- Fields that survive are built. -/
theorem build_returns (hrange : InRange fields) (h : Survives memory fields) :
    ∃ item, build memory fields = .ok item := by
  cases fields with
  | rpsi payloadType bitString => exact h.elim
  | vbcm ssrc sequenceNumber payloadType value =>
    change ∃ item, newVbcm memory ssrc sequenceNumber payloadType value >>= _ = .ok item
    rw [newVbcm_eq hrange, if_pos h.1]
    exact ⟨_, rfl⟩
  | fir | sli | tst | lei | nack | tllei | tmmb => exact ⟨_, rfl⟩

/-- What is built, serialized and parsed of the items of a packet. -/
theorem exists_pieces {cls : ItemClass} {items : List ((ℕ → Byte) × ItemFields)}
    {built : List BuiltItem} (hitems : ∀ item ∈ items, item.2.cls = cls ∧ InRange item.2)
    (h : List.Forall₂ (fun item b ↦ build item.1 item.2 = .ok b) items built) :
    ∃ pieces reads, built.mapM BuiltItem.serialize = .ok pieces ∧
      built.mapM BuiltItem.getSize = .ok (pieces.map List.length) ∧
      List.Forall₂ (ParsedAs cls) pieces reads ∧
      (List.Forall₂ (fun item r ↦ ReadsAs item.2 r) items (reads.zip pieces) ↔
        ∀ item ∈ items, Survives item.1 item.2) := by
  induction h with
  | nil => exact ⟨[], [], rfl, rfl, .nil, iff_of_true .nil (List.forall_mem_nil _)⟩
  | @cons item b items built hbuild _ ih =>
    obtain ⟨hcls, hrange⟩ := hitems item List.mem_cons_self
    obtain ⟨piece, read, hread⟩ := exists_readOf hrange hbuild
    obtain ⟨pieces, reads, hserialize, hsize, hparsed, hiff⟩ :=
      ih fun other hother ↦ hitems other (List.mem_cons_of_mem _ hother)
    refine ⟨piece :: pieces, read :: reads, ?_, ?_, .cons (hcls ▸ hread.parsedAs) hparsed, ?_⟩
    · rw [List.mapM_cons, hread.serialize_eq, hserialize]
      rfl
    · rw [List.mapM_cons, hread.getSize_eq, hsize]
      rfl
    · rw [List.zip_cons_cons, List.forall₂_cons, hiff, hread.readsAs_iff, List.forall_mem_cons]

end Items

/-! ## Packets of items -/

/-- The loop of a packet keeps the items that are correct, at least. -/
theorem ItemsKind.exists_parse_eq (kind : ItemsKind) : ∃ keeps,
    (∀ item, item.isCorrect = true → keeps item = true) ∧
      ∀ data, kind.parse data = parseItemsPacket kind.cls keeps data := by
  by_cases htype : kind.rtcpType = .rtpfb
  · exact ⟨fun _ ↦ true, fun _ _ ↦ rfl, fun _ ↦ if_pos htype⟩
  · exact ⟨FeedbackItem.isCorrect, fun _ h ↦ h, fun _ ↦ if_neg htype⟩

section Packets

variable {kind : ItemsKind} {senderSsrc mediaSsrc : BitVec 32}
  {items : List ((ℕ → Byte) × ItemFields)}

/-- **What is read back** of items that are built, serialized and parsed. -/
theorem readBack_eq {built : List BuiltItem} {pieces : List (List Byte)}
    {reads : List FeedbackItem} (hbuild : (items.mapM fun item ↦ build item.1 item.2) = .ok built)
    (hserialize : built.mapM BuiltItem.serialize = .ok pieces)
    (hsize : built.mapM BuiltItem.getSize = .ok (pieces.map List.length))
    (hparsed : List.Forall₂ (ParsedAs kind.cls) pieces reads) :
    readBack kind senderSsrc mediaSsrc items = .ok (some (reads.zip pieces)) := by
  obtain ⟨keeps, hkeeps, hparse⟩ := kind.exists_parse_eq
  obtain ⟨header, hlength, hbytes⟩ : ∃ header : List Byte, header.length = feedbackHeaderSize ∧
      kind.serialize senderSsrc mediaSsrc built = .ok (header ++ pieces.flatten) := by
    refine ⟨serializeHeader kind.messageType kind.rtcpType (feedbackHeaderSize +
      (pieces.map List.length).sum) ++ set4Bytes senderSsrc ++ set4Bytes mediaSsrc, rfl, ?_⟩
    rw [ItemsKind.serialize, hsize, hserialize]
    rfl
  have hlong : ¬ (header ++ pieces.flatten).length < feedbackHeaderSize := by
    rw [List.length_append]
    omega
  have hdrop : (header ++ pieces.flatten).drop feedbackHeaderSize = pieces.flatten := by
    rw [← hlength, List.drop_left]
  rw [readBack, hbuild]
  dsimp only [bind, Except.bind]
  rw [hbytes]
  dsimp only
  rw [hparse, parseItemsPacket, if_neg hlong, hdrop, parseItems_flatten hkeeps hparsed]
  dsimp only [bind, Except.bind, pure, Except.pure]
  rw [withBytes_flatten hparsed]

/-- Items that are read back survive. -/
theorem RoundTrips.survives (hitems : ∀ item ∈ items, item.2.cls = kind.cls ∧ InRange item.2)
    (h : RoundTrips kind senderSsrc mediaSsrc items) :
    ∀ item ∈ items, Survives item.1 item.2 := by
  obtain ⟨read, hread, hall⟩ := h
  obtain ⟨built, hbuild, -⟩ := bind_eq_ok.mp hread
  obtain ⟨pieces, reads, hserialize, hsize, hparsed, hiff⟩ :=
    exists_pieces hitems (mapM_eq_ok.mp hbuild)
  rw [readBack_eq hbuild hserialize hsize hparsed] at hread
  obtain rfl := Option.some.inj (Except.ok.inj hread)
  exact hiff.mp hall

/-- Items that survive are read back. -/
theorem roundTrips_of_survives
    (hitems : ∀ item ∈ items, item.2.cls = kind.cls ∧ InRange item.2)
    (h : ∀ item ∈ items, Survives item.1 item.2) :
    RoundTrips kind senderSsrc mediaSsrc items := by
  obtain ⟨built, hbuild⟩ := mapM_returns fun item hitem ↦
    build_returns (hitems item hitem).2 (h item hitem)
  obtain ⟨pieces, reads, hserialize, hsize, hparsed, hiff⟩ :=
    exists_pieces hitems (mapM_eq_ok.mp hbuild)
  exact ⟨_, readBack_eq hbuild hserialize hsize hparsed, hiff.mpr h⟩

end Packets

/-- **Which items are read back.** A packet of items of one kind, with their fields in their ranges,
is parsed with the same number of items, in their order and with their fields, exactly when there
are no RPSI items among them and the memory contains what the constructor does not copy of the
values of VBCM items. -/
theorem roundTrips_iff (kind : ItemsKind) (senderSsrc mediaSsrc : BitVec 32)
    (items : List ((ℕ → Byte) × ItemFields))
    (hitems : ∀ item ∈ items, item.2.cls = kind.cls ∧ InRange item.2) :
    RoundTrips kind senderSsrc mediaSsrc items ↔ ∀ item ∈ items, Survives item.1 item.2 :=
  ⟨RoundTrips.survives hitems, roundTrips_of_survives hitems⟩

/-- A bit rate of 19 bits is read back without the lowest two, and a value of two bytes whatever the
memory contains. -/
theorem roundTrips_two :
    RoundTrips .tmmbr 1 2 [(fun _ ↦ 0, .tmmb 3 0x40003 4), (fun _ ↦ 0, .tmmb 5 6 7)] ∧
      Significand.roundDown 17 0x40003 = 0x40000 ∧
      RoundTrips .vbcm 1 2 [(fun _ ↦ 0, .vbcm 3 4 5 [6, 7])] := by
  refine ⟨(roundTrips_iff .tmmbr 1 2 _ ?_).mpr ?_, by decide,
    (roundTrips_iff .vbcm 1 2 _ ?_).mpr ?_⟩
  · simp only [List.forall_mem_cons]
    exact ⟨⟨rfl, show 4 < 2 ^ 9 by decide⟩, ⟨rfl, show 7 < 2 ^ 9 by decide⟩,
      List.forall_mem_nil _⟩
  · simp only [List.forall_mem_cons]
    exact ⟨trivial, trivial, List.forall_mem_nil _⟩
  · simp only [List.forall_mem_singleton]
    exact ⟨rfl, show 2 < 2 ^ 16 by decide⟩
  · simp only [List.forall_mem_singleton]
    exact ⟨le_rfl, fun i hi hlt ↦ absurd hlt (not_lt.mpr hi)⟩

/-- A value of three bytes, the last of which the memory does not contain, and a bit string of four
bytes, which needs no padding to a multiple of four, are not read back. -/
theorem not_roundTrips :
    InRange (.vbcm 3 4 5 [6, 7, 8]) ∧
      ¬ RoundTrips .vbcm 1 2 [(fun _ ↦ 0, .vbcm 3 4 5 [6, 7, 8])] ∧
      InRange (.rpsi 3 [4, 5, 6, 7]) ∧
      ¬ RoundTrips .rpsi 1 2 [(fun _ ↦ 0, .rpsi 3 [4, 5, 6, 7])] := by
  have hvbcm : InRange (.vbcm 3 4 5 [6, 7, 8]) := show 3 < 2 ^ 16 by decide
  have hrpsi : InRange (.rpsi 3 [4, 5, 6, 7]) :=
    ⟨show (3 : Byte) ≤ 0x7f by decide, show 4 ≤ maxBitStringSize by decide⟩
  refine ⟨hvbcm, fun h ↦ ?_, hrpsi, fun h ↦ ?_⟩
  · have hsurvives := h.survives (List.forall_mem_singleton.mpr ⟨rfl, hvbcm⟩) _
      List.mem_cons_self
    exact absurd (hsurvives.2 2 le_rfl (by decide)) (by decide)
  · exact h.survives (List.forall_mem_singleton.mpr ⟨rfl, hrpsi⟩) _ List.mem_cons_self

end Rtcp

end MediasoupSfu
