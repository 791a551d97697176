import MediasoupSfu.Feedback.Bounds
import MediasoupSfu.Nack.Item
import MediasoupSfu.Rtcp.Reports

/-!
# Feedback packets

A feedback packet has, behind the common header, the SSRCs of its sender and of the media it is
about. The count of the common header is the message type. Most message types carry items of one
class: `FeedbackItem::Parse` checks that the header of an item is there and hands it to the
constructor, and the items packet advances by what the item says its size is. The size of a VBCM
item comes from its own length field, all others have the size of their header.

The loop for payload-specific feedback ends at the first item that is not correct, the one for
transport layer feedback does not ask.

An item keeps a pointer to its header; here it has the values that its getters return. The value of
a VBCM item, which follows its header, is read only later.
-/

namespace MediasoupSfu

namespace Rtcp

open Byte FeedbackRtpTransportPacket

/-! ## Message types -/

/-- `FeedbackPs::MessageType`. -/
inductive PsMessageType where
  | pli
  | sli
  | rpsi
  | fir
  | tstr
  | tstn
  | vbcm
  | pslei
  | roi
  | afb
  | ext
  deriving DecidableEq, Repr

/-- The enumerator with this value. -/
def PsMessageType.ofCount : ℕ → Option PsMessageType
  | 1 => some pli
  | 2 => some sli
  | 3 => some rpsi
  | 4 => some fir
  | 5 => some tstr
  | 6 => some tstn
  | 7 => some vbcm
  | 8 => some pslei
  | 9 => some roi
  | 15 => some afb
  | 31 => some ext
  | _ => none

/-- `FeedbackRtp::MessageType`. -/
inductive RtpMessageType where
  | nack
  | tmmbr
  | tmmbn
  | srReq
  | rams
  | tllei
  | ecn
  | ps
  | tcc
  | ext
  deriving DecidableEq, Repr

/-- The enumerator with this value. -/
def RtpMessageType.ofCount : ℕ → Option RtpMessageType
  | 1 => some nack
  | 3 => some tmmbr
  | 4 => some tmmbn
  | 5 => some srReq
  | 6 => some rams
  | 7 => some tllei
  | 8 => some ecn
  | 9 => some ps
  | 15 => some tcc
  | 31 => some ext
  | _ => none

/-! ## Items -/

/-- The classes of items. Both kinds of temporal-spatial trade-off have one class, and so have both
kinds of temporary maximum bit rate. -/
inductive ItemClass where
  | fir
  | sli
  | rpsi
  | tst
  | vbcm
  | lei
  | nack
  | tllei
  | tmmb
  | ecn
  deriving DecidableEq, Repr

/-- `sizeof(Item::Header)`. -/
def ItemClass.headerSize : ItemClass → ℕ
  | fir => 8
  | sli => 4
  | rpsi => 8
  | tst => 8
  | vbcm => 8
  | lei => 4
  | nack => 4
  | tllei => 4
  | tmmb => 8
  | ecn => 20

/-- An item of a feedback packet. -/
inductive FeedbackItem where
  | fir (ssrc : BitVec 32) (sequenceNumber : Byte)
  | sli (first number : BitVec 16) (pictureId : Byte)
  | rpsi (paddingBits payloadType : Byte) (bitString : List Byte) (length : BitVec 64)
    (isCorrect : Bool)
  | tst (ssrc : BitVec 32) (sequenceNumber index : Byte)
  | vbcm (ssrc : BitVec 32) (sequenceNumber payloadType : Byte) (length : BitVec 16)
  | lei (ssrc : BitVec 32)
  | nack (item : FeedbackRtpNackItem)
  | tllei (packetId lostPacketBitmask : BitVec 16)
  | tmmb (ssrc : BitVec 32) (bitrate : BitVec 64) (overhead : BitVec 16) (isCorrect : Bool)
  | ecn (sequenceNumber ect0Counter ect1Counter : BitVec 32)
    (ecnCeCounter notEctCounter lostPackets duplicatedPackets : BitVec 16)
  deriving DecidableEq, Repr

namespace FeedbackItem

/-- `GetSize()`. -/
def getSize : FeedbackItem → ℕ
  | fir _ _ => ItemClass.fir.headerSize
  | sli _ _ _ => ItemClass.sli.headerSize
  | rpsi _ _ _ _ _ => ItemClass.rpsi.headerSize
  | tst _ _ _ => ItemClass.tst.headerSize
  -- Consider padding to 32 bits (4 bytes) boundary.
  | vbcm _ _ _ length => (8 + length.toNat + 3) / 4 * 4
  | lei _ => ItemClass.lei.headerSize
  | nack _ => ItemClass.nack.headerSize
  | tllei _ _ => ItemClass.tllei.headerSize
  | tmmb _ _ _ _ => ItemClass.tmmb.headerSize
  | ecn _ _ _ _ _ _ _ => ItemClass.ecn.headerSize

/-- `IsCorrect()`. -/
def isCorrect : FeedbackItem → Bool
  | rpsi _ _ _ _ isCorrect => isCorrect
  | tmmb _ _ _ isCorrect => isCorrect
  | _ => true

/-- `FeedbackPsRpsiItem::maxBitStringSize`. -/
def maxBitStringSize : ℕ := 6

/-- `FeedbackPsSliItem(header)`. -/
def makeSli (data : List Byte) : Except Fault FeedbackItem := do
  let compact ← get4Bytes data 0
  return sli ((compact >>> 19).setWidth 16) (((compact >>> 6) &&& 0x1fff).setWidth 16)
    ((compact &&& 0x3f).setWidth 8)

/-- `FeedbackPsRpsiItem(header)`. The padding must be whole bytes, and no more than there are. -/
def makeRpsi (data : List Byte) : Except Fault FeedbackItem := do
  let paddingBits ← get1Byte data 0
  let b₁ ← get1Byte data 1
  let bitString := (data.drop 2).take maxBitStringSize
  let paddingBytes := paddingBits.toNat / 8
  let isCorrect := decide (paddingBits.toNat % 8 = 0) && decide (paddingBytes ≤ maxBitStringSize)
  return rpsi paddingBits (b₁ >>> 1) bitString
    (BitVec.ofNat 64 maxBitStringSize - BitVec.ofNat 64 paddingBytes) isCorrect

/-- `FeedbackRtpTmmbItem(data)`. The bit rate must fit into 64 bits. -/
def makeTmmb (data : List Byte) : Except Fault FeedbackItem := do
  let ssrc ← get4Bytes data 0
  -- Read the 4 bytes block.
  let compact ← get4Bytes data 4
  let exponent := (compact >>> 26).toNat
  let mantissa := ((compact >>> 9) &&& 0x1ffff).setWidth 64
  let bitrate := mantissa <<< exponent
  let isCorrect := decide (bitrate >>> exponent = mantissa)
  return tmmb ssrc bitrate ((compact &&& 0x1ff).setWidth 16) isCorrect

/-- `Item(header)`, where the header is at the front of the data. -/
def make (cls : ItemClass) (data : List Byte) : Except Fault FeedbackItem :=
  match cls with
  | .fir => do return fir (← get4Bytes data 0) (← get1Byte data 4)
  | .sli => makeSli data
  | .rpsi => makeRpsi data
  | .tst => do return tst (← get4Bytes data 0) (← get1Byte data 4) ((← get1Byte data 7) >>> 3)
  | .vbcm => do
    return vbcm (← get4Bytes data 0) (← get1Byte data 4) ((← get1Byte data 5) >>> 1)
      (← get2Bytes data 6)
  | .lei => do return lei (← get4Bytes data 0)
  | .nack => do return nack (.make (← get2Bytes data 0) (← get2Bytes data 2))
  | .tllei => do return tllei (← get2Bytes data 0) (← get2Bytes data 2)
  | .tmmb => makeTmmb data
  | .ecn => do
    return ecn (← get4Bytes data 0) (← get4Bytes data 4) (← get4Bytes data 8)
      (← get2Bytes data 12) (← get2Bytes data 14) (← get2Bytes data 16)
      (← get2Bytes data 18)

/-- `FeedbackItem::Parse<Item>(data, len)`. -/
def parse (cls : ItemClass) (data : List Byte) : Except Fault (Option FeedbackItem) :=
  -- data size must be >= header.
  if data.length < cls.headerSize then .ok none
  else do return some (← make cls data)

theorem getSize_pos (item : FeedbackItem) : 0 < item.getSize := by
  cases item with
  | vbcm ssrc sequenceNumber payloadType length =>
    rw [getSize]
    omega
  | fir | sli | rpsi | tst | lei | nack | tllei | tmmb | ecn => exact Nat.succ_pos _

end FeedbackItem

/-- The loop over the items. `keeps` tells the items at which it does not end. -/
def parseItems (cls : ItemClass) (keeps : FeedbackItem → Bool) (data : List Byte) :
    Except Fault (List FeedbackItem) :=
  if hdata : data = [] then .ok []
  else do
    match ← FeedbackItem.parse cls data with
    | none => return []
    | some item =>
      if keeps item then
        let items ← parseItems cls keeps (data.drop item.getSize)
        return item :: items
      else return []
  termination_by data.length
  decreasing_by
    have hitem := item.getSize_pos
    have hpos := List.length_pos_iff.mpr hdata
    rw [List.length_drop]
    omega

/-! ## Packets -/

/-- What a feedback packet has besides its headers. -/
inductive FeedbackBody where
  /-- `FeedbackPsPliPacket` and `FeedbackRtpSrReqPacket`. -/
  | bare
  /-- `FeedbackPsItemsPacket` and `FeedbackRtpItemsPacket`. -/
  | items (items : List FeedbackItem)
  /-- `FeedbackPsAfbPacket`. -/
  | afb (data : List Byte)
  /-- `FeedbackPsRembPacket`. -/
  | remb (bitrate : BitVec 64) (ssrcs : List (BitVec 32))
  /-- `FeedbackRtpTransportPacket`. -/
  | transport (packet : FeedbackRtpTransportPacket)
  deriving DecidableEq, Repr

/-- A feedback packet. -/
structure FeedbackPacket where
  messageType : ℕ
  senderSsrc : BitVec 32
  mediaSsrc : BitVec 32
  body : FeedbackBody
  deriving DecidableEq, Repr

/-- `FeedbackPsPliPacket::Parse(data, len)` and `FeedbackRtpSrReqPacket::Parse(data, len)`. -/
def parseBare (data : List Byte) : Except Fault (Option FeedbackBody) :=
  if data.length < feedbackHeaderSize then .ok none else .ok (some .bare)

/-- The common part of the two `Parse` for packets of items. -/
def parseItemsPacket (cls : ItemClass) (keeps : FeedbackItem → Bool) (data : List Byte) :
    Except Fault (Option FeedbackBody) :=
  if data.length < feedbackHeaderSize then .ok none
  else do
    let items ← parseItems cls keeps (data.drop feedbackHeaderSize)
    return some (.items items)

/-- `FeedbackPsItemsPacket<Item>::Parse(data, len)`. -/
def parsePsItemsPacket (cls : ItemClass) : List Byte → Except Fault (Option FeedbackBody) :=
  parseItemsPacket cls FeedbackItem.isCorrect

/-- `FeedbackRtpItemsPacket<Item>::Parse(data, len)`. -/
def parseRtpItemsPacket (cls : ItemClass) : List Byte → Except Fault (Option FeedbackBody) :=
  parseItemsPacket cls fun _ ↦ true

/-- `FeedbackPsRembPacket::uniqueIdentifier`. -/
def uniqueIdentifier : BitVec 32 := 0x52454D42

/-- The SSRCs of a REMB packet. -/
def parseRembSsrcs : ℕ → List Byte → Except Fault (List (BitVec 32))
  | 0, _ => .ok []
  | numSsrcs + 1, data => do
    let ssrc ← get4Bytes data 0
    let ssrcs ← parseRembSsrcs numSsrcs (data.drop 4)
    return ssrc :: ssrcs

/-- `FeedbackPsRembPacket::Parse(data, len)` with its constructor. -/
def parseRembPacket (data : List Byte) : Except Fault (Option FeedbackBody) :=
  -- Check that there is space for the REMB unique identifier and basic fields.
  if data.length < feedbackHeaderSize + 8 then .ok none
  else do
    let len ← announcedLength data
    if data.length < len then return none
    let numSsrcs ← get1Byte data (feedbackHeaderSize + 4)
    -- Ensure there is space for the announced number of SSRC feedbacks.
    if len ≠ feedbackHeaderSize + 8 + numSsrcs.toNat * 4 then return none
    -- Verify the "REMB" unique identifier.
    let identifier ← get4Bytes data feedbackHeaderSize
    if identifier ≠ uniqueIdentifier then return none
    let b₅ ← get1Byte data (feedbackHeaderSize + 5)
    let low ← get2Bytes data (feedbackHeaderSize + 6)
    let exponent := (b₅ >>> 2).toNat
    let mantissa := ((b₅ &&& (0x03 : Byte)).setWidth 32 <<< 16 ||| low.setWidth 32).setWidth 64
    let bitrate := mantissa <<< exponent
    if bitrate >>> exponent ≠ mantissa then return none
    let ssrcs ← parseRembSsrcs numSsrcs.toNat (data.drop (feedbackHeaderSize + 8))
    return some (.remb bitrate ssrcs)

/-- The unique identifier is there. -/
def isRemb (data : List Byte) : Except Fault Bool :=
  if data.length < feedbackHeaderSize + 4 then .ok false
  else do
    let identifier ← get4Bytes data feedbackHeaderSize
    return decide (identifier = uniqueIdentifier)

/-- `FeedbackPsAfbPacket::Parse(data, len)`. -/
def parseAfbPacket (data : List Byte) : Except Fault (Option FeedbackBody) :=
  if data.length < feedbackHeaderSize then .ok none
  else do
    if ← isRemb data then parseRembPacket data
    else
      let len ← announcedLength data
      return some (.afb ((data.drop feedbackHeaderSize).take (len - feedbackHeaderSize)))

/-- `FeedbackRtpTransportPacket::Parse(data, len)`. -/
def parseTransportPacket (data : List Byte) : Except Fault (Option FeedbackBody) := do
  let packet ← FeedbackRtpTransportPacket.parse data
  return packet.map .transport

/-- The packet of a message type, `header->count`, and a body. -/
def withHeaders (data : List Byte) (messageType : ℕ) (body : Option FeedbackBody) :
    Except Fault (Option FeedbackPacket) := do
  match body with
  | none => return none
  | some body =>
    let senderSsrc ← get4Bytes data 4
    let mediaSsrc ← get4Bytes data 8
    return some { messageType, senderSsrc, mediaSsrc, body }

/-- The packet of a message type. -/
def parsePsBody (data : List Byte) : Option PsMessageType → Except Fault (Option FeedbackBody)
  | some .pli => parseBare data
  | some .sli => parsePsItemsPacket .sli data
  | some .rpsi => parsePsItemsPacket .rpsi data
  | some .fir => parsePsItemsPacket .fir data
  | some .tstr => parsePsItemsPacket .tst data
  | some .tstn => parsePsItemsPacket .tst data
  | some .vbcm => parsePsItemsPacket .vbcm data
  | some .pslei => parsePsItemsPacket .lei data
  | some .afb => parseAfbPacket data
  | some .roi | some .ext | none => .ok none

/-- `FeedbackPsPacket::Parse(data, len)`. -/
def parseFeedbackPsPacket (data : List Byte) : Except Fault (Option FeedbackPacket) :=
  if data.length < feedbackHeaderSize then .ok none
  else do
    let messageType ← headerCount data
    let body ← parsePsBody data (PsMessageType.ofCount messageType)
    withHeaders data messageType body

/-- The packet of a message type. -/
def parseRtpBody (data : List Byte) : Option RtpMessageType → Except Fault (Option FeedbackBody)
  | some .nack => parseRtpItemsPacket .nack data
  | some .tmmbr => parseRtpItemsPacket .tmmb data
  | some .tmmbn => parseRtpItemsPacket .tmmb data
  | some .srReq => parseBare data
  | some .tllei => parseRtpItemsPacket .tllei data
  | some .ecn => parseRtpItemsPacket .ecn data
  | some .tcc => parseTransportPacket data
  | some .rams | some .ps | some .ext | none => .ok none

/-- `FeedbackRtpPacket::Parse(data, len)`. -/
def parseFeedbackRtpPacket (data : List Byte) : Except Fault (Option FeedbackPacket) :=
  if data.length < feedbackHeaderSize then .ok none
  else do
    let messageType ← headerCount data
    let body ← parseRtpBody data (RtpMessageType.ofCount messageType)
    withHeaders data messageType body

/-! ## Nothing is read outside -/

namespace FeedbackItem

/-- Constructors read the header of the item. -/
theorem make_returns {cls : ItemClass} {data : List Byte} (h : cls.headerSize ≤ data.length) :
    ∃ item, make cls data = .ok item := by
  cases cls with
  | fir =>
    have hsize : 8 ≤ data.length := h
    exact returns_bind (get4Bytes_of_lt data 0 (by omega)) fun _ ↦
      returns_bind (get1Byte_returns (by omega)) fun _ ↦ ⟨_, rfl⟩
  | sli =>
    have hsize : 4 ≤ data.length := h
    exact returns_bind (get4Bytes_of_lt data 0 (by omega)) fun _ ↦ ⟨_, rfl⟩
  | rpsi =>
    have hsize : 8 ≤ data.length := h
    exact returns_bind (get1Byte_returns (by omega)) fun _ ↦
      returns_bind (get1Byte_returns (by omega)) fun _ ↦ ⟨_, rfl⟩
  | tst =>
    have hsize : 8 ≤ data.length := h
    exact returns_bind (get4Bytes_of_lt data 0 (by omega)) fun _ ↦
      returns_bind (get1Byte_returns (by omega)) fun _ ↦
        returns_bind (get1Byte_returns (by omega)) fun _ ↦ ⟨_, rfl⟩
  | vbcm =>
    have hsize : 8 ≤ data.length := h
    exact returns_bind (get4Bytes_of_lt data 0 (by omega)) fun _ ↦
      returns_bind (get1Byte_returns (by omega)) fun _ ↦
        returns_bind (get1Byte_returns (by omega)) fun _ ↦
          returns_bind (get2Bytes_returns (by omega)) fun _ ↦ ⟨_, rfl⟩
  | lei =>
    have hsize : 4 ≤ data.length := h
    exact returns_bind (get4Bytes_of_lt data 0 (by omega)) fun _ ↦ ⟨_, rfl⟩
  | nack | tllei =>
    have hsize : 4 ≤ data.length := h
    exact returns_bind (get2Bytes_returns (by omega)) fun _ ↦
      returns_bind (get2Bytes_returns (by omega)) fun _ ↦ ⟨_, rfl⟩
  | tmmb =>
    have hsize : 8 ≤ data.length := h
    exact returns_bind (get4Bytes_of_lt data 0 (by omega)) fun _ ↦
      returns_bind (get4Bytes_of_lt data 4 (by omega)) fun _ ↦ ⟨_, rfl⟩
  | ecn =>
    have hsize : 20 ≤ data.length := h
    exact returns_bind (get4Bytes_of_lt data 0 (by omega)) fun _ ↦
      returns_bind (get4Bytes_of_lt data 4 (by omega)) fun _ ↦
        returns_bind (get4Bytes_of_lt data 8 (by omega)) fun _ ↦
          returns_bind (get2Bytes_returns (by omega)) fun _ ↦
            returns_bind (get2Bytes_returns (by omega)) fun _ ↦
              returns_bind (get2Bytes_returns (by omega)) fun _ ↦
                returns_bind (get2Bytes_returns (by omega)) fun _ ↦ ⟨_, rfl⟩

theorem parse_returns (cls : ItemClass) (data : List Byte) :
    ∃ item, parse cls data = .ok item := by
  rw [parse]
  split
  · exact ⟨_, rfl⟩
  · rename_i hsize
    exact returns_bind (make_returns (not_lt.mp hsize)) fun _ ↦ ⟨_, rfl⟩

end FeedbackItem

theorem parseItems_returns (cls : ItemClass) (keeps : FeedbackItem → Bool) (data : List Byte) :
    ∃ items, parseItems cls keeps data = .ok items := by
  induction data using parseItems.induct with
  | case1 =>
    rw [parseItems, dif_pos rfl]
    exact ⟨_, rfl⟩
  | case2 data hdata ih =>
    rw [parseItems, dif_neg hdata]
    refine returns_bind (FeedbackItem.parse_returns cls data) fun item ↦ ?_
    cases item with
    | none => exact ⟨_, rfl⟩
    | some item =>
      dsimp only
      split
      · exact returns_bind (ih item) fun _ ↦ ⟨_, rfl⟩
      · exact ⟨_, rfl⟩

theorem parseBare_returns (data : List Byte) : ∃ body, parseBare data = .ok body := by
  rw [parseBare]
  split <;> exact ⟨_, rfl⟩

theorem parseItemsPacket_returns (cls : ItemClass) (keeps : FeedbackItem → Bool)
    (data : List Byte) : ∃ body, parseItemsPacket cls keeps data = .ok body := by
  rw [parseItemsPacket]
  split
  · exact ⟨_, rfl⟩
  · exact returns_bind (parseItems_returns cls keeps _) fun _ ↦ ⟨_, rfl⟩

theorem parseRembSsrcs_returns {numSsrcs : ℕ} {data : List Byte}
    (h : numSsrcs * 4 ≤ data.length) : ∃ ssrcs, parseRembSsrcs numSsrcs data = .ok ssrcs := by
  induction numSsrcs generalizing data with
  | zero => exact ⟨_, rfl⟩
  | succ numSsrcs ih =>
    refine returns_bind (get4Bytes_of_lt data 0 (by omega)) fun _ ↦ ?_
    exact returns_bind (ih (by rw [List.length_drop]; omega)) fun _ ↦ ⟨_, rfl⟩

theorem announcedLength_returns {data : List Byte} (h : 4 ≤ data.length) :
    ∃ length, announcedLength data = .ok length :=
  returns_bind (get2Bytes_returns (by omega)) fun _ ↦ ⟨_, rfl⟩

/-- The SSRCs are read only if their number agrees with the length. -/
theorem parseRembPacket_returns (data : List Byte) : ∃ body, parseRembPacket data = .ok body := by
  rw [parseRembPacket]
  split
  · exact ⟨_, rfl⟩
  rename_i hshort
  have hsize : 20 ≤ data.length := not_lt.mp hshort
  refine returns_bind (announcedLength_returns (by omega)) fun len ↦ ?_
  by_cases hlen : data.length < len
  · rw [if_pos hlen]
    exact ⟨_, rfl⟩
  rw [if_neg hlen]
  refine returns_bind (get1Byte_returns (show 16 < _ by omega)) fun numSsrcs ↦ ?_
  by_cases hnum : len = feedbackHeaderSize + 8 + numSsrcs.toNat * 4
  · rw [if_neg (not_not.mpr hnum)]
    have hssrcs : numSsrcs.toNat * 4 ≤ (data.drop (feedbackHeaderSize + 8)).length := by
      rw [List.length_drop]
      omega
    refine returns_bind (get4Bytes_of_lt data 12 (by omega)) fun identifier ↦ ?_
    split
    · exact ⟨_, rfl⟩
    refine returns_bind (get1Byte_returns (show 17 < _ by omega)) fun b₅ ↦ ?_
    refine returns_bind (get2Bytes_returns (show 18 + 1 < _ by omega)) fun low ↦ ?_
    dsimp only
    split
    · exact ⟨_, rfl⟩
    · exact returns_bind (parseRembSsrcs_returns hssrcs) fun _ ↦ ⟨_, rfl⟩
  · rw [if_pos hnum]
    exact ⟨_, rfl⟩

theorem isRemb_returns (data : List Byte) : ∃ b, isRemb data = .ok b := by
  rw [isRemb]
  split
  · exact ⟨_, rfl⟩
  · rename_i hshort
    have hsize : 16 ≤ data.length := not_lt.mp hshort
    exact returns_bind (get4Bytes_of_lt data 12 (by omega)) fun _ ↦ ⟨_, rfl⟩

theorem parseAfbPacket_returns (data : List Byte) : ∃ body, parseAfbPacket data = .ok body := by
  rw [parseAfbPacket]
  split
  · exact ⟨_, rfl⟩
  · rename_i hshort
    have hsize : 12 ≤ data.length := not_lt.mp hshort
    refine returns_bind (isRemb_returns data) fun remb ↦ ?_
    cases remb with
    | true => exact parseRembPacket_returns data
    | false => exact returns_bind (announcedLength_returns (by omega)) fun _ ↦ ⟨_, rfl⟩

theorem withHeaders_returns {data : List Byte} (h : 12 ≤ data.length) (messageType : ℕ)
    (body : Option FeedbackBody) : ∃ packet, withHeaders data messageType body = .ok packet := by
  cases body with
  | none => exact ⟨_, rfl⟩
  | some body =>
    exact returns_bind (get4Bytes_of_lt data 4 (by omega)) fun _ ↦
      returns_bind (get4Bytes_of_lt data 8 (by omega)) fun _ ↦ ⟨_, rfl⟩

theorem headerCount_returns {data : List Byte} (h : data ≠ []) :
    ∃ count, headerCount data = .ok count :=
  returns_bind (get1Byte_returns (List.length_pos_iff.mpr h)) fun _ ↦ ⟨_, rfl⟩

theorem parsePsBody_returns (data : List Byte) (type : Option PsMessageType) :
    ∃ body, parsePsBody data type = .ok body := by
  match type with
  | some .pli => exact parseBare_returns data
  | some .sli => exact parseItemsPacket_returns .sli _ data
  | some .rpsi => exact parseItemsPacket_returns .rpsi _ data
  | some .fir => exact parseItemsPacket_returns .fir _ data
  | some .tstr | some .tstn => exact parseItemsPacket_returns .tst _ data
  | some .vbcm => exact parseItemsPacket_returns .vbcm _ data
  | some .pslei => exact parseItemsPacket_returns .lei _ data
  | some .afb => exact parseAfbPacket_returns data
  | some .roi | some .ext | none => exact ⟨_, rfl⟩

theorem parseFeedbackPsPacket_returns (data : List Byte) :
    ∃ packet, parseFeedbackPsPacket data = .ok packet := by
  rw [parseFeedbackPsPacket]
  split
  · exact ⟨_, rfl⟩
  · rename_i hshort
    have hsize : 12 ≤ data.length := not_lt.mp hshort
    have hdata : data ≠ [] := List.length_pos_iff.mp (by omega)
    refine returns_bind (headerCount_returns hdata) fun messageType ↦ ?_
    exact returns_bind (parsePsBody_returns data _) fun body ↦
      withHeaders_returns hsize messageType body

/-- The transport-wide feedback relies on the announced length. -/
theorem parseRtpBody_returns {data : List Byte} (hlen : announcedLength data = .ok data.length)
    (type : Option RtpMessageType) : ∃ body, parseRtpBody data type = .ok body := by
  match type with
  | some .nack => exact parseItemsPacket_returns .nack _ data
  | some .tmmbr | some .tmmbn => exact parseItemsPacket_returns .tmmb _ data
  | some .srReq => exact parseBare_returns data
  | some .tllei => exact parseItemsPacket_returns .tllei _ data
  | some .ecn => exact parseItemsPacket_returns .ecn _ data
  | some .tcc => exact returns_bind (parse_returns hlen) fun _ ↦ ⟨_, rfl⟩
  | some .rams | some .ps | some .ext | none => exact ⟨_, rfl⟩

theorem parseFeedbackRtpPacket_returns {data : List Byte}
    (hlen : announcedLength data = .ok data.length) :
    ∃ packet, parseFeedbackRtpPacket data = .ok packet := by
  rw [parseFeedbackRtpPacket]
  split
  · exact ⟨_, rfl⟩
  · rename_i hshort
    have hsize : 12 ≤ data.length := not_lt.mp hshort
    have hdata : data ≠ [] := List.length_pos_iff.mp (by omega)
    refine returns_bind (headerCount_returns hdata) fun messageType ↦ ?_
    exact returns_bind (parseRtpBody_returns hlen _) fun body ↦
      withHeaders_returns hsize messageType body

end Rtcp

end MediasoupSfu
