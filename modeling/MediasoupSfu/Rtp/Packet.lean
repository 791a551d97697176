import Mathlib.Logic.Function.Basic
import MediasoupSfu.Library.Memory
import MediasoupSfu.Utils.Byte

/-!
# RTP packets

An `RtpPacket` is a view of a buffer that it does not own: a pointer to the header, pointers to the
header extension, to its elements and to the payload, and the sizes of the payload, of the padding
and of the whole packet. The setters write through the header pointer, the other operations move
bytes around in the buffer and correct the pointers.

The header is a struct with bit fields, so it is modelled as one; the memory behind it, up to the
end of the buffer, is the `body`, and every other pointer is an offset in the body. The payload
descriptor of the codec is not part of the model.

`Formed` says how the pointers and sizes of a packet fit together. `Parse` only hands out packets
of that form.
-/

namespace MediasoupSfu

open Memory

/-- `RtpPacket::Header`, with the widths of its bit fields. -/
structure RtpHeader where
  version : BitVec 2
  padding : Bool
  extension : Bool
  csrcCount : BitVec 4
  marker : Bool
  payloadType : BitVec 7
  sequenceNumber : BitVec 16
  timestamp : BitVec 32
  ssrc : BitVec 32
  deriving DecidableEq, Repr

namespace RtpHeader

/-- `sizeof(Header)`. -/
def bytes : ℕ := 12

/-- The header at the start of a buffer. -/
def read (data : List Byte) : Except Fault RtpHeader := do
  let b₀ ← Byte.get1Byte data 0
  let b₁ ← Byte.get1Byte data 1
  let sequenceNumber ← Byte.get2Bytes data 2
  let timestamp ← Byte.get4Bytes data 4
  let ssrc ← Byte.get4Bytes data 8
  return {
    version := (b₀ >>> 6).setWidth 2
    padding := b₀.getLsbD 5
    extension := b₀.getLsbD 4
    csrcCount := b₀.setWidth 4
    marker := b₁.getLsbD 7
    payloadType := b₁.setWidth 7
    sequenceNumber := sequenceNumber
    timestamp := timestamp
    ssrc := ssrc }

/-- `csrcCount * sizeof(ssrc)`. -/
def csrcListSize (header : RtpHeader) : ℕ := header.csrcCount.toNat * 4

end RtpHeader

/-- The ids that tell which header extension element is which. -/
structure ExtensionIds where
  midExtensionId : Byte := 0
  ridExtensionId : Byte := 0
  rridExtensionId : Byte := 0
  absSendTimeExtensionId : Byte := 0
  transportWideCc01ExtensionId : Byte := 0
  frameMarking07ExtensionId : Byte := 0
  frameMarkingExtensionId : Byte := 0
  ssrcAudioLevelExtensionId : Byte := 0
  videoOrientationExtensionId : Byte := 0
  deriving DecidableEq, Repr

/-- A `std::map` from extension ids to pointers. -/
abbrev ExtensionMap := Byte → Option ℕ

/-- The members of `RtpPacket`. -/
structure RtpPacket where
  header : RtpHeader
  /-- The memory behind the header, to the end of the buffer. -/
  body : List Byte
  /-- The list starts right behind the header, so what is left of the pointer is `csrcList !=
  nullptr`. -/
  csrcList : Bool
  headerExtension : Option ℕ
  mapOneByteExtensions : ExtensionMap := fun _ ↦ none
  mapTwoBytesExtensions : ExtensionMap := fun _ ↦ none
  ids : ExtensionIds := {}
  payload : ℕ
  payloadLength : ℕ
  payloadPadding : Byte
  /-- Full size of the packet in bytes. -/
  size : ℕ

/-! ## Checked access to the body -/

/-- `std::memcpy` or an assignment through a pointer. -/
def writeBytes (body : List Byte) (ptr : ℕ) (value : List Byte) : Except Fault (List Byte) :=
  if ptr + value.length ≤ body.length then .ok (splice body ptr value) else .error .outOfBounds

/-- `std::memmove` within the body. -/
def moveBytes (body : List Byte) (dst src len : ℕ) : Except Fault (List Byte) :=
  if len = 0 then .ok body
  else if src + len ≤ body.length ∧ dst + len ≤ body.length then .ok (move body dst src len)
  else .error .outOfBounds

/-- The 16-bit field at an offset of the body. -/
def fieldAt (body : List Byte) (ptr : ℕ) : BitVec 16 :=
  Byte.join2 (body.getD ptr 0) (body.getD (ptr + 1) 0)

theorem writeBytes_eq_ok {body value : List Byte} {ptr : ℕ}
    (h : ptr + value.length ≤ body.length) :
    writeBytes body ptr value = .ok (splice body ptr value) := if_pos h

theorem of_writeBytes {body body' value : List Byte} {ptr : ℕ}
    (h : writeBytes body ptr value = .ok body') :
    ptr + value.length ≤ body.length ∧ body' = splice body ptr value := by
  unfold writeBytes at h
  split at h
  · exact ⟨‹_›, (Except.ok.inj h).symm⟩
  · cases h

theorem moveBytes_eq_ok {body : List Byte} {dst src len : ℕ} (hsrc : src + len ≤ body.length)
    (hdst : dst + len ≤ body.length) :
    moveBytes body dst src len = .ok (move body dst src len) := by
  unfold moveBytes
  split
  · rename_i hzero
    rw [hzero, move_zero]
  · exact if_pos ⟨hsrc, hdst⟩

theorem length_of_moveBytes {body body' : List Byte} {dst src len : ℕ}
    (h : moveBytes body dst src len = .ok body') : body'.length = body.length := by
  unfold moveBytes at h
  split at h
  · cases h
    rfl
  · split at h
    · rename_i hin
      cases h
      exact length_move hin.1 hin.2
    · cases h

/-- A field is determined by its two bytes. -/
theorem fieldAt_congr {body body' : List Byte} {ptr ptr' : ℕ}
    (h : slice body ptr 2 = slice body' ptr' 2) : fieldAt body ptr = fieldAt body' ptr' := by
  have hcell : ∀ j < 2, body[ptr + j]? = body'[ptr' + j]? := by
    intro j hj
    have := congrArg (fun l : List Byte ↦ l[j]?) h
    simpa only [getElem?_slice, if_pos hj] using this
  have h₀ := hcell 0 (by omega)
  have h₁ := hcell 1 (by omega)
  rw [Nat.add_zero, Nat.add_zero] at h₀
  simp only [fieldAt, List.getD_eq_getElem?_getD, h₀, h₁]

theorem fieldAt_splice_self {body : List Byte} {ptr : ℕ} (h : ptr + 2 ≤ body.length)
    (value : BitVec 16) : fieldAt (splice body ptr (Byte.set2Bytes value)) ptr = value := by
  have h₀ := getElem?_splice_inside (m := body) (v := Byte.set2Bytes value) (i := ptr) (j := 0) h
    Nat.two_pos
  have h₁ := getElem?_splice_inside (m := body) (v := Byte.set2Bytes value) (i := ptr) (j := 1) h
    Nat.one_lt_two
  rw [Nat.add_zero] at h₀
  simp only [fieldAt, List.getD_eq_getElem?_getD, h₀, h₁]
  exact Byte.join2_set2Bytes value

theorem fieldAt_splice_before {body value : List Byte} {ptr i : ℕ}
    (h : i + value.length ≤ body.length) (hptr : ptr + 2 ≤ i) :
    fieldAt (splice body i value) ptr = fieldAt body ptr :=
  fieldAt_congr (slice_splice_before h hptr)

namespace RtpPacket

/-! ## Getters and setters -/

/-- `GetPayloadType()`. -/
def getPayloadType (p : RtpPacket) : Byte := p.header.payloadType.setWidth 8

/-- `SetPayloadType(payloadType)`: the field keeps seven bits. -/
def setPayloadType (p : RtpPacket) (payloadType : Byte) : RtpPacket :=
  { p with header := { p.header with payloadType := payloadType.setWidth 7 } }

/-- `SetPayloadPaddingFlag(flag)`. -/
def setPayloadPaddingFlag (p : RtpPacket) (flag : Bool) : RtpPacket :=
  { p with header := { p.header with padding := flag } }

/-- `GetSequenceNumber()`. -/
def getSequenceNumber (p : RtpPacket) : BitVec 16 := p.header.sequenceNumber

/-- `SetSequenceNumber(seq)`. -/
def setSequenceNumber (p : RtpPacket) (seq : BitVec 16) : RtpPacket :=
  { p with header := { p.header with sequenceNumber := seq } }

/-- `GetTimestamp()`. -/
def getTimestamp (p : RtpPacket) : BitVec 32 := p.header.timestamp

/-- `SetTimestamp(timestamp)`. -/
def setTimestamp (p : RtpPacket) (timestamp : BitVec 32) : RtpPacket :=
  { p with header := { p.header with timestamp := timestamp } }

/-- `GetSsrc()`. -/
def getSsrc (p : RtpPacket) : BitVec 32 := p.header.ssrc

/-- `SetSsrc(ssrc)`. -/
def setSsrc (p : RtpPacket) (ssrc : BitVec 32) : RtpPacket :=
  { p with header := { p.header with ssrc := ssrc } }

/-- `GetHeaderExtensionId()`. -/
def getHeaderExtensionId (p : RtpPacket) : BitVec 16 :=
  match p.headerExtension with
  | none => 0
  | some headerExtension => fieldAt p.body headerExtension

/-- `GetHeaderExtensionLength()`: the length of the value in bytes. -/
def getHeaderExtensionLength (p : RtpPacket) : ℕ :=
  match p.headerExtension with
  | none => 0
  | some headerExtension => (fieldAt p.body (headerExtension + 2)).toNat * 4

/-- `HasOneByteExtensions()`. -/
def hasOneByteExtensions (p : RtpPacket) : Bool := decide (p.getHeaderExtensionId = 0xBEDE)

/-- `HasTwoBytesExtensions()`. -/
def hasTwoBytesExtensions (p : RtpPacket) : Bool :=
  decide (p.getHeaderExtensionId &&& 0b1111111111110000 = 0b0001000000000000)

/-! ## The elements of the header extension -/

/-- The inner loop of `ParseExtensions`: skip padding bytes. -/
def skipPadding (body : List Byte) (extensionEnd ptr : ℕ) : ℕ :=
  ptr + ((slice body ptr (extensionEnd - ptr)).takeWhile (· = 0)).length

theorem le_skipPadding (body : List Byte) (extensionEnd ptr : ℕ) :
    ptr ≤ skipPadding body extensionEnd ptr := Nat.le_add_right ptr _

/-- The loop of `ParseExtensions` for the one-byte form. -/
def parseOneByteExtensions (body : List Byte) (extensionEnd ptr : ℕ) (map : ExtensionMap) :
    Except Fault ExtensionMap :=
  if _h : ptr < extensionEnd then do
    let b ← Byte.get1Byte body ptr
    let id := (b &&& 0xF0) >>> 4
    let len := (b &&& 0x0F).toNat + 1
    -- id=15 in One-Byte extensions means "stop parsing here".
    if id = 15 then return map
    else if id ≠ 0 then
      if extensionEnd < ptr + 1 + len then return map
      else
        let next := skipPadding body extensionEnd (ptr + (1 + len))
        parseOneByteExtensions body extensionEnd next (Function.update map id (some ptr))
    -- id=0 means alignment.
    else
      let next := skipPadding body extensionEnd (ptr + 1)
      parseOneByteExtensions body extensionEnd next map
  else .ok map
termination_by extensionEnd - ptr
decreasing_by
  · have := le_skipPadding body extensionEnd (ptr + (1 + ((b &&& 0x0F).toNat + 1)))
    omega
  · have := le_skipPadding body extensionEnd (ptr + 1)
    omega

/-- The loop of `ParseExtensions` for the two-bytes form. -/
def parseTwoBytesExtensions (body : List Byte) (extensionEnd ptr : ℕ) (map : ExtensionMap) :
    Except Fault ExtensionMap :=
  if _h : ptr + 1 < extensionEnd then do
    let id ← Byte.get1Byte body ptr
    let len ← Byte.get1Byte body (ptr + 1)
    if id ≠ 0 then
      if extensionEnd < ptr + 2 + len.toNat then return map
      else
        let next := skipPadding body extensionEnd (ptr + (2 + len.toNat))
        parseTwoBytesExtensions body extensionEnd next (Function.update map id (some ptr))
    -- id=0 means alignment.
    else
      let next := skipPadding body extensionEnd (ptr + 1)
      parseTwoBytesExtensions body extensionEnd next map
  else .ok map
termination_by extensionEnd - ptr
decreasing_by
  · have := le_skipPadding body extensionEnd (ptr + (2 + len.toNat))
    omega
  · have := le_skipPadding body extensionEnd (ptr + 1)
    omega

/-- `ParseExtensions()`. -/
def parseExtensions (p : RtpPacket) : Except Fault RtpPacket :=
  match p.headerExtension with
  | none => .ok p
  | some headerExtension =>
    let extensionStart := headerExtension + 4
    let extensionEnd := extensionStart + p.getHeaderExtensionLength
    if p.hasOneByteExtensions then do
      let map ← parseOneByteExtensions p.body extensionEnd extensionStart fun _ ↦ none
      return { p with mapOneByteExtensions := map }
    else if p.hasTwoBytesExtensions then do
      let map ← parseTwoBytesExtensions p.body extensionEnd extensionStart fun _ ↦ none
      return { p with mapTwoBytesExtensions := map }
    else .ok p

/-! ## Parsing -/

/-- `IsRtp(data, len)`. -/
def isRtp (data : List Byte) (len : ℕ) : Except Fault Bool :=
  if RtpHeader.bytes ≤ len then do
    let b ← Byte.get1Byte data 0
    let header ← RtpHeader.read data
    return decide (127 < b) && decide (b < 192) && decide (header.version = 2)
  else .ok false

/-- The part of `Parse` that checks the header extension: where it is and where the payload starts,
or `none` if the packet is discarded. -/
def parseHeaderExtension (header : RtpHeader) (body : List Byte) (len ptr : ℕ) :
    Except Fault (Option (Option ℕ × ℕ)) :=
  if header.extension then
    -- The header extension is at least 4 bytes.
    if len < RtpHeader.bytes + ptr + 4 then .ok none
    else do
      let length ← Byte.get2Bytes body (ptr + 2)
      let extensionValueSize := length.toNat * 4
      if len < RtpHeader.bytes + ptr + 4 + extensionValueSize then return none
      else return some (some ptr, ptr + (4 + extensionValueSize))
  else .ok (some (none, ptr))

/-- The part of `Parse` that checks the padding field: the number of padding bytes, or `none` if the
packet is discarded. -/
def parsePadding (header : RtpHeader) (data : List Byte) (len payloadLength : ℕ) :
    Except Fault (Option Byte) :=
  if header.padding then
    -- Must be at least a single payload byte.
    if payloadLength = 0 then .ok none
    else do
      let payloadPadding ← Byte.get1Byte data (len - 1)
      if payloadPadding = 0 then return none
      else if payloadLength < payloadPadding.toNat then return none
      else return some payloadPadding
  else .ok (some 0)

/-- The bytes between the CSRC list and the payload. -/
def extensionSize (p : RtpPacket) : ℕ :=
  if p.headerExtension.isSome then 4 + p.getHeaderExtensionLength else 0

/-- The members that the constructor of `RtpPacket` sets before it calls `ParseExtensions`. -/
def view (header : RtpHeader) (body : List Byte) (headerExtension : Option ℕ)
    (payload payloadLength : ℕ) (payloadPadding : Byte) (size : ℕ) : RtpPacket where
  header := header
  body := body
  csrcList := decide (header.csrcCount ≠ 0)
  headerExtension := headerExtension
  payload := payload
  payloadLength := payloadLength
  payloadPadding := payloadPadding
  size := size

/-- `Parse(data, len)` in a buffer that may be longer than the packet. -/
def parse (data : List Byte) (len : ℕ) : Except Fault (Option RtpPacket) := do
  if ¬(← isRtp data len) then return none
  else
    let header ← RtpHeader.read data
    let body := data.drop RtpHeader.bytes
    -- Packet size must be >= header size + CSRC list.
    if header.csrcCount ≠ 0 ∧ len < RtpHeader.bytes + header.csrcListSize then return none
    else match ← parseHeaderExtension header body len header.csrcListSize with
      | none => return none
      | some (headerExtension, payload) =>
        msAssert (decide (RtpHeader.bytes + payload ≤ len)) "payload has negative size"
        let payloadLength := len - (RtpHeader.bytes + payload)
        match ← parsePadding header data len payloadLength with
        | none => return none
        | some payloadPadding =>
          let packet := view header body headerExtension payload
            (payloadLength - payloadPadding.toNat) payloadPadding len
          msAssert (decide (len = RtpHeader.bytes + header.csrcListSize + packet.extensionSize +
            packet.payloadLength + payloadPadding.toNat))
            "packet's computed size does not match received size"
          let packet ← packet.parseExtensions
          return some packet

/-! ## Well-formed packets -/

/-- How the pointers and sizes of a packet fit together. -/
structure Formed (p : RtpPacket) : Prop where
  csrcList : p.csrcList = decide (p.header.csrcCount ≠ 0)
  headerExtension : p.headerExtension =
    if p.header.extension then some p.header.csrcListSize else none
  payload : p.payload = p.header.csrcListSize + p.extensionSize
  padding : p.header.padding = decide (p.payloadPadding ≠ 0)
  size : p.size = RtpHeader.bytes + p.payload + p.payloadLength + p.payloadPadding.toNat
  fits : p.size ≤ RtpHeader.bytes + p.body.length

theorem get2Bytes_of_lt {data : List Byte} {i : ℕ} (h : i + 1 < data.length) :
    Byte.get2Bytes data i = .ok (fieldAt data i) := by
  rw [Byte.get2Bytes, get1Byte_of_lt (by omega), get1Byte_of_lt h]
  rfl

theorem read_of_le {data : List Byte} (h : RtpHeader.bytes ≤ data.length) :
    ∃ header, RtpHeader.read data = .ok header := by
  have hbytes : RtpHeader.bytes = 12 := rfl
  obtain ⟨timestamp, htimestamp⟩ := get4Bytes_of_lt data 4 (by omega)
  obtain ⟨ssrc, hssrc⟩ := get4Bytes_of_lt data 8 (by omega)
  rw [RtpHeader.read, get1Byte_of_lt (by omega), get1Byte_of_lt (by omega),
    get2Bytes_of_lt (by omega), htimestamp, hssrc]
  exact ⟨_, rfl⟩

theorem parseOneByteExtensions_returns {body : List Byte} {extensionEnd : ℕ}
    (h : extensionEnd ≤ body.length) (ptr : ℕ) (map : ExtensionMap) :
    ∃ map', parseOneByteExtensions body extensionEnd ptr map = .ok map' := by
  induction ptr, map using parseOneByteExtensions.induct body extensionEnd with
  | case1 ptr map hlt ih₁ ih₂ =>
    rw [parseOneByteExtensions, dif_pos hlt, get1Byte_of_lt (by omega)]
    simp only [bind, Except.bind]
    split
    · exact ⟨_, rfl⟩
    · split
      · split
        · exact ⟨_, rfl⟩
        · exact ih₁ _
      · exact ih₂
  | case2 ptr map hge => exact ⟨map, by rw [parseOneByteExtensions, dif_neg hge]⟩

theorem parseTwoBytesExtensions_returns {body : List Byte} {extensionEnd : ℕ}
    (h : extensionEnd ≤ body.length) (ptr : ℕ) (map : ExtensionMap) :
    ∃ map', parseTwoBytesExtensions body extensionEnd ptr map = .ok map' := by
  induction ptr, map using parseTwoBytesExtensions.induct body extensionEnd with
  | case1 ptr map hlt ih₁ ih₂ =>
    rw [parseTwoBytesExtensions, dif_pos hlt, get1Byte_of_lt (by omega), get1Byte_of_lt (by omega)]
    simp only [bind, Except.bind]
    split
    · split
      · exact ⟨_, rfl⟩
      · exact ih₁ _ _
    · exact ih₂
  | case2 ptr map hge => exact ⟨map, by rw [parseTwoBytesExtensions, dif_neg hge]⟩

/-- `ParseExtensions` reads inside the header extension and only fills the maps. -/
theorem parseExtensions_spec {p : RtpPacket}
    (h : ∀ ptr, p.headerExtension = some ptr →
      ptr + 4 + p.getHeaderExtensionLength ≤ p.body.length) :
    ∃ one two, p.parseExtensions = .ok
      { p with mapOneByteExtensions := one, mapTwoBytesExtensions := two } := by
  unfold parseExtensions
  split
  · exact ⟨_, _, rfl⟩
  · rename_i ptr hptr
    dsimp only
    split
    · obtain ⟨map, hmap⟩ := parseOneByteExtensions_returns (h ptr hptr) (ptr + 4) fun _ ↦ none
      rw [hmap]
      exact ⟨map, _, rfl⟩
    · split
      · obtain ⟨map, hmap⟩ := parseTwoBytesExtensions_returns (h ptr hptr) (ptr + 4) fun _ ↦ none
        rw [hmap]
        exact ⟨_, map, rfl⟩
      · exact ⟨_, _, rfl⟩

/-- The maps do not matter for the form of a packet. -/
theorem Formed.congr {p : RtpPacket} (h : p.Formed) (one two : ExtensionMap) (ids : ExtensionIds) :
    Formed { p with mapOneByteExtensions := one, mapTwoBytesExtensions := two, ids := ids } :=
  ⟨h.csrcList, h.headerExtension, h.payload, h.padding, h.size, h.fits⟩

theorem Formed.parseExtensions {p : RtpPacket} (h : p.Formed) :
    ∃ one two, p.parseExtensions = .ok
      { p with mapOneByteExtensions := one, mapTwoBytesExtensions := two } := by
  apply parseExtensions_spec
  intro ptr hptr
  have hsize := h.size
  have hfits := h.fits
  have hpayload := h.payload
  have hext := h.headerExtension
  rw [hptr] at hext
  have hstart : p.header.csrcListSize = ptr := by
    split at hext
    · exact (Option.some.inj hext).symm
    · cases hext
  rw [extensionSize, hptr, Option.isSome_some, if_pos rfl] at hpayload
  omega

theorem extensionSize_view (header : RtpHeader) (body : List Byte) (payload payloadLength : ℕ)
    (payloadPadding : Byte) (size : ℕ) :
    (view header body (if header.extension then some header.csrcListSize else none) payload
      payloadLength payloadPadding size).extensionSize
      = if header.extension then 4 + (fieldAt body (header.csrcListSize + 2)).toNat * 4 else 0 := by
  unfold view extensionSize getHeaderExtensionLength
  cases header.extension <;> rfl

/-- The constructor makes a well-formed packet of pointers and sizes that fit. -/
theorem formed_view {header : RtpHeader} {body : List Byte} {payload payloadLength size : ℕ}
    {payloadPadding : Byte} (hpayload : payload = header.csrcListSize +
      if header.extension then 4 + (fieldAt body (header.csrcListSize + 2)).toNat * 4 else 0)
    (hpadding : header.padding = decide (payloadPadding ≠ 0))
    (hsize : size = RtpHeader.bytes + payload + payloadLength + payloadPadding.toNat)
    (hfits : size ≤ RtpHeader.bytes + body.length) :
    (view header body (if header.extension then some header.csrcListSize else none) payload
      payloadLength payloadPadding size).Formed where
  csrcList := rfl
  headerExtension := rfl
  payload := by rw [extensionSize_view]; exact hpayload
  padding := hpadding
  size := hsize
  fits := hfits

/-- What the check of the header extension establishes. -/
theorem parseHeaderExtension_spec (header : RtpHeader) {body : List Byte} {len ptr : ℕ}
    (hptr : RtpHeader.bytes + ptr ≤ len) (hlen : len ≤ RtpHeader.bytes + body.length) :
    parseHeaderExtension header body len ptr = .ok none ∨
    ∃ payload, RtpHeader.bytes + payload ≤ len ∧
      parseHeaderExtension header body len ptr
        = .ok (some (if header.extension then some ptr else none, payload)) ∧
      payload = ptr +
        if header.extension then 4 + (fieldAt body (ptr + 2)).toNat * 4 else 0 := by
  unfold parseHeaderExtension
  cases header.extension with
  | false => exact Or.inr ⟨ptr, hptr, rfl, rfl⟩
  | true =>
    simp only [if_true]
    split
    · exact Or.inl rfl
    · rw [get2Bytes_of_lt (by omega)]
      simp only [bind, Except.bind]
      split
      · exact Or.inl rfl
      · exact Or.inr ⟨_, by omega, rfl, rfl⟩

/-- What the check of the padding establishes. -/
theorem parsePadding_spec (header : RtpHeader) {data : List Byte} {len payloadLength : ℕ}
    (hlen : len ≤ data.length) (hlength : payloadLength ≤ len) :
    parsePadding header data len payloadLength = .ok none ∨
    ∃ payloadPadding : Byte, parsePadding header data len payloadLength =
      .ok (some payloadPadding) ∧
      payloadPadding.toNat ≤ payloadLength ∧ header.padding = decide (payloadPadding ≠ 0) := by
  unfold parsePadding
  cases header.padding with
  | false => exact Or.inr ⟨0, rfl, Nat.zero_le _, by simp⟩
  | true =>
    simp only [if_true]
    split
    · exact Or.inl rfl
    · rw [get1Byte_of_lt (by omega)]
      simp only [bind, Except.bind]
      split
      · exact Or.inl rfl
      · split
        · exact Or.inl rfl
        · exact Or.inr ⟨_, rfl, by omega, (decide_eq_true ‹_›).symm⟩

/-- **Parsing** returns on every buffer, and the packets that it accepts are well formed. -/
theorem parse_spec (data : List Byte) {len : ℕ} (hlen : len ≤ data.length) :
    ∃ result, parse data len = .ok result ∧ ∀ p, result = some p →
      p.Formed ∧ p.size = len ∧ p.body = data.drop RtpHeader.bytes := by
  have hrejected : ∃ result : Option RtpPacket, Except.ok none =
      (Except.ok result : Except Fault _) ∧
      ∀ p, result = some p → p.Formed ∧ p.size = len ∧ p.body = data.drop RtpHeader.bytes :=
    ⟨none, rfl, fun p hp ↦ by cases hp⟩
  unfold parse
  by_cases hbytes : RtpHeader.bytes ≤ len
  · have htwelve : RtpHeader.bytes = 12 := rfl
    obtain ⟨header, hheader⟩ := read_of_le (hbytes.trans hlen)
    rw [isRtp, if_pos hbytes, get1Byte_of_lt (by omega), hheader]
    simp only [bind, Except.bind, pure, Except.pure]
    split
    · exact hrejected
    split
    · exact hrejected
    rename_i hcsrc
    have hptr : RtpHeader.bytes + header.csrcListSize ≤ len := by
      by_cases hzero : header.csrcCount = 0
      · rw [RtpHeader.csrcListSize, hzero]
        exact hbytes
      · exact Nat.le_of_not_lt fun hlt ↦ hcsrc ⟨hzero, hlt⟩
    have hbody : len ≤ RtpHeader.bytes + (data.drop RtpHeader.bytes).length := by
      rw [List.length_drop]
      omega
    rcases parseHeaderExtension_spec header hptr hbody with
      hext | ⟨payload, hpayload, hext, hvalue⟩
    · rw [hext]
      exact hrejected
    rw [hext]
    simp only [decide_eq_true hpayload, msAssert_true]
    rcases parsePadding_spec header hlen (Nat.sub_le len (RtpHeader.bytes + payload)) with
      hpad | ⟨payloadPadding, hpad, hle, hflag⟩
    · rw [hpad]
      exact hrejected
    rw [hpad]
    have hformed : (view header (data.drop RtpHeader.bytes) (if header.extension then
        some header.csrcListSize else none) payload (len - (RtpHeader.bytes + payload) -
        payloadPadding.toNat) payloadPadding len).Formed :=
      formed_view hvalue hflag (by omega) hbody
    dsimp only
    generalize hp : view header _ _ _ _ _ _ = p at hformed ⊢
    have hcomputed : len = RtpHeader.bytes + header.csrcListSize + p.extensionSize +
        p.payloadLength + payloadPadding.toNat := by
      have hsize := hformed.size
      rw [hformed.payload, ← Nat.add_assoc] at hsize
      subst hp
      exact hsize
    obtain ⟨one, two, hparse⟩ := hformed.parseExtensions
    rw [decide_eq_true hcomputed, msAssert_true, hparse]
    refine ⟨_, rfl, fun q hq ↦ ?_⟩
    obtain rfl := Option.some.inj hq
    subst hp
    exact ⟨hformed.congr one two _, rfl, rfl⟩
  · rw [isRtp, if_neg hbytes]
    exact hrejected

end RtpPacket

end MediasoupSfu
