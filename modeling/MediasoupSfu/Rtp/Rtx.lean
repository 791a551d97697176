import MediasoupSfu.Rtp.Packet

/-!
# Cloning and RTX encoding

A sender keeps clones of its packets and resends them in the RTX format: the payload starts with the
original sequence number, and payload type, SSRC and sequence number are those of the RTX stream.
The encoding is done in place, and `RtxDecode` undoes it in the buffer of the receiver.

What these operations mean is said by the `content` of a packet, which forgets where things are in
the buffer and drops the padding. On contents, encoding and decoding are the two simple functions
`RtpContent.encodeRtx` and `RtpContent.decodeRtx`, and one is the inverse of the other; `rtxEncode`
and `rtxDecode` refine them.
-/

namespace MediasoupSfu

open Memory

/-- What a packet says, without its place in memory and without padding. -/
structure RtpContent where
  marker : Bool
  payloadType : BitVec 7
  sequenceNumber : BitVec 16
  timestamp : BitVec 32
  ssrc : BitVec 32
  csrcs : List Byte
  /-- The id, the length and the value. -/
  headerExtension : Option (List Byte)
  payload : List Byte
  deriving DecidableEq, Repr

namespace RtpContent

/-- The RTX format of a packet. -/
def encodeRtx (c : RtpContent) (payloadType : BitVec 7) (ssrc : BitVec 32) (seq : BitVec 16) :
    RtpContent :=
  { c with
    payloadType := payloadType
    ssrc := ssrc
    sequenceNumber := seq
    payload := Byte.set2Bytes c.sequenceNumber ++ c.payload }

/-- The packet that an RTX packet carries, if it carries one. -/
def decodeRtx (c : RtpContent) (payloadType : BitVec 7) (ssrc : BitVec 32) : Option RtpContent :=
  match c.payload with
  | b₀ :: b₁ :: payload => some { c with
      payloadType := payloadType
      ssrc := ssrc
      sequenceNumber := Byte.join2 b₀ b₁
      payload := payload }
  | _ => none

/-- Decoding with the original payload type and SSRC gives the original packet back. -/
theorem decodeRtx_encodeRtx (c : RtpContent) (payloadType : BitVec 7) (ssrc : BitVec 32)
    (seq : BitVec 16) :
    (c.encodeRtx payloadType ssrc seq).decodeRtx c.payloadType c.ssrc = some c := by
  rw [encodeRtx, decodeRtx]
  simp only [Byte.set2Bytes, List.cons_append, List.nil_append, Byte.join2_set2Bytes]

end RtpContent

namespace RtpPacket

variable {p q : RtpPacket}

/-- The content of a packet. -/
def content (p : RtpPacket) : RtpContent where
  marker := p.header.marker
  payloadType := p.header.payloadType
  sequenceNumber := p.header.sequenceNumber
  timestamp := p.header.timestamp
  ssrc := p.header.ssrc
  csrcs := slice p.body 0 p.header.csrcListSize
  headerExtension := p.headerExtension.map fun ptr ↦ slice p.body ptr
    (4 + p.getHeaderExtensionLength)
  payload := slice p.body p.payload p.payloadLength

/-! ## The operations -/

/-- `std::memcpy` between two buffers. -/
def copyBytes (buffer : List Byte) (dst : ℕ) (body : List Byte) (src len : ℕ) :
    Except Fault (List Byte) :=
  if len = 0 then .ok buffer
  else if src + len ≤ body.length then writeBytes buffer dst (slice body src len)
  else .error .outOfBounds

/-- Copy payload padding: only the last byte of it is set. -/
def writePadding (buffer : List Byte) (ptr : ℕ) (payloadPadding : Byte) :
    Except Fault (List Byte) :=
  if payloadPadding ≠ 0 then writeBytes buffer (ptr + payloadPadding.toNat - 1) [payloadPadding]
  else .ok buffer

/-- `Clone(buffer)`, where `buffer` is the memory behind the place of the new header. -/
def clone (p : RtpPacket) (buffer : List Byte) : Except Fault RtpPacket := do
  -- Copy CSRC list.
  let csrcListSize := if p.csrcList then p.header.csrcListSize else 0
  let buffer ← copyBytes buffer 0 p.body 0 csrcListSize
  -- Copy header extension.
  let numBytes := p.extensionSize
  let newHeaderExtension := p.headerExtension.map fun _ ↦ csrcListSize
  let buffer ← copyBytes buffer csrcListSize p.body (p.headerExtension.getD 0) numBytes
  let newPayload := csrcListSize + numBytes
  -- Copy payload.
  let buffer ← copyBytes buffer newPayload p.body p.payload p.payloadLength
  let ptr := newPayload + p.payloadLength
  let buffer ← writePadding buffer ptr p.payloadPadding
  let ptr := ptr + p.payloadPadding.toNat
  msAssert (decide (RtpHeader.bytes + ptr = p.size)) "ptr - buffer == this->size"
  let packet ← (view p.header buffer newHeaderExtension newPayload p.payloadLength p.payloadPadding
    p.size).parseExtensions
  -- Keep already set extension ids.
  return { packet with ids := p.ids }

/-- Remove padding if present. -/
def removePadding (p : RtpPacket) : RtpPacket :=
  if p.payloadPadding ≠ 0 then
    { p.setPayloadPaddingFlag false with
      size := p.size - p.payloadPadding.toNat
      payloadPadding := 0 }
  else p

/-- `RtxEncode(payloadType, ssrc, seq)`. -/
def rtxEncode (p : RtpPacket) (payloadType : Byte) (ssrc : BitVec 32) (seq : BitVec 16) :
    Except Fault RtpPacket := do
  let p := (p.setPayloadType payloadType).setSsrc ssrc
  -- Write the original sequence number at the begining of the payload.
  let body ← moveBytes p.body (p.payload + 2) p.payload p.payloadLength
  let body ← writeBytes body p.payload (Byte.set2Bytes p.getSequenceNumber)
  let p := { p.setSequenceNumber seq with
    body := body
    payloadLength := p.payloadLength + 2
    size := p.size + 2 }
  return p.removePadding

/-- `RtxDecode(payloadType, ssrc)`: the packet, or `none` if the method returns false. -/
def rtxDecode (p : RtpPacket) (payloadType : Byte) (ssrc : BitVec 32) :
    Except Fault (Option RtpPacket) :=
  if p.payloadLength < 2 then .ok none
  else do
    let p := p.setPayloadType payloadType
    let seq ← Byte.get2Bytes p.body p.payload
    let p := (p.setSequenceNumber seq).setSsrc ssrc
    let body ← moveBytes p.body p.payload (p.payload + 2) (p.payloadLength - 2)
    let p := { p with
      body := body
      payloadLength := p.payloadLength - 2
      size := p.size - 2 }
    return some p.removePadding

/-! ## What is in front of the payload -/

/-- Two packets agree in everything before the payload, except for header fields. -/
structure SameFront (p q : RtpPacket) : Prop where
  csrcCount : q.header.csrcCount = p.header.csrcCount
  extension : q.header.extension = p.header.extension
  csrcList : q.csrcList = p.csrcList
  headerExtension : q.headerExtension = p.headerExtension
  payload : q.payload = p.payload
  body : slice q.body 0 p.payload = slice p.body 0 p.payload

namespace SameFront

theorem csrcListSize (h : SameFront p q) : q.header.csrcListSize = p.header.csrcListSize := by
  rw [RtpHeader.csrcListSize, h.csrcCount, RtpHeader.csrcListSize]

theorem length_eq (h : SameFront p q) (hp : p.Formed) :
    q.getHeaderExtensionLength = p.getHeaderExtensionLength := by
  unfold getHeaderExtensionLength
  rw [h.headerExtension]
  split
  · rfl
  · rename_i ptr hptr
    have hpayload := hp.payload
    have hext := hp.headerExtension
    rw [extensionSize, hptr, Option.isSome_some, if_pos rfl] at hpayload
    rw [hptr] at hext
    split at hext
    · have hstart := Option.some.inj hext
      rw [fieldAt_congr (slice_congr h.body (Nat.zero_le _) (by omega))]
    · cases hext

theorem extensionSize_eq (h : SameFront p q) (hp : p.Formed) :
    q.extensionSize = p.extensionSize := by
  rw [extensionSize, h.length_eq hp, h.headerExtension, extensionSize]

/-- The front is part of the content. -/
theorem content_eq (h : SameFront p q) (hp : p.Formed) :
    q.content.csrcs = p.content.csrcs ∧ q.content.headerExtension = p.content.headerExtension := by
  have hpayload := hp.payload
  constructor
  · change slice q.body 0 q.header.csrcListSize = slice p.body 0 p.header.csrcListSize
    rw [h.csrcListSize]
    exact slice_congr h.body (Nat.le_refl _) (by omega)
  · change q.headerExtension.map _ = p.headerExtension.map _
    rw [h.headerExtension, h.length_eq hp]
    cases hptr : p.headerExtension with
    | none => rfl
    | some ptr =>
      have hext := hp.headerExtension
      rw [extensionSize, hptr, Option.isSome_some, if_pos rfl] at hpayload
      rw [hptr] at hext
      split at hext
      · have hstart := Option.some.inj hext
        rw [Option.map_some, Option.map_some,
          slice_congr h.body (Nat.zero_le _) (by omega)]
      · cases hext

/-- With the same front, only the sizes and the padding decide on the form of a packet. -/
theorem formed (h : SameFront p q) (hp : p.Formed)
    (hpadding : q.header.padding = decide (q.payloadPadding ≠ 0))
    (hsize : q.size = RtpHeader.bytes + q.payload + q.payloadLength + q.payloadPadding.toNat)
    (hfits : q.size ≤ RtpHeader.bytes + q.body.length) : q.Formed where
  csrcList := by rw [h.csrcList, hp.csrcList, h.csrcCount]
  headerExtension := by
    rw [h.headerExtension, hp.headerExtension, h.extension, h.csrcListSize]
  payload := by rw [h.payload, hp.payload, h.csrcListSize, h.extensionSize_eq hp]
  padding := hpadding
  size := hsize
  fits := hfits

end SameFront

/-- Two packets agree in everything before the payload and in the elements of the header
extension. -/
structure SameElements (p q : RtpPacket) : Prop where
  front : SameFront p q
  one : q.mapOneByteExtensions = p.mapOneByteExtensions
  two : q.mapTwoBytesExtensions = p.mapTwoBytesExtensions
  ids : q.ids = p.ids

/-! ## Padding -/

theorem sameElements_removePadding (h : SameElements p q) : SameElements p q.removePadding := by
  unfold removePadding
  split
  · exact ⟨⟨h.front.csrcCount, h.front.extension, h.front.csrcList, h.front.headerExtension,
      h.front.payload, h.front.body⟩, h.one, h.two, h.ids⟩
  · exact h

theorem content_removePadding (p : RtpPacket) : p.removePadding.content = p.content := by
  unfold removePadding
  split <;> rfl

theorem formed_removePadding (hp : p.Formed) : p.removePadding.Formed := by
  unfold removePadding
  split
  · rename_i hpadding
    have hsize := hp.size
    have hfits := hp.fits
    refine SameFront.formed (p := p) ⟨rfl, rfl, rfl, rfl, rfl, rfl⟩ hp rfl ?_ ?_
    · change p.size - p.payloadPadding.toNat = RtpHeader.bytes + p.payload + p.payloadLength + 0
      omega
    · change p.size - p.payloadPadding.toNat ≤ RtpHeader.bytes + p.body.length
      omega
  · exact hp

theorem size_removePadding_le (p : RtpPacket) : p.removePadding.size ≤ p.size := by
  unfold removePadding
  split
  · exact Nat.sub_le _ _
  · exact Nat.le_refl _

theorem body_removePadding (p : RtpPacket) : p.removePadding.body = p.body := by
  unfold removePadding
  split <;> rfl

theorem payloadPadding_removePadding (p : RtpPacket) : p.removePadding.payloadPadding = 0 := by
  unfold removePadding
  split
  · rfl
  · exact not_not.mp ‹_›

theorem version_removePadding (p : RtpPacket) :
    p.removePadding.header.version = p.header.version := by
  unfold removePadding
  split <;> rfl

/-! ## RTX encoding -/

/-- A packet with the front of `p` has the content of `p` up to header fields and payload. -/
theorem content_of_front (h : SameFront p q) (hp : p.Formed) : q.content = { p.content with
    marker := q.header.marker
    payloadType := q.header.payloadType
    sequenceNumber := q.header.sequenceNumber
    timestamp := q.header.timestamp
    ssrc := q.header.ssrc
    payload := slice q.body q.payload q.payloadLength } := by
  obtain ⟨hcsrcs, hext⟩ := h.content_eq hp
  dsimp only
  rw [← hcsrcs, ← hext]
  rfl

/-- **`RtxEncode`** puts a packet into the RTX format, if there is room for two more bytes. -/
theorem rtxEncode_spec (hp : p.Formed) (payloadType : Byte) (ssrc : BitVec 32) (seq : BitVec 16)
    (hroom : p.size + 2 ≤ RtpHeader.bytes + p.body.length) :
    ∃ q, p.rtxEncode payloadType ssrc seq = .ok q ∧ q.Formed ∧
      q.content = p.content.encodeRtx (payloadType.setWidth 7) ssrc seq ∧
      q.body.length = p.body.length ∧ q.size ≤ p.size + 2 ∧ SameElements p q := by
  have hsize := hp.size
  have hsrc : p.payload + p.payloadLength ≤ p.body.length := by omega
  have hdst : p.payload + 2 + p.payloadLength ≤ p.body.length := by omega
  have hmove := length_move hsrc hdst
  have hseq : p.payload + (Byte.set2Bytes p.getSequenceNumber).length ≤
      (move p.body (p.payload + 2) p.payload p.payloadLength).length := by
    rw [Byte.length_set2Bytes]
    omega
  have hbody := (length_splice hseq).trans hmove
  have hencode : p.rtxEncode payloadType ssrc seq = .ok (removePadding
      { ((p.setPayloadType payloadType).setSsrc ssrc).setSequenceNumber seq with
        body := splice (move p.body (p.payload + 2) p.payload p.payloadLength) p.payload
          (Byte.set2Bytes p.getSequenceNumber)
        payloadLength := p.payloadLength + 2
        size := p.size + 2 }) := by
    unfold rtxEncode
    change (moveBytes p.body (p.payload + 2) p.payload p.payloadLength >>= fun _ ↦ _) = _
    rw [moveBytes_eq_ok hsrc hdst]
    change (writeBytes _ p.payload (Byte.set2Bytes p.getSequenceNumber) >>= fun _ ↦ _) = _
    rw [writeBytes_eq_ok hseq]
    rfl
  have hfront : SameFront p
      { ((p.setPayloadType payloadType).setSsrc ssrc).setSequenceNumber seq with
        body := splice (move p.body (p.payload + 2) p.payload p.payloadLength) p.payload
          (Byte.set2Bytes p.getSequenceNumber)
        payloadLength := p.payloadLength + 2
        size := p.size + 2 } := by
    refine ⟨rfl, rfl, rfl, rfl, rfl, ?_⟩
    dsimp only
    rw [slice_splice_before hseq (by omega), slice_move_before hsrc hdst (by omega)]
  refine ⟨_, hencode, formed_removePadding (hfront.formed hp hp.padding ?_ ?_), ?_, ?_, ?_,
    sameElements_removePadding ⟨hfront, rfl, rfl, rfl⟩⟩
  · change p.size + 2 = RtpHeader.bytes + p.payload + (p.payloadLength + 2) +
      p.payloadPadding.toNat
    omega
  · dsimp only
    omega
  · rw [content_removePadding, content_of_front hfront hp]
    have hpayload : slice (splice (move p.body (p.payload + 2) p.payload p.payloadLength) p.payload
        (Byte.set2Bytes p.getSequenceNumber)) p.payload (p.payloadLength + 2)
        = Byte.set2Bytes p.getSequenceNumber ++ slice p.body p.payload p.payloadLength := by
      rw [Nat.add_comm p.payloadLength 2, slice_add,
        slice_splice_self hseq (Byte.length_set2Bytes _).symm,
          slice_splice_after (j := p.payload + 2) hseq (Nat.le_refl _), slice_move_self hsrc hdst]
    exact congrArg (fun payload ↦ ({ p.content with
      payloadType := payloadType.setWidth 7
      sequenceNumber := seq
      ssrc := ssrc
      payload := payload } : RtpContent)) hpayload
  · rw [body_removePadding]
    exact hbody
  · exact size_removePadding_le _

/-- There is no padding in the RTX format. -/
theorem of_rtxEncode {payloadType : Byte} {ssrc : BitVec 32} {seq : BitVec 16}
    (h : p.rtxEncode payloadType ssrc seq = .ok q) :
    q.header.version = p.header.version ∧ q.payloadPadding = 0 := by
  obtain ⟨_, -, h⟩ := bind_eq_ok.mp h
  obtain ⟨_, -, h⟩ := bind_eq_ok.mp h
  cases h
  exact ⟨version_removePadding _, payloadPadding_removePadding _⟩

theorem slice_two {body : List Byte} {i : ℕ} (h : i + 2 ≤ body.length) :
    slice body i 2 = [body.getD i 0, body.getD (i + 1) 0] := by
  have hcell : ∀ j, i + j < body.length → body[i + j]? = some (body.getD (i + j) 0) := by
    intro j hj
    rw [List.getD_eq_getElem?_getD, List.getElem?_eq_getElem hj]
    rfl
  apply List.ext_getElem?
  intro j
  rw [getElem?_slice]
  match j with
  | 0 => exact hcell 0 (by omega)
  | 1 => exact hcell 1 (by omega)
  | j + 2 => rw [if_neg (by omega)]; rfl

/-- **`RtxDecode`** takes a packet out of the RTX format. -/
theorem rtxDecode_spec (hp : p.Formed) (payloadType : Byte) (ssrc : BitVec 32) :
    ∃ r : Option RtpPacket, p.rtxDecode payloadType ssrc = .ok r ∧
      r.map content = p.content.decodeRtx (payloadType.setWidth 7) ssrc ∧ ∀ q, r = some q →
        q.Formed ∧ SameElements p q ∧ q.header.version = p.header.version ∧
          q.payloadPadding = 0 ∧ q.body.length = p.body.length := by
  have hsize := hp.size
  have hfits := hp.fits
  have hlength := length_slice (m := p.body) (i := p.payload) (n := p.payloadLength) (by omega)
  by_cases hshort : p.payloadLength < 2
  · refine ⟨none, if_pos hshort, ?_, fun q hq ↦ by cases hq⟩
    unfold RtpContent.decodeRtx
    split
    · rename_i b₀ b₁ payload hpayload
      have : p.content.payload.length = payload.length + 2 := by rw [hpayload]; rfl
      rw [show p.content.payload = slice p.body p.payload p.payloadLength from rfl] at this
      omega
    · rfl
  · have hsrc : p.payload + 2 + (p.payloadLength - 2) ≤ p.body.length := by omega
    have hdst : p.payload + (p.payloadLength - 2) ≤ p.body.length := by omega
    have hdecode : p.rtxDecode payloadType ssrc = .ok (some (removePadding
        { ((p.setPayloadType payloadType).setSequenceNumber (fieldAt p.body p.payload)).setSsrc
            ssrc with
          body := move p.body p.payload (p.payload + 2) (p.payloadLength - 2)
          payloadLength := p.payloadLength - 2
          size := p.size - 2 })) := by
      unfold rtxDecode
      rw [if_neg hshort]
      change (Byte.get2Bytes p.body p.payload >>= fun _ ↦ _) = _
      rw [get2Bytes_of_lt (by omega)]
      change (moveBytes p.body p.payload (p.payload + 2) (p.payloadLength - 2) >>= fun _ ↦ _) = _
      rw [moveBytes_eq_ok hsrc hdst]
      rfl
    have hfront : SameFront p
        { ((p.setPayloadType payloadType).setSequenceNumber (fieldAt p.body p.payload)).setSsrc
            ssrc with
          body := move p.body p.payload (p.payload + 2) (p.payloadLength - 2)
          payloadLength := p.payloadLength - 2
          size := p.size - 2 } := by
      refine ⟨rfl, rfl, rfl, rfl, rfl, ?_⟩
      exact slice_move_before hsrc hdst (by omega)
    have hpayload : p.content.payload = p.body.getD p.payload 0 :: p.body.getD (p.payload + 1) 0 ::
        slice p.body (p.payload + 2) (p.payloadLength - 2) := by
      change slice p.body p.payload p.payloadLength = _
      rw [show p.payloadLength = 2 + (p.payloadLength - 2) by omega, slice_add,
        slice_two (by omega), Nat.add_sub_cancel_left]
      rfl
    refine ⟨_, hdecode, ?_, fun q hq ↦ ?_⟩
    · rw [Option.map_some, content_removePadding, content_of_front hfront hp, RtpContent.decodeRtx,
        hpayload]
      dsimp only
      rw [← slice_move_self hsrc hdst]
      rfl
    · obtain rfl := Option.some.inj hq
      refine ⟨formed_removePadding (hfront.formed hp hp.padding ?_ ?_),
        sameElements_removePadding ⟨hfront, rfl, rfl, rfl⟩, version_removePadding _,
        payloadPadding_removePadding _, (congrArg List.length (body_removePadding _)).trans
          (length_move hsrc hdst)⟩
      · change p.size - 2 = RtpHeader.bytes + p.payload + (p.payloadLength - 2) +
          p.payloadPadding.toNat
        omega
      · change p.size - 2 ≤ RtpHeader.bytes + (move p.body p.payload (p.payload + 2)
          (p.payloadLength - 2)).length
        rw [length_move hsrc hdst]
        omega

/-! ## Cloning -/

/-- A copy that continues what has been copied so far. -/
theorem copyBytes_spec {buffer body : List Byte} (i src len : ℕ) (hsrc : src + len ≤ body.length)
    (hbody : i + len ≤ body.length) (hbuffer : i + len ≤ buffer.length)
    (hslice : slice body src len = slice body i len) (hfront : slice buffer 0 i = slice body 0 i) :
    ∃ buffer', copyBytes buffer i body src len = .ok buffer' ∧ buffer'.length = buffer.length ∧
      slice buffer' 0 (i + len) = slice body 0 (i + len) := by
  unfold copyBytes
  by_cases hzero : len = 0
  · rw [if_pos hzero, hzero]
    exact ⟨buffer, rfl, rfl, hfront⟩
  · have hlength := length_slice hbody
    have hin : i + (slice body i len).length ≤ buffer.length := by omega
    rw [if_neg hzero, if_pos hsrc, hslice, writeBytes_eq_ok hin]
    refine ⟨_, rfl, length_splice hin, ?_⟩
    rw [slice_add, slice_add, Nat.zero_add, slice_splice_before hin (by omega), hfront,
      slice_splice_self hin hlength.symm]

/-- The padding byte is written behind the payload. -/
theorem writePadding_spec {buffer : List Byte} {ptr : ℕ} {payloadPadding : Byte}
    (h : ptr + payloadPadding.toNat ≤ buffer.length) :
    ∃ buffer', writePadding buffer ptr payloadPadding = .ok buffer' ∧
      buffer'.length = buffer.length ∧ slice buffer' 0 ptr = slice buffer 0 ptr ∧
      (payloadPadding ≠ 0 → buffer'[ptr + payloadPadding.toNat - 1]? = some payloadPadding) := by
  unfold writePadding
  by_cases hzero : payloadPadding = 0
  · exact ⟨buffer, if_neg (not_not.mpr hzero), rfl, rfl, fun hne ↦ absurd hzero hne⟩
  · have hpos : 0 < payloadPadding.toNat := by
      rw [Nat.pos_iff_ne_zero]
      exact fun hnat ↦ hzero (BitVec.eq_of_toNat_eq hnat)
    have hin : ptr + payloadPadding.toNat - 1 + [payloadPadding].length ≤ buffer.length := by
      rw [List.length_singleton]
      omega
    exact ⟨_, by rw [if_pos hzero, writeBytes_eq_ok hin], length_splice hin,
      slice_splice_before hin (by omega), fun _ ↦ getElem?_splice_inside (j := 0) hin Nat.one_pos⟩

/-- `Clone` makes a packet with the members of this one in the new buffer, and looks for its
elements there. Of the padding only the last byte is copied. -/
theorem clone_eq (hp : p.Formed) {buffer : List Byte}
    (hroom : p.size ≤ RtpHeader.bytes + buffer.length) :
    ∃ buffer', buffer'.length = buffer.length ∧
      slice buffer' 0 (p.payload + p.payloadLength) = slice p.body 0 (p.payload + p.payloadLength) ∧
      (p.payloadPadding ≠ 0 →
        buffer'[p.payload + p.payloadLength + p.payloadPadding.toNat - 1]? =
          some p.payloadPadding) ∧
      p.clone buffer = ((view p.header buffer' p.headerExtension p.payload p.payloadLength
        p.payloadPadding p.size).parseExtensions >>= fun packet ↦
          .ok { packet with ids := p.ids }) := by
  have hsize := hp.size
  have hfits := hp.fits
  have hpayload := hp.payload
  have hcsrc : (if p.csrcList then p.header.csrcListSize else 0) = p.header.csrcListSize := by
    rw [hp.csrcList]
    split
    · rfl
    · rename_i hzero
      rw [decide_eq_true_eq, not_not] at hzero
      rw [RtpHeader.csrcListSize, hzero]
      rfl
  have hext : slice p.body (p.headerExtension.getD 0) p.extensionSize
      = slice p.body p.header.csrcListSize p.extensionSize ∧
      p.headerExtension.getD 0 + p.extensionSize ≤ p.body.length ∧
      p.headerExtension.map (fun _ ↦ p.header.csrcListSize) = p.headerExtension := by
    have hextension := hp.headerExtension
    cases hptr : p.headerExtension with
    | none =>
      have hzero : p.extensionSize = 0 := by rw [extensionSize, hptr]; rfl
      rw [hzero, slice_zero, slice_zero]
      exact ⟨rfl, Nat.zero_le _, rfl⟩
    | some ptr =>
      rw [hptr] at hextension
      split at hextension
      · obtain rfl := Option.some.inj hextension
        exact ⟨rfl, by change p.header.csrcListSize + _ ≤ _; omega, rfl⟩
      · cases hextension
  obtain ⟨hextslice, hextin, hextptr⟩ := hext
  obtain ⟨buffer₁, hcopy₁, hlength₁, hfront₁⟩ : ∃ buffer₁,
      copyBytes buffer 0 p.body 0 p.header.csrcListSize = .ok buffer₁ ∧
      buffer₁.length = buffer.length ∧ slice buffer₁ 0 (0 + p.header.csrcListSize)
        = slice p.body 0 (0 + p.header.csrcListSize) :=
    copyBytes_spec 0 0 _ (by omega) (by omega) (by omega) rfl rfl
  rw [Nat.zero_add] at hfront₁
  obtain ⟨buffer₂, hcopy₂, hlength₂, hfront₂⟩ :=
    copyBytes_spec _ _ _ hextin (by omega) (by omega) hextslice hfront₁
  rw [← hpayload] at hfront₂
  obtain ⟨buffer₃, hcopy₃, hlength₃, hfront₃⟩ :=
    copyBytes_spec _ p.payload p.payloadLength (by omega) (by omega) (by omega) rfl hfront₂
  have hroom₃ : p.payload + p.payloadLength + p.payloadPadding.toNat ≤ buffer₃.length := by omega
  obtain ⟨buffer₄, hcopy₄, hlength₄, hfront₄, hpadding⟩ := writePadding_spec hroom₃
  refine ⟨buffer₄, by omega, hfront₄.trans hfront₃, hpadding, ?_⟩
  have hptr : RtpHeader.bytes + (p.payload + p.payloadLength + p.payloadPadding.toNat) =
      p.size := by
    omega
  unfold clone
  dsimp only
  rw [hcsrc, hextptr, hcopy₁]
  change (copyBytes buffer₁ _ _ _ _ >>= fun _ ↦ _) = _
  rw [hcopy₂, ← hpayload]
  change (copyBytes buffer₂ _ _ _ _ >>= fun _ ↦ _) = _
  rw [hcopy₃]
  change (writePadding buffer₃ _ _ >>= fun _ ↦ _) = _
  rw [hcopy₄]
  change (msAssert _ _ >>= fun _ ↦ _) = _
  rw [decide_eq_true hptr, msAssert_true]
  rfl

/-- **`Clone`** copies the content of a packet into a buffer that is large enough. -/
theorem clone_spec (hp : p.Formed) {buffer : List Byte}
    (hroom : p.size ≤ RtpHeader.bytes + buffer.length) :
    ∃ q, p.clone buffer = .ok q ∧ q.Formed ∧ q.content = p.content ∧
      q.body.length = buffer.length ∧ q.size = p.size := by
  obtain ⟨buffer', hlength, hcopied, -, hclone⟩ := clone_eq hp hroom
  have hfront : SameFront p (view p.header buffer' p.headerExtension p.payload p.payloadLength
      p.payloadPadding p.size) :=
    ⟨rfl, rfl, hp.csrcList.symm, rfl, rfl,
      slice_congr hcopied (Nat.le_refl _) (by omega)⟩
  have hformed := hfront.formed hp hp.padding hp.size
    (by change p.size ≤ _ + buffer'.length; omega)
  obtain ⟨one, two, hparse⟩ := hformed.parseExtensions
  refine ⟨_, by rw [hclone, hparse]; rfl, hformed.congr one two p.ids, ?_, hlength, rfl⟩
  refine (content_of_front hfront hp).trans ?_
  change ({ p.content with
    payload := slice buffer' p.payload p.payloadLength } : RtpContent) = _
  rw [slice_congr hcopied (Nat.zero_le _) (by omega)]
  rfl

end RtpPacket

end MediasoupSfu
