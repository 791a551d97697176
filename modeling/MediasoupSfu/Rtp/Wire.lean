import MediasoupSfu.Library.Run
import MediasoupSfu.Rtp.Elements

/-!
# Agreement with the bytes

Everything that an `RtpPacket` knows is in its bytes, and the members say it a second time. The
operations change bytes and members one by one, and nothing compares the two afterwards: a receiver
parses the bytes, a clone takes the members.

`InSync` is the agreement of the two, `Same` what it is good for: whoever parses the bytes or clones
the packet has the same packet again. `ParseExtensions` is a walk over the bytes, so that the maps
agree with the bytes if they are what the walk finds. Operations behind the header extension do not
change what it finds (`InSync.of_sameElements`); `SetExtensions` and `UpdateMid` write elements
where it finds them.

The exceptions are the shift in `SetExtensions`, which is too narrow for large extensions, and
`SetPayloadPaddingFlag`, which only writes the flag. `agrees_of_fits` is about all runs without
them.
-/

namespace MediasoupSfu

open Memory

namespace RtpHeader

/-- The bytes of a header. -/
def write (header : RtpHeader) : List Byte :=
  (header.version ++ BitVec.ofBool header.padding ++ BitVec.ofBool header.extension ++
    header.csrcCount) :: (BitVec.ofBool header.marker ++ header.payloadType) ::
    (Byte.set2Bytes header.sequenceNumber ++
      (Byte.set4Bytes header.timestamp ++ Byte.set4Bytes header.ssrc))

theorem length_write (header : RtpHeader) : header.write.length = bytes := rfl

theorem firstByte_eq : ∀ (version : BitVec 2) (padding extension : Bool) (csrcCount : BitVec 4),
    let b : Byte := version ++ BitVec.ofBool padding ++ BitVec.ofBool extension ++ csrcCount
    (b >>> 6).setWidth 2 = version ∧ b.getLsbD 5 = padding ∧ b.getLsbD 4 = extension ∧
      b.setWidth 4 = csrcCount := by
  decide

theorem secondByte_eq : ∀ (marker : Bool) (payloadType : BitVec 7),
    let b : Byte := BitVec.ofBool marker ++ payloadType
    b.getLsbD 7 = marker ∧ b.setWidth 7 = payloadType := by
  decide

/-- A header is read as it is written. -/
theorem read_write (header : RtpHeader) (rest : List Byte) :
    read (header.write ++ rest) = .ok header := by
  obtain ⟨hversion, hpadding, hextension, hcsrcCount⟩ := firstByte_eq header.version header.padding
    header.extension header.csrcCount
  obtain ⟨hmarker, hpayloadType⟩ := secondByte_eq header.marker header.payloadType
  have hread : read (header.write ++ rest) = .ok
      { version := _, padding := _, extension := _, csrcCount := _, marker := _, payloadType := _
        sequenceNumber := _, timestamp := _, ssrc := _ } := rfl
  rw [hread, hversion, hpadding, hextension, hcsrcCount, hmarker, hpayloadType,
    Byte.join2_set2Bytes, Byte.join4_set4Bytes, Byte.join4_set4Bytes]

end RtpHeader

namespace RtpPacket

open GenericExtension (totalSize paddedSize)

variable {p q : RtpPacket} {type : Byte} {extensions : List GenericExtension}

/-! ## More operations -/

/-- `SetMarker(marker)`. -/
def setMarker (p : RtpPacket) (marker : Bool) : RtpPacket :=
  { p with header := { p.header with marker := marker } }

/-- `SetMidExtensionId(id)`. -/
def setMidExtensionId (p : RtpPacket) (id : Byte) : RtpPacket :=
  { p with ids := { p.ids with midExtensionId := id } }

/-- `SetPayloadLength(length)`. -/
def setPayloadLength (p : RtpPacket) (length : ℕ) : RtpPacket :=
  -- Pad desired length to 4 bytes.
  let length := (Byte.padTo4Bytes (BitVec.ofNat 16 length)).toNat
  { p.setPayloadPaddingFlag false with
    size := p.size - p.payloadLength - p.payloadPadding.toNat + length
    payloadLength := length
    payloadPadding := 0 }

/-- `ShiftPayload(payloadOffset, shift, expand)`. -/
def shiftPayload (p : RtpPacket) (payloadOffset shift : ℕ) (expand : Bool) :
    Except Fault RtpPacket :=
  if shift = 0 then .ok p
  else do
    msAssert (decide (payloadOffset < p.payloadLength)) "payload offset bigger than payload size"
    let payloadOffsetPtr := p.payload + payloadOffset
    if expand then
      let shiftedLen := p.payloadLength + p.payloadPadding.toNat - payloadOffset
      let body ← moveBytes p.body (payloadOffsetPtr + shift) payloadOffsetPtr shiftedLen
      return { p with
        body := body
        payloadLength := p.payloadLength + shift
        size := p.size + shift }
    else
      msAssert (decide (shift ≤ p.payloadLength - payloadOffset)) "shift too big"
      let shiftedLen := p.payloadLength + p.payloadPadding.toNat - payloadOffset - shift
      let body ← moveBytes p.body payloadOffsetPtr (payloadOffsetPtr + shift) shiftedLen
      return { p with
        body := body
        payloadLength := p.payloadLength - shift
        size := p.size - shift }

/-! ## Members and bytes -/

/-- The bytes from `GetData()` on, `GetSize()` of them. -/
def bytes (p : RtpPacket) : List Byte := (p.header.write ++ p.body).take p.size

/-- The elements of this form that the bytes show. -/
def found (p : RtpPacket) (type : Byte) : ExtensionMap :=
  if p.hasForm type then walk type p.body p.payload (p.header.csrcListSize + 4) fun _ ↦ none
  else fun _ ↦ none

/-- The members of a packet agree with its bytes. -/
structure InSync (p : RtpPacket) : Prop where
  formed : p.Formed
  version : p.header.version = 2
  one : p.mapOneByteExtensions = p.found 1
  two : p.mapTwoBytesExtensions = p.found 2
  /-- The last byte of the padding is its length. -/
  padding : p.payloadPadding ≠ 0 →
    p.body[p.payload + p.payloadLength + p.payloadPadding.toNat - 1]? = some p.payloadPadding
  /-- `SetExtensions` can remove the header extension. -/
  short : p.getHeaderExtensionLength ≤ 32768

/-- Two packets are the same for whoever looks at them. -/
structure Same (p q : RtpPacket) : Prop where
  header : q.header = p.header
  content : q.content = p.content
  payloadLength : q.payloadLength = p.payloadLength
  payloadPadding : q.payloadPadding = p.payloadPadding
  size : q.size = p.size
  extension : ∀ id, q.getExtension id = p.getExtension id
  value : ∀ id, q.getExtensionValue id = p.getExtensionValue id

theorem InSync.elements (h : InSync p) (htype : type = 1 ∨ type = 2) :
    p.elements type = p.found type := by
  rcases htype with rfl | rfl
  · exact h.one
  · exact h.two

/-- What the walk finds is an element in front of the payload. -/
theorem element_of_found (hp : p.Formed) {id : Byte} {ptr : ℕ} (h : p.found type id = some ptr) :
    ∃ len, IsValid type id len ∧
      slice p.body ptr (formOf type).headerSize = elementHead type id len ∧
      p.header.csrcListSize + 4 ≤ ptr ∧ ptr + (formOf type).headerSize + len ≤ p.payload := by
  unfold found at h
  split at h
  · obtain ⟨hle, ⟨next, hvisit⟩, -⟩ := walk_reaches h (by simp)
    obtain ⟨len, hvalid, hhead, rfl⟩ := element_of_visit hvisit hp.payload_le
    exact ⟨len, hvalid, hhead, hle, (lt_of_visit hvisit).2⟩
  · cases h

theorem found_of_hasForm (type : Byte) (h : p.hasForm type = true) : p.found type =
    walk type p.body p.payload (p.header.csrcListSize + 4) fun _ ↦ none := if_pos h

theorem found_of_not_hasForm (type : Byte) (h : ¬p.hasForm type = true) :
    p.found type = fun _ ↦ none := if_neg h

/-- `ParseExtensions` stores what the walk finds. -/
theorem parseExtensions_found (hp : p.Formed) (hone : p.mapOneByteExtensions = fun _ ↦ none)
    (htwo : p.mapTwoBytesExtensions = fun _ ↦ none) : p.parseExtensions = .ok { p with
      mapOneByteExtensions := p.found 1
      mapTwoBytesExtensions := p.found 2 } := by
  have hempty : p = { p with
      mapOneByteExtensions := fun _ ↦ none
      mapTwoBytesExtensions := fun _ ↦ none } := by
    cases p
    cases hone
    cases htwo
    rfl
  unfold RtpPacket.parseExtensions
  split
  · rename_i hptr
    have hid : p.getHeaderExtensionId = 0 := by rw [getHeaderExtensionId, hptr]
    have hform : ∀ type, ¬p.hasForm type = true := by
      intro type
      rw [hasForm, hasOneByteExtensions, hasTwoBytesExtensions, hid]
      split <;> decide
    rw [found_of_not_hasForm 1 (hform 1), found_of_not_hasForm 2 (hform 2)]
    exact congrArg Except.ok hempty
  · rename_i ptr hptr
    obtain ⟨rfl, hpayload, hle⟩ := hp.headerExtension_some hptr
    dsimp only
    rw [← hpayload]
    by_cases hfirst : p.hasOneByteExtensions = true
    · rw [if_pos hfirst, found_of_hasForm 1 hfirst,
        found_of_not_hasForm 2 (not_hasTwoBytesExtensions hfirst),
        parseOneByteExtensions_eq hle, ← htwo]
      rfl
    · rw [if_neg hfirst, found_of_not_hasForm 1 hfirst]
      by_cases hsecond : p.hasTwoBytesExtensions = true
      · rw [if_pos hsecond, found_of_hasForm 2 hsecond,
          parseTwoBytesExtensions_eq (show (2 : Byte) ≠ 1 by decide) hle, ← hone]
        rfl
      · rw [if_neg hsecond, found_of_not_hasForm 2 hsecond]
        exact congrArg Except.ok hempty

/-! ## Packets with the same elements -/

theorem SameFront.hasForm (h : SameFront p q) (hp : p.Formed) (type : Byte) :
    q.hasForm type = p.hasForm type := by
  apply hasForm_congr
  unfold getHeaderExtensionId
  rw [h.headerExtension]
  split
  · rfl
  · rename_i ptr hptr
    obtain ⟨-, hpayload, -⟩ := hp.headerExtension_some hptr
    rw [fieldAt_congr (slice_congr h.body (Nat.zero_le _) (by omega))]

theorem SameFront.getElem?_body (h : SameFront p q) {j : ℕ} (hj : j < p.payload) :
    q.body[j]? = p.body[j]? :=
  getElem?_of_slice (slice_congr h.body (Nat.zero_le _) (by omega))

/-- The same elements are found in front of the payload. -/
theorem SameFront.found_eq (h : SameFront p q) (hp : p.Formed) (type : Byte) :
    q.found type = p.found type := by
  rw [found, h.hasForm hp, h.payload, h.csrcListSize, found]
  split
  · exact walk_congr _ _ fun j _ hj ↦ h.getElem?_body hj
  · rfl

/-- The operations that do not touch the header extension keep members and bytes in agreement. -/
theorem InSync.of_sameElements (h : InSync p) (hq : q.Formed) (hsame : SameElements p q)
    (hversion : q.header.version = p.header.version) (hpadding : q.payloadPadding ≠ 0 →
      q.body[q.payload + q.payloadLength + q.payloadPadding.toNat - 1]? = some q.payloadPadding) :
    InSync q where
  formed := hq
  version := hversion.trans h.version
  one := by rw [hsame.one, h.one, hsame.front.found_eq h.formed]
  two := by rw [hsame.two, h.two, hsame.front.found_eq h.formed]
  padding := hpadding
  short := by
    rw [hsame.front.length_eq h.formed]
    exact h.short

theorem form_cases (p : RtpPacket) :
    (∃ type, (type = 1 ∨ type = 2) ∧ p.hasForm type = true) ∨ ∀ type, ¬p.hasForm type = true := by
  by_cases hone : p.hasOneByteExtensions = true
  · exact Or.inl ⟨1, Or.inl rfl, hone⟩
  by_cases htwo : p.hasTwoBytesExtensions = true
  · exact Or.inl ⟨2, Or.inr rfl, htwo⟩
  refine Or.inr fun type ↦ ?_
  unfold hasForm
  split
  · exact hone
  · exact htwo

theorem getExtension_of_not_hasForm (h : ∀ type, ¬p.hasForm type = true) (id : Byte) :
    p.getExtension id = .ok none := by
  have hone : ¬p.hasOneByteExtensions = true := h 1
  have htwo : ¬p.hasTwoBytesExtensions = true := h 2
  rw [getExtension, if_neg hone, if_neg htwo, ite_self]

theorem hasForm_unique {t : Byte} (ht : t = 1 ∨ t = 2) (htype : type = 1 ∨ type = 2)
    (h : p.hasForm t = true) (h' : p.hasForm type = true) : t = type := by
  rcases ht with rfl | rfl <;> rcases htype with rfl | rfl
  · rfl
  · exact absurd h' (not_hasTwoBytesExtensions h)
  · exact absurd h (not_hasTwoBytesExtensions h')
  · rfl

/-- What `GetExtension` returns is the value of an element in front of the payload. -/
theorem InSync.of_getExtension (h : InSync p) {id : Byte} {value len : ℕ}
    (hget : p.getExtension id = .ok (some (value, len))) :
    ∃ type ptr, (type = 1 ∨ type = 2) ∧ p.hasForm type = true ∧ p.elements type id = some ptr ∧
      IsValid type id len ∧
      slice p.body ptr (formOf type).headerSize = elementHead type id len ∧
      p.header.csrcListSize + 4 ≤ ptr ∧ value = ptr + (formOf type).headerSize ∧
      value + len ≤ p.payload := by
  rcases p.form_cases with ⟨type, htype, hform⟩ | hform
  · cases hptr : p.elements type id with
    | none =>
      rw [getExtension_none hform hptr] at hget
      cases hget
    | some ptr =>
      obtain ⟨len', hvalid, hhead, hlo, hhi⟩ :=
        element_of_found h.formed ((congrFun (h.elements htype) id).symm.trans hptr)
      rw [getExtension_element hform hptr hvalid hhead] at hget
      split at hget
      · cases hget
      · cases hget
        exact ⟨type, ptr, htype, hform, hptr, hvalid, hhead, hlo, rfl, hhi⟩
  · rw [getExtension_of_not_hasForm hform] at hget
    cases hget

/-- Elements that are found lie in the header extension. -/
theorem InSync.located (h : InSync p) : p.Located := by
  have hformed : Formed { p with
      mapOneByteExtensions := fun _ ↦ none
      mapTwoBytesExtensions := fun _ ↦ none } := h.formed.congr _ _ p.ids
  have hlocated := hformed.located_parseExtensions (parseExtensions_found hformed rfl rfl)
  change Located { p with
    mapOneByteExtensions := p.found 1
    mapTwoBytesExtensions := p.found 2 } at hlocated
  rw [← h.one, ← h.two] at hlocated
  exact hlocated

/-- Who has the same elements finds the same extensions. -/
theorem SameElements.getExtension_eq (h : SameElements p q) (hp : InSync p) (hq : q.Formed)
    (id : Byte) : q.getExtension id = p.getExtension id ∧
      q.getExtensionValue id = p.getExtensionValue id := by
  have hsame := (h.located hp.formed hp.located hq).2 id
  refine ⟨hsame, ?_⟩
  rw [getExtensionValue, hsame, getExtensionValue]
  cases hget : p.getExtension id with
  | error fault => rfl
  | ok found =>
    rcases found with _ | ⟨value, len⟩
    · rfl
    · obtain ⟨_, _, _, _, _, _, _, _, _, hle⟩ := hp.of_getExtension hget
      exact congrArg (fun value ↦ Except.ok (some value))
        (slice_congr h.front.body (Nat.zero_le _) (by omega))

/-! ## The bytes are parsed again -/

theorem toNat_pos {b : Byte} (h : b ≠ 0) : 0 < b.toNat :=
  Nat.pos_of_ne_zero fun hzero ↦ h (BitVec.eq_of_toNat_eq hzero)

theorem lt_of_version : ∀ b : Byte, (b >>> 6).setWidth 2 = (2 : BitVec 2) → 127 < b ∧ b < 192 := by
  decide

theorem isRtp_write {header : RtpHeader} (hversion : header.version = 2) (body : List Byte)
    {len : ℕ} (hlen : RtpHeader.bytes ≤ len) : isRtp (header.write ++ body) len = .ok true := by
  have hbyte := (RtpHeader.firstByte_eq header.version header.padding header.extension
    header.csrcCount).1
  obtain ⟨hlow, hhigh⟩ := lt_of_version _ (hbyte.trans hversion)
  rw [isRtp, if_pos hlen, RtpHeader.read_write]
  change Except.ok (decide (127 < _) && decide (_ < 192) && decide (header.version = 2)) = _
  rw [decide_eq_true hlow, decide_eq_true hhigh, decide_eq_true hversion]
  rfl

/-- The header extension of a packet is found in the bytes. -/
theorem parseHeaderExtension_eq (hp : p.Formed) {body : List Byte}
    (hroom : p.size ≤ RtpHeader.bytes + body.length)
    (hfront : slice body 0 p.payload = slice p.body 0 p.payload) :
    parseHeaderExtension p.header body p.size p.header.csrcListSize =
      .ok (some (p.headerExtension, p.payload)) := by
  have hsize := hp.size
  have hext := hp.headerExtension
  unfold parseHeaderExtension
  split
  · rename_i hbit
    rw [if_pos hbit] at hext
    obtain ⟨-, hpayload, -⟩ := hp.headerExtension_some hext
    have hlength : (fieldAt body (p.header.csrcListSize + 2)).toNat * 4 =
        p.getHeaderExtensionLength := by
      rw [getHeaderExtensionLength, hext,
        fieldAt_congr (slice_congr hfront (Nat.zero_le _) (by omega))]
    rw [if_neg (by omega), get2Bytes_of_lt (by omega)]
    change (if _ then _ else _) = _
    rw [hlength, if_neg (by omega), hext, ← Nat.add_assoc, ← hpayload]
    rfl
  · rename_i hbit
    rw [if_neg hbit] at hext
    have hpayload := hp.payload
    rw [extensionSize_eq_zero hext] at hpayload
    rw [hext, hpayload]
    rfl

/-- The padding of a packet is found in the bytes. -/
theorem parsePadding_eq (hp : p.Formed) {body : List Byte} (hcell : p.payloadPadding ≠ 0 →
      body[p.payload + p.payloadLength + p.payloadPadding.toNat - 1]? = some p.payloadPadding) :
    parsePadding p.header (p.header.write ++ body) p.size
      (p.payloadLength + p.payloadPadding.toNat) = .ok (some p.payloadPadding) := by
  have hsize := hp.size
  have hbytes : RtpHeader.bytes = p.header.write.length := rfl
  unfold parsePadding
  rw [hp.padding]
  by_cases hzero : p.payloadPadding = 0
  · rw [if_neg (by rw [decide_eq_true_eq]; exact not_not.mpr hzero), hzero]
  · have hpos : 0 < p.payloadPadding.toNat := Nat.pos_of_ne_zero fun hnat ↦
      hzero (BitVec.eq_of_toNat_eq hnat)
    have hbyte : Byte.get1Byte (p.header.write ++ body) (p.size - 1) = .ok p.payloadPadding := by
      rw [Byte.get1Byte, List.getElem?_append_right (by omega), ← hbytes,
        show p.size - 1 - RtpHeader.bytes =
          p.payload + p.payloadLength + p.payloadPadding.toNat - 1 by omega, hcell hzero]
    rw [if_pos (decide_eq_true hzero), if_neg (by omega), hbyte]
    change (if _ then _ else _) = _
    rw [if_neg hzero]
    exact if_neg (by omega)

/-- The constructor keeps the front if it is given memory with the same front. -/
theorem Formed.sameFront_view (hp : p.Formed) {body : List Byte}
    (hfront : slice body 0 p.payload = slice p.body 0 p.payload) :
    SameFront p (view p.header body p.headerExtension p.payload p.payloadLength p.payloadPadding
      p.size) :=
  ⟨rfl, rfl, hp.csrcList.symm, rfl, rfl, hfront⟩

/-- `Parse` comes to the constructor with the members of the packet. -/
theorem InSync.parse_write (h : InSync p) {body : List Byte}
    (hroom : p.size ≤ RtpHeader.bytes + body.length)
    (hfront : slice body 0 p.payload = slice p.body 0 p.payload) (hcell : p.payloadPadding ≠ 0 →
      body[p.payload + p.payloadLength + p.payloadPadding.toNat - 1]? = some p.payloadPadding) :
    parse (p.header.write ++ body) p.size = ((view p.header body p.headerExtension p.payload
      p.payloadLength p.payloadPadding p.size).parseExtensions >>= fun q ↦ .ok (some q)) := by
  have hp := h.formed
  have hsize := hp.size
  have hpayload := hp.payload
  have hdrop : (p.header.write ++ body).drop RtpHeader.bytes = body :=
    (List.drop_left : (p.header.write ++ body).drop p.header.write.length = body)
  have hlength : p.size - (RtpHeader.bytes + p.payload) =
      p.payloadLength + p.payloadPadding.toNat := by omega
  have hle : RtpHeader.bytes + p.payload ≤ p.size := by omega
  have hext := (hp.sameFront_view hfront).extensionSize_eq hp
  have hcomputed : p.size = RtpHeader.bytes + p.header.csrcListSize + p.extensionSize +
      p.payloadLength + p.payloadPadding.toNat := by omega
  unfold parse
  rw [isRtp_write h.version body (by omega), RtpHeader.read_write, hdrop]
  simp only [bind, Except.bind, pure, Except.pure]
  rw [if_neg (not_not.mpr trivial), if_neg (by omega), parseHeaderExtension_eq hp hroom hfront]
  simp only [decide_eq_true hle, msAssert_true]
  rw [hlength, parsePadding_eq hp hcell]
  simp only [Nat.add_sub_cancel]
  rw [hext, show (view p.header body p.headerExtension p.payload p.payloadLength p.payloadPadding
    p.size).payloadLength = p.payloadLength from rfl, decide_eq_true hcomputed, msAssert_true]

/-- The constructor makes the same packet again, from any memory that has what the members say. -/
theorem InSync.same_view (h : InSync p) {body : List Byte}
    (hroom : p.size ≤ RtpHeader.bytes + body.length)
    (hcopied : slice body 0 (p.payload + p.payloadLength) =
      slice p.body 0 (p.payload + p.payloadLength)) :
    ∃ q : RtpPacket, (view p.header body p.headerExtension p.payload p.payloadLength
      p.payloadPadding p.size).parseExtensions = .ok q ∧
      ∀ ids, Same p { q with ids := ids } := by
  have hp := h.formed
  have hfront := hp.sameFront_view (slice_congr hcopied (Nat.le_refl _) (by omega))
  have hformed := hfront.formed hp hp.padding hp.size hroom
  have hfound := hfront.found_eq hp
  refine ⟨_, parseExtensions_found hformed rfl rfl, fun ids ↦ ?_⟩
  rw [hfound 1, hfound 2, ← h.one, ← h.two]
  have hsame : SameElements p { view p.header body p.headerExtension p.payload p.payloadLength
        p.payloadPadding p.size with
      mapOneByteExtensions := p.mapOneByteExtensions
      mapTwoBytesExtensions := p.mapTwoBytesExtensions
      ids := p.ids } :=
    ⟨⟨rfl, rfl, hp.csrcList.symm, rfl, rfl, hfront.body⟩, rfl, rfl, rfl⟩
  have hextension := hsame.getExtension_eq h (hformed.congr _ _ _)
  refine ⟨rfl, ?_, rfl, rfl, rfl, fun id ↦ (hextension id).1, fun id ↦ (hextension id).2⟩
  refine (content_of_front hfront hp).trans ?_
  change ({ p.content with payload := slice body p.payload p.payloadLength } : RtpContent) = _
  rw [slice_congr hcopied (Nat.zero_le _) (by omega)]
  rfl

/-- **Parsing the bytes** of a packet gives the same packet. -/
theorem InSync.parse_bytes (h : InSync p) :
    ∃ q, parse p.bytes p.size = .ok (some q) ∧ Same p q := by
  have hsize := h.formed.size
  have hfits := h.formed.fits
  have hbytes : p.bytes = p.header.write ++ p.body.take (p.size - RtpHeader.bytes) := by
    rw [bytes, List.take_append, List.take_of_length_le (by rw [RtpHeader.length_write]; omega)]
    rfl
  have hcell : ∀ j, j < p.size - RtpHeader.bytes →
      (p.body.take (p.size - RtpHeader.bytes))[j]? = p.body[j]? := fun j hj ↦
    List.getElem?_take_of_lt hj
  have hroom : p.size ≤ RtpHeader.bytes + (p.body.take (p.size - RtpHeader.bytes)).length := by
    rw [List.length_take]
    omega
  have hcopied : slice (p.body.take (p.size - RtpHeader.bytes)) 0 (p.payload + p.payloadLength) =
      slice p.body 0 (p.payload + p.payloadLength) :=
    slice_eq_of_cells fun j hj ↦ hcell _ (by omega)
  obtain ⟨q, hparse, hsame⟩ := h.same_view hroom hcopied
  refine ⟨q, ?_, hsame q.ids⟩
  rw [hbytes, h.parse_write hroom (slice_congr hcopied (Nat.le_refl _) (by omega))
    fun hpadding ↦ ?_, hparse]
  · rfl
  · have hpos := toNat_pos hpadding
    rw [hcell _ (by omega)]
    exact h.padding hpadding

/-- **A clone** is the same packet. -/
theorem InSync.clone (h : InSync p) {buffer : List Byte}
    (hroom : p.size ≤ RtpHeader.bytes + buffer.length) :
    ∃ q, p.clone buffer = .ok q ∧ Same p q ∧ q.ids = p.ids := by
  obtain ⟨buffer', hlength, hcopied, -, hclone⟩ := clone_eq h.formed hroom
  obtain ⟨q, hparse, hsame⟩ := h.same_view (by omega) hcopied
  exact ⟨_, by rw [hclone, hparse]; rfl, hsame p.ids, rfl⟩

/-! ## A parsed packet -/

theorem of_parsePadding {header : RtpHeader} {data : List Byte} {len payloadLength : ℕ}
    {payloadPadding : Byte}
    (h : parsePadding header data len payloadLength = .ok (some payloadPadding))
    (hne : payloadPadding ≠ 0) : data[len - 1]? = some payloadPadding := by
  unfold parsePadding at h
  split at h
  · split at h
    · cases h
    · obtain ⟨b, hb, h⟩ := bind_eq_ok.mp h
      split at h
      · cases h
      · split at h
        · cases h
        · cases h
          unfold Byte.get1Byte at hb
          split at hb
          · cases hb
            assumption
          · cases hb
  · cases h
    exact absurd rfl hne

/-- What `Parse` has looked at before it calls the constructor. -/
theorem of_parse {data : List Byte} {len : ℕ} (h : parse data len = .ok (some p)) :
    ∃ q : RtpPacket, q.parseExtensions = .ok p ∧ q.mapOneByteExtensions = (fun _ ↦ none) ∧
      q.mapTwoBytesExtensions = (fun _ ↦ none) ∧ q.header.version = 2 ∧
      (q.payloadPadding ≠ 0 → data[len - 1]? = some q.payloadPadding) := by
  unfold parse at h
  obtain ⟨rtp, hrtp, h⟩ := bind_eq_ok.mp h
  split at h
  · cases h
  rename_i hok
  obtain ⟨header, hheader, h⟩ := bind_eq_ok.mp h
  have hversion : header.version = 2 := by
    unfold isRtp at hrtp
    split at hrtp
    · obtain ⟨b, -, hrtp⟩ := bind_eq_ok.mp hrtp
      obtain ⟨header', hheader', hrtp⟩ := bind_eq_ok.mp hrtp
      obtain rfl := Except.ok.inj (hheader.symm.trans hheader')
      cases hrtp
      rw [not_not, Bool.and_eq_true] at hok
      exact of_decide_eq_true hok.2
    · cases hrtp
      exact absurd Bool.false_ne_true hok
  split at h
  · cases h
  obtain ⟨ext, -, h⟩ := bind_eq_ok.mp h
  split at h
  · cases h
  obtain ⟨-, -, h⟩ := bind_eq_ok.mp h
  obtain ⟨padding, hpadding, h⟩ := bind_eq_ok.mp h
  split at h
  · cases h
  obtain ⟨-, -, h⟩ := bind_eq_ok.mp h
  obtain ⟨q, hq, h⟩ := bind_eq_ok.mp h
  cases h
  exact ⟨_, hq, rfl, rfl, hversion, of_parsePadding hpadding⟩

/-- **A parsed packet** is in agreement with its bytes. -/
theorem inSync_of_parse {data : List Byte} {len : ℕ} (hlen : len ≤ data.length)
    (hparse : parse data len = .ok (some p)) (hshort : p.getHeaderExtensionLength ≤ 32768) :
    InSync p := by
  obtain ⟨result, hresult, hformed⟩ := parse_spec data hlen
  obtain rfl := Except.ok.inj (hparse.symm.trans hresult)
  obtain ⟨hp, hsize, hbody⟩ := hformed p rfl
  obtain ⟨q, hq, hone, htwo, hversion, hpadding⟩ := of_parse hparse
  have hq' : q.Formed := by
    have := hp.congr q.mapOneByteExtensions q.mapTwoBytesExtensions q.ids
    rw [parseExtensions_frame hq] at this
    exact this
  obtain rfl := Except.ok.inj (hq.symm.trans (parseExtensions_found hq' hone htwo))
  refine ⟨hp, hversion, rfl, rfl, fun hne ↦ ?_, hshort⟩
  have hpos : 0 < q.payloadPadding.toNat := toNat_pos hne
  have hsizes := hq'.size
  change q.size = len at hsize
  change q.body = _ at hbody
  change q.body[q.payload + q.payloadLength + q.payloadPadding.toNat - 1]? = some q.payloadPadding
  rw [hbody, List.getElem?_drop, ← hpadding hne]
  congr 1
  omega

/-! ## Operations behind the header extension -/

/-- The setters of header fields leave everything that matters to the layout. -/
theorem InSync.setHeader (h : InSync p) {header : RtpHeader}
    (hversion : header.version = p.header.version) (hpadding : header.padding = p.header.padding)
    (hextension : header.extension = p.header.extension)
    (hcsrcCount : header.csrcCount = p.header.csrcCount) : InSync { p with header := header } := by
  have hfront : SameFront p { p with header := header } :=
    ⟨hcsrcCount, hextension, rfl, rfl, rfl, rfl⟩
  exact h.of_sameElements (hfront.formed h.formed (hpadding.trans h.formed.padding) h.formed.size
    h.formed.fits) ⟨hfront, rfl, rfl, rfl⟩ hversion h.padding

theorem InSync.setMidExtensionId (h : InSync p) (id : Byte) : InSync (p.setMidExtensionId id) :=
  ⟨h.formed.congr _ _ _, h.version, h.one, h.two, h.padding, h.short⟩

/-- `SetPayloadLength` removes the padding, and what it adds to the payload is what is there. -/
theorem InSync.setPayloadLength (h : InSync p) {length : ℕ}
    (hroom : (p.setPayloadLength length).size ≤ RtpHeader.bytes + p.body.length) :
    InSync (p.setPayloadLength length) := by
  have hsize := h.formed.size
  have hfront : SameFront p (p.setPayloadLength length) := ⟨rfl, rfl, rfl, rfl, rfl, rfl⟩
  refine h.of_sameElements (hfront.formed h.formed rfl ?_ hroom) ⟨hfront, rfl, rfl, rfl⟩ rfl
    fun hne ↦ absurd rfl hne
  change p.size - p.payloadLength - p.payloadPadding.toNat +
    (Byte.padTo4Bytes (BitVec.ofNat 16 length)).toNat =
      RtpHeader.bytes + p.payload + (Byte.padTo4Bytes (BitVec.ofNat 16 length)).toNat + 0
  omega

/-- The end of the payload and the padding are moved together. -/
theorem InSync.of_move (h : InSync p) (dst src len payloadLength size : ℕ) (hlo : p.payload ≤ dst)
    (hhi : dst ≤ p.payload + payloadLength)
    (hsrc : src + len = p.payload + p.payloadLength + p.payloadPadding.toNat)
    (hdst : dst + len = p.payload + payloadLength + p.payloadPadding.toNat)
    (hsize : size = RtpHeader.bytes + p.payload + payloadLength + p.payloadPadding.toNat)
    (hroom : size ≤ RtpHeader.bytes + p.body.length) :
    moveBytes p.body dst src len = .ok (move p.body dst src len) ∧ InSync { p with
      body := move p.body dst src len
      payloadLength := payloadLength
      size := size } := by
  have hsizes := h.formed.size
  have hfits := h.formed.fits
  have hsrc' : src + len ≤ p.body.length := by omega
  have hdst' : dst + len ≤ p.body.length := by omega
  have hfront : SameFront p { p with
      body := move p.body dst src len
      payloadLength := payloadLength
      size := size } :=
    ⟨rfl, rfl, rfl, rfl, rfl, slice_move_before hsrc' hdst' (by omega)⟩
  refine ⟨moveBytes_eq_ok hsrc' hdst', h.of_sameElements
    (hfront.formed h.formed h.formed.padding hsize ?_) ⟨hfront, rfl, rfl, rfl⟩ rfl fun hne ↦ ?_⟩
  · change size ≤ RtpHeader.bytes + (move p.body dst src len).length
    rw [length_move hsrc' hdst']
    exact hroom
  · have hpos := toNat_pos hne
    change 0 < p.payloadPadding.toNat at hpos
    have hcell := getElem?_of_slice_eq (slice_move_self hsrc' hdst') (show len - 1 < len by omega)
    change (move p.body dst src len)[p.payload + payloadLength + p.payloadPadding.toNat - 1]? =
      some p.payloadPadding
    rw [← h.padding hne, show p.payload + payloadLength + p.payloadPadding.toNat - 1 =
      dst + (len - 1) by omega, hcell]
    congr 1
    omega

/-- The asserted preconditions of `ShiftPayload`, and that there is room. -/
def CanShift (p : RtpPacket) (payloadOffset shift : ℕ) (expand : Bool) : Prop :=
  shift = 0 ∨ payloadOffset < p.payloadLength ∧
    if expand then p.size + shift ≤ RtpHeader.bytes + p.body.length
    else shift ≤ p.payloadLength - payloadOffset

theorem InSync.shiftPayload (h : InSync p) {payloadOffset shift : ℕ} {expand : Bool}
    (hcan : p.CanShift payloadOffset shift expand) :
    ∃ q, p.shiftPayload payloadOffset shift expand = .ok q ∧ InSync q := by
  have hsize := h.formed.size
  have hfits := h.formed.fits
  unfold RtpPacket.shiftPayload
  rcases hcan with rfl | ⟨hoffset, hcan⟩
  · exact ⟨p, rfl, h⟩
  by_cases hzero : shift = 0
  · exact ⟨p, if_pos hzero, h⟩
  rw [if_neg hzero, decide_eq_true hoffset, msAssert_true]
  cases expand with
  | true =>
    rw [if_pos rfl] at hcan
    obtain ⟨hmove, hq⟩ := h.of_move (p.payload + payloadOffset + shift) (p.payload + payloadOffset)
      (p.payloadLength + p.payloadPadding.toNat - payloadOffset) (p.payloadLength + shift)
      (p.size + shift) (by omega) (by omega) (by omega) (by omega) (by omega) hcan
    refine ⟨_, ?_, hq⟩
    change (moveBytes p.body _ _ _ >>= fun _ ↦ _) = _
    rw [hmove]
    rfl
  | false =>
    rw [if_neg Bool.false_ne_true] at hcan
    obtain ⟨hmove, hq⟩ := h.of_move (p.payload + payloadOffset) (p.payload + payloadOffset + shift)
      (p.payloadLength + p.payloadPadding.toNat - payloadOffset - shift) (p.payloadLength - shift)
      (p.size - shift) (by omega) (by omega) (by omega) (by omega) (by omega) (by omega)
    refine ⟨_, ?_, hq⟩
    change (msAssert (decide (shift ≤ p.payloadLength - payloadOffset)) _ >>= fun _ ↦ _) = _
    rw [decide_eq_true hcan, msAssert_true]
    change (moveBytes p.body _ _ _ >>= fun _ ↦ _) = _
    rw [hmove]
    rfl

/-- In the RTX format there is no padding. -/
theorem InSync.rtxEncode (h : InSync p) (payloadType : Byte) (ssrc : BitVec 32) (seq : BitVec 16)
    (hroom : p.size + 2 ≤ RtpHeader.bytes + p.body.length) :
    ∃ q, p.rtxEncode payloadType ssrc seq = .ok q ∧ InSync q := by
  obtain ⟨q, hok, hq, -, -, -, hsame⟩ := rtxEncode_spec h.formed payloadType ssrc seq hroom
  obtain ⟨hversion, hpadding⟩ := of_rtxEncode hok
  exact ⟨q, hok, h.of_sameElements hq hsame hversion fun hne ↦ absurd hpadding hne⟩

theorem InSync.rtxDecode (h : InSync p) (payloadType : Byte) (ssrc : BitVec 32) :
    ∃ r : Option RtpPacket, p.rtxDecode payloadType ssrc = .ok r ∧ ∀ q, r = some q → InSync q := by
  obtain ⟨r, hok, -, hr⟩ := rtxDecode_spec h.formed payloadType ssrc
  refine ⟨r, hok, fun q hsome ↦ ?_⟩
  obtain ⟨hq, hsame, hversion, hpadding, -⟩ := hr q hsome
  exact h.of_sameElements hq hsame hversion fun hne ↦ absurd hpadding hne

/-! ## `SetExtensions` -/

/-- The elements that `SetExtensions` has written are those that are found. -/
theorem Extended.found_eq (h : Extended p q type extensions) (htype : type = 1 ∨ type = 2) :
    q.mapOneByteExtensions = q.found 1 ∧ q.mapTwoBytesExtensions = q.found 2 := by
  obtain ⟨r, start, hfill, hstart, hone, htwo⟩ := h.filled
  obtain ⟨helements, hother⟩ := elements_fillHeaderExtension hfill hone htwo
  rw [hstart, ← h.keeps.csrcListSize, ← found_of_hasForm type h.hasForm] at helements
  rcases htype with rfl | rfl
  · refine ⟨helements, ?_⟩
    rw [found_of_not_hasForm 2 (not_hasTwoBytesExtensions h.hasForm)]
    exact hother
  · refine ⟨?_, helements⟩
    rw [found_of_not_hasForm 1 (not_hasOneByteExtensions h.hasForm)]
    exact hother

/-- `SetExtensions` keeps members and bytes in agreement. -/
theorem Extended.inSync (h : Extended p q type extensions) (hp : InSync p)
    (htype : type = 1 ∨ type = 2) (htotal : totalSize type extensions < 32768) : InSync q where
  formed := h.formed
  version := by
    have hversion := congrArg RtpHeader.version h.keeps.header
    exact hversion.trans hp.version
  one := (h.found_eq htype).1
  two := (h.found_eq htype).2
  padding hne := by
    have hpos := toNat_pos hne
    have hcontent := h.keeps.content
    have hpadding := hp.padding
    rw [h.keeps.payloadPadding] at hne hpos ⊢
    rw [h.keeps.payloadLength, ← hpadding hne]
    have hcell := getElem?_of_slice_eq hcontent
      (show p.payloadLength + p.payloadPadding.toNat - 1 < _ by omega)
    rwa [← Nat.add_sub_assoc (by omega), ← Nat.add_sub_assoc (by omega), ← Nat.add_assoc,
      ← Nat.add_assoc] at hcell
  short := by
    have hpadded := GenericExtension.paddedSize_eq htotal
    have hsize := h.extensionSize
    unfold RtpPacket.extensionSize at hsize
    split at hsize <;> omega

/-! ## `UpdateMid` -/

/-- What the value of the MID leaves of `MidMaxLength` bytes is padding. -/
def MidReserved (p : RtpPacket) : Prop :=
  ∀ value len, p.getExtension p.ids.midExtensionId = .ok (some (value, len)) →
    value + midMaxLength ≤ p.payload ∧
      ∀ j, len ≤ j → j < midMaxLength → p.body[value + j]? = some 0

/-- A value of eight bytes for the MID is reserved. -/
theorem InSync.midReserved_of_value (h : InSync p) {value : List Byte}
    (hvalue : p.getExtensionValue p.ids.midExtensionId = .ok (some value))
    (hlength : midMaxLength ≤ value.length) : p.MidReserved := by
  intro ptr len hget
  obtain ⟨_, _, _, _, _, _, _, _, _, hle⟩ := h.of_getExtension hget
  rw [getExtensionValue, hget] at hvalue
  cases hvalue
  rw [slice, List.length_take] at hlength
  exact ⟨by omega, fun j hj hlt ↦ absurd hlt (by omega)⟩

/-- The operations that do not touch the header extension keep the room for the MID. -/
theorem SameElements.midReserved (h : SameElements p q) (hp : InSync p) (hq : q.Formed)
    (hreserved : p.MidReserved) : q.MidReserved := by
  intro value len hget
  rw [h.ids, (h.getExtension_eq hp hq _).1] at hget
  obtain ⟨hroom, hzeros⟩ := hreserved value len hget
  rw [h.front.payload]
  refine ⟨hroom, fun j hj hlt ↦ ?_⟩
  rw [h.front.getElem?_body (by omega)]
  exact hzeros j hj hlt

/-- A value is written into the room that is reserved for it. -/
theorem InSync.writeMid (h : InSync p) (hreserved : p.MidReserved) {value len : ℕ}
    (hget : p.getExtension p.ids.midExtensionId = .ok (some (value, len))) {mid : List Byte}
    (hmid : mid ≠ []) (hle : mid.length ≤ midMaxLength) :
    ∃ body, p.updateMid mid = .ok (true, { p with body := body }) ∧
      InSync { p with body := body } ∧ MidReserved { p with body := body } := by
  obtain ⟨hroom, hzeros⟩ := hreserved value len hget
  obtain ⟨type, ptr, htype, hform, hmap, hvalid, hhead, hlo, rfl, hin⟩ := h.of_getExtension hget
  have hpayload := h.formed.payload_le
  have hmidMax : midMaxLength = 8 := rfl
  have hmid' : mid.length ≠ 0 := mt List.length_eq_zero_iff.mp hmid
  have hvalid' : IsValid type p.ids.midExtensionId mid.length := by
    refine ⟨hvalid.1, ?_⟩
    have hlength := hvalid.2
    split at hlength
    · rename_i hone
      rw [if_pos hone]
      exact ⟨hlength.1, hmid', by omega⟩
    · rename_i hone
      rw [if_neg hone]
      omega
  have hwrite : ptr + (formOf type).headerSize + mid.length ≤ p.body.length := by omega
  let q : RtpPacket := { p with body := splice p.body (ptr + (formOf type).headerSize) mid }
  have hlength : q.body.length = p.body.length := length_splice hwrite
  have hq : q.hasForm type = true := (hasForm_congr (h.formed.of_body hlength
    (slice_splice_before hwrite (by omega))).2 type).trans hform
  obtain ⟨body, hset, hlength', hsame, hhead', hvalue, hrest⟩ :=
    setExtensionLength_spec hq hmap hvalid hvalid' hmid'
      ((slice_splice_before hwrite (Nat.le_refl _)).trans hhead) (Nat.le_max_left len midMaxLength)
      (by rw [hlength]; omega)
  have hoff : ∀ i n, i + n ≤ ptr ∨ ptr + (formOf type).headerSize + max len midMaxLength ≤ i →
      slice body i n = slice p.body i n := by
    intro i n hin'
    rw [hsame i n hin']
    rcases hin' with hbefore | hafter
    · exact slice_splice_before hwrite (by omega)
    · exact slice_splice_after hwrite (by omega)
  have hpadding : ∀ j, mid.length ≤ j → j < max len midMaxLength →
      body[ptr + (formOf type).headerSize + j]? = some 0 := by
    intro j hj hlt
    rw [hrest j hj]
    split
    · rfl
    · refine (getElem?_splice_of_ge hwrite (by omega)).trans ?_
      exact hzeros j (by omega) (by omega)
  obtain ⟨hformed, hid⟩ := h.formed.of_body (hlength'.trans hlength) (hoff _ _ (.inl (by omega)))
  have hform' : ∀ t, hasForm { p with body := body } t = p.hasForm t := hasForm_congr hid
  have hfound : ∀ t, t = 1 ∨ t = 2 → found { p with body := body } t = p.found t := by
    intro t ht
    by_cases htrue : p.hasForm t = true
    · obtain rfl := hasForm_unique ht htype htrue hform
      have hold := (congrFun (h.elements htype) p.ids.midExtensionId).symm.trans hmap
      rw [found_of_hasForm t htrue] at hold ⊢
      rw [found_of_hasForm t ((hform' t).trans htrue)]
      refine walk_resize (by simp) hold ?_ (Nat.le_max_left len midMaxLength) ?_ hvalid hvalid'
        hhead hhead' (fun j hj hlt ↦ hzeros j hj ?_) hpadding (fun j hj ↦ ?_) fun j hj ↦ ?_
      · dsimp only
        omega
      · omega
      · omega
      · exact getElem?_of_slice (hoff j 1 (.inl (by omega)))
      · exact getElem?_of_slice (hoff j 1 (.inr (by omega)))
    · rw [found_of_not_hasForm t htrue, found_of_not_hasForm t fun hnew ↦
        htrue ((hform' t).symm.trans hnew)]
  refine ⟨body, ?_, ⟨hformed, h.version, h.one.trans (hfound 1 (Or.inl rfl)).symm,
    h.two.trans (hfound 2 (Or.inr rfl)).symm, fun hne ↦ ?_, ?_⟩, ?_⟩
  · rw [RtpPacket.updateMid, hget]
    change (if midMaxLength < mid.length then _ else _) = _
    rw [if_neg (by omega), writeBytes_eq_ok hwrite]
    change (q.setExtensionLength p.ids.midExtensionId _ >>= fun _ ↦ _) = _
    rw [hset]
    rfl
  · have hpos := toNat_pos hne
    change 0 < p.payloadPadding.toNat at hpos
    exact (getElem?_of_slice (hoff _ 1 (.inr (by dsimp only; omega)))).trans (h.padding hne)
  · have hshort := h.short
    have hext := hformed.payload
    have hext' := h.formed.payload
    rcases Option.eq_none_or_eq_some p.headerExtension with hnone | ⟨start, hsome⟩
    · rw [getHeaderExtensionLength]
      dsimp only
      rw [hnone]
      exact Nat.zero_le _
    · rw [RtpPacket.extensionSize_eq (p := { p with body := body }) hsome] at hext
      rw [RtpPacket.extensionSize_eq hsome] at hext'
      dsimp only at hext
      omega
  · intro value len' hget'
    have hmap' : RtpPacket.elements { p with body := body } type p.ids.midExtensionId = some ptr :=
      hmap
    rw [getExtension_element ((hform' type).trans hform) hmap' hvalid' hhead', if_neg hmid']
      at hget'
    cases hget'
    exact ⟨hroom, fun j hj hlt ↦ hpadding j hj (by omega)⟩

/-- `UpdateMid` keeps members and bytes in agreement, and the room for the MID. -/
theorem InSync.updateMid (h : InSync p) (hreserved : p.MidReserved) (mid : List Byte) :
    ∃ updated q, p.updateMid mid = .ok (updated, q) ∧ InSync q ∧ q.MidReserved := by
  obtain ⟨found, hget⟩ := h.located.getExtension_returns h.formed p.ids.midExtensionId
  rcases found with _ | ⟨value, len⟩
  · exact ⟨false, p, by rw [RtpPacket.updateMid, hget]; rfl, h, hreserved⟩
  by_cases hlong : midMaxLength < mid.length
  · exact ⟨false, p, by rw [RtpPacket.updateMid, hget]; exact if_pos hlong, h, hreserved⟩
  by_cases hmid : mid = []
  · subst hmid
    obtain ⟨_, _, _, _, _, _, _, _, _, hin⟩ := h.of_getExtension hget
    have hpayload := h.formed.payload_le
    have hsame : splice p.body value [] = p.body :=
      splice_slice (n := 0) (show value + 0 ≤ p.body.length by omega)
    refine ⟨true, p, ?_, h, hreserved⟩
    rw [RtpPacket.updateMid, hget]
    change (writeBytes p.body value [] >>= fun _ ↦ _) = _
    rw [writeBytes_eq_ok (by rw [List.length_nil]; omega), hsame]
    rfl
  · obtain ⟨body, hok, hq, hkept⟩ := h.writeMid hreserved hget hmid (Nat.le_of_not_lt hlong)
    exact ⟨true, _, hok, hq, hkept⟩

/-! ## Runs -/

/-- The methods that change a packet. -/
inductive PacketOp where
  | setPayloadType (payloadType : Byte)
  | setMarker (marker : Bool)
  | setPayloadPaddingFlag (flag : Bool)
  | setSequenceNumber (seq : BitVec 16)
  | setTimestamp (timestamp : BitVec 32)
  | setSsrc (ssrc : BitVec 32)
  | setExtensions (type : Byte) (extensions : List GenericExtension)
  | setMidExtensionId (id : Byte)
  | updateMid (mid : List Byte)
  | setPayloadLength (length : ℕ)
  | shiftPayload (payloadOffset shift : ℕ) (expand : Bool)
  | rtxEncode (payloadType : Byte) (ssrc : BitVec 32) (seq : BitVec 16)
  | rtxDecode (payloadType : Byte) (ssrc : BitVec 32)

/-- What the operation returns, for those that return something, and the packet afterwards. -/
def step (p : RtpPacket) : PacketOp → Except Fault (Option Bool × RtpPacket)
  | .setPayloadType payloadType => .ok (none, p.setPayloadType payloadType)
  | .setMarker marker => .ok (none, p.setMarker marker)
  | .setPayloadPaddingFlag flag => .ok (none, p.setPayloadPaddingFlag flag)
  | .setSequenceNumber seq => .ok (none, p.setSequenceNumber seq)
  | .setTimestamp timestamp => .ok (none, p.setTimestamp timestamp)
  | .setSsrc ssrc => .ok (none, p.setSsrc ssrc)
  | .setExtensions type extensions => do return (none, ← p.setExtensions type extensions)
  | .setMidExtensionId id => .ok (none, p.setMidExtensionId id)
  | .updateMid mid => do
    let (updated, p) ← p.updateMid mid
    return (some updated, p)
  | .setPayloadLength length => .ok (none, p.setPayloadLength length)
  | .shiftPayload payloadOffset shift expand => do
    return (none, ← p.shiftPayload payloadOffset shift expand)
  | .rtxEncode payloadType ssrc seq => do return (none, ← p.rtxEncode payloadType ssrc seq)
  | .rtxDecode payloadType ssrc => do
    match ← p.rtxDecode payloadType ssrc with
    | none => return (some false, p)
    | some q => return (some true, q)

/-- The operation is called as it may be: the assertions at its start hold, the buffer has room for
what it writes, and a MID is only updated where there is room for it. -/
def Permitted (p : RtpPacket) : PacketOp → Prop
  | .setExtensions type extensions => (type = 1 ∨ type = 2) ∧ totalSize type extensions < 32768 ∧
      p.size + (4 + paddedSize type extensions) ≤
        RtpHeader.bytes + p.body.length + p.extensionSize
  | .updateMid _ => p.MidReserved
  | .setPayloadLength length =>
      (p.setPayloadLength length).size ≤ RtpHeader.bytes + p.body.length
  | .shiftPayload payloadOffset shift expand => p.CanShift payloadOffset shift expand
  | .rtxEncode _ _ _ => p.size + 2 ≤ RtpHeader.bytes + p.body.length
  | _ => True

/-- The shift of `SetExtensions` is a number of an `int16_t`, and `SetPayloadPaddingFlag` does not
change the flag behind the back of the other members. -/
def Fits (p : RtpPacket) : PacketOp → Prop
  | .setExtensions type extensions =>
      4 + paddedSize type extensions < p.extensionSize + 32768
  | .setPayloadPaddingFlag flag => flag = p.header.padding
  | _ => True

/-- Whoever parses the bytes of a packet, or clones it, has the same packet. -/
def Agrees (p : RtpPacket) : Prop :=
  (∃ q, parse p.bytes p.size = .ok (some q) ∧ Same p q) ∧
    ∀ buffer : List Byte, p.size ≤ RtpHeader.bytes + buffer.length →
      ∃ q, p.clone buffer = .ok q ∧ Same p q ∧ q.ids = p.ids

theorem InSync.agrees (h : InSync p) : p.Agrees := ⟨h.parse_bytes, fun _ hroom ↦ h.clone hroom⟩

/-- One step keeps members and bytes in agreement. -/
theorem InSync.step (h : InSync p) {op : PacketOp} (hpermitted : p.Permitted op)
    (hfits : p.Fits op) : ∃ output q, p.step op = .ok (output, q) ∧ InSync q := by
  cases op with
  | setPayloadType payloadType => exact ⟨_, _, rfl, h.setHeader rfl rfl rfl rfl⟩
  | setMarker marker => exact ⟨_, _, rfl, h.setHeader rfl rfl rfl rfl⟩
  | setPayloadPaddingFlag flag => exact ⟨_, _, rfl, h.setHeader rfl hfits rfl rfl⟩
  | setSequenceNumber seq => exact ⟨_, _, rfl, h.setHeader rfl rfl rfl rfl⟩
  | setTimestamp timestamp => exact ⟨_, _, rfl, h.setHeader rfl rfl rfl rfl⟩
  | setSsrc ssrc => exact ⟨_, _, rfl, h.setHeader rfl rfl rfl rfl⟩
  | setExtensions type extensions =>
    obtain ⟨htype, htotal, hroom⟩ := hpermitted
    have hshort := h.short
    obtain ⟨q, hok, hextended⟩ := setExtensions_of_le h.formed htype htotal hroom hfits
      (Or.inr (by omega))
    exact ⟨_, q, by rw [RtpPacket.step, hok]; rfl, hextended.inSync h htype htotal⟩
  | setMidExtensionId id => exact ⟨_, _, rfl, h.setMidExtensionId id⟩
  | updateMid mid =>
    obtain ⟨updated, q, hok, hq, -⟩ := h.updateMid hpermitted mid
    exact ⟨_, q, by rw [RtpPacket.step, hok]; rfl, hq⟩
  | setPayloadLength length => exact ⟨_, _, rfl, h.setPayloadLength hpermitted⟩
  | shiftPayload payloadOffset shift expand =>
    obtain ⟨q, hok, hq⟩ := h.shiftPayload hpermitted
    exact ⟨_, q, by rw [RtpPacket.step, hok]; rfl, hq⟩
  | rtxEncode payloadType ssrc seq =>
    obtain ⟨q, hok, hq⟩ := h.rtxEncode payloadType ssrc seq hpermitted
    exact ⟨_, q, by rw [RtpPacket.step, hok]; rfl, hq⟩
  | rtxDecode payloadType ssrc =>
    obtain ⟨r, hok, hr⟩ := h.rtxDecode payloadType ssrc
    cases r with
    | none => exact ⟨_, p, by rw [RtpPacket.step, hok]; rfl, h⟩
    | some q => exact ⟨_, q, by rw [RtpPacket.step, hok]; rfl, hr q rfl⟩

theorem InSync.run {ops : List PacketOp} (h : InSync p)
    (hpermitted : Run.Obeys RtpPacket.step Permitted p ops)
    (hfits : Run.Obeys RtpPacket.step Fits p ops) :
    ∃ records, Run.trace RtpPacket.step p ops = .ok records ∧ ∀ r ∈ records, InSync r.after := by
  induction ops generalizing p with
  | nil => exact ⟨[], rfl, fun r hr ↦ absurd hr List.not_mem_nil⟩
  | cons op ops ih =>
    obtain ⟨output, q, hok, hq⟩ := h.step hpermitted.1 hfits.1
    obtain ⟨records, htrace, hrecords⟩ := ih hq (hpermitted.2 _ _ hok) (hfits.2 _ _ hok)
    refine ⟨_, Run.trace_cons_ok hok htrace, fun r hr ↦ ?_⟩
    rcases List.mem_cons.mp hr with rfl | hr
    · exact hq
    · exact hrecords r hr

instance (p : RtpPacket) : Decidable p.MidReserved :=
  match hget : p.getExtension p.ids.midExtensionId with
  | .ok (some (value, len)) => decidable_of_iff (value + midMaxLength ≤ p.payload ∧
      ∀ j < midMaxLength, len ≤ j → p.body[value + j]? = some 0)
      ⟨fun h value' len' hsome ↦ by
        rw [hget] at hsome
        cases hsome
        exact ⟨h.1, fun j hj hlt ↦ h.2 j hlt hj⟩,
      fun h ↦ ⟨(h value len hget).1, fun j hlt hj ↦ (h value len hget).2 j hj hlt⟩⟩
  | .ok none => isTrue fun _ _ hsome ↦ by rw [hget] at hsome; cases hsome
  | .error _ => isTrue fun _ _ hsome ↦ by rw [hget] at hsome; cases hsome

instance (p : RtpPacket) (payloadOffset shift : ℕ) (expand : Bool) :
    Decidable (p.CanShift payloadOffset shift expand) :=
  inferInstanceAs (Decidable (shift = 0 ∨ payloadOffset < p.payloadLength ∧
    if expand then p.size + shift ≤ RtpHeader.bytes + p.body.length
    else shift ≤ p.payloadLength - payloadOffset))

instance (p : RtpPacket) : ∀ op, Decidable (p.Permitted op)
  | .setExtensions _ _ => inferInstanceAs (Decidable (_ ∧ _ ∧ _))
  | .updateMid _ => inferInstanceAs (Decidable p.MidReserved)
  | .setPayloadLength _ => inferInstanceAs (Decidable (_ ≤ _))
  | .shiftPayload _ _ _ => inferInstanceAs (Decidable (p.CanShift _ _ _))
  | .rtxEncode _ _ _ => inferInstanceAs (Decidable (_ ≤ _))
  | .setPayloadType _ | .setMarker _ | .setPayloadPaddingFlag _ | .setSequenceNumber _
  | .setTimestamp _ | .setSsrc _ | .setMidExtensionId _ | .rtxDecode _ _ => isTrue trivial

instance (p : RtpPacket) : ∀ op, Decidable (p.Fits op)
  | .setExtensions _ _ => inferInstanceAs (Decidable (_ < _))
  | .setPayloadPaddingFlag _ => inferInstanceAs (Decidable (_ = _))
  | .setPayloadType _ | .setMarker _ | .setSequenceNumber _ | .setTimestamp _ | .setSsrc _
  | .setMidExtensionId _ | .updateMid _ | .setPayloadLength _ | .shiftPayload _ _ _
  | .rtxEncode _ _ _ | .rtxDecode _ _ => isTrue trivial

/-- A buffer of 47 bytes that starts with a packet of three payload bytes. -/
def roomyBuffer : List Byte :=
  [0x80, 0, 0, 1, 0, 0, 0, 0, 0, 0, 0, 7, 0xAB, 0xCD, 0xEF] ++ List.replicate 32 0

/-- The packet in that buffer. -/
def roomyPacket : RtpPacket :=
  view { version := 2, padding := false, extension := false, csrcCount := 0, marker := false
         payloadType := 0, sequenceNumber := 1, timestamp := 0, ssrc := 7 }
    (roomyBuffer.drop 12) none 0 3 0 15

end RtpPacket

end MediasoupSfu
