import MediasoupSfu.Rtp.Packet

/-!
# Setting header extensions

`SetExtensions` replaces the header extension of a packet by the given elements. The payload is
shifted by the difference between the new and the old size, and a last assertion compares the end of
the elements with the start of the payload.

The difference is kept in an `int16_t`. It is exact as long as the header extension shrinks by at
most 32768 bytes, and `setExtensions_of_le` and `not_setExtensions` show that this is the only thing
that can go wrong.
-/

namespace MediasoupSfu

open Memory

/-- `RtpPacket::GenericExtension`. -/
structure GenericExtension where
  id : Byte
  /-- The bytes at `value`; they are not part of the packet. -/
  value : List Byte
  /-- `len` is a `uint8_t`. -/
  length_lt : value.length < 256

namespace GenericExtension

/-- The member `len`. -/
def len (e : GenericExtension) : ℕ := e.value.length

/-- `SetExtensions` leaves this element out. -/
def isSkipped (type : Byte) (e : GenericExtension) : Bool :=
  if type = 1 then decide (e.id = 0 ∨ 14 < e.id ∨ e.len = 0 ∨ 16 < e.len) else decide (e.id = 0)

/-- The bytes of an element with its head. -/
def element (type : Byte) (e : GenericExtension) : List Byte :=
  if type = 1 then ((e.id <<< 4) ||| (BitVec.ofNat 8 (e.len - 1) &&& 0x0F)) :: e.value
  else e.id :: BitVec.ofNat 8 e.len :: e.value

/-- The sum that the first loop of `SetExtensions` computes. -/
def totalSize (type : Byte) : List GenericExtension → ℕ
  | [] => 0
  | e :: es =>
    if e.isSkipped type then totalSize type es
    else (if type = 1 then 1 + e.len else 2 + e.len) + totalSize type es

/-- The size of all elements with padding. -/
def paddedSize (type : Byte) (extensions : List GenericExtension) : ℕ :=
  (Byte.padTo4Bytes (BitVec.ofNat 16 (totalSize type extensions))).toNat

/-- The `size_t` difference of the two sizes. -/
def paddingSize (type : Byte) (extensions : List GenericExtension) : ℕ :=
  (BitVec.ofNat 64 (paddedSize type extensions) - BitVec.ofNat 64 (totalSize type extensions)).toNat

theorem paddedSize_eq {type : Byte} {extensions : List GenericExtension}
    (h : totalSize type extensions < 32768) :
    paddedSize type extensions = (totalSize type extensions + 3) / 4 * 4 :=
  Byte.padTo4Bytes_toNat (by omega)

theorem totalSize_add_paddingSize {type : Byte} {extensions : List GenericExtension}
    (h : totalSize type extensions < 32768) :
    totalSize type extensions + paddingSize type extensions = paddedSize type extensions := by
  have hpadded := paddedSize_eq h
  rw [paddingSize]
  bv_omega

end GenericExtension

namespace RtpPacket

open GenericExtension

/-- The header extension id of the one-byte and of the two-bytes form. -/
def headerExtensionId (type : Byte) : BitVec 16 :=
  if type = 1 then 0xBEDE else 0b0001000000000000

/-- If there is header extension of non matching type, modify its id. -/
def matchHeaderExtensionId (p : RtpPacket) (type : Byte) : Except Fault RtpPacket :=
  if type = 1 ∧ p.hasOneByteExtensions ∨ type = 2 ∧ p.hasTwoBytesExtensions then .ok p
  else match p.headerExtension with
    | none => .ok p
    | some headerExtension => do
      let body ← writeBytes p.body headerExtension (Byte.set2Bytes (headerExtensionId type))
      return { p with body := body }

/-- The `int16_t` number of bytes to shift (may be negative if the packet did already have header
extension). -/
def extensionShift (p : RtpPacket) (extensionsTotalSize : ℕ) : ℤ :=
  match p.headerExtension with
  | none => (BitVec.ofInt 16 (4 + (BitVec.ofNat 16 extensionsTotalSize).toInt)).toInt
  | some _ => (BitVec.ofInt 16 (extensionsTotalSize - p.getHeaderExtensionLength)).toInt

/-- Shift the payload and update the packet total size. -/
def shiftBy (p : RtpPacket) (shift : ℤ) : Except Fault RtpPacket :=
  if p.payload + shift < 0 then .error .outOfBounds
  else do
    let payload := (p.payload + shift).toNat
    let body ← moveBytes p.body payload p.payload (p.payloadLength + p.payloadPadding.toNat)
    return { p with body := body, payload := payload, size := (p.size + shift).toNat }

/-- Make room for the elements: the packet and the place of its header extension. -/
def makeExtensionRoom (p : RtpPacket) (type : Byte) (extensionsTotalSize : ℕ) :
    Except Fault (RtpPacket × ℕ) :=
  let shift := p.extensionShift extensionsTotalSize
  let length := Byte.set2Bytes (BitVec.ofNat 16 (extensionsTotalSize / 4))
  match p.headerExtension with
  | some headerExtension =>
    if shift ≠ 0 then do
      let p ← p.shiftBy shift
      let body ← writeBytes p.body (headerExtension + 2) length
      return ({ p with body := body }, headerExtension)
    else .ok (p, headerExtension)
  | none => do
    let headerExtension := p.payload
    let p := { p with
      header := { p.header with extension := true }
      headerExtension := some headerExtension }
    let p ← p.shiftBy shift
    let body ← writeBytes p.body headerExtension (Byte.set2Bytes (headerExtensionId type))
    let body ← writeBytes body (headerExtension + 2) length
    return ({ p with body := body }, headerExtension)

/-- Store an element in the map of its form. -/
def storeElement (p : RtpPacket) (type id : Byte) (ptr : ℕ) : RtpPacket :=
  if type = 1 then
    { p with mapOneByteExtensions := Function.update p.mapOneByteExtensions id (some ptr) }
  else { p with mapTwoBytesExtensions := Function.update p.mapTwoBytesExtensions id (some ptr) }

/-- The loop that writes the new extensions from `ptr` on: the packet and the end of the
elements. -/
def writeExtensions (type : Byte) :
    List GenericExtension → RtpPacket → ℕ → Except Fault (RtpPacket × ℕ)
  | [], p, ptr => .ok (p, ptr)
  | e :: es, p, ptr =>
    if e.isSkipped type then writeExtensions type es p ptr
    else do
      let p := p.storeElement type e.id ptr
      let body ← writeBytes p.body ptr (e.element type)
      writeExtensions type es { p with body := body } (ptr + (e.element type).length)

/-- Write the new extensions into the header extension value. -/
def fillHeaderExtension (p : RtpPacket) (type : Byte) (extensions : List GenericExtension)
    (headerExtension : ℕ) : Except Fault RtpPacket := do
  let (p, ptr) ← writeExtensions type extensions p (headerExtension + 4)
  let padding := paddingSize type extensions
  let body ← writeBytes p.body ptr (List.replicate padding 0)
  msAssert (decide (ptr + padding = p.payload)) "wrong ptr calculation"
  return { p with body := body }

/-- `SetExtensions(type, extensions)`. -/
def setExtensions (p : RtpPacket) (type : Byte) (extensions : List GenericExtension) :
    Except Fault RtpPacket := do
  msAssert (decide (type = 1 ∨ type = 2)) "type must be 1 or 2"
  -- Reset extension ids and clear the maps.
  let p := { p with
    ids := {}
    mapOneByteExtensions := fun _ ↦ none
    mapTwoBytesExtensions := fun _ ↦ none }
  let p ← p.matchHeaderExtensionId type
  let (p, headerExtension) ← p.makeExtensionRoom type (paddedSize type extensions)
  p.fillHeaderExtension type extensions headerExtension

/-! ## The pieces -/

variable {p p' : RtpPacket} {type : Byte} {extensions : List GenericExtension}

theorem length_element (type : Byte) (e : GenericExtension) :
    (e.element type).length = if type = 1 then 1 + e.len else 2 + e.len := by
  unfold element len
  split
  · rw [List.length_cons, Nat.add_comm]
  · rw [List.length_cons, List.length_cons, Nat.add_comm, Nat.add_comm _ 1, ← Nat.add_assoc]

/-- The writing loop changes only the body and the maps, and ends behind the elements. -/
theorem writeExtensions_eq_ok (type : Byte) (es : List GenericExtension) :
    ∀ (p : RtpPacket) (ptr : ℕ), ptr + totalSize type es ≤ p.body.length →
      ∃ body one two, writeExtensions type es p ptr = .ok ({ p with
          body := body, mapOneByteExtensions := one, mapTwoBytesExtensions := two },
          ptr + totalSize type es) ∧
        body.length = p.body.length ∧ ∀ i n, i + n ≤ ptr ∨ ptr + totalSize type es ≤ i →
          slice body i n = slice p.body i n := by
  induction es with
  | nil => intro p ptr _; exact ⟨_, _, _, rfl, rfl, fun _ _ _ ↦ rfl⟩
  | cons e es ih =>
    intro p ptr hle
    rw [totalSize] at hle
    rw [writeExtensions, totalSize]
    split
    · rename_i hskipped
      rw [if_pos hskipped] at hle
      exact ih p ptr hle
    · rename_i hwritten
      rw [if_neg hwritten, ← length_element] at hle
      obtain ⟨one, two, hstore⟩ : ∃ one two, p.storeElement type e.id ptr =
          { p with mapOneByteExtensions := one, mapTwoBytesExtensions := two } := by
        unfold storeElement
        split <;> exact ⟨_, _, rfl⟩
      have hbody := length_splice (m := p.body) (i := ptr) (v := e.element type) (by omega)
      obtain ⟨body, one', two', hrest, hlength, houtside⟩ := ih { p with
        body := splice p.body ptr (e.element type)
        mapOneByteExtensions := one
        mapTwoBytesExtensions := two } (ptr + (e.element type).length) (by
          dsimp only
          omega)
      refine ⟨body, one', two', ?_, hlength.trans hbody, fun i n hin ↦ ?_⟩
      · rw [hstore]
        dsimp only
        rw [writeBytes_eq_ok (by omega), ← length_element, ← Nat.add_assoc]
        exact hrest
      · rw [← length_element] at hin
        rw [houtside i n (by omega)]
        rcases hin with hin | hin
        · exact slice_splice_before (by omega) hin
        · exact slice_splice_after (by omega) (by omega)

/-- The elements and the padding end where they should; the assertion compares that place with the
payload. -/
theorem fillHeaderExtension_spec (headerExtension : ℕ) (htotal : totalSize type extensions < 32768)
    (hroom : headerExtension + 4 + paddedSize type extensions ≤ p.body.length) :
    ∃ body one two, body.length = p.body.length ∧
      (∀ i n, i + n ≤ headerExtension + 4 ∨
        headerExtension + 4 + paddedSize type extensions ≤ i → slice body i n = slice p.body i n) ∧
      p.fillHeaderExtension type extensions headerExtension
        = if headerExtension + 4 + paddedSize type extensions = p.payload then
            .ok { p with
              body := body, mapOneByteExtensions := one, mapTwoBytesExtensions := two }
          else .error (.assertion "wrong ptr calculation") := by
  have hpadding := totalSize_add_paddingSize htotal
  obtain ⟨body, one, two, hwrite, hlength, houtside⟩ :=
    writeExtensions_eq_ok type extensions p (headerExtension + 4) (by omega)
  have hbody : headerExtension + 4 + totalSize type extensions +
      (List.replicate (paddingSize type extensions) (0 : Byte)).length ≤ body.length := by
    rw [List.length_replicate]
    omega
  refine ⟨_, one, two, (length_splice hbody).trans hlength, fun i n hin ↦ ?_, ?_⟩
  · rw [List.length_replicate] at hbody
    rcases hin with hin | hin
    · rw [slice_splice_before (by rw [List.length_replicate]; exact hbody) (by omega)]
      exact houtside i n (.inl hin)
    · rw [slice_splice_after (by rw [List.length_replicate]; exact hbody)
        (by rw [List.length_replicate]; omega)]
      exact houtside i n (.inr (by omega))
  · rw [fillHeaderExtension, hwrite]
    change (writeBytes body _ _ >>= fun _ ↦ _) = _
    rw [writeBytes_eq_ok hbody]
    have hend : headerExtension + 4 + totalSize type extensions + paddingSize type extensions
        = headerExtension + 4 + paddedSize type extensions := by omega
    change (msAssert (decide (headerExtension + 4 + totalSize type extensions +
      paddingSize type extensions = p.payload)) _ >>= fun _ ↦ _) = _
    rw [hend]
    split
    · rename_i heq
      rw [decide_eq_true heq]
      rfl
    · rename_i hne
      rw [decide_eq_false hne]
      rfl

/-! ## What is kept -/

/-- The header extension id says that the elements have the form of this type. -/
def hasForm (p : RtpPacket) (type : Byte) : Bool :=
  if type = 1 then p.hasOneByteExtensions else p.hasTwoBytesExtensions

theorem hasForm_congr (h : p'.getHeaderExtensionId = p.getHeaderExtensionId) (type : Byte) :
    p'.hasForm type = p.hasForm type := by
  rw [hasForm, hasForm, hasOneByteExtensions, hasOneByteExtensions, hasTwoBytesExtensions,
    hasTwoBytesExtensions, h]

theorem hasForm_of_id (h : p.getHeaderExtensionId = headerExtensionId type) :
    p.hasForm type = true := by
  rw [hasForm, hasOneByteExtensions, hasTwoBytesExtensions, h, headerExtensionId]
  by_cases htype : type = 1
  · rw [if_pos htype, if_pos htype]
    rfl
  · rw [if_neg htype, if_neg htype]
    rfl

/-- All but the header extension is the same: the header, the CSRC list, and the payload with its
padding, which may be in another place. -/
structure Keeps (p p' : RtpPacket) : Prop where
  header : { p'.header with extension := p.header.extension } = p.header
  payloadLength : p'.payloadLength = p.payloadLength
  payloadPadding : p'.payloadPadding = p.payloadPadding
  csrcs : slice p'.body 0 p.header.csrcListSize = slice p.body 0 p.header.csrcListSize
  content : slice p'.body p'.payload (p.payloadLength + p.payloadPadding.toNat) =
    slice p.body p.payload (p.payloadLength + p.payloadPadding.toNat)

theorem Keeps.csrcListSize (h : Keeps p p') : p'.header.csrcListSize = p.header.csrcListSize := by
  have hcount := congrArg RtpHeader.csrcCount h.header
  change p'.header.csrcCount = p.header.csrcCount at hcount
  rw [RtpHeader.csrcListSize, hcount, RtpHeader.csrcListSize]

theorem Keeps.trans {p'' : RtpPacket} (h : Keeps p p') (h' : Keeps p' p'') : Keeps p p'' where
  header := by
    have := congrArg (fun header : RtpHeader ↦ { header with extension := p.header.extension })
      h'.header
    exact this.trans h.header
  payloadLength := h'.payloadLength.trans h.payloadLength
  payloadPadding := h'.payloadPadding.trans h.payloadPadding
  csrcs := by
    have := h'.csrcs
    rw [h.csrcListSize] at this
    exact this.trans h.csrcs
  content := by
    have := h'.content
    rw [h.payloadLength, h.payloadPadding] at this
    exact this.trans h.content

/-! ## Making room -/

/-- Changing the id leaves everything else in place, and the elements have the right form then. -/
theorem matchHeaderExtensionId_spec (htype : type = 1 ∨ type = 2)
    (h : ∀ ptr, p.headerExtension = some ptr → ptr + 4 ≤ p.body.length) :
    ∃ body, p.matchHeaderExtensionId type = .ok { p with body := body } ∧
      body.length = p.body.length ∧ (p.headerExtension = none → body = p.body) ∧
      ∀ ptr, p.headerExtension = some ptr → hasForm { p with body := body } type = true ∧
        ∀ i n, i + n ≤ ptr ∨ ptr + 2 ≤ i → slice body i n = slice p.body i n := by
  unfold matchHeaderExtensionId
  split
  · rename_i hmatch
    refine ⟨p.body, rfl, rfl, fun _ ↦ rfl, fun ptr _ ↦ ⟨?_, fun _ _ _ ↦ rfl⟩⟩
    change p.hasForm type = true
    rw [hasForm]
    rcases hmatch with ⟨rfl, hone⟩ | ⟨rfl, htwo⟩
    · exact hone
    · exact htwo
  · split
    · rename_i hnone
      refine ⟨p.body, rfl, rfl, fun _ ↦ rfl, fun ptr hptr ↦ ?_⟩
      rw [hnone] at hptr
      cases hptr
    · rename_i ptr hptr
      have hle : ptr + (Byte.set2Bytes (headerExtensionId type)).length ≤ p.body.length := by
        have := h ptr hptr
        rw [Byte.length_set2Bytes]
        omega
      refine ⟨_, by rw [writeBytes_eq_ok hle]; rfl, length_splice hle, fun hnone ↦ ?_,
        fun ptr' hptr' ↦ ?_⟩
      · rw [hptr] at hnone
        cases hnone
      obtain rfl : ptr = ptr' := Option.some.inj (hptr.symm.trans hptr')
      refine ⟨hasForm_of_id ?_, fun i n hin ↦ ?_⟩
      · rw [getHeaderExtensionId]
        dsimp only
        rw [hptr]
        exact fieldAt_splice_self (by rwa [Byte.length_set2Bytes] at hle) _
      · rcases hin with hin | hin
        · exact slice_splice_before hle hin
        · exact slice_splice_after hle (by rw [Byte.length_set2Bytes]; exact hin)

/-- The payload can be shifted if both places are in the buffer. -/
theorem shiftBy_eq_ok (payload size : ℕ) {shift : ℤ} (hpayload : (payload : ℤ) = p.payload + shift)
    (hsize : (size : ℤ) = p.size + shift)
    (hsrc : p.payload + (p.payloadLength + p.payloadPadding.toNat) ≤ p.body.length)
    (hdst : payload + (p.payloadLength + p.payloadPadding.toNat) ≤ p.body.length) :
    p.shiftBy shift = .ok { p with
      body := move p.body payload p.payload (p.payloadLength + p.payloadPadding.toNat)
      payload := payload
      size := size } := by
  unfold shiftBy
  rw [if_neg (by omega), ← hpayload, ← hsize, Int.toNat_natCast, Int.toNat_natCast]
  dsimp only
  rw [moveBytes_eq_ok hsrc hdst]
  rfl

/-- A shift that returns moves the payload. -/
theorem payload_of_shiftBy {shift : ℤ} (h : p.shiftBy shift = .ok p') :
    (p'.payload : ℤ) = p.payload + shift ∧ p'.body.length = p.body.length := by
  unfold shiftBy at h
  split at h
  · cases h
  · obtain ⟨body, hmove, hbody⟩ := bind_eq_ok.mp h
    cases hbody
    exact ⟨by dsimp only; omega, length_of_moveBytes hmove⟩

/-- The shift is exact as long as it fits in an `int16_t`. -/
theorem toInt_ofInt_eq {x : ℤ} : (BitVec.ofInt 16 x).toInt = x ↔ -32768 ≤ x ∧ x < 32768 := by
  rw [BitVec.toInt_ofInt]
  constructor
  · intro h
    have hlow := Int.le_bmod (x := x) (m := 2 ^ 16) (by decide)
    have hhigh := Int.bmod_lt (x := x) (m := 2 ^ 16) (by decide)
    omega
  · rintro ⟨hlow, hhigh⟩
    exact Int.bmod_eq_of_le (by omega) (by omega)

variable {padded headerExtension : ℕ}

/-- A packet without header extension gets one in front of its payload. -/
theorem makeExtensionRoom_none (type : Byte) (padded : ℕ) (hnone : p.headerExtension = none)
    (hpadded : 4 + padded < 32768) (hroom : p.payload + (4 + padded) +
      (p.payloadLength + p.payloadPadding.toNat) ≤ p.body.length) :
    ∃ body, p.makeExtensionRoom type padded = .ok ({ p with
        header := { p.header with extension := true }
        headerExtension := some p.payload
        body := body
        payload := p.payload + (4 + padded)
        size := p.size + (4 + padded) }, p.payload) ∧
      body.length = p.body.length ∧
      fieldAt body (p.payload + 2) = BitVec.ofNat 16 (padded / 4) ∧
      fieldAt body p.payload = headerExtensionId type ∧
      (∀ i n, i + n ≤ p.payload → slice body i n = slice p.body i n) ∧
      slice body (p.payload + (4 + padded)) (p.payloadLength + p.payloadPadding.toNat) =
        slice p.body p.payload (p.payloadLength + p.payloadPadding.toNat) := by
  have hshift : p.extensionShift padded = ((4 + padded : ℕ) : ℤ) := by
    have hword : (BitVec.ofNat 16 padded).toInt = padded := by
      rw [BitVec.toInt_eq_toNat_of_lt (by rw [BitVec.toNat_ofNat]; omega), BitVec.toNat_ofNat,
        Nat.mod_eq_of_lt (by omega)]
    rw [extensionShift, hnone]
    dsimp only
    rw [hword, toInt_ofInt_eq.mpr (by omega)]
    omega
  have hmove : (move p.body (p.payload + (4 + padded)) p.payload
      (p.payloadLength + p.payloadPadding.toNat)).length = p.body.length :=
    length_move (by omega) hroom
  have hid : p.payload + (Byte.set2Bytes (headerExtensionId type)).length ≤ (move p.body
      (p.payload + (4 + padded)) p.payload (p.payloadLength + p.payloadPadding.toNat)).length := by
    rw [Byte.length_set2Bytes]
    omega
  have hlength : p.payload + 2 + (Byte.set2Bytes (BitVec.ofNat 16 (padded / 4))).length ≤
      (splice (move p.body (p.payload + (4 + padded)) p.payload (p.payloadLength +
        p.payloadPadding.toNat)) p.payload (Byte.set2Bytes (headerExtensionId type))).length := by
    rw [length_splice hid, Byte.length_set2Bytes]
    omega
  refine ⟨_, ?_, (length_splice hlength).trans ((length_splice hid).trans hmove),
    fieldAt_splice_self hlength _, ?_, fun i n hin ↦ ?_, ?_⟩
  · rw [makeExtensionRoom, hshift, hnone]
    dsimp only
    rw [shiftBy_eq_ok (p.payload + (4 + padded)) (p.size + (4 + padded))
      (by dsimp only; omega) (by dsimp only; omega) (by dsimp only; omega) (by dsimp only; omega)]
    change (writeBytes _ _ _ >>= fun _ ↦ _) = _
    rw [writeBytes_eq_ok hid]
    change (writeBytes _ _ _ >>= fun _ ↦ _) = _
    rw [writeBytes_eq_ok hlength]
    rfl
  · rw [fieldAt_splice_before hlength (Nat.le_refl _)]
    exact fieldAt_splice_self hid _
  · rw [slice_splice_before hlength (by omega), slice_splice_before hid hin,
      slice_move_before (by omega) hroom (by omega)]
  · rw [slice_splice_after hlength (by rw [Byte.length_set2Bytes]; omega),
      slice_splice_after hid (by rw [Byte.length_set2Bytes]; omega),
      slice_move_self (by omega) hroom]

/-- A header extension that does not shrink too much is resized. -/
theorem makeExtensionRoom_some (type : Byte) (padded : ℕ)
    (hsome : p.headerExtension = some headerExtension)
    (hpayload : p.payload = headerExtension + 4 + p.getHeaderExtensionLength)
    (hsize : p.payload ≤ p.size) (hpadded : padded < p.getHeaderExtensionLength + 32768)
    (hmod : padded % 4 = 0) (hle : p.getHeaderExtensionLength ≤ padded + 32768)
    (hsrc : p.payload + (p.payloadLength + p.payloadPadding.toNat) ≤ p.body.length)
    (hdst : headerExtension + 4 + padded + (p.payloadLength + p.payloadPadding.toNat)
      ≤ p.body.length) :
    ∃ body size, p.makeExtensionRoom type padded = .ok ({ p with
        body := body
        payload := headerExtension + 4 + padded
        size := size }, headerExtension) ∧
      size + p.getHeaderExtensionLength = p.size + padded ∧ body.length = p.body.length ∧
      fieldAt body (headerExtension + 2) = BitVec.ofNat 16 (padded / 4) ∧
      (∀ i n, i + n ≤ headerExtension + 2 → slice body i n = slice p.body i n) ∧
      slice body (headerExtension + 4 + padded) (p.payloadLength + p.payloadPadding.toNat) =
        slice p.body p.payload (p.payloadLength + p.payloadPadding.toNat) := by
  have hshift : p.extensionShift padded = padded - p.getHeaderExtensionLength := by
    rw [extensionShift, hsome]
    dsimp only
    rw [toInt_ofInt_eq.mpr (by omega)]
  rw [makeExtensionRoom, hshift, hsome]
  dsimp only
  split
  · have hmove := length_move (m := p.body) hsrc hdst
    have hlength : headerExtension + 2 + (Byte.set2Bytes (BitVec.ofNat 16 (padded / 4))).length ≤
        (move p.body (headerExtension + 4 + padded) p.payload (p.payloadLength +
          p.payloadPadding.toNat)).length := by
      rw [Byte.length_set2Bytes]
      omega
    refine ⟨_, p.size + padded - p.getHeaderExtensionLength, ?_, by omega,
      (length_splice hlength).trans hmove, fieldAt_splice_self hlength _, fun i n hin ↦ ?_, ?_⟩
    · rw [shiftBy_eq_ok (headerExtension + 4 + padded)
        (p.size + padded - p.getHeaderExtensionLength) (by omega) (by omega) hsrc hdst]
      change (writeBytes _ _ _ >>= fun _ ↦ _) = _
      rw [writeBytes_eq_ok hlength, ← hsome]
      rfl
    · rw [slice_splice_before hlength hin, slice_move_before hsrc hdst (by omega)]
    · rw [slice_splice_after hlength (by rw [Byte.length_set2Bytes]; omega),
        slice_move_self hsrc hdst]
  · rename_i hzero
    have heq : p.getHeaderExtensionLength = padded := by omega
    refine ⟨p.body, p.size, ?_, by omega, rfl, ?_, fun _ _ _ ↦ rfl, ?_⟩
    · rw [← heq, ← hpayload, ← hsome]
    · rw [getHeaderExtensionLength, hsome] at heq
      dsimp only at heq
      rw [← heq, Nat.mul_div_cancel _ (by decide), BitVec.ofNat_toNat, BitVec.setWidth_eq]
    · rw [← heq, ← hpayload]

/-- A header extension that shrinks too much is moved to a wrong place, if at all. -/
theorem makeExtensionRoom_wrong (type : Byte) (hsome : p.headerExtension = some headerExtension)
    (hpayload : p.payload = headerExtension + 4 + p.getHeaderExtensionLength)
    (hgt : padded + 32768 < p.getHeaderExtensionLength) {r : RtpPacket × ℕ}
    (h : p.makeExtensionRoom type padded = .ok r) :
    r.2 = headerExtension ∧ r.1.payload ≠ headerExtension + 4 + padded ∧
      r.1.body.length = p.body.length := by
  have hshift : p.extensionShift padded ≠ padded - p.getHeaderExtensionLength := by
    rw [extensionShift, hsome]
    dsimp only
    rw [Ne, toInt_ofInt_eq]
    omega
  rw [makeExtensionRoom, hsome] at h
  dsimp only at h
  split at h
  · obtain ⟨q, hq, h⟩ := bind_eq_ok.mp h
    obtain ⟨hmoved, hlength⟩ := payload_of_shiftBy hq
    obtain ⟨body, hbody, h⟩ := bind_eq_ok.mp h
    rw [writeBytes] at hbody
    split at hbody
    · rename_i hin
      cases hbody
      cases h
      refine ⟨rfl, ?_, (length_splice hin).trans hlength⟩
      dsimp only
      omega
    · cases hbody
  · cases h
    refine ⟨rfl, ?_, rfl⟩
    dsimp only
    omega

/-! ## The whole function -/

theorem extensionSize_eq_zero (h : p.headerExtension = none) : p.extensionSize = 0 := by
  rw [extensionSize, h]
  rfl

theorem extensionSize_eq (h : p.headerExtension = some headerExtension) :
    p.extensionSize = 4 + p.getHeaderExtensionLength := by
  rw [extensionSize, h]
  rfl

/-- Once there is room, the elements are written and the packet is well formed. -/
theorem formed_fillHeaderExtension (htotal : totalSize type extensions < 32768)
    (hextension : p.header.extension = true)
    (hsome : p.headerExtension = some p.header.csrcListSize)
    (hlength : fieldAt p.body (p.header.csrcListSize + 2)
      = BitVec.ofNat 16 (paddedSize type extensions / 4))
    (hpayload : p.payload = p.header.csrcListSize + 4 + paddedSize type extensions)
    (hcsrc : p.csrcList = decide (p.header.csrcCount ≠ 0))
    (hpadding : p.header.padding = decide (p.payloadPadding ≠ 0))
    (hsize : p.size = RtpHeader.bytes + p.payload + p.payloadLength + p.payloadPadding.toNat)
    (hfits : p.size ≤ RtpHeader.bytes + p.body.length) :
    ∃ p', p.fillHeaderExtension type extensions p.header.csrcListSize = .ok p' ∧ p'.Formed ∧
      p'.extensionSize = 4 + paddedSize type extensions ∧ p'.size = p.size ∧ Keeps p p' ∧
      p'.getHeaderExtensionId = p.getHeaderExtensionId := by
  have hpadded := paddedSize_eq htotal
  obtain ⟨body, one, two, hbody, houtside, hfill⟩ :=
    fillHeaderExtension_spec (p := p) p.header.csrcListSize htotal (by omega)
  rw [if_pos hpayload.symm] at hfill
  have hfield : fieldAt body (p.header.csrcListSize + 2)
      = BitVec.ofNat 16 (paddedSize type extensions / 4) := by
    rw [fieldAt_congr (houtside _ 2 (.inl (by omega))), hlength]
  have hext : extensionSize { p with
      body := body, mapOneByteExtensions := one, mapTwoBytesExtensions := two }
      = 4 + paddedSize type extensions := by
    unfold extensionSize getHeaderExtensionLength
    simp only [hsome, hfield, BitVec.toNat_ofNat, Option.isSome_some, if_true]
    omega
  refine ⟨_, hfill, ⟨hcsrc, ?_, ?_, hpadding, hsize, ?_⟩, hext, rfl,
    ⟨rfl, rfl, rfl, houtside _ _ (.inl (by omega)),
      houtside _ _ (.inr (Nat.le_of_eq hpayload.symm))⟩, ?_⟩
  · dsimp only
    rw [hsome, hextension, if_pos rfl]
  · rw [hext]
    dsimp only
    omega
  · dsimp only
    omega
  · rw [getHeaderExtensionId, getHeaderExtensionId]
    dsimp only
    rw [hsome]
    exact fieldAt_congr (houtside _ 2 (.inl (by omega)))

/-- What `SetExtensions` does before it makes room: the maps are empty, and the id of the header
extension is right if there is one. -/
structure Prepared (p q : RtpPacket) (type : Byte) : Prop where
  formed : q.Formed
  length : q.body.length = p.body.length
  size : q.size = p.size
  headerExtension : q.headerExtension = p.headerExtension
  extensionLength : q.getHeaderExtensionLength = p.getHeaderExtensionLength
  keeps : Keeps p q
  hasForm : ∀ ptr, q.headerExtension = some ptr → q.hasForm type = true
  mapOneByteExtensions : q.mapOneByteExtensions = fun _ ↦ none
  mapTwoBytesExtensions : q.mapTwoBytesExtensions = fun _ ↦ none

theorem setExtensions_eq (extensions : List GenericExtension) (hp : p.Formed)
    (htype : type = 1 ∨ type = 2) :
    ∃ q : RtpPacket, Prepared p q type ∧
      p.setExtensions type extensions = (q.makeExtensionRoom type (paddedSize type extensions) >>=
        fun r ↦ r.1.fillHeaderExtension type extensions r.2) := by
  have hstart : ∀ ptr, p.headerExtension = some ptr → ptr = p.header.csrcListSize ∧
      ptr + 4 ≤ p.payload := by
    intro ptr hptr
    have hext := hp.headerExtension
    have hpayload := hp.payload
    rw [extensionSize_eq hptr] at hpayload
    rw [hptr] at hext
    split at hext
    · have := Option.some.inj hext
      omega
    · cases hext
  have hsize := hp.size
  have hfits := hp.fits
  obtain ⟨body, hmatch, hlength, hnone, hsome⟩ := matchHeaderExtensionId_spec (p := { p with
    ids := {}
    mapOneByteExtensions := fun _ ↦ none
    mapTwoBytesExtensions := fun _ ↦ none }) htype fun ptr hptr ↦ by
      have := hstart ptr hptr
      dsimp only
      omega
  have hkeeps : Keeps p { p with
      body := body
      ids := {}
      mapOneByteExtensions := fun _ ↦ none
      mapTwoBytesExtensions := fun _ ↦ none } := by
    cases hptr : p.headerExtension with
    | none => exact ⟨rfl, rfl, rfl, by rw [hnone hptr], by rw [hnone hptr]⟩
    | some ptr =>
      have := hstart ptr hptr
      refine ⟨rfl, rfl, rfl, (hsome ptr hptr).2 _ _ (.inl (by omega)),
        (hsome ptr hptr).2 _ _ (.inr ?_)⟩
      dsimp only
      omega
  have hlen : getHeaderExtensionLength { p with
      body := body
      ids := {}
      mapOneByteExtensions := fun _ ↦ none
      mapTwoBytesExtensions := fun _ ↦ none } = p.getHeaderExtensionLength := by
    unfold getHeaderExtensionLength
    dsimp only
    split
    · rfl
    · rename_i ptr hptr
      rw [fieldAt_congr ((hsome ptr hptr).2 (ptr + 2) 2 (.inr (Nat.le_refl _)))]
  refine ⟨{ p with
    body := body
    ids := {}
    mapOneByteExtensions := fun _ ↦ none
    mapTwoBytesExtensions := fun _ ↦ none },
      ⟨⟨hp.csrcList, hp.headerExtension, ?_, hp.padding, hp.size, ?_⟩, hlength, rfl, rfl, hlen,
        hkeeps, fun ptr hptr ↦ (hsome ptr hptr).1, rfl, rfl⟩, ?_⟩
  · rw [extensionSize, hlen]
    exact hp.payload
  · dsimp only at hlength ⊢
    rw [hlength]
    exact hp.fits
  · rw [setExtensions, decide_eq_true htype, msAssert_true]
    dsimp only
    change (matchHeaderExtensionId _ type >>= fun _ ↦ _) = _
    rw [hmatch]
    rfl

/-- What comes of `SetExtensions`. -/
structure Extended (p p' : RtpPacket) (type : Byte) (extensions : List GenericExtension) :
    Prop where
  formed : p'.Formed
  extensionSize : p'.extensionSize = 4 + paddedSize type extensions
  size : p'.size + p.extensionSize = p.size + p'.extensionSize
  keeps : Keeps p p'
  hasForm : p'.hasForm type = true
  /-- The elements were written into a packet with empty maps. -/
  filled : ∃ (r : RtpPacket) (start : ℕ), r.fillHeaderExtension type extensions start = .ok p' ∧
    start = p.header.csrcListSize ∧ r.mapOneByteExtensions = (fun _ ↦ none) ∧
    r.mapTwoBytesExtensions = (fun _ ↦ none)

/-- **Setting header extensions.** Unless the header extension grows or shrinks by more than an
`int16_t` can hold, the packet is well formed afterwards and has kept its content. -/
theorem setExtensions_of_le (hp : p.Formed) (htype : type = 1 ∨ type = 2)
    (htotal : totalSize type extensions < 32768)
    (hroom : p.size + (4 + paddedSize type extensions) ≤
      RtpHeader.bytes + p.body.length + p.extensionSize)
    (hgrows : 4 + paddedSize type extensions < p.extensionSize + 32768)
    (hle : p.headerExtension = none ∨
      p.getHeaderExtensionLength ≤ paddedSize type extensions + 32768) :
    ∃ p', p.setExtensions type extensions = .ok p' ∧ Extended p p' type extensions := by
  have hpadded := paddedSize_eq htotal
  obtain ⟨q, hprepared, heq⟩ := setExtensions_eq extensions hp htype
  obtain ⟨hq, hbody, hqsize, hext, hlen, hkeeps, hform, hone, htwo⟩ := hprepared
  have hpayload := hq.payload
  have hsize := hq.size
  have hfits := hq.fits
  have hqext := hq.headerExtension
  have hcsrcs := hkeeps.csrcListSize
  rw [heq]
  cases hsome : q.headerExtension with
  | none =>
    rw [extensionSize_eq_zero hsome] at hpayload
    have hzero := extensionSize_eq_zero (hext.symm.trans hsome)
    rw [hzero] at hroom hgrows
    obtain ⟨body, hmake, hbody', hfield, hid, hbefore, hcontent⟩ := makeExtensionRoom_none type
      (paddedSize type extensions) hsome (by omega) (by omega)
    rw [Nat.add_zero] at hpayload
    rw [hpayload] at hmake hfield hid hbefore
    rw [hmake]
    have hroomed : Keeps q { q with
        header := { q.header with extension := true }
        headerExtension := some q.header.csrcListSize
        body := body
        payload := q.header.csrcListSize + (4 + paddedSize type extensions)
        size := q.size + (4 + paddedSize type extensions) } :=
      ⟨rfl, rfl, rfl, hbefore _ _ (by omega), by rw [hpayload] at hcontent ⊢; exact hcontent⟩
    obtain ⟨p', hfill, hformed, hextension, hsize', hfilled, hid'⟩ :=
      formed_fillHeaderExtension (p := { q with
        header := { q.header with extension := true }
        headerExtension := some q.header.csrcListSize
        body := body
        payload := q.header.csrcListSize + (4 + paddedSize type extensions)
        size := q.size + (4 + paddedSize type extensions) }) htotal rfl rfl hfield
        (Nat.add_assoc _ _ _).symm hq.csrcList hq.padding (by dsimp only; omega)
        (by dsimp only; omega)
    refine ⟨p', hfill, hformed, hextension, ?_, (hkeeps.trans hroomed).trans hfilled,
      hasForm_of_id (hid'.trans hid), _, _, hfill, hcsrcs, hone, htwo⟩
    rw [hextension, hsize', hzero]
    dsimp only
    omega
  | some headerExtension =>
    rw [hsome] at hqext
    have hbit : q.header.extension = true := by
      by_contra hfalse
      rw [if_neg hfalse] at hqext
      cases hqext
    rw [if_pos hbit, Option.some.injEq] at hqext
    subst hqext
    rw [extensionSize_eq hsome] at hpayload
    have hold := extensionSize_eq (hext.symm.trans hsome)
    rw [hold, ← hlen] at hroom hgrows
    have hshrinks : q.getHeaderExtensionLength ≤ paddedSize type extensions + 32768 := by
      rcases hle with hnone | hle
      · rw [← hext, hsome] at hnone
        cases hnone
      · rw [hlen]
        exact hle
    obtain ⟨body, size, hmake, hsize', hbody', hfield, hbefore, hcontent⟩ :=
      makeExtensionRoom_some type (paddedSize type extensions) hsome (by omega) (by omega)
        (by omega) (by omega) hshrinks (by omega) (by omega)
    rw [hmake]
    have hroomed : Keeps q { q with
        body := body
        payload := q.header.csrcListSize + 4 + paddedSize type extensions
        size := size } :=
      ⟨rfl, rfl, rfl, hbefore _ _ (by omega), hcontent⟩
    obtain ⟨p', hfill, hformed, hextension, hsize'', hfilled, hid⟩ :=
      formed_fillHeaderExtension (p := { q with
        body := body
        payload := q.header.csrcListSize + 4 + paddedSize type extensions
        size := size }) htotal hbit hsome hfield rfl hq.csrcList hq.padding
        (by dsimp only; omega) (by dsimp only; omega)
    have hid' : p'.getHeaderExtensionId = q.getHeaderExtensionId := by
      rw [hid, getHeaderExtensionId, getHeaderExtensionId]
      dsimp only
      rw [hsome]
      exact fieldAt_congr (hbefore _ 2 (by omega))
    refine ⟨p', hfill, hformed, hextension, ?_, (hkeeps.trans hroomed).trans hfilled,
      (hasForm_congr hid' type).trans (hform _ hsome), _, _, hfill, hcsrcs, hone, htwo⟩
    rw [hextension, hsize'', hold, ← hlen]
    dsimp only
    omega

/-- A header extension that shrinks by more than 32768 bytes makes `SetExtensions` fail. -/
theorem not_setExtensions (hp : p.Formed) (htype : type = 1 ∨ type = 2)
    (htotal : totalSize type extensions < 32768)
    (hsome : p.headerExtension = some headerExtension)
    (hgt : paddedSize type extensions + 32768 < p.getHeaderExtensionLength) (p' : RtpPacket) :
    p.setExtensions type extensions ≠ .ok p' := by
  obtain ⟨q, ⟨hq, hbody, hqsize, hext, hlen, -, -, -, -⟩, heq⟩ :=
    setExtensions_eq extensions hp htype
  have hpayload := hq.payload
  have hsize := hq.size
  have hfits := hq.fits
  have hqext := hq.headerExtension
  rw [← hext] at hsome
  rw [← hlen] at hgt
  rw [extensionSize_eq hsome] at hpayload
  have hstart : q.header.csrcListSize = headerExtension := by
    rw [hsome] at hqext
    split at hqext
    · exact (Option.some.inj hqext).symm
    · cases hqext
  intro hok
  rw [heq] at hok
  obtain ⟨r, hmake, hfill⟩ := bind_eq_ok.mp hok
  obtain ⟨hr, hwrong, hrbody⟩ := makeExtensionRoom_wrong type hsome (by omega) hgt hmake
  obtain ⟨body, one, two, -, -, hfill'⟩ := fillHeaderExtension_spec (p := r.1)
    headerExtension htotal (by omega)
  rw [if_neg hwrong.symm] at hfill'
  rw [hr, hfill'] at hfill
  cases hfill

/-- **`SetExtensions` on a parsed packet** returns and changes the size by the difference between
the new and the old header extension exactly if there was no header extension or it does not shrink
by more than 32768 bytes. -/
theorem setExtensions_iff {data : List Byte} {len : ℕ} (hlen : len ≤ data.length)
    (hparse : parse data len = .ok (some p)) (htype : type = 1 ∨ type = 2)
    (htotal : totalSize type extensions < 1500)
    (hroom : p.size + (4 + paddedSize type extensions) ≤ data.length + p.extensionSize) :
    (∃ p', p.setExtensions type extensions = .ok p' ∧
        p'.size + p.extensionSize = p.size + p'.extensionSize) ↔
      (p.headerExtension = none ∨
        p.getHeaderExtensionLength ≤ (totalSize type extensions + 3) / 4 * 4 + 32768) := by
  obtain ⟨result, hresult, hformed⟩ := parse_spec data hlen
  obtain rfl : some p = result := by
    rw [hparse] at hresult
    exact Except.ok.inj hresult
  obtain ⟨hp, hsize, hbody⟩ := hformed p rfl
  have htotal' : totalSize type extensions < 32768 := by omega
  have hpadded := paddedSize_eq htotal'
  rw [← hpadded]
  constructor
  · rintro ⟨p', hok, -⟩
    by_contra hwrong
    rw [not_or, Nat.not_le] at hwrong
    obtain ⟨headerExtension, hsome⟩ := Option.ne_none_iff_exists'.mp hwrong.1
    exact not_setExtensions hp htype htotal' hsome hwrong.2 p' hok
  · intro hle
    have hsizes := hp.size
    have hlength : p.body.length = data.length - RtpHeader.bytes := by
      rw [hbody, List.length_drop]
    obtain ⟨p', hok, hextended⟩ :=
      setExtensions_of_le hp htype htotal' (by omega) (by omega) hle
    exact ⟨p', hok, hextended.size⟩

/-- A buffer of 22 bytes that starts with a packet of two payload bytes. -/
def shortBuffer : List Byte :=
  [0x80, 0, 0, 1, 0, 0, 0, 0, 0, 0, 0, 7, 0xAB, 0xCD, 0, 0, 0, 0, 0, 0, 0, 0]

/-- The packet in that buffer. -/
def shortPacket : RtpPacket :=
  view { version := 2, padding := false, extension := false, csrcCount := 0, marker := false
         payloadType := 0, sequenceNumber := 1, timestamp := 0, ssrc := 7 }
    (shortBuffer.drop 12) none 0 2 0 14

/-- A packet with two payload bytes gets an extension element. -/
theorem setExtensions_iff_two_payload_bytes :
    parse shortBuffer 14 = .ok (some shortPacket) ∧
      ∃ p', shortPacket.setExtensions 1 [⟨3, [0x55], by decide⟩] = .ok p' ∧
        p'.size + shortPacket.extensionSize = shortPacket.size + p'.extensionSize := by
  have hparse : parse shortBuffer 14 = .ok (some shortPacket) := rfl
  have hlen : 14 ≤ shortBuffer.length := by decide
  exact ⟨hparse, (setExtensions_iff hlen hparse (Or.inl rfl) (by decide) (by decide)).mpr
    (Or.inl rfl)⟩

/-- A receive buffer that starts with a packet of 32788 bytes: the header, a header extension with
the id 0 and a value of 8193 words, and no payload. -/
def longExtensionBuffer : List Byte :=
  [0x90, 0, 0, 0, 0, 0, 0, 0, 0, 0, 0, 0, 0, 0, 0x20, 0x01] ++ List.replicate 65520 0

/-- The packet in that buffer. -/
def longExtensionPacket : RtpPacket :=
  view { version := 2, padding := false, extension := true, csrcCount := 0, marker := false
         payloadType := 0, sequenceNumber := 0, timestamp := 0, ssrc := 0 }
    (longExtensionBuffer.drop 12) (some 0) 32776 0 0 32788

theorem parse_longExtensionBuffer :
    parse longExtensionBuffer 32788 = .ok (some longExtensionPacket) := by
  rfl

/-- **A long header extension makes `SetExtensions` fail.** The packet is accepted and there is
room, but removing its 32772 bytes of header extension is a shift of -32772, which an `int16_t`
takes for
32764. -/
theorem setExtensions_fails_long_extension :
    longExtensionBuffer.length = 65536 ∧
      parse longExtensionBuffer 32788 = .ok (some longExtensionPacket) ∧
      longExtensionPacket.size + (4 + paddedSize 1 []) ≤
        longExtensionBuffer.length + longExtensionPacket.extensionSize ∧
      ∀ p', longExtensionPacket.setExtensions 1 [] ≠ .ok p' := by
  have hlength : longExtensionBuffer.length = 65536 := by
    rw [longExtensionBuffer, List.length_append, List.length_replicate]
    rfl
  refine ⟨hlength, parse_longExtensionBuffer, ?_, fun p' ↦ ?_⟩
  · rw [hlength]
    decide
  · have hlen : 32788 ≤ longExtensionBuffer.length := by
      rw [hlength]
      decide
    obtain ⟨result, hresult, hformed⟩ := parse_spec longExtensionBuffer hlen
    obtain rfl := Except.ok.inj (parse_longExtensionBuffer.symm.trans hresult)
    exact not_setExtensions (hformed _ rfl).1 (Or.inl rfl) (by decide) rfl (by decide) p'

end RtpPacket

end MediasoupSfu
