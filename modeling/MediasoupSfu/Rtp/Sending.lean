import MediasoupSfu.Rtp.Rtx

/-!
# Header extension values that are set on sending

Whenever a transport sends a packet it writes the time of sending and the transport-wide sequence
number into the header extension, if the packet has elements for them. It does so in place, so a
packet that is kept for retransmission does not keep these bytes: they are *volatile*.

That nothing else changes rests on the elements of the header extension lying side by side. The
loops of `ParseExtensions` put an element into the map only if it ends inside the header extension,
and go on behind its end; `Packed` is this invariant, `Located` says that a packet has it.
-/

namespace MediasoupSfu

open Memory

/-- `TimeMsToAbsSendTime(ms)`. -/
def timeMsToAbsSendTime (ms : BitVec 64) : BitVec 32 :=
  (((ms <<< 18) + 500) / 1000).setWidth 32 &&& 0x00FFFFFF

namespace RtpPacket

/-! ## The operations -/

/-- `GetExtension(id, len)`: where the value is, and its length. -/
def getExtension (p : RtpPacket) (id : Byte) : Except Fault (Option (ℕ × ℕ)) :=
  if id = 0 then .ok none
  else if p.hasOneByteExtensions then
    match p.mapOneByteExtensions id with
    | none => .ok none
    | some ptr => do
      -- In One-Byte extensions value length 0 means 1.
      let b ← Byte.get1Byte p.body ptr
      return some (ptr + 1, (b &&& 0x0F).toNat + 1)
  else if p.hasTwoBytesExtensions then
    match p.mapTwoBytesExtensions id with
    | none => .ok none
    | some ptr => do
      -- In Two-Byte extensions value length may be zero. If so, return nullptr.
      let len ← Byte.get1Byte p.body (ptr + 1)
      if len.toNat = 0 then return none else return some (ptr + 2, len.toNat)
  else .ok none

/-- What the methods that update an element have in common: the value is written if the element is
there and has its length. -/
def updateExtension (p : RtpPacket) (id : Byte) (value : List Byte) :
    Except Fault (Bool × RtpPacket) := do
  match ← p.getExtension id with
  | none => return (false, p)
  | some (extenValue, extenLen) =>
    if extenLen ≠ value.length then return (false, p)
    else
      let body ← writeBytes p.body extenValue value
      return (true, { p with body := body })

/-- `UpdateAbsSendTime(ms)`. -/
def updateAbsSendTime (p : RtpPacket) (ms : BitVec 64) : Except Fault (Bool × RtpPacket) :=
  p.updateExtension p.ids.absSendTimeExtensionId (Byte.set3Bytes (timeMsToAbsSendTime ms))

/-- `UpdateTransportWideCc01(wideSeqNumber)`. -/
def updateTransportWideCc01 (p : RtpPacket) (wideSeqNumber : BitVec 16) :
    Except Fault (Bool × RtpPacket) :=
  p.updateExtension p.ids.transportWideCc01ExtensionId (Byte.set2Bytes wideSeqNumber)

/-- `Transport::OnConsumerRetransmitRtpPacket(consumer, packet)`, as far as it changes the packet:
the packet and the last transport-wide sequence number afterwards. A transport without a
transport-cc client has no such number. -/
def onConsumerRetransmitRtpPacket (p : RtpPacket) (nowMs : BitVec 64)
    (transportWideCcSeq : Option (BitVec 16)) : Except Fault (RtpPacket × Option (BitVec 16)) := do
  let (_, p) ← p.updateAbsSendTime nowMs
  match transportWideCcSeq with
  | none => return (p, none)
  | some seq =>
    let (updated, p) ← p.updateTransportWideCc01 (seq + 1)
    return (p, some (if updated then seq + 1 else seq))

end RtpPacket

/-! ## The place of the elements -/

/-- How an element looks: the size of its header, and what the last header byte says about the
length of its value. -/
structure ElementForm where
  headerSize : ℕ
  headerSize_pos : 0 < headerSize
  valueLength : Byte → ℕ

namespace ElementForm

/-- The one-byte form. -/
def oneByte : ElementForm := ⟨1, Nat.one_pos, fun b ↦ (b &&& 0x0F).toNat + 1⟩

/-- The two-bytes form. -/
def twoBytes : ElementForm := ⟨2, Nat.two_pos, fun b ↦ b.toNat⟩

/-- The length of the value of the element at `ptr`. -/
def length (form : ElementForm) (body : List Byte) (ptr : ℕ) : ℕ :=
  form.valueLength (body.getD (ptr + form.headerSize - 1) 0)

/-- The end of the element at `ptr`. -/
def stop (form : ElementForm) (body : List Byte) (ptr : ℕ) : ℕ :=
  ptr + form.headerSize + form.length body ptr

end ElementForm

/-- The elements of a map lie between `lo` and `hi`, and do not overlap. -/
structure Packed (form : ElementForm) (body : List Byte) (map : ExtensionMap) (lo hi : ℕ) :
    Prop where
  inside : ∀ {id : Byte} {ptr : ℕ}, map id = some ptr → lo ≤ ptr ∧ form.stop body ptr ≤ hi
  apart : ∀ {id id' : Byte} {ptr ptr' : ℕ}, map id = some ptr → map id' = some ptr' →
    ptr = ptr' ∨ form.stop body ptr ≤ ptr' ∨ form.stop body ptr' ≤ ptr

namespace Packed

variable {form : ElementForm} {body value : List Byte} {map : ExtensionMap} {lo hi : ℕ}

theorem nil : Packed form body (fun _ ↦ none) lo hi := ⟨nofun, nofun⟩

theorem mono (h : Packed form body map lo hi) {hi' : ℕ} (hle : hi ≤ hi') :
    Packed form body map lo hi' :=
  ⟨fun hptr ↦ ⟨(h.inside hptr).1, (h.inside hptr).2.trans hle⟩, h.apart⟩

/-- One more element, behind the others. -/
theorem update (h : Packed form body map lo hi) {ptr : ℕ} (id : Byte) (hlo : lo ≤ ptr)
    (hi_le : hi ≤ ptr) : Packed form body (Function.update map id (some ptr)) lo
      (form.stop body ptr) := by
  have hcases : ∀ {id' ptr'}, Function.update map id (some ptr) id' = some ptr' →
      ptr' = ptr ∨ map id' = some ptr' := by
    intro id' ptr' hptr'
    rw [Function.update_apply] at hptr'
    split at hptr'
    · exact Or.inl (Option.some.inj hptr').symm
    · exact Or.inr hptr'
  have hstop : ptr ≤ form.stop body ptr := by
    unfold ElementForm.stop
    omega
  refine ⟨fun hptr' ↦ ?_, fun hptr' hptr'' ↦ ?_⟩
  · rcases hcases hptr' with rfl | hold
    · exact ⟨hlo, Nat.le_refl _⟩
    · have := h.inside hold
      omega
  · rcases hcases hptr' with rfl | hold <;> rcases hcases hptr'' with rfl | hold'
    · exact Or.inl rfl
    · have := h.inside hold'
      omega
    · have := h.inside hold
      omega
    · exact h.apart hold hold'

/-- Only what is below `hi` matters. -/
theorem length_congr (h : Packed form body map lo hi) {body' : List Byte}
    (hcells : ∀ j < hi, body'[j]? = body[j]?) {id : Byte} {ptr : ℕ} (hptr : map id = some ptr) :
    form.length body' ptr = form.length body ptr := by
  have hpos := form.headerSize_pos
  have hin := (h.inside hptr).2
  unfold ElementForm.stop at hin
  rw [ElementForm.length, ElementForm.length, List.getD_eq_getElem?_getD, hcells _ (by omega),
    List.getD_eq_getElem?_getD]

/-- Elements of the same length lie side by side as before. -/
theorem congr (h : Packed form body map lo hi) {body' : List Byte}
    (hlength : ∀ {id ptr}, map id = some ptr → form.length body' ptr = form.length body ptr) :
    Packed form body' map lo hi := by
  have hstop : ∀ {id ptr}, map id = some ptr → form.stop body' ptr = form.stop body ptr := by
    intro id ptr hptr
    rw [ElementForm.stop, hlength hptr, ElementForm.stop]
  refine ⟨fun hptr ↦ ?_, fun hptr hptr' ↦ ?_⟩
  · rw [hstop hptr]
    exact h.inside hptr
  · rw [hstop hptr, hstop hptr']
    exact h.apart hptr hptr'

/-- A value that is written into its element leaves the headers of all elements alone. -/
theorem length_splice (h : Packed form body map lo hi) {id id' : Byte} {ptr ptr' : ℕ}
    (hptr : map id = some ptr) (hptr' : map id' = some ptr')
    (hvalue : value.length = form.length body ptr) (hhi : hi ≤ body.length) :
    form.length (splice body (ptr + form.headerSize) value) ptr' = form.length body ptr' := by
  have hpos := form.headerSize_pos
  have hin := (h.inside hptr).2
  have hapart := h.apart hptr hptr'
  unfold ElementForm.stop at hin hapart
  have hfits : ptr + form.headerSize + value.length ≤ body.length := by omega
  have hcell : (splice body (ptr + form.headerSize) value)[ptr' + form.headerSize - 1]?
      = body[ptr' + form.headerSize - 1]? := by
    by_cases hlt : ptr' + form.headerSize - 1 < ptr + form.headerSize
    · exact getElem?_splice_of_lt hfits hlt
    · exact getElem?_splice_of_ge hfits (by omega)
  rw [ElementForm.length, ElementForm.length, List.getD_eq_getElem?_getD, hcell,
    List.getD_eq_getElem?_getD]

end Packed

namespace RtpPacket

variable {p q r : RtpPacket}

/-- The loop for the one-byte form finds elements that lie side by side. -/
theorem packed_parseOneByteExtensions {body : List Byte} {extensionEnd lo : ℕ}
    (hend : extensionEnd ≤ body.length) {ptr : ℕ} {map map' : ExtensionMap} (hlo : lo ≤ ptr)
    (hmap : Packed .oneByte body map lo (min ptr extensionEnd))
    (h : parseOneByteExtensions body extensionEnd ptr map = .ok map') :
    Packed .oneByte body map' lo extensionEnd := by
  have hdone : ∀ {hi map}, hi ≤ extensionEnd → Packed .oneByte body map lo hi →
      (pure map : Except Fault ExtensionMap) = .ok map' →
      Packed .oneByte body map' lo extensionEnd := by
    intro hi map hhi hmap hmap'
    cases hmap'
    exact hmap.mono hhi
  induction ptr, map using parseOneByteExtensions.induct body extensionEnd with
  | case1 ptr map hlt ih₁ ih₂ =>
    rw [parseOneByteExtensions, dif_pos hlt, get1Byte_of_lt (by omega)] at h
    simp only [bind, Except.bind] at h
    generalize hb : body.getD ptr 0 = b at h
    split at h
    · exact hdone (Nat.min_le_right _ _) hmap h
    split at h
    · split at h
      · exact hdone (Nat.min_le_right _ _) hmap h
      · rename_i hfits
        have hstop : ElementForm.oneByte.stop body ptr = ptr + 1 + ((b &&& 0x0F).toNat + 1) := by
          rw [← hb]
          rfl
        have hnext := le_skipPadding body extensionEnd (ptr + (1 + ((b &&& 0x0F).toNat + 1)))
        refine ih₁ b (by omega) ?_ h
        refine (hmap.update _ hlo (Nat.min_le_left _ _)).mono ?_
        rw [hstop]
        omega
    · have hnext := le_skipPadding body extensionEnd (ptr + 1)
      exact ih₂ (by omega) (hmap.mono (by omega)) h
  | case2 ptr map hge =>
    rw [parseOneByteExtensions, dif_neg hge] at h
    exact hdone (Nat.min_le_right _ _) hmap h

/-- The loop for the two-bytes form finds elements that lie side by side. -/
theorem packed_parseTwoBytesExtensions {body : List Byte} {extensionEnd lo : ℕ}
    (hend : extensionEnd ≤ body.length) {ptr : ℕ} {map map' : ExtensionMap} (hlo : lo ≤ ptr)
    (hmap : Packed .twoBytes body map lo (min ptr extensionEnd))
    (h : parseTwoBytesExtensions body extensionEnd ptr map = .ok map') :
    Packed .twoBytes body map' lo extensionEnd := by
  have hdone : ∀ {hi map}, hi ≤ extensionEnd → Packed .twoBytes body map lo hi →
      (pure map : Except Fault ExtensionMap) = .ok map' →
      Packed .twoBytes body map' lo extensionEnd := by
    intro hi map hhi hmap hmap'
    cases hmap'
    exact hmap.mono hhi
  induction ptr, map using parseTwoBytesExtensions.induct body extensionEnd with
  | case1 ptr map hlt ih₁ ih₂ =>
    rw [parseTwoBytesExtensions, dif_pos hlt, get1Byte_of_lt (by omega),
      get1Byte_of_lt (by omega)] at h
    simp only [bind, Except.bind] at h
    generalize hlen : body.getD (ptr + 1) 0 = len at h
    split at h
    · split at h
      · exact hdone (Nat.min_le_right _ _) hmap h
      · rename_i hfits
        have hstop : ElementForm.twoBytes.stop body ptr = ptr + 2 + len.toNat := by
          rw [← hlen]
          rfl
        have hnext := le_skipPadding body extensionEnd (ptr + (2 + len.toNat))
        refine ih₁ _ len (by omega) ?_ h
        refine (hmap.update _ hlo (Nat.min_le_left _ _)).mono ?_
        rw [hstop]
        omega
    · have hnext := le_skipPadding body extensionEnd (ptr + 1)
      exact ih₂ (by omega) (hmap.mono (by omega)) h
  | case2 ptr map hge =>
    rw [parseTwoBytesExtensions, dif_neg hge] at h
    exact hdone (Nat.min_le_right _ _) hmap h

/-- The elements of the header extension of a packet lie side by side in front of the payload. -/
structure Located (p : RtpPacket) : Prop where
  oneByte : p.hasOneByteExtensions = true →
    Packed .oneByte p.body p.mapOneByteExtensions (p.header.csrcListSize + 4) p.payload
  twoBytes : p.hasTwoBytesExtensions = true →
    Packed .twoBytes p.body p.mapTwoBytesExtensions (p.header.csrcListSize + 4) p.payload

/-- The header extension of a packet starts behind the CSRC list and ends before the payload. -/
theorem Formed.headerExtension_some (h : p.Formed) {ptr : ℕ} (hptr : p.headerExtension = some ptr) :
    ptr = p.header.csrcListSize ∧ p.payload = ptr + 4 + p.getHeaderExtensionLength ∧
      p.payload ≤ p.body.length := by
  have hsize := h.size
  have hfits := h.fits
  have hpayload := h.payload
  have hext := h.headerExtension
  rw [hptr] at hext
  rw [extensionSize, hptr, Option.isSome_some, if_pos rfl] at hpayload
  split at hext
  · obtain rfl := Option.some.inj hext
    exact ⟨rfl, by omega, by omega⟩
  · cases hext

/-- The two forms exclude each other. -/
theorem not_hasTwoBytesExtensions (h : p.hasOneByteExtensions = true) :
    ¬p.hasTwoBytesExtensions = true := by
  rw [hasOneByteExtensions, decide_eq_true_eq] at h
  rw [hasTwoBytesExtensions, h]
  exact nofun

/-- `ParseExtensions` locates the elements. -/
theorem Formed.located_parseExtensions (h : p.Formed) (hq : p.parseExtensions = .ok q) :
    q.Located := by
  unfold RtpPacket.parseExtensions at hq
  split at hq
  · rename_i hptr
    cases hq
    have hid : p.getHeaderExtensionId = 0 := by rw [getHeaderExtensionId, hptr]
    constructor
    · rw [hasOneByteExtensions, hid]
      exact nofun
    · rw [hasTwoBytesExtensions, hid]
      exact nofun
  · rename_i ptr hptr
    obtain ⟨hstart, hpayload, hfits⟩ := h.headerExtension_some hptr
    dsimp only at hq
    rw [← hpayload] at hq
    split at hq
    · rename_i hone
      obtain ⟨map, hmap, hq⟩ := bind_eq_ok.mp hq
      cases hq
      refine ⟨fun _ ↦ ?_, fun htwo ↦ ?_⟩
      · rw [hstart] at hmap
        exact packed_parseOneByteExtensions hfits (Nat.le_refl _) .nil hmap
      · exact absurd htwo (not_hasTwoBytesExtensions hone)
    · rename_i hone
      split at hq
      · obtain ⟨map, hmap, hq⟩ := bind_eq_ok.mp hq
        cases hq
        refine ⟨fun hone' ↦ absurd hone' hone, fun _ ↦ ?_⟩
        rw [hstart] at hmap
        exact packed_parseTwoBytesExtensions hfits (Nat.le_refl _) .nil hmap
      · rename_i htwo
        cases hq
        exact ⟨fun hone' ↦ absurd hone' hone, fun htwo' ↦ absurd htwo' htwo⟩

/-! ## Rewriting values -/

/-- The byte at offset `j` of the body belongs to a value that is set on sending. -/
def IsVolatile (p : RtpPacket) (j : ℕ) : Prop :=
  ∃ id ptr len, (id = p.ids.absSendTimeExtensionId ∧ len = 3 ∨
    id = p.ids.transportWideCc01ExtensionId ∧ len = 2) ∧
    p.getExtension id = .ok (some (ptr, len)) ∧ ptr ≤ j ∧ j < ptr + len

/-- `q` is `p` with new values that are set on sending. -/
structure Rewrites (p q : RtpPacket) : Prop where
  eq : q = { p with body := q.body }
  length : q.body.length = p.body.length
  cells : ∀ j, ¬p.IsVolatile j → q.body[j]? = p.body[j]?
  located : q.Located
  getExtension : ∀ id, q.getExtension id = p.getExtension id

/-- `GetExtension` in a packet of the one-byte form. -/
theorem Located.getExtension_oneByte (h : p.Located) (hpayload : p.payload ≤ p.body.length)
    (hone : p.hasOneByteExtensions = true) {id : Byte} (hid : id ≠ 0) :
    p.getExtension id = .ok ((p.mapOneByteExtensions id).map fun ptr ↦
      (ptr + ElementForm.oneByte.headerSize, ElementForm.oneByte.length p.body ptr)) := by
  unfold getExtension
  rw [if_neg hid, if_pos hone]
  cases hptr : p.mapOneByteExtensions id with
  | none => rfl
  | some ptr =>
    have hstop := ((h.oneByte hone).inside hptr).2
    change ptr + 1 + _ ≤ _ at hstop
    dsimp only
    rw [get1Byte_of_lt (by omega)]
    rfl

/-- `GetExtension` in a packet of the two-bytes form. -/
theorem Located.getExtension_twoBytes (h : p.Located) (hpayload : p.payload ≤ p.body.length)
    (hone : ¬p.hasOneByteExtensions = true) (htwo : p.hasTwoBytesExtensions = true) {id : Byte}
    (hid : id ≠ 0) :
    p.getExtension id = .ok ((p.mapTwoBytesExtensions id).bind fun ptr ↦
      if ElementForm.twoBytes.length p.body ptr = 0 then none
      else some (ptr + ElementForm.twoBytes.headerSize, ElementForm.twoBytes.length p.body
        ptr)) := by
  unfold getExtension
  rw [if_neg hid, if_neg hone, if_pos htwo]
  cases hptr : p.mapTwoBytesExtensions id with
  | none => rfl
  | some ptr =>
    have hstop := ((h.twoBytes htwo).inside hptr).2
    change ptr + 2 + _ ≤ _ at hstop
    dsimp only
    rw [get1Byte_of_lt (by omega)]
    change (if (p.body.getD (ptr + 1) 0).toNat = 0 then _ else _) = _
    split
    · rename_i hzero
      exact congrArg Except.ok (if_pos hzero).symm
    · rename_i hzero
      exact congrArg Except.ok (if_neg hzero).symm

/-- A write behind the first four bytes of the header extension leaves its id and length alone. -/
theorem Formed.headerExtension_splice (h : p.Formed) {i : ℕ} {value : List Byte}
    (hi : p.header.csrcListSize + 4 ≤ i) (hfits : i + value.length ≤ p.body.length) :
    getHeaderExtensionId { p with body := splice p.body i value } = p.getHeaderExtensionId ∧
      getHeaderExtensionLength { p with body := splice p.body i value }
        = p.getHeaderExtensionLength := by
  unfold getHeaderExtensionId getHeaderExtensionLength
  dsimp only
  cases hptr : p.headerExtension with
  | none => exact ⟨rfl, rfl⟩
  | some ptr =>
    obtain ⟨hstart, -, -⟩ := h.headerExtension_some hptr
    dsimp only
    rw [fieldAt_splice_before hfits (by omega), fieldAt_splice_before hfits (by omega)]
    exact ⟨rfl, rfl⟩

/-- Only the lengths of the elements matter for where they are. -/
theorem Located.congr (h : p.Located) (hpayload : p.payload ≤ p.body.length)
    (hid : q.getHeaderExtensionId = p.getHeaderExtensionId)
    (hone : q.mapOneByteExtensions = p.mapOneByteExtensions)
    (htwo : q.mapTwoBytesExtensions = p.mapTwoBytesExtensions)
    (hsize : q.header.csrcListSize = p.header.csrcListSize) (hstart : q.payload = p.payload)
    (hbody : q.payload ≤ q.body.length)
    (hlength₁ : p.hasOneByteExtensions = true → ∀ {id ptr}, p.mapOneByteExtensions id = some ptr →
      ElementForm.oneByte.length q.body ptr = ElementForm.oneByte.length p.body ptr)
    (hlength₂ : p.hasTwoBytesExtensions = true → ∀ {id ptr}, p.mapTwoBytesExtensions id = some ptr →
      ElementForm.twoBytes.length q.body ptr = ElementForm.twoBytes.length p.body ptr) :
    q.Located ∧ ∀ id, q.getExtension id = p.getExtension id := by
  have hone' : q.hasOneByteExtensions = p.hasOneByteExtensions := by
    rw [hasOneByteExtensions, hid, hasOneByteExtensions]
  have htwo' : q.hasTwoBytesExtensions = p.hasTwoBytesExtensions := by
    rw [hasTwoBytesExtensions, hid, hasTwoBytesExtensions]
  have hlocated : q.Located := by
    constructor
    · rw [hone', hone, hsize, hstart]
      exact fun h₁ ↦ (h.oneByte h₁).congr (hlength₁ h₁)
    · rw [htwo', htwo, hsize, hstart]
      exact fun h₂ ↦ (h.twoBytes h₂).congr (hlength₂ h₂)
  refine ⟨hlocated, fun id ↦ ?_⟩
  by_cases hzero : id = 0
  · rw [getExtension, if_pos hzero, getExtension, if_pos hzero]
  by_cases h₁ : p.hasOneByteExtensions = true
  · rw [hlocated.getExtension_oneByte hbody (hone'.trans h₁) hzero,
      h.getExtension_oneByte hpayload h₁ hzero, hone]
    cases hptr : p.mapOneByteExtensions id with
    | none => rfl
    | some ptr => rw [Option.map_some, hlength₁ h₁ hptr, Option.map_some]
  by_cases h₂ : p.hasTwoBytesExtensions = true
  · rw [hlocated.getExtension_twoBytes hbody (by rwa [hone']) (htwo'.trans h₂) hzero,
      h.getExtension_twoBytes hpayload h₁ h₂ hzero, htwo]
    cases hptr : p.mapTwoBytesExtensions id with
    | none => rfl
    | some ptr => rw [Option.bind_some, hlength₂ h₂ hptr, Option.bind_some]
  · rw [getExtension, if_neg hzero, if_neg (by rwa [hone']), if_neg (by rwa [htwo']), getExtension,
      if_neg hzero, if_neg h₁, if_neg h₂]

theorem Formed.payload_le (h : p.Formed) : p.payload ≤ p.body.length := by
  have hsize := h.size
  have hfits := h.fits
  omega

/-- `GetExtension` reads inside the header extension. -/
theorem Located.getExtension_returns (h : p.Located) (hp : p.Formed) (id : Byte) :
    ∃ value, p.getExtension id = .ok value := by
  by_cases hid : id = 0
  · exact ⟨none, if_pos hid⟩
  by_cases hone : p.hasOneByteExtensions = true
  · exact ⟨_, h.getExtension_oneByte hp.payload_le hone hid⟩
  by_cases htwo : p.hasTwoBytesExtensions = true
  · exact ⟨_, h.getExtension_twoBytes hp.payload_le hone htwo hid⟩
  · exact ⟨none, by rw [getExtension, if_neg hid, if_neg hone, if_neg htwo]⟩

/-- A new value of the same length is written into an element: it lies in the header extension, and
the elements stay where they are. -/
theorem Located.splice (h : p.Located) (hp : p.Formed) {id : Byte} {ptr len : ℕ} {value : List Byte}
    (hget : p.getExtension id = .ok (some (ptr, len))) (hvalue : value.length = len) :
    (p.header.csrcListSize + 4 ≤ ptr ∧ ptr + len ≤ p.payload) ∧
      Located { p with body := splice p.body ptr value } ∧
      ∀ id', getExtension { p with body := splice p.body ptr value } id' = p.getExtension id' := by
  have hpayload := hp.payload_le
  have hid : id ≠ 0 := by
    rintro rfl
    cases hget
  -- Whatever the form is, the place is inside, and the lengths of the elements do not change.
  have hplace : (p.header.csrcListSize + 4 ≤ ptr ∧ ptr + len ≤ p.payload) ∧
      (p.hasOneByteExtensions = true → ∀ {id' ptr'}, p.mapOneByteExtensions id' = some ptr' →
        ElementForm.oneByte.length (Memory.splice p.body ptr value) ptr'
          = ElementForm.oneByte.length p.body ptr') ∧
      (p.hasTwoBytesExtensions = true → ∀ {id' ptr'}, p.mapTwoBytesExtensions id' = some ptr' →
        ElementForm.twoBytes.length (Memory.splice p.body ptr value) ptr'
          = ElementForm.twoBytes.length p.body ptr') := by
    by_cases hone : p.hasOneByteExtensions = true
    · rw [h.getExtension_oneByte hpayload hone hid] at hget
      cases hptr : p.mapOneByteExtensions id with
      | none =>
        rw [hptr] at hget
        cases hget
      | some ptr' =>
        rw [hptr] at hget
        cases hget
        have hin := (h.oneByte hone).inside hptr
        unfold ElementForm.stop at hin
        exact ⟨by omega,
          fun _ _ _ hptr' ↦ (h.oneByte hone).length_splice hptr hptr' hvalue hpayload,
          fun htwo ↦ absurd htwo (not_hasTwoBytesExtensions hone)⟩
    by_cases htwo : p.hasTwoBytesExtensions = true
    · rw [h.getExtension_twoBytes hpayload hone htwo hid] at hget
      cases hptr : p.mapTwoBytesExtensions id with
      | none =>
        rw [hptr] at hget
        cases hget
      | some ptr' =>
        rw [hptr, Option.bind_some] at hget
        split at hget
        · cases hget
        · cases hget
          have hin := (h.twoBytes htwo).inside hptr
          unfold ElementForm.stop at hin
          exact ⟨by omega, fun hone' ↦ absurd hone' hone,
            fun _ _ _ hptr' ↦ (h.twoBytes htwo).length_splice hptr hptr' hvalue hpayload⟩
    · rw [getExtension, if_neg hid, if_neg hone, if_neg htwo] at hget
      cases hget
  obtain ⟨hin, hone, htwo⟩ := hplace
  have hfits : ptr + value.length ≤ p.body.length := by omega
  refine ⟨hin, h.congr hpayload (hp.headerExtension_splice hin.1 hfits).1 rfl rfl rfl rfl ?_
    hone htwo⟩
  rw [length_splice hfits]
  exact hpayload

/-- The bytes that are set on sending lie in the value of the header extension. -/
theorem Located.isVolatile_inside (h : p.Located) (hp : p.Formed)
    {j : ℕ} (hj : p.IsVolatile j) : p.header.csrcListSize + 4 ≤ j ∧ j < p.payload := by
  obtain ⟨id, ptr, len, -, hget, hlo, hhi⟩ := hj
  have hin := (h.splice hp hget (List.length_replicate (n := len) (a := (0 : Byte)))).1
  omega

namespace Rewrites

theorem refl (h : p.Located) : Rewrites p p := ⟨rfl, rfl, fun _ _ ↦ rfl, h, fun _ ↦ rfl⟩

theorem ids_eq (h : Rewrites p q) : q.ids = p.ids := by
  rw [h.eq]

/-- The bytes that are set on sending stay the same ones. -/
theorem isVolatile_iff (h : Rewrites p q) (j : ℕ) : q.IsVolatile j ↔ p.IsVolatile j := by
  unfold IsVolatile
  simp only [h.getExtension, h.ids_eq]

theorem trans (h : Rewrites p q) (h' : Rewrites q r) : Rewrites p r where
  eq := by
    rw [h'.eq, h.eq]
  length := h'.length.trans h.length
  cells j hj := (h'.cells j fun hq ↦ hj ((h.isVolatile_iff j).mp hq)).trans (h.cells j hj)
  located := h'.located
  getExtension id := (h'.getExtension id).trans (h.getExtension id)

/-- The bytes outside the value of the header extension stay. -/
theorem cells_outside (h : Rewrites p q) (hp : p.Formed) (hl : p.Located) {j : ℕ}
    (hj : j < p.header.csrcListSize + 4 ∨ p.payload ≤ j) : q.body[j]? = p.body[j]? :=
  h.cells j fun hv ↦ by
    have := hl.isVolatile_inside hp hv
    omega

theorem getHeaderExtensionLength_eq (h : Rewrites p q) (hp : p.Formed) (hl : p.Located) :
    q.getHeaderExtensionLength = p.getHeaderExtensionLength := by
  rw [h.eq]
  unfold getHeaderExtensionLength
  dsimp only
  cases hptr : p.headerExtension with
  | none => rfl
  | some ptr =>
    obtain ⟨hstart, -, -⟩ := hp.headerExtension_some hptr
    dsimp only
    rw [fieldAt_congr (slice_eq_of_cells fun j hj ↦ h.cells_outside hp hl (by omega))]

/-- A packet with new values is as well formed as before. -/
theorem formed (h : Rewrites p q) (hp : p.Formed) (hl : p.Located) : q.Formed := by
  have hlength := h.getHeaderExtensionLength_eq hp hl
  have hsize : q.extensionSize = p.extensionSize := by
    rw [extensionSize, hlength, h.eq, extensionSize]
  refine ⟨?_, ?_, ?_, ?_, ?_, ?_⟩
  · rw [h.eq]
    exact hp.csrcList
  · rw [h.eq]
    exact hp.headerExtension
  · rw [hsize, h.eq]
    exact hp.payload
  · rw [h.eq]
    exact hp.padding
  · rw [h.eq]
    exact hp.size
  · rw [h.length, h.eq]
    exact hp.fits

end Rewrites

/-- The methods that update an element write nothing else. -/
theorem Located.updateExtension (h : p.Located) (hp : p.Formed) {id : Byte} {value : List Byte}
    (hvolatile : id = p.ids.absSendTimeExtensionId ∧ value.length = 3 ∨
      id = p.ids.transportWideCc01ExtensionId ∧ value.length = 2) :
    ∃ updated q, p.updateExtension id value = .ok (updated, q) ∧ Rewrites p q := by
  obtain ⟨place, hget⟩ := h.getExtension_returns hp id
  unfold RtpPacket.updateExtension
  rw [hget]
  cases place with
  | none => exact ⟨false, p, rfl, .refl h⟩
  | some place =>
    obtain ⟨ptr, len⟩ := place
    change ∃ updated q, (if len ≠ value.length then _ else _) = _ ∧ _
    by_cases hlen : value.length = len
    · obtain ⟨hin, hlocated, hsame⟩ := h.splice hp hget hlen
      have hpayload := hp.payload_le
      have hfits : ptr + value.length ≤ p.body.length := by omega
      rw [if_neg (not_not.mpr hlen.symm), writeBytes_eq_ok hfits]
      refine ⟨true, _, rfl, rfl, length_splice hfits, fun j hj ↦ ?_, hlocated, hsame⟩
      by_cases hlt : j < ptr
      · exact getElem?_splice_of_lt hfits hlt
      · refine getElem?_splice_of_ge hfits (Nat.le_of_not_lt fun hlt' ↦ hj ?_)
        refine ⟨id, ptr, len, ?_, hget, by omega, by omega⟩
        rwa [hlen] at hvolatile
    · rw [if_pos (Ne.symm hlen)]
      exact ⟨false, p, rfl, .refl h⟩

/-- **A transport that retransmits a packet** rewrites the values that are set on sending, and
nothing else. -/
theorem Located.onConsumerRetransmitRtpPacket (h : p.Located) (hp : p.Formed) (nowMs : BitVec 64)
    (transportWideCcSeq : Option (BitVec 16)) :
    ∃ q seq, p.onConsumerRetransmitRtpPacket nowMs transportWideCcSeq = .ok (q, seq) ∧
      Rewrites p q := by
  obtain ⟨updated, q, hq, hrewrites⟩ := h.updateExtension hp (Or.inl ⟨rfl, Byte.length_set3Bytes
    (timeMsToAbsSendTime nowMs)⟩)
  unfold RtpPacket.onConsumerRetransmitRtpPacket updateAbsSendTime
  rw [hq]
  cases transportWideCcSeq with
  | none => exact ⟨q, none, rfl, hrewrites⟩
  | some seq =>
    obtain ⟨updated', r, hr, hrewrites'⟩ := hrewrites.located.updateExtension
      (hrewrites.formed hp h) (Or.inr ⟨rfl, Byte.length_set2Bytes (seq + 1)⟩)
    refine ⟨r, some (if updated' then seq + 1 else seq), ?_, hrewrites.trans hrewrites'⟩
    change (q.updateTransportWideCc01 (seq + 1) >>= fun _ ↦ _) = _
    unfold updateTransportWideCc01
    rw [hr]
    rfl

/-! ## Copies and encodings -/

/-- The elements are where they are in a packet with the same ones. -/
theorem SameElements.located (h : SameElements p q) (hp : p.Formed) (hl : p.Located)
    (hq : q.Formed) : q.Located ∧ ∀ id, q.getExtension id = p.getExtension id := by
  have hcells : ∀ j < p.payload, q.body[j]? = p.body[j]? := by
    intro j hj
    have hslice := congrArg (fun cells : List Byte ↦ cells[j]?) h.front.body
    simpa only [getElem?_slice, if_pos hj, Nat.zero_add] using hslice
  have hid : q.getHeaderExtensionId = p.getHeaderExtensionId := by
    rw [getHeaderExtensionId, getHeaderExtensionId, h.front.headerExtension]
    cases hptr : p.headerExtension with
    | none => rfl
    | some ptr =>
      obtain ⟨-, hpayload, -⟩ := hp.headerExtension_some hptr
      exact fieldAt_congr (slice_eq_of_cells fun j hj ↦ hcells _ (by omega))
  exact hl.congr hp.payload_le hid h.one h.two h.front.csrcListSize h.front.payload hq.payload_le
    (fun hone _ _ hptr ↦ (hl.oneByte hone).length_congr hcells hptr)
    (fun htwo _ _ hptr ↦ (hl.twoBytes htwo).length_congr hcells hptr)

/-- `ParseExtensions` only fills the maps. -/
theorem parseExtensions_frame (h : p.parseExtensions = .ok q) : q = { p with
    mapOneByteExtensions := q.mapOneByteExtensions
    mapTwoBytesExtensions := q.mapTwoBytesExtensions } := by
  unfold parseExtensions at h
  split at h
  · cases h
    rfl
  · dsimp only at h
    split at h
    · obtain ⟨map, -, h⟩ := bind_eq_ok.mp h
      cases h
      rfl
    · split at h
      · obtain ⟨map, -, h⟩ := bind_eq_ok.mp h
        cases h
        rfl
      · cases h
        rfl

/-- A clone has its elements located. -/
theorem Formed.located_clone (hq : q.Formed) {buffer : List Byte} (h : p.clone buffer = .ok q) :
    q.Located := by
  unfold clone at h
  obtain ⟨b₁, -, h⟩ := bind_eq_ok.mp h
  obtain ⟨b₂, -, h⟩ := bind_eq_ok.mp h
  obtain ⟨b₃, -, h⟩ := bind_eq_ok.mp h
  obtain ⟨b₄, -, h⟩ := bind_eq_ok.mp h
  obtain ⟨-, -, h⟩ := bind_eq_ok.mp h
  obtain ⟨packet, hparse, h⟩ := bind_eq_ok.mp h
  cases h
  have hframe := parseExtensions_frame hparse
  generalize view _ _ _ _ _ _ _ = viewed at hparse hframe
  have hviewed : viewed.Formed := by
    have := hq.congr viewed.mapOneByteExtensions viewed.mapTwoBytesExtensions viewed.ids
    rw [hframe] at this
    exact this
  have hlocated := hviewed.located_parseExtensions hparse
  exact ⟨hlocated.oneByte, hlocated.twoBytes⟩

end RtpPacket

/-! ## Contents up to volatile bytes -/

/-- Two contents agree but for bytes of the header extension that `volatile` holds of. -/
structure RtpContent.AgreeOutside (volatile : ℕ → Prop) (c c' : RtpContent) : Prop where
  rest : c' = { c with headerExtension := c'.headerExtension }
  length : c'.headerExtension.map List.length = c.headerExtension.map List.length
  cells : ∀ j, ¬volatile j →
    (c'.headerExtension.bind fun bytes ↦ bytes[j]?) = c.headerExtension.bind fun bytes ↦ bytes[j]?

namespace RtpContent.AgreeOutside

variable {volatile volatile' : ℕ → Prop} {c c' c'' : RtpContent}

theorem refl (volatile : ℕ → Prop) (c : RtpContent) : AgreeOutside volatile c c :=
  ⟨rfl, rfl, fun _ _ ↦ rfl⟩

theorem trans (h : AgreeOutside volatile c c') (h' : AgreeOutside volatile c' c'') :
    AgreeOutside volatile c c'' :=
  ⟨by rw [h'.rest, h.rest], h'.length.trans h.length,
    fun j hj ↦ (h'.cells j hj).trans (h.cells j hj)⟩

theorem congr (h : AgreeOutside volatile c c') (hv : ∀ j, volatile j ↔ volatile' j) :
    AgreeOutside volatile' c c' :=
  ⟨h.rest, h.length, fun j hj ↦ h.cells j ((hv j).not.mpr hj)⟩

/-- The RTX format keeps the header extension. -/
theorem encodeRtx (h : AgreeOutside volatile c c') (payloadType : BitVec 7) (ssrc : BitVec 32)
    (seq : BitVec 16) :
    AgreeOutside volatile (c.encodeRtx payloadType ssrc seq) (c'.encodeRtx payloadType ssrc seq) :=
  ⟨by rw [h.rest]; rfl, h.length, h.cells⟩

end RtpContent.AgreeOutside

namespace RtpPacket

variable {p q : RtpPacket}

/-- The bytes of the header extension that are set on sending, counted from its start. -/
def VolatileExtension (p : RtpPacket) (j : ℕ) : Prop := p.IsVolatile (p.header.csrcListSize + j)

/-- **New values that are set on sending** only show in these bytes of the content. -/
theorem Rewrites.content_agree (h : Rewrites p q) (hp : p.Formed) (hl : p.Located) :
    RtpContent.AgreeOutside p.VolatileExtension p.content q.content := by
  have hlength := h.getHeaderExtensionLength_eq hp hl
  have hsize := hp.size
  have hfits := hp.fits
  have hpayload := hp.payload
  refine ⟨?_, ?_, fun j hj ↦ ?_⟩
  · have hcsrcs : slice q.body 0 p.header.csrcListSize = slice p.body 0 p.header.csrcListSize :=
      slice_eq_of_cells fun j hj ↦ h.cells_outside hp hl (by omega)
    have hdata : slice q.body p.payload p.payloadLength = slice p.body p.payload p.payloadLength :=
      slice_eq_of_cells fun j hj ↦ h.cells_outside hp hl (by omega)
    unfold content
    rw [← hcsrcs, ← hdata, h.eq]
  · change (q.headerExtension.map _).map _ = (p.headerExtension.map _).map _
    rw [hlength, h.eq]
    dsimp only
    cases hptr : p.headerExtension with
    | none => rfl
    | some ptr =>
      obtain ⟨-, hstart, hle⟩ := hp.headerExtension_some hptr
      have hin : ptr + (4 + p.getHeaderExtensionLength) ≤ p.body.length := by omega
      have hin' : ptr + (4 + p.getHeaderExtensionLength) ≤ q.body.length := by
        rw [h.length]
        exact hin
      simp only [Option.map_some, length_slice hin, length_slice hin']
  · change (q.headerExtension.map _).bind _ = (p.headerExtension.map _).bind _
    rw [hlength, h.eq]
    dsimp only
    cases hptr : p.headerExtension with
    | none => rfl
    | some ptr =>
      obtain ⟨rfl, -, -⟩ := hp.headerExtension_some hptr
      simp only [Option.map_some, Option.bind_some, getElem?_slice]
      rw [h.cells _ hj]

end RtpPacket

end MediasoupSfu
