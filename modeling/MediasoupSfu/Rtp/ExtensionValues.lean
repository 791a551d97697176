import MediasoupSfu.Rtp.Extensions
import MediasoupSfu.Rtp.Sending

/-!
# The values of header extensions

`SetExtensions` writes elements one behind the other and keeps a pointer to each, and `UpdateMid`
writes a value into one of them. The new value may be shorter, and a later one longer again: what is
behind a value is padding that only this element may use.

To say what `GetExtension` finds, each id in a map is given a *slot*, a place with room for a value
and the value that it holds at the moment. Slots do not overlap, so writing into one leaves the
values of the others alone. `Holds` is this invariant: the loop of `SetExtensions` adds slots
(`holds_writeExtensions`), `UpdateMid` changes the value in a slot (`Filled.updateMid`).

A list of elements may need more room than there is, or move the payload by more than an `int16_t`
can hold. `hasExtensions_iff` says that nothing else goes wrong.
-/

namespace MediasoupSfu

open Memory

/-- `MidMaxLength`. -/
def midMaxLength : ℕ := 8

namespace RtpPacket

open GenericExtension

/-! ## The operations -/

/-- `std::memset` of what is left of a value. -/
def fillValue (body : List Byte) (value currentLen len : ℕ) : Except Fault (List Byte) :=
  if len < currentLen then writeBytes body (value + len) (List.replicate (currentLen - len) 0)
  else .ok body

/-- `SetExtensionLength(id, len)`. -/
def setExtensionLength (p : RtpPacket) (id len : Byte) : Except Fault (Bool × RtpPacket) :=
  if len = 0 then .ok (false, p)
  else if id = 0 then .ok (false, p)
  else if p.hasOneByteExtensions then
    match p.mapOneByteExtensions id with
    | none => .ok (false, p)
    | some ptr => do
      let b ← Byte.get1Byte p.body ptr
      -- Fill with 0's if new length is minor.
      let body ← fillValue p.body (ptr + 1) ((b &&& 0x0F).toNat + 1) len.toNat
      -- In One-Byte extensions value length 0 means 1.
      let body ← writeBytes body ptr [(b &&& 0xF0) ||| ((len - 1) &&& 0x0F)]
      return (true, { p with body := body })
  else if p.hasTwoBytesExtensions then
    match p.mapTwoBytesExtensions id with
    | none => .ok (false, p)
    | some ptr => do
      let currentLen ← Byte.get1Byte p.body (ptr + 1)
      let body ← fillValue p.body (ptr + 2) currentLen.toNat len.toNat
      let body ← writeBytes body (ptr + 1) [len]
      return (true, { p with body := body })
  else .ok (false, p)

/-- `UpdateMid(mid)`. -/
def updateMid (p : RtpPacket) (mid : List Byte) : Except Fault (Bool × RtpPacket) := do
  match ← p.getExtension p.ids.midExtensionId with
  | none => return (false, p)
  | some (extenValue, _) =>
    if midMaxLength < mid.length then return (false, p)
    else
      let body ← writeBytes p.body extenValue mid
      let (_, p) ← { p with body := body }.setExtensionLength p.ids.midExtensionId
        (BitVec.ofNat 8 mid.length)
      return (true, p)

/-- `UpdateMid` with one value after the other. -/
def updateMids : List (List Byte) → RtpPacket → Except Fault RtpPacket
  | [], p => .ok p
  | mid :: mids, p => do
    let (_, p) ← p.updateMid mid
    updateMids mids p

/-- The value at which `GetExtension` points. -/
def getExtensionValue (p : RtpPacket) (id : Byte) : Except Fault (Option (List Byte)) := do
  match ← p.getExtension id with
  | none => return none
  | some (value, len) => return some (slice p.body value len)

/-! ## Elements -/

/-- The map of the form of this type. -/
def elements (p : RtpPacket) (type : Byte) : ExtensionMap :=
  if type = 1 then p.mapOneByteExtensions else p.mapTwoBytesExtensions

/-- The form of the elements of this type. -/
def formOf (type : Byte) : ElementForm := if type = 1 then .oneByte else .twoBytes

/-- The first bytes of an element. -/
def elementHead (type id : Byte) (len : ℕ) : List Byte :=
  if type = 1 then [(id <<< 4) ||| (BitVec.ofNat 8 (len - 1) &&& 0x0F)]
  else [id, BitVec.ofNat 8 len]

/-- An element with this id and this length can be written. -/
def IsValid (type id : Byte) (len : ℕ) : Prop :=
  id ≠ 0 ∧ if type = 1 then id ≤ 14 ∧ len ≠ 0 ∧ len ≤ 16 else len < 256

theorem length_elementHead (type id : Byte) (len : ℕ) :
    (elementHead type id len).length = (formOf type).headerSize := by
  unfold elementHead formOf
  split <;> rfl

theorem element_eq (type : Byte) (e : GenericExtension) :
    e.element type = elementHead type e.id e.len ++ e.value := by
  unfold GenericExtension.element elementHead
  split <;> rfl

theorem isValid_of_not_isSkipped {type : Byte} {e : GenericExtension}
    (h : e.isSkipped type = false) : IsValid type e.id e.len := by
  unfold GenericExtension.isSkipped at h
  unfold IsValid
  split at h
  · rename_i htype
    rw [if_pos htype]
    obtain ⟨hid, hle, hlen, hlen'⟩ := (not_or.trans (and_congr_right fun _ ↦ not_or.trans
      (and_congr_right fun _ ↦ not_or))).mp (of_decide_eq_false h)
    exact ⟨hid, BitVec.not_lt.mp hle, hlen, not_lt.mp hlen'⟩
  · rename_i htype
    rw [if_neg htype]
    exact ⟨of_decide_eq_false h, e.length_lt⟩

theorem getElem_lowMask : ∀ (i : ℕ) (hi : i < 8), (0x0F : Byte)[i] = decide (i < 4) := by decide

theorem getElem_highMask : ∀ (i : ℕ) (hi : i < 8), (0xF0 : Byte)[i] = !decide (i < 4) := by decide

/-- The length in the head of an element of the one-byte form. -/
theorem lowNibble_eq (id : Byte) {len : ℕ} (h : len ≠ 0) (hle : len ≤ 16) :
    (((id <<< 4) ||| (BitVec.ofNat 8 (len - 1) &&& 0x0F)) &&& 0x0F).toNat + 1 = len := by
  have hlow : ((id <<< 4) ||| (BitVec.ofNat 8 (len - 1) &&& 0x0F)) &&& 0x0F =
      BitVec.ofNat 8 (len - 1) &&& 0x0F := by
    ext i hi
    simp only [BitVec.getElem_and, BitVec.getElem_or, BitVec.getElem_shiftLeft, getElem_lowMask]
    cases decide (i < 4) <;> simp
  rw [hlow, Packing.toNat_and_mask (k := 4) _ rfl, BitVec.toNat_ofNat,
    Nat.mod_eq_of_lt (show len - 1 < 2 ^ 8 by omega)]
  omega

/-- Writing the length keeps the id. -/
theorem setNibble_eq (id : Byte) {len len' : ℕ} (h : len' ≠ 0) (hle : len' ≤ 16) :
    (((id <<< 4) ||| (BitVec.ofNat 8 (len - 1) &&& (0x0F : Byte))) &&& (0xF0 : Byte)) |||
        ((BitVec.ofNat 8 len' - (1 : Byte)) &&& (0x0F : Byte)) =
      (id <<< 4) ||| (BitVec.ofNat 8 (len' - 1) &&& 0x0F) := by
  have hlen : BitVec.ofNat 8 len' - 1 = BitVec.ofNat 8 (len' - 1) := by
    apply BitVec.eq_of_toNat_eq
    bv_omega
  have hhigh : ((id <<< 4) ||| (BitVec.ofNat 8 (len - 1) &&& (0x0F : Byte))) &&& (0xF0 : Byte) =
      id <<< 4 := by
    ext i hi
    simp only [BitVec.getElem_and, BitVec.getElem_or, BitVec.getElem_shiftLeft, getElem_lowMask,
      getElem_highMask]
    cases decide (i < 4) <;> simp
  rw [hhigh, hlen]

/-! ## Slots -/

/-- The place of an element with room for a value, and the value in it. -/
structure Slot where
  ptr : ℕ
  room : ℕ
  value : List Byte

/-- The end of a slot. -/
def Slot.stop (type : Byte) (s : Slot) : ℕ := s.ptr + (formOf type).headerSize + s.room

/-- The pointers of `map` are those of slots between `lo` and `hi`, which do not overlap and hold
their values. -/
structure Holds (type : Byte) (body : List Byte) (map : ExtensionMap) (lo hi : ℕ)
    (slots : Byte → Option Slot) : Prop where
  map_eq : ∀ id, map id = (slots id).map Slot.ptr
  inside : ∀ {id s}, slots id = some s → lo ≤ s.ptr ∧ s.stop type ≤ hi
  apart : ∀ {id id' s s'}, slots id = some s → slots id' = some s' → id ≠ id' →
    s.stop type ≤ s'.ptr ∨ s'.stop type ≤ s.ptr
  fits : ∀ {id s}, slots id = some s → s.value.length ≤ s.room
  valid : ∀ {id s}, slots id = some s → IsValid type id s.value.length
  head : ∀ {id s}, slots id = some s →
    slice body s.ptr (formOf type).headerSize = elementHead type id s.value.length
  value : ∀ {id s}, slots id = some s →
    slice body (s.ptr + (formOf type).headerSize) s.value.length = s.value

namespace Holds

variable {type : Byte} {body body' : List Byte} {map : ExtensionMap} {lo hi : ℕ}
  {slots : Byte → Option Slot}

theorem nil : Holds type body (fun _ ↦ none) lo lo (fun _ ↦ none) where
  map_eq _ := rfl
  inside h := nomatch h
  apart h := nomatch h
  fits h := nomatch h
  valid h := nomatch h
  head h := nomatch h
  value h := nomatch h

/-- Only the bytes of the slots matter. -/
theorem congr (h : Holds type body map lo hi slots)
    (hcells : ∀ i n, lo ≤ i → i + n ≤ hi → slice body' i n = slice body i n) :
    Holds type body' map lo hi slots where
  map_eq := h.map_eq
  inside := h.inside
  apart := h.apart
  fits := h.fits
  valid := h.valid
  head hs := by
    have hin := h.inside hs
    rw [Slot.stop] at hin
    rw [hcells _ _ hin.1 (by omega)]
    exact h.head hs
  value hs := by
    have hin := h.inside hs
    have hfits := h.fits hs
    rw [Slot.stop] at hin
    rw [hcells _ _ (by omega) (by omega)]
    exact h.value hs

/-- An element is written behind the others. -/
theorem add (h : Holds type body map lo hi slots) {e : GenericExtension}
    (hvalid : e.isSkipped type = false) (hlo : lo ≤ hi)
    (hroom : hi + (e.element type).length ≤ body.length) :
    Holds type (splice body hi (e.element type)) (Function.update map e.id (some hi)) lo
      (hi + (e.element type).length)
      (Function.update slots e.id (some ⟨hi, e.len, e.value⟩)) := by
  have hlength : (e.element type).length = (formOf type).headerSize + e.len := by
    rw [element_eq, List.length_append, length_elementHead, GenericExtension.len]
  have hnew : slice (splice body hi (e.element type)) hi (e.element type).length =
      elementHead type e.id e.len ++ e.value := by
    rw [slice_splice_self hroom rfl, element_eq]
  rw [hlength, slice_add] at hnew
  have hhead : (slice (splice body hi (e.element type)) hi (formOf type).headerSize).length =
      (elementHead type e.id e.len).length := by
    rw [length_slice (by rw [length_splice hroom]; omega), length_elementHead]
  obtain ⟨hhead, hvalue⟩ := List.append_inj hnew hhead
  have hold : Holds type (splice body hi (e.element type)) map lo hi slots :=
    h.congr fun i n _ hin ↦ slice_splice_before hroom hin
  have hcases : ∀ {id s}, Function.update slots e.id (some ⟨hi, e.len, e.value⟩) id = some s →
      id = e.id ∧ s = ⟨hi, e.len, e.value⟩ ∨ slots id = some s := by
    intro id s hs
    rw [Function.update_apply] at hs
    split at hs
    · exact Or.inl ⟨‹_›, (Option.some.inj hs).symm⟩
    · exact Or.inr hs
  refine ⟨fun id ↦ ?_, fun hs ↦ ?_, fun hs hs' hne ↦ ?_, fun hs ↦ ?_, fun hs ↦ ?_, fun hs ↦ ?_,
    fun hs ↦ ?_⟩
  · rw [Function.update_apply, Function.update_apply]
    split
    · rfl
    · exact h.map_eq id
  · rcases hcases hs with ⟨-, rfl⟩ | hs
    · rw [hlength]
      exact ⟨hlo, (Nat.add_assoc _ _ _).le⟩
    · have := h.inside hs
      omega
  · rcases hcases hs with ⟨rfl, rfl⟩ | hs <;> rcases hcases hs' with ⟨rfl, rfl⟩ | hs'
    · exact absurd rfl hne
    · exact Or.inr (h.inside hs').2
    · exact Or.inl (h.inside hs).2
    · exact h.apart hs hs' hne
  · rcases hcases hs with ⟨-, rfl⟩ | hs
    · exact Nat.le_refl _
    · exact h.fits hs
  · rcases hcases hs with ⟨rfl, rfl⟩ | hs
    · exact isValid_of_not_isSkipped hvalid
    · exact h.valid hs
  · rcases hcases hs with ⟨rfl, rfl⟩ | hs
    · exact hhead
    · exact hold.head hs
  · rcases hcases hs with ⟨-, rfl⟩ | hs
    · exact hvalue
    · exact hold.value hs

/-- A new value is written into a slot. -/
theorem set (h : Holds type body map lo hi slots) {id : Byte} {s : Slot} (hs : slots id = some s)
    {value : List Byte} (hfits : value.length ≤ s.room) (hvalid : IsValid type id value.length)
    (hcells : ∀ i n, i + n ≤ s.ptr ∨ s.stop type ≤ i → slice body' i n = slice body i n)
    (hhead : slice body' s.ptr (formOf type).headerSize = elementHead type id value.length)
    (hvalue : slice body' (s.ptr + (formOf type).headerSize) value.length = value) :
    Holds type body' map lo hi (Function.update slots id (some { s with value := value })) := by
  have hcases : ∀ {id' s'}, Function.update slots id (some { s with value := value }) id' =
      some s' → id' = id ∧ s' = { s with value := value } ∨ id' ≠ id ∧ slots id' = some s' := by
    intro id' s' hs'
    rw [Function.update_apply] at hs'
    split at hs'
    · exact Or.inl ⟨‹_›, (Option.some.inj hs').symm⟩
    · exact Or.inr ⟨‹_›, hs'⟩
  refine ⟨fun id' ↦ ?_, fun hs' ↦ ?_, fun hs' hs'' hne ↦ ?_, fun hs' ↦ ?_, fun hs' ↦ ?_,
    fun hs' ↦ ?_, fun hs' ↦ ?_⟩
  · rw [Function.update_apply]
    split
    · rename_i heq
      rw [heq, h.map_eq, hs]
      rfl
    · exact h.map_eq id'
  · rcases hcases hs' with ⟨-, rfl⟩ | ⟨-, hold⟩
    · have := h.inside hs
      exact this
    · exact h.inside hold
  · rcases hcases hs' with ⟨rfl, rfl⟩ | ⟨-, hold⟩ <;>
      rcases hcases hs'' with ⟨rfl, rfl⟩ | ⟨-, hold'⟩
    · exact absurd rfl hne
    · have := h.apart hs hold' hne
      exact this
    · have := h.apart hold hs hne
      exact this
    · exact h.apart hold hold' hne
  · rcases hcases hs' with ⟨-, rfl⟩ | ⟨-, hs'⟩
    · exact hfits
    · exact h.fits hs'
  · rcases hcases hs' with ⟨rfl, rfl⟩ | ⟨-, hs'⟩
    · exact hvalid
    · exact h.valid hs'
  · rcases hcases hs' with ⟨rfl, rfl⟩ | ⟨hne, hs'⟩
    · exact hhead
    · have hapart := h.apart hs' hs hne
      rw [Slot.stop] at hapart
      rw [hcells _ _ (by omega)]
      exact h.head hs'
  · rcases hcases hs' with ⟨rfl, rfl⟩ | ⟨hne, hs'⟩
    · exact hvalue
    · have hapart := h.apart hs' hs hne
      have hfits' := h.fits hs'
      rw [Slot.stop] at hapart
      rw [hcells _ _ (by omega)]
      exact h.value hs'

end Holds

/-! ## `SetExtensions` adds slots -/

/-- The slots of the elements that the loop of `SetExtensions` writes from `ptr` on. -/
def placed (type : Byte) :
    List GenericExtension → ℕ → (Byte → Option Slot) → Byte → Option Slot
  | [], _, slots => slots
  | e :: es, ptr, slots =>
    if e.isSkipped type then placed type es ptr slots
    else placed type es (ptr + (e.element type).length)
      (Function.update slots e.id (some ⟨ptr, e.len, e.value⟩))

/-- The last of the elements that are written for an id. -/
def lastExtension (type : Byte) (extensions : List GenericExtension) (id : Byte) :
    Option GenericExtension :=
  (extensions.filter fun e ↦ !e.isSkipped type && decide (e.id = id)).getLast?

theorem lastExtension_cons (type : Byte) (e : GenericExtension) (es : List GenericExtension)
    (id : Byte) : lastExtension type (e :: es) id = (lastExtension type es id).or
      (if e.isSkipped type = false ∧ e.id = id then some e else none) := by
  rw [lastExtension, lastExtension, List.filter_cons]
  by_cases h : e.isSkipped type = false ∧ e.id = id
  · rw [if_pos h, if_pos (by rw [h.1, h.2]; simp), List.getLast?_cons]
    cases (es.filter fun e ↦ !e.isSkipped type && decide (e.id = id)).getLast? <;> rfl
  · rw [if_neg h, if_neg (by simpa using h), Option.or_none]

/-- The slot of an id is that of the last element with this id. -/
theorem placed_eq (type : Byte) (es : List GenericExtension) (id : Byte) :
    ∀ (ptr : ℕ) (slots : Byte → Option Slot),
      (placed type es ptr slots id).map (fun s ↦ (s.room, s.value)) =
        ((lastExtension type es id).map fun e ↦ (e.len, e.value)).or
          ((slots id).map fun s ↦ (s.room, s.value)) := by
  induction es with
  | nil => exact fun _ _ ↦ rfl
  | cons e es ih =>
    intro ptr slots
    rw [placed, lastExtension_cons]
    cases hskipped : e.isSkipped type with
    | true =>
      rw [if_pos rfl, if_neg (by simp), Option.or_none]
      exact ih ptr slots
    | false =>
      rw [if_neg Bool.false_ne_true, ih, Function.update_apply]
      by_cases hid : e.id = id
      · rw [if_pos hid.symm, if_pos ⟨rfl, hid⟩]
        cases lastExtension type es id <;> rfl
      · rw [if_neg (Ne.symm hid), if_neg fun h ↦ hid h.2, Option.or_none]

variable {p p' : RtpPacket} {type : Byte} {extensions : List GenericExtension}

theorem elements_storeElement (p : RtpPacket) (type id : Byte) (ptr : ℕ) :
    (p.storeElement type id ptr).elements type =
      Function.update (p.elements type) id (some ptr) := by
  unfold storeElement elements
  split <;> rfl

theorem storeElement_frame (p : RtpPacket) (type id : Byte) (ptr : ℕ) :
    (p.storeElement type id ptr).body = p.body ∧
      (p.storeElement type id ptr).payload = p.payload := by
  unfold storeElement
  split <;> exact ⟨rfl, rfl⟩

/-- The loop of `SetExtensions` adds a slot for every element. -/
theorem holds_writeExtensions {lo : ℕ} (type : Byte) (es : List GenericExtension) :
    ∀ {p p' : RtpPacket} {ptr ptr' : ℕ} {slots : Byte → Option Slot},
      writeExtensions type es p ptr = .ok (p', ptr') → lo ≤ ptr →
      Holds type p.body (p.elements type) lo ptr slots →
      Holds type p'.body (p'.elements type) lo ptr' (placed type es ptr slots) ∧
        ptr' = ptr + totalSize type es ∧ p'.payload = p.payload ∧
        p'.body.length = p.body.length := by
  induction es with
  | nil =>
    intro p p' ptr ptr' slots h _ hholds
    cases h
    exact ⟨hholds, rfl, rfl, rfl⟩
  | cons e es ih =>
    intro p p' ptr ptr' slots h hlo hholds
    rw [writeExtensions] at h
    rw [placed, totalSize]
    cases hskipped : e.isSkipped type with
    | true =>
      rw [hskipped, if_pos rfl] at h
      rw [if_pos rfl, if_pos rfl]
      exact ih h hlo hholds
    | false =>
      obtain ⟨hbody, hpayload⟩ := storeElement_frame p type e.id ptr
      rw [hskipped, if_neg Bool.false_ne_true] at h
      dsimp only at h
      rw [hbody] at h
      obtain ⟨body, hwrite, hrest⟩ := bind_eq_ok.mp h
      obtain ⟨hroom, rfl⟩ := of_writeBytes hwrite
      have hadd := hholds.add hskipped hlo hroom
      rw [← elements_storeElement] at hadd
      obtain ⟨hholds', hptr', hpayload', hlength⟩ := ih hrest (by omega) hadd
      rw [if_neg Bool.false_ne_true, if_neg Bool.false_ne_true, ← length_element]
      exact ⟨hholds', hptr'.trans (Nat.add_assoc _ _ _), hpayload'.trans hpayload,
        hlength.trans (length_splice hroom)⟩

/-- `SetExtensions` leaves a slot for the last element of every id. -/
theorem holds_fillHeaderExtension {start : ℕ}
    (h : p.fillHeaderExtension type extensions start = .ok p')
    (hone : p.mapOneByteExtensions = fun _ ↦ none) (htwo : p.mapTwoBytesExtensions = fun _ ↦ none) :
    ∃ hi, Holds type p'.body (p'.elements type) (start + 4) hi
        (placed type extensions (start + 4) fun _ ↦ none) ∧ hi ≤ p'.payload ∧
      p'.payload = p.payload ∧ p.payload ≤ p.body.length ∧
      p.payload = start + 4 + totalSize type extensions + paddingSize type extensions := by
  obtain ⟨⟨q, ptr⟩, hwrite, h⟩ := bind_eq_ok.mp h
  obtain ⟨body, hpadding, h⟩ := bind_eq_ok.mp h
  obtain ⟨⟨⟩, hend, h⟩ := bind_eq_ok.mp h
  cases h
  dsimp only at hpadding hend ⊢
  obtain ⟨hroom, rfl⟩ := of_writeBytes hpadding
  have hmap : p.elements type = fun _ ↦ none := by
    rw [elements, hone, htwo]
    split <;> rfl
  have hnil : Holds type p.body (p.elements type) (start + 4) (start + 4) (fun _ ↦ none) := by
    rw [hmap]
    exact Holds.nil
  obtain ⟨hholds, hptr, hpayload, hlength⟩ :=
    holds_writeExtensions type extensions hwrite (Nat.le_refl _) hnil
  have hend := of_decide_eq_true (msAssert_eq_ok.mp hend)
  rw [List.length_replicate] at hroom
  refine ⟨ptr, hholds.congr fun i n _ hin ↦
    slice_splice_before (by rw [List.length_replicate]; exact hroom) hin, ?_, hpayload, ?_, ?_⟩
  · omega
  · omega
  · omega

/-! ## Reading values -/

section Slots

variable {lo hi : ℕ} {slots : Byte → Option Slot}

/-- A byte of a range whose content is known. -/
theorem get1Byte_of_slice {body bytes : List Byte} {i n j : ℕ} {b : Byte}
    (h : slice body i n = bytes) (hj : bytes[j]? = some b) :
    Byte.get1Byte body (i + j) = .ok b := by
  rw [← h, getElem?_slice] at hj
  split at hj
  · rw [Byte.get1Byte, hj]
  · cases hj

theorem not_hasOneByteExtensions (h : p.hasTwoBytesExtensions = true) :
    ¬p.hasOneByteExtensions = true := fun hone ↦ not_hasTwoBytesExtensions hone h

/-- The value in the slot, unless it is empty. -/
def Slot.shown (s : Slot) : Option (List Byte) := if s.value = [] then none else some s.value

/-- `GetExtension` of an element that is in the map. -/
theorem getExtension_element (hform : p.hasForm type = true) {id : Byte} {ptr len : ℕ}
    (hmap : p.elements type id = some ptr) (hvalid : IsValid type id len)
    (hhead : slice p.body ptr (formOf type).headerSize = elementHead type id len) :
    p.getExtension id =
      .ok (if len = 0 then none else some (ptr + (formOf type).headerSize, len)) := by
  obtain ⟨hid, hlen⟩ := hvalid
  rw [getExtension, if_neg hid]
  by_cases htype : type = 1
  · subst htype
    obtain ⟨-, hne, hle⟩ := hlen
    have hbyte := get1Byte_of_slice (j := 0) hhead rfl
    rw [Nat.add_zero] at hbyte
    rw [if_pos (show p.hasOneByteExtensions = true from hform),
      show p.mapOneByteExtensions id = some ptr from hmap]
    dsimp only
    rw [hbyte, if_neg hne]
    change Except.ok (some (ptr + 1, _)) = _
    rw [lowNibble_eq id hne hle]
    rfl
  · have htwo : p.hasTwoBytesExtensions = true := by
      rw [hasForm, if_neg htype] at hform
      exact hform
    rw [if_neg htype] at hlen
    rw [elementHead, if_neg htype] at hhead
    rw [elements, if_neg htype] at hmap
    rw [if_neg (not_hasOneByteExtensions htwo), if_pos htwo, hmap]
    dsimp only
    rw [get1Byte_of_slice (j := 1) hhead rfl]
    have hword : (BitVec.ofNat 8 len).toNat = len := by
      rw [BitVec.toNat_ofNat, Nat.mod_eq_of_lt hlen]
    change (if (BitVec.ofNat 8 len).toNat = 0 then _ else _) = _
    rw [hword, formOf, if_neg htype]
    split <;> rfl

/-- `GetExtension` of an id that is not in the map. -/
theorem getExtension_none (hform : p.hasForm type = true) {id : Byte}
    (hmap : p.elements type id = none) : p.getExtension id = .ok none := by
  unfold getExtension
  by_cases hid : id = 0
  · exact if_pos hid
  rw [if_neg hid]
  by_cases htype : type = 1
  · subst htype
    rw [if_pos (show p.hasOneByteExtensions = true from hform),
      show p.mapOneByteExtensions id = none from hmap]
  · have htwo : p.hasTwoBytesExtensions = true := by
      rw [hasForm, if_neg htype] at hform
      exact hform
    rw [elements, if_neg htype] at hmap
    rw [if_neg (not_hasOneByteExtensions htwo), if_pos htwo, hmap]

/-- `GetExtension` points at the value in the slot of the id. -/
theorem getExtension_eq (hform : p.hasForm type = true)
    (h : Holds type p.body (p.elements type) lo hi slots) (id : Byte) :
    p.getExtension id = .ok ((slots id).bind fun s ↦
      if s.value = [] then none
      else some (s.ptr + (formOf type).headerSize, s.value.length)) := by
  have hmap := h.map_eq id
  cases hs : slots id with
  | none =>
    rw [hs] at hmap
    exact getExtension_none hform hmap
  | some s =>
    rw [hs] at hmap
    rw [getExtension_element hform hmap (h.valid hs) (h.head hs), Option.bind_some]
    simp only [List.length_eq_zero_iff]

theorem getExtensionValue_eq (hform : p.hasForm type = true)
    (h : Holds type p.body (p.elements type) lo hi slots) (id : Byte) :
    p.getExtensionValue id = .ok ((slots id).bind Slot.shown) := by
  rw [getExtensionValue, getExtension_eq hform h]
  cases hs : slots id with
  | none => rfl
  | some s =>
    dsimp only [Option.bind_some]
    rw [Slot.shown]
    split
    · rfl
    · exact congrArg (fun value ↦ Except.ok (some value)) (h.value hs)

/-! ## `UpdateMid` writes into a slot -/

theorem getElem?_of_slice {body body' : List Byte} {i : ℕ} (h : slice body' i 1 = slice body i 1) :
    body'[i]? = body[i]? := by
  have hcell := congrArg (fun cells : List Byte ↦ cells[0]?) h
  simpa only [getElem?_slice, if_pos Nat.one_pos, Nat.add_zero] using hcell

theorem fillValue_spec {body : List Byte} {value currentLen : ℕ} (len : ℕ)
    (h : value + currentLen ≤ body.length) :
    ∃ body', fillValue body value currentLen len = .ok body' ∧ body'.length = body.length ∧
      (∀ i n, i + n ≤ value + len ∨ value + currentLen ≤ i → slice body' i n = slice body i n) ∧
      ∀ j, len ≤ j → j < currentLen → body'[value + j]? = some 0 := by
  unfold fillValue
  split
  · have hroom : value + len + (List.replicate (currentLen - len) (0 : Byte)).length ≤
        body.length := by
      rw [List.length_replicate]
      omega
    refine ⟨_, writeBytes_eq_ok hroom, length_splice hroom, fun i n hin ↦ ?_, fun j hj hlt ↦ ?_⟩
    · rcases hin with hin | hin
      · exact slice_splice_before hroom hin
      · exact slice_splice_after hroom (by rw [List.length_replicate]; omega)
    · obtain ⟨k, rfl⟩ := Nat.exists_eq_add_of_le hj
      rw [← Nat.add_assoc, getElem?_splice_inside hroom (by rw [List.length_replicate]; omega),
        List.getElem?_replicate, if_pos (by omega)]
  · exact ⟨body, rfl, rfl, fun _ _ _ ↦ rfl, fun j hj hlt ↦ absurd hlt (by omega)⟩

/-- `SetExtensionLength` changes the head of an element, and else only what is behind its value: a
longer one is filled with zeros. -/
theorem setExtensionLength_spec (hform : p.hasForm type = true) {id : Byte} {ptr cur len room : ℕ}
    (hmap : p.elements type id = some ptr) (hvalid : IsValid type id cur)
    (hvalid' : IsValid type id len) (hlen : len ≠ 0)
    (hhead : slice p.body ptr (formOf type).headerSize = elementHead type id cur)
    (hcur : cur ≤ room) (hroom : ptr + (formOf type).headerSize + room ≤ p.body.length) :
    ∃ body, p.setExtensionLength id (BitVec.ofNat 8 len) = .ok (true, { p with body := body }) ∧
      body.length = p.body.length ∧
      (∀ i n, i + n ≤ ptr ∨ ptr + (formOf type).headerSize + room ≤ i →
        slice body i n = slice p.body i n) ∧
      slice body ptr (formOf type).headerSize = elementHead type id len ∧
      slice body (ptr + (formOf type).headerSize) len =
        slice p.body (ptr + (formOf type).headerSize) len ∧
      ∀ j, len ≤ j → body[ptr + (formOf type).headerSize + j]? =
        if j < cur then some 0 else p.body[ptr + (formOf type).headerSize + j]? := by
  have hlt : len < 256 := by
    have := hvalid'.2
    split at this <;> omega
  have hword : (BitVec.ofNat 8 len).toNat = len := by
    rw [BitVec.toNat_ofNat, Nat.mod_eq_of_lt hlt]
  have hzero : BitVec.ofNat 8 len ≠ 0 := fun h ↦ hlen (by rw [← hword, h]; rfl)
  rw [setExtensionLength, if_neg hzero, if_neg hvalid.1]
  by_cases htype : type = 1
  · subst htype
    rw [if_pos (show p.hasOneByteExtensions = true from hform),
      show p.mapOneByteExtensions id = some ptr from hmap]
    change ptr + 1 + room ≤ p.body.length at hroom
    obtain ⟨-, -, hne, hcur'⟩ := hvalid
    have hbyte := get1Byte_of_slice (j := 0) hhead rfl
    rw [Nat.add_zero] at hbyte
    obtain ⟨body, hfill, hlength, hsame, hzeros⟩ :=
      fillValue_spec len (show ptr + 1 + cur ≤ p.body.length by omega)
    have hrest : ∀ j, len ≤ j → body[ptr + 1 + j]? =
        if j < cur then some 0 else p.body[ptr + 1 + j]? := by
      intro j hj
      split
      · exact hzeros j hj ‹_›
      · exact getElem?_of_slice (hsame _ 1 (.inr (by omega)))
    have hone : ∀ b : Byte, ptr + [b].length ≤ body.length := by
      intro b
      rw [List.length_singleton]
      omega
    refine ⟨splice body ptr (elementHead 1 id len), ?_, ?_, fun i n hin ↦ ?_, ?_, ?_,
      fun j hj ↦ ?_⟩
    · dsimp only
      rw [hbyte]
      change (fillValue p.body (ptr + 1) _ _ >>= fun _ ↦ _) = _
      rw [lowNibble_eq id hne hcur', hword, hfill]
      change (writeBytes body ptr _ >>= fun _ ↦ _) = _
      rw [setNibble_eq id hlen hvalid'.2.2.2, writeBytes_eq_ok (hone _)]
      rfl
    · exact (length_splice (hone _)).trans hlength
    · rcases hin with hin | hin
      · rw [elementHead, if_pos rfl, slice_splice_before (hone _) hin]
        exact hsame i n (.inl (by omega))
      · change ptr + 1 + room ≤ i at hin
        rw [elementHead, if_pos rfl,
          slice_splice_after (hone _) (by rw [List.length_singleton]; omega)]
        exact hsame i n (.inr (by omega))
    · exact slice_splice_self (hone _) rfl
    · exact (slice_splice_after (hone _) (Nat.le_refl _)).trans (hsame _ _ (.inl (Nat.le_refl _)))
    · exact (getElem?_splice_of_ge (hone _) (Nat.le_add_right _ _)).trans (hrest j hj)
  · have htwo : p.hasTwoBytesExtensions = true := by
      rw [hasForm, if_neg htype] at hform
      exact hform
    rw [if_neg (not_hasOneByteExtensions htwo), if_pos htwo]
    rw [elements, if_neg htype] at hmap
    rw [elementHead, if_neg htype, formOf, if_neg htype] at hhead
    rw [formOf, if_neg htype] at hroom
    rw [formOf, if_neg htype, elementHead, if_neg htype, hmap]
    change ptr + 2 + room ≤ p.body.length at hroom
    change slice p.body ptr (1 + 1) = [id] ++ [BitVec.ofNat 8 cur] at hhead
    have hcurword : (BitVec.ofNat 8 cur).toNat = cur := by
      have := hvalid.2
      rw [if_neg htype] at this
      rw [BitVec.toNat_ofNat, Nat.mod_eq_of_lt this]
    have hbyte := get1Byte_of_slice (j := 1) hhead rfl
    obtain ⟨body, hfill, hlength, hsame, hzeros⟩ :=
      fillValue_spec len (show ptr + 2 + cur ≤ p.body.length by omega)
    have hrest : ∀ j, len ≤ j → body[ptr + 2 + j]? =
        if j < cur then some 0 else p.body[ptr + 2 + j]? := by
      intro j hj
      split
      · exact hzeros j hj ‹_›
      · exact getElem?_of_slice (hsame _ 1 (.inr (by omega)))
    have htail : ∀ b : Byte, ptr + 1 + [b].length ≤ body.length := by
      intro b
      rw [List.length_singleton]
      omega
    refine ⟨splice body (ptr + 1) [BitVec.ofNat 8 len], ?_, ?_, fun i n hin ↦ ?_, ?_, ?_,
      fun j hj ↦ ?_⟩
    · dsimp only
      rw [hbyte]
      change (fillValue p.body (ptr + 2) _ _ >>= fun _ ↦ _) = _
      rw [hcurword, hword, hfill]
      change (writeBytes body (ptr + 1) _ >>= fun _ ↦ _) = _
      rw [writeBytes_eq_ok (htail _)]
      rfl
    · exact (length_splice (htail _)).trans hlength
    · rcases hin with hin | hin
      · rw [slice_splice_before (htail _) (by omega)]
        exact hsame i n (.inl (by omega))
      · change ptr + 2 + room ≤ i at hin
        rw [slice_splice_after (htail _) (by rw [List.length_singleton]; omega)]
        exact hsame i n (.inr (by omega))
    · change slice _ ptr (1 + 1) = [id] ++ [BitVec.ofNat 8 len]
      rw [slice_add, slice_splice_before (htail _) (Nat.le_refl _),
        slice_splice_self (htail _) List.length_singleton.symm, hsame ptr 1 (.inl (by omega))]
      rw [slice_add] at hhead
      have hsingle : (slice p.body ptr 1).length = [id].length := length_slice (by omega)
      rw [(List.append_inj hhead hsingle).1]
    · exact (slice_splice_after (htail _) (Nat.le_refl _)).trans (hsame _ _ (.inl (Nat.le_refl _)))
    · exact (getElem?_splice_of_ge (htail _) (Nat.le_add_right _ _)).trans (hrest j hj)

/-- A write behind the first four bytes of the header extension keeps a packet well formed, and the
form of its elements. -/
theorem Formed.of_body (h : p.Formed) {body : List Byte} (hlength : body.length = p.body.length)
    (hsame : slice body p.header.csrcListSize 4 = slice p.body p.header.csrcListSize 4) :
    Formed { p with body := body } ∧
      getHeaderExtensionId { p with body := body } = p.getHeaderExtensionId := by
  have hfields : getHeaderExtensionId { p with body := body } = p.getHeaderExtensionId ∧
      getHeaderExtensionLength { p with body := body } = p.getHeaderExtensionLength := by
    unfold getHeaderExtensionId getHeaderExtensionLength
    dsimp only
    cases hptr : p.headerExtension with
    | none => exact ⟨rfl, rfl⟩
    | some ptr =>
      obtain ⟨rfl, -, -⟩ := h.headerExtension_some hptr
      dsimp only
      rw [fieldAt_congr (slice_congr hsame (Nat.le_refl _) (by omega)),
        fieldAt_congr (slice_congr hsame (Nat.le_add_right _ 2) (by omega))]
      exact ⟨rfl, rfl⟩
  refine ⟨⟨h.csrcList, h.headerExtension, ?_, h.padding, h.size, ?_⟩, hfields.1⟩
  · rw [extensionSize, hfields.2]
    exact h.payload
  · dsimp only
    rw [hlength]
    exact h.fits

/-- The elements of a packet are in slots in front of its payload. -/
structure Filled (p : RtpPacket) (type : Byte) (hi : ℕ) (slots : Byte → Option Slot) : Prop where
  formed : p.Formed
  hasForm : p.hasForm type = true
  holds : Holds type p.body (p.elements type) (p.header.csrcListSize + 4) hi slots
  hi_le : hi ≤ p.payload

theorem Filled.hi_le_length (h : Filled p type hi slots) : hi ≤ p.body.length := by
  have hsize := h.formed.size
  have hfits := h.formed.fits
  have hhi := h.hi_le
  omega

/-- `UpdateMid` writes the value into the slot of the MID, and nothing else. -/
theorem Filled.updateMid (h : Filled p type hi slots) {s : Slot}
    (hs : slots p.ids.midExtensionId = some s) (hne : s.value ≠ []) {mid : List Byte}
    (hmid : mid ≠ []) (hle : mid.length ≤ midMaxLength) (hroom : mid.length ≤ s.room) :
    ∃ body, p.updateMid mid = .ok (true, { p with body := body }) ∧
      (∀ i n, i + n ≤ p.header.csrcListSize + 4 ∨ p.payload ≤ i →
        slice body i n = slice p.body i n) ∧
      Filled { p with body := body } type hi
        (Function.update slots p.ids.midExtensionId (some { s with value := mid })) := by
  have hholds := h.holds
  have hhi := h.hi_le
  have hhi' := h.hi_le_length
  obtain ⟨hlo, hstop⟩ := hholds.inside hs
  have hfits := hholds.fits hs
  have hvalid := hholds.valid hs
  have hmap := hholds.map_eq p.ids.midExtensionId
  have hpos := (formOf type).headerSize_pos
  have hmidMax : midMaxLength = 8 := rfl
  have hmid' : mid.length ≠ 0 := mt List.length_eq_zero_iff.mp hmid
  rw [hs] at hmap
  have hvalid' : IsValid type p.ids.midExtensionId mid.length := by
    refine ⟨hvalid.1, ?_⟩
    have hlength := hvalid.2
    split at hlength
    · rename_i htype
      rw [if_pos htype]
      exact ⟨hlength.1, hmid', by omega⟩
    · rename_i htype
      rw [if_neg htype]
      omega
  have hstop' : s.stop type = s.ptr + (formOf type).headerSize + s.room := rfl
  have hwrite : s.ptr + (formOf type).headerSize + mid.length ≤ p.body.length := by omega
  have hwritten : ∀ i n, i + n ≤ s.ptr ∨ s.stop type ≤ i →
      slice (splice p.body (s.ptr + (formOf type).headerSize) mid) i n = slice p.body i n := by
    intro i n hin
    rcases hin with hin | hin
    · exact slice_splice_before hwrite (by omega)
    · exact slice_splice_after hwrite (by omega)
  let q : RtpPacket := { p with
    body := splice p.body (s.ptr + (formOf type).headerSize) mid }
  have hq : q.hasForm type = true :=
    (hasForm_congr (h.formed.of_body (length_splice hwrite) (hwritten _ _ (.inl (by omega)))).2
      type).trans h.hasForm
  obtain ⟨body, hset, hlength, hsame, hhead, hvalue, -⟩ :=
    setExtensionLength_spec hq hmap hvalid hvalid' hmid'
      ((slice_splice_before hwrite (Nat.le_refl _)).trans (hholds.head hs)) hfits
      (by rw [show q.body.length = p.body.length from length_splice hwrite]; omega)
  have hcells : ∀ i n, i + n ≤ s.ptr ∨ s.stop type ≤ i → slice body i n = slice p.body i n :=
    fun i n hin ↦ (hsame i n hin).trans (hwritten i n hin)
  have hformed := h.formed.of_body (hlength.trans (length_splice hwrite))
    (hcells _ _ (.inl (by omega)))
  refine ⟨body, ?_, fun i n hin ↦ hcells i n (by omega), hformed.1,
    (hasForm_congr hformed.2 type).trans h.hasForm,
    hholds.set hs hroom hvalid' hcells hhead (hvalue.trans (slice_splice_self hwrite rfl)), hhi⟩
  rw [RtpPacket.updateMid, getExtension_eq h.hasForm hholds, hs]
  dsimp only [Option.bind_some]
  rw [if_neg hne]
  change (if midMaxLength < mid.length then _ else _) = _
  rw [if_neg (by omega), writeBytes_eq_ok hwrite]
  change (q.setExtensionLength p.ids.midExtensionId _ >>= fun _ ↦ _) = _
  rw [hset]
  rfl

/-- A sequence of updates leaves the MID with the last of the values, and nothing else changes. -/
theorem Filled.updateMids (mids : List (List Byte)) :
    ∀ {p : RtpPacket} {slots : Byte → Option Slot} {s : Slot}, Filled p type hi slots →
      slots p.ids.midExtensionId = some s → s.value ≠ [] →
      (∀ mid ∈ mids, mid ≠ [] ∧ mid.length ≤ midMaxLength ∧ mid.length ≤ s.room) →
      ∃ body, updateMids mids p = .ok { p with body := body } ∧
        (∀ i n, i + n ≤ p.header.csrcListSize + 4 ∨ p.payload ≤ i →
          slice body i n = slice p.body i n) ∧
        Filled { p with body := body } type hi (Function.update slots p.ids.midExtensionId
          (some { s with value := mids.getLast?.getD s.value })) := by
  induction mids with
  | nil =>
    intro p slots s h hs _ _
    refine ⟨p.body, rfl, fun _ _ _ ↦ rfl, ?_⟩
    have heq : Function.update slots p.ids.midExtensionId (some s) = slots := by
      rw [← hs, Function.update_eq_self]
    rw [show ({ s with value := ([] : List (List Byte)).getLast?.getD s.value } : Slot) = s from
      rfl, heq]
    exact h
  | cons mid mids ih =>
    intro p slots s h hs hne hmids
    obtain ⟨⟨hmid, hle, hroom⟩, hrest⟩ := List.forall_mem_cons.mp hmids
    obtain ⟨body, hupdate, hsame, hfilled⟩ := h.updateMid hs hne hmid hle hroom
    obtain ⟨body', hupdates, hsame', hfilled'⟩ :=
      ih hfilled (Function.update_self ..) hmid hrest
    refine ⟨body', ?_, fun i n hin ↦ (hsame' i n hin).trans (hsame i n hin), ?_⟩
    · rw [RtpPacket.updateMids, hupdate]
      exact hupdates
    · rw [Function.update_idem] at hfilled'
      rw [List.getLast?_cons, Option.getD_some]
      exact hfilled'

end Slots

/-! ## What `SetExtensions` needs -/

theorem of_shiftBy {shift : ℤ} (h : p.shiftBy shift = .ok p') :
    ∃ body, p' = { p with body := body, payload := p'.payload, size := p'.size } ∧
      (p'.payload : ℤ) = p.payload + shift ∧ body.length = p.body.length ∧
      (p.payloadLength + p.payloadPadding.toNat = 0 ∨
        p'.payload + (p.payloadLength + p.payloadPadding.toNat) ≤ p.body.length) := by
  unfold shiftBy at h
  split at h
  · cases h
  · obtain ⟨body, hmove, hbody⟩ := bind_eq_ok.mp h
    cases hbody
    refine ⟨body, rfl, by dsimp only; omega, length_of_moveBytes hmove, ?_⟩
    unfold moveBytes at hmove
    split at hmove
    · exact Or.inl ‹_›
    · split at hmove
      · rename_i hin
        exact Or.inr hin.2
      · cases hmove

/-- If there was room, the payload has moved by the shift. -/
theorem of_makeExtensionRoom {padded : ℕ} {r : RtpPacket × ℕ}
    (h : p.makeExtensionRoom type padded = .ok r)
    (hfits : p.payload + (p.payloadLength + p.payloadPadding.toNat) ≤ p.body.length) :
    r.2 = p.headerExtension.getD p.payload ∧
      (r.1.payload : ℤ) = p.payload + p.extensionShift padded ∧
      r.1.body.length = p.body.length ∧ r.1.mapOneByteExtensions = p.mapOneByteExtensions ∧
      r.1.mapTwoBytesExtensions = p.mapTwoBytesExtensions ∧
      (p.payloadLength + p.payloadPadding.toNat = 0 ∨
        r.1.payload + (p.payloadLength + p.payloadPadding.toNat) ≤ p.body.length) := by
  unfold makeExtensionRoom at h
  dsimp only at h
  split at h
  · rename_i ptr hptr
    rw [hptr]
    split at h
    · obtain ⟨q, hshift, h⟩ := bind_eq_ok.mp h
      obtain ⟨body, hwrite, h⟩ := bind_eq_ok.mp h
      cases h
      obtain ⟨moved, hq, hpayload, hlength, hroom⟩ := of_shiftBy hshift
      obtain ⟨hin, rfl⟩ := of_writeBytes hwrite
      refine ⟨rfl, hpayload, (length_splice hin).trans ?_, ?_, ?_, hroom⟩
      · rw [hq]
        exact hlength
      · rw [hq]
      · rw [hq]
    · rename_i hzero
      cases h
      exact ⟨rfl, by rw [not_not.mp hzero, add_zero], rfl, rfl, rfl, Or.inr hfits⟩
  · rename_i hnone
    rw [hnone]
    obtain ⟨q, hshift, h⟩ := bind_eq_ok.mp h
    obtain ⟨body, hwrite, h⟩ := bind_eq_ok.mp h
    obtain ⟨body', hwrite', h⟩ := bind_eq_ok.mp h
    cases h
    obtain ⟨moved, hq, hpayload, hlength, hroom⟩ := of_shiftBy hshift
    obtain ⟨hin, rfl⟩ := of_writeBytes hwrite
    obtain ⟨hin', rfl⟩ := of_writeBytes hwrite'
    refine ⟨rfl, hpayload, (length_splice hin').trans ((length_splice hin).trans ?_), ?_, ?_,
      hroom⟩
    · rw [hq]
      exact hlength
    · rw [hq]
    · rw [hq]

/-- The shift is kept in an `int16_t`. -/
theorem extensionShift_lt (p : RtpPacket) (padded : ℕ) : p.extensionShift padded < 32768 := by
  unfold extensionShift
  split <;> exact BitVec.toInt_lt

/-- When `SetExtensions` returns, the shift was exact and there was room. -/
theorem of_setExtensions (hp : p.Formed) (htype : type = 1 ∨ type = 2)
    (htotal : totalSize type extensions < 32768) (h : p.setExtensions type extensions = .ok p') :
    4 + paddedSize type extensions < p.extensionSize + 32768 ∧
      p.size + (4 + paddedSize type extensions) ≤
        RtpHeader.bytes + p.body.length + p.extensionSize := by
  obtain ⟨q, hprepared, heq⟩ := setExtensions_eq extensions hp htype
  obtain ⟨hq, hbody, hqsize, hext, hlen, -, -, hone, htwo⟩ := hprepared
  rw [heq] at h
  obtain ⟨r, hmake, hfill⟩ := bind_eq_ok.mp h
  have hsize := hq.size
  have hfits := hq.fits
  obtain ⟨hstart, hpayload, hlength, hone', htwo', hroom⟩ := of_makeExtensionRoom hmake (by omega)
  obtain ⟨-, -, -, -, hin, hend⟩ :=
    holds_fillHeaderExtension hfill (hone'.trans hone) (htwo'.trans htwo)
  have hpadding := totalSize_add_paddingSize htotal
  have hshift := q.extensionShift_lt (paddedSize type extensions)
  have hextension : p.extensionSize = q.extensionSize := by
    rw [extensionSize, extensionSize, hext, hlen]
  cases hptr : q.headerExtension with
  | none =>
    rw [hptr, Option.getD_none] at hstart
    rw [hextension, extensionSize_eq_zero hptr]
    omega
  | some ptr =>
    obtain ⟨-, hqpayload, -⟩ := hq.headerExtension_some hptr
    rw [hptr, Option.getD_some] at hstart
    rw [hextension, extensionSize_eq hptr]
    omega

/-! ## The whole function -/

/-- The value of the last extension with this id that is written. Of an empty value `GetExtension`
shows nothing. -/
def lastValue (type : Byte) (extensions : List GenericExtension) (id : Byte) :
    Option (List Byte) :=
  (lastExtension type extensions id).bind fun e ↦ if e.value = [] then none else some e.value

/-- `p'` has the content of `p` and these extensions, and still has them but for the MID after any
updates of a MID that was written with eight bytes. -/
structure HasExtensions (p p' : RtpPacket) (type : Byte) (extensions : List GenericExtension) :
    Prop where
  keeps : Keeps p p'
  values : ∀ id, p'.getExtensionValue id = .ok (lastValue type extensions id)
  updates : ∀ (ids : ExtensionIds) (value : List Byte),
    lastValue type extensions ids.midExtensionId = some value → value.length = 8 →
    ∀ mids : List (List Byte), (∀ mid ∈ mids, 1 ≤ mid.length ∧ mid.length ≤ 8) →
      ∃ q, updateMids mids { p' with ids := ids } = .ok q ∧ Keeps p' q ∧
        ∀ id, q.getExtensionValue id =
          if id = ids.midExtensionId then .ok (some (mids.getLast?.getD value))
          else p'.getExtensionValue id

/-- The slots that `SetExtensions` leaves. -/
theorem Extended.filled_slots (h : Extended p p' type extensions) :
    ∃ hi slots, Filled p' type hi slots ∧
      ∀ id, (slots id).map (fun s ↦ (s.room, s.value)) =
        (lastExtension type extensions id).map fun e ↦ (e.len, e.value) := by
  obtain ⟨r, start, hfill, rfl, hone, htwo⟩ := h.filled
  obtain ⟨hi, hholds, hhi, -⟩ := holds_fillHeaderExtension hfill hone htwo
  rw [← h.keeps.csrcListSize] at hholds
  refine ⟨hi, _, ⟨h.formed, h.hasForm, hholds, hhi⟩, fun id ↦ ?_⟩
  rw [placed_eq]
  exact Option.or_none

/-- What is shown of a slot is the last value. -/
theorem lastValue_eq {slots : Byte → Option Slot} {id : Byte}
    (h : (slots id).map (fun s ↦ (s.room, s.value)) =
      (lastExtension type extensions id).map fun e ↦ (e.len, e.value)) :
    (slots id).bind Slot.shown = lastValue type extensions id := by
  rw [lastValue]
  cases hs : slots id with
  | none =>
    rw [hs] at h
    rw [Option.map_eq_none_iff.mp h.symm]
    rfl
  | some s =>
    rw [hs] at h
    obtain ⟨e, he, heq⟩ := Option.map_eq_some_iff.mp h.symm
    rw [he]
    obtain ⟨-, hvalue⟩ := Prod.mk.inj heq
    change s.shown = if e.value = [] then none else some e.value
    rw [Slot.shown, hvalue]

theorem Extended.hasExtensions (h : Extended p p' type extensions) :
    HasExtensions p p' type extensions := by
  obtain ⟨hi, slots, hfilled, hslots⟩ := h.filled_slots
  have hvalues : ∀ id, p'.getExtensionValue id = .ok (lastValue type extensions id) := by
    intro id
    rw [getExtensionValue_eq hfilled.hasForm hfilled.holds, lastValue_eq (hslots id)]
  refine ⟨h.keeps, hvalues, fun ids value hvalue hlength mids hmids ↦ ?_⟩
  have hshown := lastValue_eq (hslots ids.midExtensionId)
  rw [hvalue] at hshown
  obtain ⟨s, hs, hshown⟩ := Option.bind_eq_some_iff.mp hshown
  obtain ⟨e, -, heq⟩ := Option.map_eq_some_iff.mp
    ((congrArg (Option.map fun s ↦ (s.room, s.value)) hs.symm).trans
      (hslots ids.midExtensionId)).symm
  obtain ⟨hroom, hsame⟩ := Prod.mk.inj heq
  rw [Slot.shown] at hshown
  split at hshown
  · cases hshown
  rename_i hne
  obtain rfl := Option.some.inj hshown
  have hslot : s.room = 8 := by
    rw [← hroom, GenericExtension.len, hsame, hlength]
  have hfilled' : Filled { p' with ids := ids } type hi slots :=
    ⟨hfilled.formed.congr p'.mapOneByteExtensions p'.mapTwoBytesExtensions ids, hfilled.hasForm,
      hfilled.holds, hfilled.hi_le⟩
  obtain ⟨body, hupdates, houtside, hafter⟩ := hfilled'.updateMids mids hs hne fun mid hmid ↦ by
    have hlen := hmids mid hmid
    refine ⟨?_, hlen.2, by omega⟩
    rintro rfl
    exact absurd hlen.1 (by decide)
  refine ⟨_, hupdates, ⟨rfl, rfl, rfl, houtside _ _ (.inl (by dsimp only; omega)),
    houtside _ _ (.inr (Nat.le_refl _))⟩, fun id ↦ ?_⟩
  rw [getExtensionValue_eq hafter.hasForm hafter.holds, Function.update_apply]
  dsimp only
  split
  · have hlast : mids.getLast?.getD s.value ≠ [] := by
      cases hget : mids.getLast? with
      | none => exact hne
      | some mid =>
        have hlen := (hmids mid (List.mem_of_getLast? hget)).1
        rintro rfl
        exact absurd hlen (by decide)
    exact congrArg Except.ok (if_neg hlast)
  · rw [getExtensionValue_eq hfilled.hasForm hfilled.holds]

/-- **`SetExtensions` on a parsed packet** sets the extensions, and changes nothing else, exactly if
the header extension grows by less than 32768 bytes and the packet has room for that. -/
theorem hasExtensions_iff {data : List Byte} {len : ℕ} (hlen : len ≤ data.length)
    (hparse : parse data len = .ok (some p)) (htype : type = 1 ∨ type = 2)
    (hshort : p.getHeaderExtensionLength < 32768) (htotal : totalSize type extensions < 32768) :
    (∃ p', p.setExtensions type extensions = .ok p' ∧ HasExtensions p p' type extensions) ↔
      4 + paddedSize type extensions < p.extensionSize + 32768 ∧
        p.size + (4 + paddedSize type extensions) ≤ data.length + p.extensionSize := by
  obtain ⟨result, hresult, hformed⟩ := parse_spec data hlen
  obtain rfl : some p = result := by
    rw [hparse] at hresult
    exact Except.ok.inj hresult
  obtain ⟨hp, hsize, hbody⟩ := hformed p rfl
  have hsizes := hp.size
  have hlength : p.body.length = data.length - RtpHeader.bytes := by
    rw [hbody, List.length_drop]
  constructor
  · rintro ⟨p', hok, -⟩
    obtain ⟨hgrows, hroom⟩ := of_setExtensions hp htype htotal hok
    exact ⟨hgrows, by omega⟩
  · rintro ⟨hgrows, hroom⟩
    obtain ⟨p', hok, hextended⟩ :=
      setExtensions_of_le hp htype htotal (by omega) hgrows (Or.inr (by omega))
    exact ⟨p', hok, hextended.hasExtensions⟩

/-- A packet with two payload bytes gets two elements with the same id. -/
theorem hasExtensions_iff_same_id :
    ∃ p', shortPacket.setExtensions 1 [⟨3, [0x55], by decide⟩, ⟨3, [0x56], by decide⟩] = .ok p' ∧
      HasExtensions shortPacket p' 1 [⟨3, [0x55], by decide⟩, ⟨3, [0x56], by decide⟩] := by
  have hlen : 14 ≤ shortBuffer.length := by decide
  have hparse : parse shortBuffer 14 = .ok (some shortPacket) := rfl
  exact (hasExtensions_iff hlen hparse (Or.inl rfl) (by decide) (by decide)).mpr
    ⟨by decide, by decide⟩

/-- A receive buffer that starts with a packet of nothing but a header. -/
def headerBuffer : List Byte := 0x80 :: List.replicate 65535 0

/-- The packet in that buffer. -/
def headerPacket : RtpPacket :=
  view { version := 2, padding := false, extension := false, csrcCount := 0, marker := false
         payloadType := 0, sequenceNumber := 0, timestamp := 0, ssrc := 0 }
    (headerBuffer.drop 12) none 0 0 0 12

/-- 128 extensions of the two-bytes form, 32765 bytes with their heads. -/
def manyExtensions : List GenericExtension :=
  ⟨4, List.replicate 124 0, by rw [List.length_replicate]; decide⟩ ::
    List.replicate 127 ⟨3, List.replicate 255 0, by rw [List.length_replicate]; decide⟩

/-- **Many extensions make `SetExtensions` fail.** They are written into a packet without header
extension and with enough room, but 4 + 32768 is not a number of an `int16_t`. -/
theorem not_hasExtensions_many :
    parse headerBuffer 12 = .ok (some headerPacket) ∧ totalSize 2 manyExtensions = 32765 ∧
      headerPacket.size + (4 + paddedSize 2 manyExtensions) ≤ headerBuffer.length ∧
      ¬∃ p', headerPacket.setExtensions 2 manyExtensions = .ok p' ∧
        HasExtensions headerPacket p' 2 manyExtensions := by
  have hlength : headerBuffer.length = 65536 := by
    rw [headerBuffer, List.length_cons, List.length_replicate]
  have hparse : parse headerBuffer 12 = .ok (some headerPacket) := rfl
  have htotal : totalSize 2 manyExtensions = 32765 := by decide +kernel
  have hpadded := paddedSize_eq (show totalSize 2 manyExtensions < 32768 by omega)
  refine ⟨hparse, htotal, ?_, ?_⟩
  · rw [hlength, hpadded, htotal]
    decide
  · rintro ⟨p', hok, -⟩
    obtain ⟨result, hresult, hformed⟩ := parse_spec headerBuffer (show 12 ≤ _ by omega)
    obtain rfl := Except.ok.inj (hparse.symm.trans hresult)
    have hgrows := (of_setExtensions (hformed _ rfl).1 (Or.inr rfl) (by omega) hok).1
    rw [hpadded, htotal, extensionSize_eq_zero rfl] at hgrows
    exact absurd hgrows (by decide)

end RtpPacket

end MediasoupSfu
