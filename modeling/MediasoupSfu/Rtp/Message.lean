import MediasoupSfu.Rtp.Wire

/-!
# Packets and what they say

An `RtpMessage` is what a packet says to whoever parses it: the header, the CSRC list, the values of
the header extension elements and the payload. `Carries` says that a packet says it: members and
bytes agree, the elements have the one-byte form and lie in slots that hold the values, and there is
room for a MID of eight bytes. Whoever parses the bytes of such a packet reads the message
(`Carries.parse_bytes`).

Between a producer and the network only the fixed header and the values of elements change: the
router writes the MID of the consumer, and the transport the values that are set on sending. What
these methods do to the message is a function of the message alone (`updatedMid`, `updatedValue`,
`sentValues`).
-/

namespace MediasoupSfu

open Memory

/-- The values of the header extension elements of a packet. -/
abbrev ExtensionValues := Byte → Option (List Byte)

/-- What a packet says. -/
structure RtpMessage where
  header : RtpHeader
  csrcs : List Byte
  values : ExtensionValues
  payload : List Byte
  payloadPadding : Byte

namespace RtpPacket

open GenericExtension

variable {p q : RtpPacket} {type : Byte} {hi : ℕ} {slots : Byte → Option Slot}
  {m : RtpMessage}

/-! ## Agreement is kept -/

/-- A value of the same length is written into an element. -/
theorem InSync.writeValue (h : InSync p) {id : Byte} {ptr len : ℕ}
    (hget : p.getExtension id = .ok (some (ptr, len))) {value : List Byte}
    (hlen : value.length = len) : InSync { p with body := splice p.body ptr value } := by
  obtain ⟨type, start, htype, hform, hmap, hvalid, hhead, hlo, rfl, hin⟩ := h.of_getExtension hget
  have hpayload := h.formed.payload_le
  have hwrite : start + (formOf type).headerSize + value.length ≤ p.body.length := by omega
  have hbefore : ∀ i n, i + n ≤ start + (formOf type).headerSize →
      slice (splice p.body (start + (formOf type).headerSize) value) i n = slice p.body i n :=
    fun i n hle ↦ slice_splice_before hwrite hle
  obtain ⟨hformed, hid⟩ := h.formed.of_body (length_splice hwrite) (hbefore _ _ (by omega))
  have hform' : ∀ t, hasForm { p with
      body := splice p.body (start + (formOf type).headerSize) value } t = p.hasForm t :=
    hasForm_congr hid
  have hfound : ∀ t, t = 1 ∨ t = 2 → found { p with
      body := splice p.body (start + (formOf type).headerSize) value } t = p.found t := by
    intro t ht
    by_cases htrue : p.hasForm t = true
    · obtain rfl := hasForm_unique ht htype htrue hform
      have hold := (congrFun (h.elements htype) id).symm.trans hmap
      rw [found_of_hasForm t htrue] at hold ⊢
      rw [found_of_hasForm t ((hform' t).trans htrue)]
      have hnone : ∀ j, len ≤ j → j < len → ∀ body : List Byte,
          body[start + (formOf t).headerSize + j]? = some 0 := fun j hj hlt ↦ absurd hlt (by omega)
      refine walk_resize (by simp) hold hin (Nat.le_refl len) (Nat.le_refl len) hvalid hvalid hhead
        ((hbefore _ _ (Nat.le_refl _)).trans hhead) (fun j hj hlt ↦ hnone j hj hlt _)
        (fun j hj hlt ↦ hnone j hj hlt _) (fun j hj ↦ ?_) fun j hj ↦ ?_
      · exact getElem?_splice_of_lt hwrite (by omega)
      · exact getElem?_splice_of_ge hwrite (by omega)
    · rw [found_of_not_hasForm t htrue, found_of_not_hasForm t fun hnew ↦
        htrue ((hform' t).symm.trans hnew)]
  refine ⟨hformed, h.version, h.one.trans (hfound 1 (Or.inl rfl)).symm,
    h.two.trans (hfound 2 (Or.inr rfl)).symm, fun hne ↦ ?_, ?_⟩
  · have hpos := toNat_pos hne
    change 0 < p.payloadPadding.toNat at hpos
    exact (getElem?_splice_of_ge hwrite (by dsimp only; omega)).trans (h.padding hne)
  · have hlength := (h.formed.headerExtension_splice (i := start + (formOf type).headerSize)
      (by omega) hwrite).2
    rw [hlength]
    exact h.short

/-- The methods that update an element keep members and bytes in agreement. -/
theorem InSync.updateExtension (h : InSync p) (id : Byte) (value : List Byte) :
    ∃ updated q, p.updateExtension id value = .ok (updated, q) ∧ InSync q := by
  obtain ⟨place, hget⟩ := h.located.getExtension_returns h.formed id
  unfold RtpPacket.updateExtension
  rw [hget]
  rcases place with _ | ⟨ptr, len⟩
  · exact ⟨false, p, rfl, h⟩
  change ∃ updated q, (if len ≠ value.length then _ else _) = _ ∧ _
  by_cases hlen : value.length = len
  · obtain ⟨_, _, _, _, _, _, _, _, _, hin⟩ := h.of_getExtension hget
    have hpayload := h.formed.payload_le
    rw [if_neg (not_not.mpr hlen.symm), writeBytes_eq_ok (by omega)]
    exact ⟨true, _, rfl, h.writeValue hget hlen⟩
  · rw [if_pos (Ne.symm hlen)]
    exact ⟨false, p, rfl, h⟩

/-- So does a transport that sends the packet. -/
theorem InSync.onConsumerRetransmitRtpPacket (h : InSync p) (nowMs : BitVec 64)
    (transportWideCcSeq : Option (BitVec 16)) :
    ∃ q seq, p.onConsumerRetransmitRtpPacket nowMs transportWideCcSeq = .ok (q, seq) ∧
      InSync q := by
  obtain ⟨updated, q, hupdate, hq⟩ := h.updateExtension p.ids.absSendTimeExtensionId
    (Byte.set3Bytes (timeMsToAbsSendTime nowMs))
  unfold RtpPacket.onConsumerRetransmitRtpPacket updateAbsSendTime
  rw [hupdate]
  cases transportWideCcSeq with
  | none => exact ⟨q, none, rfl, hq⟩
  | some seq =>
    obtain ⟨updated', r, hupdate', hr⟩ := hq.updateExtension q.ids.transportWideCc01ExtensionId
      (Byte.set2Bytes (seq + 1))
    refine ⟨r, some (if updated' then seq + 1 else seq), ?_, hr⟩
    change (q.updateTransportWideCc01 (seq + 1) >>= fun _ ↦ _) = _
    unfold updateTransportWideCc01
    rw [hupdate']
    rfl

/-! ## What the methods do to the values -/

/-- The values after `UpdateMid` with a MID that is not empty. -/
def updatedMid (values : ExtensionValues) (id : Byte) (mid : List Byte) : ExtensionValues :=
  if (values id).isSome ∧ mid.length ≤ midMaxLength then Function.update values id (some mid)
  else values

/-- Whether one of the methods that update an element finds it, with the right length. -/
def IsUpdatable (values : ExtensionValues) (id : Byte) (len : ℕ) : Prop :=
  (values id).map List.length = some len

instance (values : ExtensionValues) (id : Byte) (len : ℕ) : Decidable (IsUpdatable values id len) :=
  inferInstanceAs (Decidable (_ = _))

/-- The values after one of these methods. -/
def updatedValue (values : ExtensionValues) (id : Byte) (value : List Byte) : ExtensionValues :=
  if IsUpdatable values id value.length then Function.update values id (some value) else values

/-- The values after `OnConsumerSendRtpPacket`, and the last transport-wide sequence number. -/
def sentValues (values : ExtensionValues) (ids : ExtensionIds) (nowMs : BitVec 64)
    (transportWideCcSeq : Option (BitVec 16)) : ExtensionValues × Option (BitVec 16) :=
  let values := updatedValue values ids.absSendTimeExtensionId
    (Byte.set3Bytes (timeMsToAbsSendTime nowMs))
  match transportWideCcSeq with
  | none => (values, none)
  | some seq =>
    (updatedValue values ids.transportWideCc01ExtensionId (Byte.set2Bytes (seq + 1)),
      some (if IsUpdatable values ids.transportWideCc01ExtensionId 2 then seq + 1 else seq))

/-! ## Packets that carry a message -/

/-- Whoever looks at the packet sees the message. -/
structure Shows (p : RtpPacket) (m : RtpMessage) : Prop where
  header : p.header = m.header
  csrcs : slice p.body 0 p.header.csrcListSize = m.csrcs
  payload : slice p.body p.payload p.payloadLength = m.payload
  payloadLength : p.payloadLength = m.payload.length
  payloadPadding : p.payloadPadding = m.payloadPadding
  value : ∀ id, p.getExtensionValue id = .ok (m.values id)

/-- The packet says the message, in elements of the one-byte form. -/
structure Carries (p : RtpPacket) (m : RtpMessage) : Prop where
  inSync : InSync p
  reserved : p.MidReserved
  header : p.header = m.header
  csrcs : slice p.body 0 p.header.csrcListSize = m.csrcs
  payload : slice p.body p.payload p.payloadLength = m.payload
  payloadPadding : p.payloadPadding = m.payloadPadding
  slots : ∃ hi slots, Filled p 1 hi slots ∧ (∀ id, (slots id).map Slot.value = m.values id) ∧
    ∀ s, slots p.ids.midExtensionId = some s → midMaxLength ≤ s.room

/-- A value of the one-byte form is not empty. -/
theorem Filled.value_ne_nil (h : Filled p 1 hi slots) {id : Byte} {s : Slot}
    (hs : slots id = some s) : s.value ≠ [] :=
  mt List.length_eq_zero_iff.mpr (h.holds.valid hs).2.2.1

/-- So `GetExtension` points at it. -/
theorem Filled.getExtension_eq (h : Filled p 1 hi slots) (id : Byte) :
    p.getExtension id = .ok ((slots id).map fun s ↦ (s.ptr + 1, s.value.length)) := by
  rw [RtpPacket.getExtension_eq h.hasForm h.holds]
  cases hs : slots id with
  | none => rfl
  | some s => exact congrArg Except.ok (if_neg (h.value_ne_nil hs))

/-- What is reserved for the MID, in terms of its slot. -/
theorem Filled.midReserved_iff (h : Filled p 1 hi slots) : p.MidReserved ↔
    ∀ s, slots p.ids.midExtensionId = some s → s.ptr + 1 + midMaxLength ≤ p.payload ∧
      ∀ j, s.value.length ≤ j → j < midMaxLength → p.body[s.ptr + 1 + j]? = some 0 := by
  rw [MidReserved, h.getExtension_eq]
  cases slots p.ids.midExtensionId with
  | none => simp
  | some s => simp

namespace Carries

theorem value (h : Carries p m) (id : Byte) : p.getExtensionValue id = .ok (m.values id) := by
  obtain ⟨hi, slots, hfilled, hvalues, -⟩ := h.slots
  rw [getExtensionValue_eq hfilled.hasForm hfilled.holds, ← hvalues]
  cases hs : slots id with
  | none => rfl
  | some s => exact congrArg Except.ok (if_neg (hfilled.value_ne_nil hs))

theorem payloadLength (h : Carries p m) : p.payloadLength = m.payload.length := by
  have hsize := h.inSync.formed.size
  have hfits := h.inSync.formed.fits
  rw [← h.payload, length_slice (by omega)]

theorem shows (h : Carries p m) : p.Shows m :=
  ⟨h.header, h.csrcs, h.payload, h.payloadLength, h.payloadPadding, h.value⟩

end Carries

/-- The setters of the fixed header change what is shown of it. -/
theorem Shows.setHeader (h : p.Shows m) {header : RtpHeader}
    (hcount : header.csrcCount = p.header.csrcCount) :
    Shows { p with header := header } { m with header := header } where
  header := rfl
  csrcs := by
    rw [← h.csrcs, RtpHeader.csrcListSize, RtpHeader.csrcListSize]
    dsimp only
    rw [hcount]
  payload := h.payload
  payloadLength := h.payloadLength
  payloadPadding := h.payloadPadding
  value := h.value

/-- The extension ids are not part of what is shown. -/
theorem InSync.setIds (h : InSync p) (ids : ExtensionIds) : InSync { p with ids := ids } :=
  ⟨h.formed.congr _ _ _, h.version, h.one, h.two, h.padding, h.short⟩

theorem Shows.setIds (h : p.Shows m) (ids : ExtensionIds) : Shows { p with ids := ids } m :=
  ⟨h.header, h.csrcs, h.payload, h.payloadLength, h.payloadPadding, h.value⟩

/-- Every packet whose members agree with its bytes shows a message. -/
theorem InSync.exists_shows (h : InSync p) : ∃ m, p.Shows m := by
  have hsize := h.formed.size
  have hfits := h.formed.fits
  have hvalue : ∀ id, ∃ value, p.getExtensionValue id = .ok value := by
    intro id
    obtain ⟨place, hget⟩ := h.located.getExtension_returns h.formed id
    rw [getExtensionValue, hget]
    cases place with
    | none => exact ⟨none, rfl⟩
    | some place => exact ⟨_, rfl⟩
  choose values hvalues using hvalue
  exact ⟨⟨p.header, _, values, _, p.payloadPadding⟩, rfl, rfl, rfl,
    (length_slice (by omega)).symm, rfl, hvalues⟩

/-- Packets that are the same show the same message. -/
theorem Same.shows (h : Same p q) (hp : p.Shows m) : q.Shows m where
  header := h.header.trans hp.header
  csrcs := (congrArg RtpContent.csrcs h.content).trans hp.csrcs
  payload := (congrArg RtpContent.payload h.content).trans hp.payload
  payloadLength := h.payloadLength.trans hp.payloadLength
  payloadPadding := h.payloadPadding.trans hp.payloadPadding
  value id := (h.value id).trans (hp.value id)

/-- **Whoever parses the bytes** of a packet reads the message that it carries. -/
theorem Carries.parse_bytes (h : Carries p m) :
    ∃ q, parse p.bytes p.size = .ok (some q) ∧ q.Shows m := by
  obtain ⟨q, hparse, hsame⟩ := h.inSync.parse_bytes
  exact ⟨q, hparse, hsame.shows h.shows⟩

/-! ## What is written into a packet is written into the message -/

/-- The setters of the fixed header. -/
theorem Carries.setHeader (h : Carries p m) {header : RtpHeader}
    (hversion : header.version = p.header.version) (hpadding : header.padding = p.header.padding)
    (hextension : header.extension = p.header.extension)
    (hcount : header.csrcCount = p.header.csrcCount) :
    Carries { p with header := header } { m with header := header } := by
  have hsize : header.csrcListSize = p.header.csrcListSize := by
    rw [RtpHeader.csrcListSize, hcount, RtpHeader.csrcListSize]
  obtain ⟨hi, slots, hfilled, hvalues, hroom⟩ := h.slots
  refine ⟨h.inSync.setHeader hversion hpadding hextension hcount, h.reserved, rfl, ?_, h.payload,
    h.payloadPadding, hi, slots, ⟨?_, hfilled.hasForm, ?_, hfilled.hi_le⟩, hvalues, hroom⟩
  · dsimp only
    rw [hsize]
    exact h.csrcs
  · exact (h.inSync.setHeader hversion hpadding hextension hcount).formed
  · dsimp only
    rw [hsize]
    exact hfilled.holds

/-- A write into the elements changes the values only. -/
theorem Carries.of_body (h : Carries p m) {body : List Byte} {values : ExtensionValues}
    (hsync : InSync { p with body := body }) (hreserved : MidReserved { p with body := body })
    (hframe : ∀ i n, i + n ≤ p.header.csrcListSize + 4 ∨ p.payload ≤ i →
      slice body i n = slice p.body i n)
    (hslots : ∃ hi slots, Filled { p with body := body } 1 hi slots ∧
      (∀ id, (slots id).map Slot.value = values id) ∧
      ∀ s, slots p.ids.midExtensionId = some s → midMaxLength ≤ s.room) :
    Carries { p with body := body } { m with values := values } where
  inSync := hsync
  reserved := hreserved
  header := h.header
  csrcs := (hframe _ _ (.inl (by dsimp only; omega))).trans h.csrcs
  payload := (hframe _ _ (.inr (Nat.le_refl _))).trans h.payload
  payloadPadding := h.payloadPadding
  slots := hslots

/-- `UpdateMid` writes the MID into the message. -/
theorem Carries.updateMid (h : Carries p m) {mid : List Byte} (hmid : mid ≠ []) :
    ∃ updated body, p.updateMid mid = .ok (updated, { p with body := body }) ∧
      Carries { p with body := body }
        { m with values := updatedMid m.values p.ids.midExtensionId mid } := by
  obtain ⟨hi, slots, hfilled, hvalues, hroom⟩ := h.slots
  have hvalue := hvalues p.ids.midExtensionId
  have hget := hfilled.getExtension_eq p.ids.midExtensionId
  cases hs : slots p.ids.midExtensionId with
  | none =>
    rw [hs] at hvalue hget
    refine ⟨false, p.body, by rw [RtpPacket.updateMid, hget]; rfl, ?_⟩
    rw [updatedMid, ← hvalue, if_neg (by simp)]
    exact h
  | some s =>
    rw [hs] at hvalue hget
    by_cases hle : mid.length ≤ midMaxLength
    · obtain ⟨body, hok, hframe, hfilled'⟩ :=
        hfilled.updateMid hs (hfilled.value_ne_nil hs) hmid hle (hle.trans (hroom s hs))
      obtain ⟨updated, q, hok', hsync, hreserved⟩ := h.inSync.updateMid h.reserved mid
      rw [hok] at hok'
      cases hok'
      refine ⟨true, body, hok, ?_⟩
      rw [updatedMid, ← hvalue, if_pos ⟨rfl, hle⟩]
      refine h.of_body hsync hreserved hframe ⟨hi, _, hfilled', fun id ↦ ?_, fun s' hs' ↦ ?_⟩
      · rw [Function.update_apply, Function.update_apply]
        split
        · rfl
        · exact hvalues id
      · rw [Function.update_self] at hs'
        cases hs'
        exact hroom s hs
    · refine ⟨false, p.body, ?_, ?_⟩
      · rw [RtpPacket.updateMid, hget]
        exact if_pos (Nat.lt_of_not_le hle)
      · rw [updatedMid, if_neg fun hand ↦ hle hand.2]
        exact h

/-- A write of a value of the same length into a slot. -/
theorem Filled.writeValue (h : Filled p 1 hi slots) {id : Byte} {s : Slot} (hs : slots id = some s)
    {value : List Byte} (hlen : value.length = s.value.length)
    (hformed : Formed { p with body := splice p.body (s.ptr + 1) value }) :
    (∀ i n, i + n ≤ s.ptr + 1 ∨ s.ptr + 1 + value.length ≤ i →
        slice (splice p.body (s.ptr + 1) value) i n = slice p.body i n) ∧
      Filled { p with body := splice p.body (s.ptr + 1) value } 1 hi
        (Function.update slots id (some { s with value := value })) := by
  have hstop := h.holds.inside hs
  have hstop' : s.stop 1 = s.ptr + 1 + s.room := rfl
  have hfits := h.holds.fits hs
  have hhi := h.hi_le_length
  have hwrite : s.ptr + 1 + value.length ≤ p.body.length := by omega
  have hframe : ∀ i n, i + n ≤ s.ptr + 1 ∨ s.ptr + 1 + value.length ≤ i →
      slice (splice p.body (s.ptr + 1) value) i n = slice p.body i n := by
    intro i n hin
    rcases hin with hin | hin
    · exact slice_splice_before hwrite hin
    · exact slice_splice_after hwrite hin
  have hid := (h.formed.of_body (length_splice hwrite) (hframe _ _ (.inl (by omega)))).2
  refine ⟨hframe, hformed, (hasForm_congr hid 1).trans h.hasForm, ?_, h.hi_le⟩
  refine h.holds.set hs (hlen.le.trans hfits) (hlen ▸ h.holds.valid hs)
    (fun i n hin ↦ hframe i n (by omega)) ?_ (slice_splice_self hwrite rfl)
  rw [hlen]
  exact (hframe s.ptr 1 (.inl (Nat.le_refl _))).trans (h.holds.head hs)

/-- The methods that update an element write its value into the message. -/
theorem Carries.updateExtension (h : Carries p m) (id : Byte) (value : List Byte) :
    ∃ body, p.updateExtension id value =
        .ok (decide (IsUpdatable m.values id value.length), { p with body := body }) ∧
      Carries { p with body := body } { m with values := updatedValue m.values id value } := by
  obtain ⟨hi, slots, hfilled, hvalues, hroom⟩ := h.slots
  have hvalue := hvalues id
  have hget := hfilled.getExtension_eq id
  cases hs : slots id with
  | none =>
    rw [hs] at hvalue hget
    have hnot : ¬IsUpdatable m.values id value.length := by
      simp [IsUpdatable, ← hvalue]
    refine ⟨p.body, ?_, ?_⟩
    · rw [RtpPacket.updateExtension, hget, decide_eq_false hnot]
      rfl
    · rw [updatedValue, if_neg hnot]
      exact h
  | some s =>
    rw [hs] at hvalue hget
    have hiff : IsUpdatable m.values id value.length ↔ s.value.length = value.length := by
      rw [IsUpdatable, ← hvalue]
      exact Option.some_inj
    by_cases hlen : s.value.length = value.length
    · have hsync := h.inSync.writeValue hget hlen.symm
      obtain ⟨hframe, hfilled'⟩ := hfilled.writeValue hs hlen.symm hsync.formed
      have hstop := hfilled.holds.inside hs
      have hfits := hfilled.holds.fits hs
      have hhi := hfilled.hi_le_length
      have hhi' := hfilled.hi_le
      have hstop' : ∀ s : Slot, s.stop 1 = s.ptr + 1 + s.room := fun _ ↦ rfl
      have hslot := hstop' s
      refine ⟨splice p.body (s.ptr + 1) value, ?_, ?_⟩
      · rw [RtpPacket.updateExtension, hget, decide_eq_true (hiff.mpr hlen)]
        change (if s.value.length ≠ value.length then _ else _) = _
        rw [if_neg (not_not.mpr hlen), writeBytes_eq_ok (by omega)]
        rfl
      rw [updatedValue, if_pos (hiff.mpr hlen)]
      refine h.of_body hsync ?_ (fun i n hin ↦ hframe i n (by omega))
        ⟨hi, _, hfilled', fun id' ↦ ?_, fun s' hs' ↦ ?_⟩
      · refine hfilled'.midReserved_iff.mpr fun s' hs' ↦ ?_
        have hold := hfilled.midReserved_iff.mp h.reserved
        change Function.update slots id _ p.ids.midExtensionId = _ at hs'
        rw [Function.update_apply] at hs'
        split at hs'
        · rename_i hid
          cases hs'
          obtain ⟨hle, hzeros⟩ := hold s (by rw [hid]; exact hs)
          refine ⟨hle, fun j hj hlt ↦ ?_⟩
          dsimp only at hj ⊢
          rw [getElem?_of_slice (hframe _ _ (.inr (by omega)))]
          exact hzeros j (by omega) hlt
        · rename_i hid
          obtain ⟨hle, hzeros⟩ := hold s' hs'
          have hapart := hfilled.holds.apart hs' hs hid
          have hslot' := hstop' s'
          have hroom' := hroom s' hs'
          refine ⟨hle, fun j hj hlt ↦ ?_⟩
          dsimp only
          rw [getElem?_of_slice (hframe _ _ (by omega))]
          exact hzeros j hj hlt
      · rw [Function.update_apply, Function.update_apply]
        split
        · rfl
        · exact hvalues id'
      · rw [Function.update_apply] at hs'
        split at hs'
        · cases hs'
          rename_i hid
          exact hroom s (by rw [hid]; exact hs)
        · exact hroom s' hs'
    · refine ⟨p.body, ?_, ?_⟩
      · rw [RtpPacket.updateExtension, hget, decide_eq_false (mt hiff.mp hlen)]
        exact if_pos hlen
      · rw [updatedValue, if_neg (mt hiff.mp hlen)]
        exact h

/-- **A transport that sends a packet** writes the values that are set on sending into the
message. -/
theorem Carries.onConsumerRetransmitRtpPacket (h : Carries p m) (nowMs : BitVec 64)
    (transportWideCcSeq : Option (BitVec 16)) :
    ∃ body, p.onConsumerRetransmitRtpPacket nowMs transportWideCcSeq =
        .ok ({ p with body := body }, (sentValues m.values p.ids nowMs transportWideCcSeq).2) ∧
      Carries { p with body := body }
        { m with values := (sentValues m.values p.ids nowMs transportWideCcSeq).1 } := by
  obtain ⟨body, hupdate, hcarries⟩ := h.updateExtension p.ids.absSendTimeExtensionId
    (Byte.set3Bytes (timeMsToAbsSendTime nowMs))
  unfold RtpPacket.onConsumerRetransmitRtpPacket updateAbsSendTime
  rw [hupdate]
  cases transportWideCcSeq with
  | none => exact ⟨body, rfl, hcarries⟩
  | some seq =>
    obtain ⟨body', hupdate', hcarries'⟩ :=
      hcarries.updateExtension p.ids.transportWideCc01ExtensionId (Byte.set2Bytes (seq + 1))
    refine ⟨body', ?_, hcarries'⟩
    change (updateTransportWideCc01 { p with body := body } (seq + 1) >>= fun _ ↦ _) = _
    unfold updateTransportWideCc01
    rw [hupdate', sentValues, Byte.length_set2Bytes]
    change Except.ok (_, some (if decide _ = true then _ else _)) = _
    simp only [decide_eq_true_eq]

/-! ## A new header extension -/

theorem ids_of_makeExtensionRoom {padded : ℕ} {r : RtpPacket × ℕ}
    (h : p.makeExtensionRoom type padded = .ok r) : r.1.ids = p.ids := by
  have hshift : ∀ {p q : RtpPacket} {shift : ℤ}, p.shiftBy shift = .ok q → q.ids = p.ids := by
    intro p q shift hq
    obtain ⟨body, heq, -⟩ := of_shiftBy hq
    rw [heq]
  unfold makeExtensionRoom at h
  dsimp only at h
  split at h
  · split at h
    · obtain ⟨q, hq, h⟩ := bind_eq_ok.mp h
      obtain ⟨body, -, h⟩ := bind_eq_ok.mp h
      cases h
      have hids := hshift hq
      exact hids
    · cases h
      rfl
  · obtain ⟨q, hq, h⟩ := bind_eq_ok.mp h
    obtain ⟨body, -, h⟩ := bind_eq_ok.mp h
    obtain ⟨body', -, h⟩ := bind_eq_ok.mp h
    cases h
    have hids := hshift hq
    exact hids

theorem ids_of_writeExtensions {ptr' : ℕ} (es : List GenericExtension) :
    ∀ {p : RtpPacket} {ptr : ℕ}, writeExtensions type es p ptr = .ok (q, ptr') → q.ids = p.ids := by
  induction es with
  | nil =>
    intro p ptr h
    cases h
    rfl
  | cons e es ih =>
    intro p ptr h
    rw [writeExtensions] at h
    split at h
    · exact ih h
    · obtain ⟨body, -, h⟩ := bind_eq_ok.mp h
      refine (ih h).trans ?_
      unfold storeElement
      split <;> rfl

/-- `SetExtensions` resets the extension ids. -/
theorem ids_of_setExtensions {extensions : List GenericExtension}
    (h : p.setExtensions type extensions = .ok q) : q.ids = {} := by
  obtain ⟨_, -, h⟩ := bind_eq_ok.mp h
  obtain ⟨matched, hmatch, h⟩ := bind_eq_ok.mp h
  obtain ⟨⟨roomy, start⟩, hroom, h⟩ := bind_eq_ok.mp h
  obtain ⟨⟨filled, stop⟩, hwrite, h⟩ := bind_eq_ok.mp h
  obtain ⟨body, -, h⟩ := bind_eq_ok.mp h
  obtain ⟨_, -, h⟩ := bind_eq_ok.mp h
  cases h
  have hmatched : matched.ids = {} := by
    unfold matchHeaderExtensionId at hmatch
    split at hmatch
    · cases hmatch
      rfl
    · split at hmatch
      · cases hmatch
        rfl
      · obtain ⟨body, -, hmatch⟩ := bind_eq_ok.mp hmatch
        cases hmatch
        rfl
  exact (ids_of_writeExtensions extensions hwrite).trans
    ((ids_of_makeExtensionRoom hroom).trans hmatched)

/-- The value that is written for an id in the one-byte form. -/
def written (extensions : List GenericExtension) (id : Byte) : Option (List Byte) :=
  (lastExtension 1 extensions id).map GenericExtension.value

theorem written_append (es es' : List GenericExtension) (id : Byte) :
    written (es ++ es') id = (written es' id).or (written es id) := by
  rw [written, lastExtension, List.filter_append, List.getLast?_append, Option.map_or]
  rfl

theorem written_singleton (e : GenericExtension) (id : Byte) :
    written [e] id = if e.isSkipped 1 = false ∧ e.id = id then some e.value else none := by
  rw [written, lastExtension_cons]
  split <;> rfl

/-- **`SetExtensions`** with elements of the one-byte form writes their values into the message, if
there is one of eight bytes for the MID. -/
theorem Extended.carries {extensions : List GenericExtension} (h : Extended p q 1 extensions)
    (hp : InSync p) (hshows : p.Shows m) (htotal : totalSize 1 extensions < 32768)
    {ids : ExtensionIds} {mid : List Byte}
    (hmid : written extensions ids.midExtensionId = some mid)
    (hlength : midMaxLength ≤ mid.length) :
    Carries { q with ids := ids } { m with
      header := { m.header with extension := true }
      values := written extensions } := by
  have hsync := h.inSync hp (Or.inl rfl) htotal
  have hq := hsync.setIds ids
  obtain ⟨hi, slots, hfilled, hslots⟩ := h.filled_slots
  have hfilled' : Filled { q with ids := ids } 1 hi slots :=
    ⟨hq.formed, hfilled.hasForm, hfilled.holds, hfilled.hi_le⟩
  have hvalues : ∀ id, (slots id).map Slot.value = written extensions id := by
    intro id
    have hmap := congrArg (Option.map Prod.snd) (hslots id)
    rwa [Option.map_map, Option.map_map] at hmap
  have hextension : q.header.extension = true := by
    have hone : q.hasOneByteExtensions = true := hfilled.hasForm
    cases hbit : q.header.extension with
    | true => rfl
    | false =>
      have hnone := hfilled.formed.headerExtension
      rw [hbit, if_neg Bool.false_ne_true] at hnone
      rw [hasOneByteExtensions, getHeaderExtensionId, hnone] at hone
      cases hone
  have hheader : q.header = { m.header with extension := true } := by
    have hsame := congrArg (fun header : RtpHeader ↦ { header with extension := true })
      h.keeps.header
    rw [← hshows.header, ← hsame, ← hextension]
  have hvalue : RtpPacket.getExtensionValue { q with ids := ids } ids.midExtensionId =
      .ok (some mid) := by
    rw [getExtensionValue_eq hfilled'.hasForm hfilled'.holds, ← hmid, ← hvalues]
    cases hs : slots ids.midExtensionId with
    | none => rfl
    | some s => exact congrArg Except.ok (if_neg (hfilled'.value_ne_nil hs))
  refine ⟨hq, hq.midReserved_of_value hvalue hlength, hheader, ?_, ?_, ?_, hi, slots, hfilled',
    hvalues, fun s hs ↦ ?_⟩
  · dsimp only
    rw [h.keeps.csrcListSize, h.keeps.csrcs]
    exact hshows.csrcs
  · rw [← hshows.payload]
    dsimp only
    rw [h.keeps.payloadLength]
    have hpayload := congrArg (List.take p.payloadLength) h.keeps.content
    rwa [slice, slice, List.take_take, List.take_take, Nat.min_eq_left (Nat.le_add_right _ _)]
      at hpayload
  · exact h.keeps.payloadPadding.trans hshows.payloadPadding
  · have hmap := hvalues ids.midExtensionId
    have hs' : slots ids.midExtensionId = some s := hs
    rw [hmid, hs'] at hmap
    cases hmap
    exact hlength.trans (hfilled.holds.fits hs')

end RtpPacket

end MediasoupSfu
