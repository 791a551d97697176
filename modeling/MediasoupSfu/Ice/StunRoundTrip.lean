import MediasoupSfu.Ice.StunWire
import Mathlib.Algebra.Order.BigOperators.Group.List

/-!
# Serialized STUN messages are read back

`Spells` is the grammar of the attributes, without positions: bytes that are a sequence of types,
lengths and padded values. `Serialize` writes such bytes behind its header and `Parse` reads every
such sequence as its attributes come (`parseAttributes_of_spells`). What is left is to follow the
attributes of one packet through the parser, which is `serialize_parse`.
-/

namespace MediasoupSfu

open Memory

namespace StunPacket

/-! ## The grammar of the attributes -/

/-- A length rounded up to a multiple of four. -/
def paddedSize (n : ℕ) : ℕ := (n + 3) / 4 * 4

/-- An attribute: its type and its value. -/
abbrev Tlv := BitVec 16 × List Byte

/-- The number of bytes of an attribute. -/
def Tlv.size (tlv : Tlv) : ℕ := 4 + paddedSize tlv.2.length

/-- The bytes of an attribute, up to its padding. -/
def Tlv.bytes (tlv : Tlv) : List Byte :=
  Byte.set2Bytes tlv.1 ++ (Byte.set2Bytes (BitVec.ofNat 16 tlv.2.length) ++ tlv.2)

/-- Bytes that spell a sequence of attributes. -/
inductive Spells : List Byte → List Tlv → Prop where
  | nil : Spells [] []
  | cons {tlv : Tlv} {padding bytes : List Byte} {tlvs : List Tlv} (hlength : tlv.2.length < 2 ^ 16)
      (hpadding : tlv.2.length + padding.length = paddedSize tlv.2.length)
      (hrest : Spells bytes tlvs) :
      Spells (tlv.bytes ++ (padding ++ bytes)) (tlv :: tlvs)

theorem length_tlv_bytes (tlv : Tlv) : tlv.bytes.length = 4 + tlv.2.length := by
  rw [Tlv.bytes, List.length_append, List.length_append, Byte.length_set2Bytes,
    Byte.length_set2Bytes]
  omega

theorem Spells.append {bytes bytes' : List Byte} {tlvs tlvs' : List Tlv} (h : Spells bytes tlvs)
    (h' : Spells bytes' tlvs') : Spells (bytes ++ bytes') (tlvs ++ tlvs') := by
  induction h with
  | nil => exact h'
  | cons hlength hpadding _ ih =>
    rw [List.append_assoc, List.append_assoc]
    exact .cons hlength hpadding ih

/-- A single attribute. -/
theorem spells_singleton {tlv : Tlv} (padding : List Byte) (hlength : tlv.2.length < 2 ^ 16)
    (hpadding : tlv.2.length + padding.length = paddedSize tlv.2.length) :
    Spells (tlv.bytes ++ padding) [tlv] := by
  have h := Spells.cons hlength hpadding .nil
  rwa [List.append_nil] at h

theorem Spells.length {bytes : List Byte} {tlvs : List Tlv} (h : Spells bytes tlvs) :
    bytes.length = (tlvs.map Tlv.size).sum := by
  induction h with
  | nil => rfl
  | @cons tlv padding bytes tlvs _ hpadding _ ih =>
    rw [List.length_append, List.length_append, length_tlv_bytes, ih, List.map_cons, List.sum_cons,
      Tlv.size, ← hpadding]
    omega

/-! ## Reading attributes -/

namespace Parser

/-- Read an attribute at a position that does not come round. -/
def readTlv (s : Parser) (tlv : Tlv) : Except Fault (Option Parser) :=
  if s.fingerprint.isSome then .ok none
  else if s.hasMessageIntegrity ∧ tlv.1 ≠ StunAttribute.fingerprint.code then .ok none
  else do
    match ← s.readValue tlv.1 tlv.2 with
    | none => return none
    | some t => return some { t with pos := s.pos + tlv.size }

/-- Read a sequence of attributes. -/
def readTlvs (s : Parser) : List Tlv → Except Fault (Option Parser)
  | [] => .ok (some s)
  | tlv :: tlvs => do
    match ← s.readTlv tlv with
    | none => return none
    | some t => t.readTlvs tlvs

theorem readAttribute_eq {s : Parser} {tlv : Tlv} (hpos : s.pos % 4 = 0)
    (hbound : s.pos + 4 + tlv.2.length + 3 < 2 ^ 16) :
    s.readAttribute tlv.1 tlv.2 = s.readTlv tlv := by
  have hnext : (Byte.padTo4Bytes (BitVec.ofNat 16 (s.pos + 4 + tlv.2.length))).toNat =
      s.pos + tlv.size := by
    rw [Byte.padTo4Bytes_toNat hbound, Tlv.size, paddedSize]
    omega
  rw [readAttribute, hnext]
  exact (readTlv.eq_def s tlv).symm

theorem readTlv_pos {s t : Parser} {tlv : Tlv} (h : s.readTlv tlv = .ok (some t)) :
    t.pos = s.pos + tlv.size := by
  unfold readTlv at h
  split at h
  · cases h
  · split at h
    · cases h
    · obtain ⟨found, -, h⟩ := bind_eq_ok.mp h
      cases found with
      | none => cases h
      | some u =>
        cases h
        rfl

theorem parseAttribute_eq {s : Parser} {tlv : Tlv} {pre post : List Byte}
    (hlength : tlv.2.length < 2 ^ 16) (hpre : s.pos = pre.length) :
    s.parseAttribute (pre ++ (tlv.bytes ++ post)) = s.readAttribute tlv.1 tlv.2 := by
  have hsize : (BitVec.ofNat 16 tlv.2.length).toNat = tlv.2.length := by
    rw [BitVec.toNat_ofNat, Nat.mod_eq_of_lt hlength]
  have htype : Byte.get2Bytes (pre ++ (tlv.bytes ++ post)) s.pos = .ok tlv.1 := by
    rw [hpre, Tlv.bytes, List.append_assoc]
    exact Byte.get2Bytes_append pre _ tlv.1
  have hlen : Byte.get2Bytes (pre ++ (tlv.bytes ++ post)) (s.pos + 2) =
      .ok (BitVec.ofNat 16 tlv.2.length) := by
    have hget := Byte.get2Bytes_append (pre ++ Byte.set2Bytes tlv.1) (tlv.2 ++ post)
      (BitVec.ofNat 16 tlv.2.length)
    rwa [List.length_append, Byte.length_set2Bytes, ← hpre, List.append_assoc, ← List.append_assoc
      (Byte.set2Bytes _) tlv.2, ← List.append_assoc (Byte.set2Bytes tlv.1), ← Tlv.bytes] at hget
  have hvalue : slice (pre ++ (tlv.bytes ++ post)) (s.pos + 4) tlv.2.length = tlv.2 := by
    have hslice := slice_append (pre ++ (Byte.set2Bytes tlv.1 ++
      Byte.set2Bytes (BitVec.ofNat 16 tlv.2.length))) tlv.2 post
    rw [List.length_append, List.length_append, Byte.length_set2Bytes, Byte.length_set2Bytes,
      ← hpre] at hslice
    simp only [Tlv.bytes, List.append_assoc] at hslice ⊢
    exact hslice
  rw [parseAttribute, htype, hlen]
  change (if s.pos + 4 + (BitVec.ofNat 16 tlv.2.length).toNat > _ then _ else _) = _
  rw [if_neg, hsize, hvalue]
  rw [hsize, List.length_append, List.length_append, length_tlv_bytes]
  omega

/-- **Parsing attributes.** In a message that is short enough for its positions the loop reads the
attributes one by one. -/
theorem parseAttributes_of_spells (getCrc32 : List Byte → BitVec 32) {bytes : List Byte}
    {tlvs : List Tlv} (h : Spells bytes tlvs) :
    ∀ (s : Parser) (pre : List Byte) (rounds : ℕ), s.pos = pre.length → s.pos % 4 = 0 →
      (pre ++ bytes).length + 3 < 2 ^ 16 → tlvs.length ≤ rounds →
      s.parseAttributes getCrc32 (pre ++ bytes) rounds = (do
        match ← s.readTlvs tlvs with
        | none => return .discarded
        | some t => return t.finish getCrc32 (pre ++ bytes)) := by
  induction h with
  | nil =>
    intro s pre rounds hpre _ _ _
    have hend : ¬s.pos + 4 ≤ (pre ++ []).length := by
      rw [List.append_nil]
      omega
    cases rounds with
    | zero => rw [parseAttributes, if_neg hend]; rfl
    | succ rounds => rw [parseAttributes, if_neg hend]; rfl
  | @cons tlv padding bytes tlvs hlength hpadding hrest ih =>
    intro s pre rounds hpre hmod hbound hrounds
    obtain ⟨rounds, rfl⟩ : ∃ n, rounds = n + 1 := ⟨rounds - 1, by
      rw [List.length_cons] at hrounds
      omega⟩
    have htotal : (pre ++ (tlv.bytes ++ (padding ++ bytes))).length =
        s.pos + tlv.size + bytes.length := by
      rw [List.length_append, List.length_append, List.length_append, length_tlv_bytes, Tlv.size,
        ← hpadding]
      omega
    have hsize : 4 + tlv.2.length ≤ tlv.size := by
      rw [Tlv.size, ← hpadding]
      omega
    have hread : s.parseAttribute (pre ++ (tlv.bytes ++ (padding ++ bytes))) = s.readTlv tlv := by
      rw [parseAttribute_eq hlength hpre, readAttribute_eq hmod (by omega)]
    rw [parseAttributes, if_pos (by omega), hread, readTlvs]
    cases hstep : s.readTlv tlv with
    | error fault => rfl
    | ok found =>
      cases found with
      | none => rfl
      | some t =>
        have hpos := readTlv_pos hstep
        have hnext := ih t (pre ++ (tlv.bytes ++ padding)) rounds
        rw [List.append_assoc, List.append_assoc] at hnext
        refine hnext ?_ ?_ hbound (by simpa using hrounds)
        · rw [hpos, List.length_append, List.length_append, length_tlv_bytes, Tlv.size, ← hpadding]
          omega
        · rw [hpos, Tlv.size, paddedSize]
          omega

theorem readTlvs_append (s : Parser) (tlvs tlvs' : List Tlv) :
    s.readTlvs (tlvs ++ tlvs') = (do
      match ← s.readTlvs tlvs with
      | none => return none
      | some t => t.readTlvs tlvs') := by
  induction tlvs generalizing s with
  | nil => rfl
  | cons tlv tlvs ih =>
    rw [List.cons_append, readTlvs, readTlvs]
    cases s.readTlv tlv with
    | error fault => rfl
    | ok found =>
      cases found with
      | none => rfl
      | some t => exact ih t

end Parser

/-! ## Writing attributes -/

namespace Writer

/-- The buffer begins with the bytes, and the writer stands behind them. -/
structure Holds (w : Writer) (bytes rest : List Byte) : Prop where
  buffer_eq : w.buffer = bytes ++ rest
  pos_eq : w.pos = bytes.length

/-- Overwrite bytes in the middle. -/
theorem Holds.set {w : Writer} {pre old post rest : List Byte}
    (h : w.Holds (pre ++ (old ++ post)) rest)
    {value : List Byte} (hlength : value.length = old.length) :
    (w.set pre.length value).Holds (pre ++ (value ++ post)) rest where
  buffer_eq := by
    change splice w.buffer pre.length value = _
    rw [h.buffer_eq, List.append_assoc, List.append_assoc, splice_append, hlength, List.drop_left,
      List.append_assoc, List.append_assoc]
  pos_eq := by
    change w.pos = _
    rw [h.pos_eq]
    simp only [List.length_append, hlength]

/-- **Adding an attribute.** Its padding is what the buffer held. -/
theorem Holds.add {w : Writer} {bytes rest : List Byte} (h : w.Holds bytes rest)
    (attr : StunAttribute)
    {value : List Byte} {paddedLen : ℕ} (hvalue : value.length ≤ paddedLen)
    (hroom : 4 + paddedLen ≤ rest.length) :
    ∃ padding, value.length + List.length padding = paddedLen ∧
      (w.add attr value paddedLen).Holds (bytes ++ (Tlv.bytes (attr.code, value) ++ padding))
        (rest.drop (4 + paddedLen)) := by
  let padding := (rest.drop (4 + value.length)).take (paddedLen - value.length)
  have hpadding : padding.length = paddedLen - value.length := by
    rw [List.length_take, List.length_drop]
    omega
  have hsplit : rest.drop (4 + value.length) = padding ++ rest.drop (4 + paddedLen) := by
    have hdrop : rest.drop (4 + paddedLen) =
        (rest.drop (4 + value.length)).drop (paddedLen - value.length) := by
      rw [List.drop_drop]
      congr 1
      omega
    rw [hdrop]
    exact (List.take_append_drop _ _).symm
  have hcode : splice w.buffer w.pos (Byte.set2Bytes attr.code) =
      bytes ++ (Byte.set2Bytes attr.code ++ rest.drop 2) := by
    rw [h.buffer_eq, h.pos_eq, splice_append, Byte.length_set2Bytes]
  have hlen : splice (bytes ++ (Byte.set2Bytes attr.code ++ rest.drop 2)) (w.pos + 2)
      (Byte.set2Bytes (BitVec.ofNat 16 value.length)) = bytes ++ (Byte.set2Bytes attr.code ++
        (Byte.set2Bytes (BitVec.ofNat 16 value.length) ++ rest.drop 4)) := by
    have hsplice := splice_append (bytes ++ Byte.set2Bytes attr.code) (rest.drop 2)
      (Byte.set2Bytes (BitVec.ofNat 16 value.length))
    rw [List.length_append, Byte.length_set2Bytes, Byte.length_set2Bytes, ← h.pos_eq,
      List.drop_drop] at hsplice
    simpa only [List.append_assoc] using hsplice
  have hval : splice (bytes ++ (Byte.set2Bytes attr.code ++
      (Byte.set2Bytes (BitVec.ofNat 16 value.length) ++ rest.drop 4))) (w.pos + 4) value =
      bytes ++ (Tlv.bytes (attr.code, value) ++ rest.drop (4 + value.length)) := by
    have hsplice := splice_append (bytes ++ (Byte.set2Bytes attr.code ++
      Byte.set2Bytes (BitVec.ofNat 16 value.length))) (rest.drop 4) value
    rw [List.length_append, List.length_append, Byte.length_set2Bytes, Byte.length_set2Bytes,
      ← h.pos_eq, List.drop_drop] at hsplice
    simpa only [Tlv.bytes, List.append_assoc] using hsplice
  refine ⟨padding, by omega, ⟨?_, ?_⟩⟩
  · change splice (splice (splice w.buffer w.pos _) (w.pos + 2) _) (w.pos + 4) value = _
    rw [hcode, hlen, hval, hsplit]
    simp only [List.append_assoc]
  · change w.pos + (4 + paddedLen) = _
    rw [h.pos_eq, List.length_append, List.length_append, length_tlv_bytes, hpadding]
    change _ = bytes.length + (4 + value.length + (paddedLen - value.length))
    omega

/-- Add a sequence of attributes. -/
def addAll (w : Writer) (attributes : List (StunAttribute × List Byte)) : Writer :=
  attributes.foldl (fun w a ↦ w.add a.1 a.2 (paddedSize a.2.length)) w

theorem addAll_append (w : Writer) (as bs : List (StunAttribute × List Byte)) :
    w.addAll (as ++ bs) = (w.addAll as).addAll bs := List.foldl_append

/-- The attribute as it is on the wire. -/
def tlvOf (a : StunAttribute × List Byte) : Tlv := (a.1.code, a.2)

theorem le_paddedSize (n : ℕ) : n ≤ paddedSize n := by
  unfold paddedSize
  omega

/-- **Adding attributes** writes bytes that spell them. -/
theorem Holds.addAll {attributes : List (StunAttribute × List Byte)}
    (hlengths : ∀ a ∈ attributes, a.2.length < 2 ^ 16) :
    ∀ {w : Writer} {bytes rest : List Byte}, w.Holds bytes rest →
      ((attributes.map tlvOf).map Tlv.size).sum ≤ rest.length →
      ∃ written, Spells written (attributes.map tlvOf) ∧
        (w.addAll attributes).Holds (bytes ++ written) (rest.drop written.length) := by
  induction attributes with
  | nil =>
    intro w bytes rest h _
    exact ⟨[], .nil, by rwa [List.append_nil]⟩
  | cons a attributes ih =>
    intro w bytes rest h hroom
    rw [List.map_cons, List.map_cons, List.sum_cons] at hroom
    change Tlv.size (tlvOf a) + _ ≤ _ at hroom
    have hsize : Tlv.size (tlvOf a) = 4 + paddedSize a.2.length := rfl
    obtain ⟨padding, hpadding, hadded⟩ := h.add a.1 (le_paddedSize a.2.length) (by omega)
    obtain ⟨written, hspells, hall⟩ :=
      ih (fun b hb ↦ hlengths b (List.mem_cons_of_mem a hb)) hadded (by
      rw [List.length_drop]
      omega)
    refine ⟨Tlv.bytes (tlvOf a) ++ (padding ++ written),
      .cons (hlengths a List.mem_cons_self) hpadding hspells, ?_⟩
    have hdrop : (Tlv.bytes (tlvOf a) ++ (padding ++ written)).length =
        4 + paddedSize a.2.length + written.length := by
      rw [List.length_append, List.length_append, length_tlv_bytes, ← hpadding]
      change 4 + a.2.length + _ = _
      omega
    rw [List.drop_drop] at hall
    rw [hdrop]
    simp only [List.append_assoc] at hall ⊢
    exact hall

end Writer

/-! ## The attributes of a packet -/

/-- XOR-MAPPED-ADDRESS, if it is added. -/
def xorMappedAddressAttributes (p : StunPacket) : List (StunAttribute × List Byte) :=
  match p.addedXorMappedAddress with
  | some address => [(.xorMappedAddress, p.xorMappedAddressValue address)]
  | none => []

/-- The attributes in front of MESSAGE-INTEGRITY. -/
def attributes (p : StunPacket) : List (StunAttribute × List Byte) :=
  (if p.username ≠ [] then [(.username, p.username)] else []) ++
  ((if p.priority ≠ 0 then [(.priority, Byte.set4Bytes p.priority)] else []) ++
  ((if p.iceControlling ≠ 0 then [(.iceControlling, Byte.set8Bytes p.iceControlling)] else []) ++
  ((if p.iceControlled ≠ 0 then [(.iceControlled, Byte.set8Bytes p.iceControlled)] else []) ++
  ((if p.hasUseCandidate then [(.useCandidate, [])] else []) ++
  (p.xorMappedAddressAttributes ++
  (if p.addErrorCode then [(.errorCode, p.errorCodeValue)] else []))))))

/-- What can be serialized and read back: the length of the username fits into its field, and the
error code into its class and number. -/
structure Serializable (p : StunPacket) : Prop where
  method_eq : p.method = binding
  username_le : p.username.length ≤ 513
  errorCode_range : p.errorCode = 0 ∨ (300 ≤ p.errorCode.toNat ∧ p.errorCode.toNat ≤ 699)

variable {p : StunPacket}

theorem length_xorBytes {bytes key : List Byte} (h : bytes.length ≤ key.length) :
    (xorBytes bytes key).length = bytes.length := by
  rw [xorBytes, List.length_zipWith, Nat.min_eq_left h]

theorem length_xorMappedAddressValue (p : StunPacket) (address : SockAddr) :
    (p.xorMappedAddressValue address).length = xorMappedAddressPaddedLen address := by
  cases address with
  | inet port addr => rfl
  | inet6 port addr =>
    have hport : (xorBytes (Byte.set2Bytes port) magicCookie).length = 2 := rfl
    have haddr : (xorBytes (Byte.bytesOf 16 addr.toNat)
        (magicCookie ++ p.transactionIdBytes)).length =
        16 := by
      have hkey : (magicCookie ++ p.transactionIdBytes).length = 16 := by
        rw [List.length_append, transactionIdBytes, Byte.length_bytesOf]
        rfl
      rw [length_xorBytes (by rw [Byte.length_bytesOf, hkey]), Byte.length_bytesOf]
    rw [xorMappedAddressValue, List.length_append, List.length_append, hport, haddr]
    rfl

theorem paddedSize_xorMappedAddress (address : SockAddr) :
    paddedSize (xorMappedAddressPaddedLen address) = xorMappedAddressPaddedLen address := by
  cases address with
  | inet port addr => exact show paddedSize 8 = 8 by decide
  | inet6 port addr => exact show paddedSize 20 = 20 by decide

theorem Serializable.usernamePaddedLen (h : p.Serializable) :
    p.usernamePaddedLen = paddedSize p.username.length := by
  have hle := h.username_le
  unfold StunPacket.usernamePaddedLen
  split
  · exact Byte.padTo4Bytes_toNat (by omega)
  · rename_i hempty
    rw [not_not.mp hempty]
    rfl

theorem paddedSize_eq_zero {n : ℕ} : paddedSize n = 0 ↔ n = 0 := by
  unfold paddedSize
  omega

/-- `Serialize` adds the attributes. -/
theorem Serializable.writeAttributes_eq (h : p.Serializable) (w : Writer) :
    p.writeAttributes w = w.addAll p.attributes := by
  have hadd : ∀ (w : Writer) (c : Prop) [Decidable c] (a : StunAttribute × List Byte) (n : ℕ),
      paddedSize a.2.length = n →
      (if c then w.add a.1 a.2 n else w) = w.addAll (if c then [a] else []) := by
    intro w c _ a n hn
    split
    · rw [← hn]
      rfl
    · rfl
  have husername : (p.usernamePaddedLen ≠ 0) = (p.username ≠ []) := by
    rw [h.usernamePaddedLen, ne_eq, paddedSize_eq_zero, List.length_eq_zero_iff]
  have haddress : ∀ w : Writer, p.writeXorMappedAddress w =
      w.addAll p.xorMappedAddressAttributes := by
    intro w
    unfold writeXorMappedAddress xorMappedAddressAttributes
    cases p.addedXorMappedAddress with
    | none => rfl
    | some address =>
      dsimp only
      have hsize : paddedSize (p.xorMappedAddressValue address).length =
          xorMappedAddressPaddedLen address := by
        rw [length_xorMappedAddressValue, paddedSize_xorMappedAddress]
      rw [← hsize]
      rfl
  have hzero : paddedSize 0 = 0 := by decide
  have hfour : paddedSize 4 = 4 := by decide
  have height : paddedSize 8 = 8 := by decide
  unfold writeAttributes attributes
  simp only [Writer.addAll_append, husername]
  rw [hadd _ _ (.username, p.username) _ h.usernamePaddedLen.symm,
    hadd _ _ (.priority, Byte.set4Bytes p.priority) 4 hfour,
    hadd _ _ (.iceControlling, Byte.set8Bytes p.iceControlling) 8 height,
    hadd _ _ (.iceControlled, Byte.set8Bytes p.iceControlled) 8 height,
    hadd _ _ (.useCandidate, []) 0 hzero, haddress,
    hadd _ _ (.errorCode, p.errorCodeValue) 4 hfour]

/-- The size of the attributes. -/
def attributesSize (p : StunPacket) : ℕ := ((p.attributes.map Writer.tlvOf).map Tlv.size).sum

theorem sum_optional (c : Prop) [Decidable c] (a : StunAttribute × List Byte) :
    (((if c then [a] else []).map Writer.tlvOf).map Tlv.size).sum =
      if c then 4 + paddedSize a.2.length else 0 := by
  split
  · rfl
  · rfl

theorem sum_xorMappedAddressAttributes (p : StunPacket) :
    ((p.xorMappedAddressAttributes.map Writer.tlvOf).map Tlv.size).sum =
    p.xorMappedAddressSize := by
  unfold xorMappedAddressAttributes xorMappedAddressSize
  cases p.addedXorMappedAddress with
  | none => rfl
  | some address =>
    change 4 + paddedSize (p.xorMappedAddressValue address).length = _
    rw [length_xorMappedAddressValue, paddedSize_xorMappedAddress]

/-- **The required size** is that of the header and of all attributes. -/
theorem Serializable.requiredSize_eq (h : p.Serializable) :
    p.requiredSize = 20 + p.attributesSize + (if p.addMessageIntegrity then 24 else 0) + 8 := by
  have hfour : paddedSize 4 = 4 := by decide
  have height : paddedSize 8 = 8 := by decide
  have hzero : paddedSize 0 = 0 := by decide
  rw [attributesSize, attributes]
  simp only [List.map_append, List.sum_append, sum_optional, sum_xorMappedAddressAttributes,
    Byte.length_set4Bytes, Byte.length_set8Bytes, List.length_nil, hfour, height, hzero]
  have herror : p.errorCodeValue.length = 4 := rfl
  rw [herror, hfour, requiredSize, h.usernamePaddedLen]
  simp only [Nat.reduceAdd]
  omega

theorem Serializable.attributesSize_le (h : p.Serializable) : p.attributesSize ≤ 600 := by
  have hfour : paddedSize 4 = 4 := by decide
  have height : paddedSize 8 = 8 := by decide
  have hzero : paddedSize 0 = 0 := by decide
  have husername : paddedSize p.username.length ≤ 516 := by
    have hle := h.username_le
    unfold paddedSize
    omega
  have haddress : p.xorMappedAddressSize ≤ 24 := by
    unfold xorMappedAddressSize
    cases p.addedXorMappedAddress with
    | none => exact Nat.zero_le _
    | some address =>
      cases address with
      | inet port addr => exact show 4 + 8 ≤ 24 by decide
      | inet6 port addr => exact show 4 + 20 ≤ 24 by decide
  have herror : p.errorCodeValue.length = 4 := rfl
  rw [attributesSize, attributes]
  simp only [List.map_append, List.sum_append, sum_optional, sum_xorMappedAddressAttributes,
    Byte.length_set4Bytes, Byte.length_set8Bytes, List.length_nil, hfour, height, hzero, herror]
  have hite : ∀ (c : Prop) [Decidable c] (n : ℕ), (if c then n else 0) ≤ n := by
    intro c _ n
    split
    · exact le_rfl
    · exact Nat.zero_le n
  have h₁ := hite (p.username ≠ []) (4 + paddedSize p.username.length)
  have h₂ := hite (p.priority ≠ 0) (4 + 4)
  have h₃ := hite (p.iceControlling ≠ 0) (4 + 8)
  have h₄ := hite (p.iceControlled ≠ 0) (4 + 8)
  have h₅ := hite (p.hasUseCandidate = true) (4 + 0)
  have h₆ := hite (p.addErrorCode = true) (4 + 4)
  omega

/-! ## The whole message -/

/-- The header with a length field. -/
def headerBytes (p : StunPacket) (msgLength : BitVec 16) : List Byte :=
  Byte.set2Bytes (typeField p.method p.klass) ++
    (Byte.set2Bytes msgLength ++ (magicCookie ++ p.transactionIdBytes))

/-- MESSAGE-INTEGRITY behind the given bytes, if it is added. -/
def integrityTlvs (getHmacSha1 : List Byte → List Byte → List Byte) (p : StunPacket)
    (body : List Byte) : List Tlv :=
  if p.addMessageIntegrity then
    [(StunAttribute.messageIntegrity.code, getHmacSha1 p.password
      (p.headerBytes (BitVec.ofNat 16 (p.requiredSize - 20 - 8)) ++ body))]
  else []

/-- FINGERPRINT behind the given bytes. -/
def fingerprintTlv (getCrc32 : List Byte → BitVec 32) (bytes : List Byte) : Tlv :=
  (StunAttribute.fingerprint.code, Byte.set4Bytes (computedFingerprint getCrc32 bytes))

/-- The message up to FINGERPRINT. -/
def authenticatedBytes (getHmacSha1 : List Byte → List Byte → List Byte) (p : StunPacket)
    (body : List Byte) : List Byte :=
  p.headerBytes (BitVec.ofNat 16 (p.requiredSize - 20)) ++
    (body ++ (p.integrityTlvs getHmacSha1 body).flatMap Tlv.bytes)

/-- The message. -/
def messageBytes (getHmacSha1 : List Byte → List Byte → List Byte)
    (getCrc32 : List Byte → BitVec 32)
    (p : StunPacket) (body : List Byte) : List Byte :=
  p.authenticatedBytes getHmacSha1 body ++
    (fingerprintTlv getCrc32 (p.authenticatedBytes getHmacSha1 body)).bytes

theorem length_headerBytes (p : StunPacket) (msgLength : BitVec 16) :
    (p.headerBytes msgLength).length = 20 := by
  rw [headerBytes, List.length_append, List.length_append, List.length_append, transactionIdBytes,
    Byte.length_bytesOf]
  rfl

namespace Writer

variable {w : Writer} {rest : List Byte}

theorem Holds.take_eq {bytes : List Byte} (h : w.Holds bytes rest) :
    w.buffer.take w.pos = bytes := by
  rw [h.buffer_eq, h.pos_eq, List.take_left]

/-- Overwrite the length field. -/
theorem Holds.setLength {msgLength : BitVec 16} {tail : List Byte}
    (h : w.Holds (p.headerBytes msgLength ++ tail) rest) (msgLength' : BitVec 16) :
    (w.set 2 (Byte.set2Bytes msgLength')).Holds (p.headerBytes msgLength' ++ tail) rest := by
  rw [headerBytes, List.append_assoc, List.append_assoc] at h ⊢
  exact h.set (Byte.length_set2Bytes msgLength')

/-- Add an attribute that needs no padding. -/
theorem Holds.addUnpadded {bytes : List Byte} (h : w.Holds bytes rest) (attr : StunAttribute)
    {value : List Byte} {n : ℕ} (hvalue : value.length = n) (hroom : 4 + n ≤ rest.length) :
    (w.add attr value n).Holds (bytes ++ Tlv.bytes (attr.code, value)) (rest.drop (4 + n)) := by
  obtain ⟨padding, hpadding, hadded⟩ := h.add attr hvalue.le hroom
  obtain rfl : padding = [] := List.length_eq_zero_iff.mp (by omega)
  rwa [List.append_nil] at hadded

end Writer

theorem holds_writeHeader (p : StunPacket) (buffer : List Byte) (hsize : 20 ≤ p.requiredSize) :
    (p.writeHeader buffer).Holds (p.headerBytes (BitVec.ofNat 16 (p.requiredSize - 20)))
      (buffer.drop 20) := by
  have hlength : BitVec.ofNat 16 p.requiredSize - 20 = BitVec.ofNat 16 (p.requiredSize - 20) := by
    obtain ⟨n, hn⟩ := Nat.exists_eq_add_of_le hsize
    rw [hn, Nat.add_sub_cancel_left, BitVec.ofNat_add]
    bv_omega
  have htransaction : p.transactionIdBytes.length = 12 := Byte.length_bytesOf 12 _
  -- the four fields are written one behind the other
  have htype := splice_append [] buffer (Byte.set2Bytes (typeField p.method p.klass))
  have hlen := splice_append (Byte.set2Bytes (typeField p.method p.klass)) (buffer.drop 2)
    (Byte.set2Bytes (BitVec.ofNat 16 (p.requiredSize - 20)))
  have hcookie := splice_append (Byte.set2Bytes (typeField p.method p.klass) ++
    Byte.set2Bytes (BitVec.ofNat 16 (p.requiredSize - 20))) (buffer.drop 4) magicCookie
  have hid := splice_append (Byte.set2Bytes (typeField p.method p.klass) ++
    (Byte.set2Bytes (BitVec.ofNat 16 (p.requiredSize - 20)) ++ magicCookie)) (buffer.drop 8)
    p.transactionIdBytes
  have hmagic : magicCookie.length = 4 := rfl
  simp only [List.nil_append, List.length_nil, List.length_append, Byte.length_set2Bytes, hmagic,
    htransaction, List.drop_drop, List.append_assoc, Nat.reduceAdd] at htype hlen hcookie hid
  refine ⟨?_, by rw [length_headerBytes]; rfl⟩
  change splice (splice (splice (splice buffer 0 _) 2 (Byte.set2Bytes (_ - 20))) 4 _) 8 _ = _
  rw [htype, hlength, hlen, hcookie, hid, headerBytes]
  simp only [List.append_assoc]

theorem holds_writeMessageIntegrity {getHmacSha1 : List Byte → List Byte → List Byte}
    (hhmac : ∀ key data, (getHmacSha1 key data).length = 20) {w : Writer} {body rest : List Byte}
    (h : w.Holds (p.headerBytes (BitVec.ofNat 16 (p.requiredSize - 20)) ++ body) rest)
    (hroom : 24 ≤ rest.length) :
    (p.writeMessageIntegrity getHmacSha1 w).Holds
      (p.headerBytes (BitVec.ofNat 16 (p.requiredSize - 20)) ++
        (body ++ Tlv.bytes (StunAttribute.messageIntegrity.code, getHmacSha1 p.password
          (p.headerBytes (BitVec.ofNat 16 (p.requiredSize - 20 - 8)) ++ body))))
          (rest.drop 24) := by
  have hpatched := h.setLength (BitVec.ofNat 16 (p.requiredSize - 20 - 8))
  have hadded := hpatched.addUnpadded .messageIntegrity (hhmac p.password
    (p.headerBytes (BitVec.ofNat 16 (p.requiredSize - 20 - 8)) ++ body)) hroom
  rw [List.append_assoc] at hadded
  have hrestored := hadded.setLength (BitVec.ofNat 16 (p.requiredSize - 20))
  rw [writeMessageIntegrity, hpatched.take_eq]
  exact hrestored

theorem holds_writeFingerprint (getCrc32 : List Byte → BitVec 32) {w : Writer}
    {bytes rest : List Byte} (h : w.Holds bytes rest) (hroom : 8 ≤ rest.length) :
    (writeFingerprint getCrc32 w).Holds (bytes ++ (fingerprintTlv getCrc32 bytes).bytes)
      (rest.drop 8) := by
  rw [writeFingerprint, h.take_eq]
  exact h.addUnpadded .fingerprint (Byte.length_set4Bytes _) hroom

/-- **Serializing.** The bytes spell the attributes of the packet. -/
theorem Serializable.serialize_eq (h : p.Serializable)
    {getHmacSha1 : List Byte → List Byte → List Byte} (getCrc32 : List Byte → BitVec 32)
    (hhmac : ∀ key data, (getHmacSha1 key data).length = 20) {buffer : List Byte}
    (hroom : p.requiredSize ≤ buffer.length) :
    ∃ body, Spells body (p.attributes.map Writer.tlvOf) ∧ body.length = p.attributesSize ∧
      (p.messageBytes getHmacSha1 getCrc32 body).length = p.requiredSize ∧
      p.serialize getHmacSha1 getCrc32 buffer = .ok { p with
        data := p.messageBytes getHmacSha1 getCrc32 body
        size := p.requiredSize
        messageIntegrity := if p.addMessageIntegrity then some (20 + body.length + 4) else none
        hasFingerprint := true } := by
  have hsize := h.requiredSize_eq
  have hsmall := h.attributesSize_le
  have hshort : ∀ a ∈ p.attributes, a.2.length < 2 ^ 16 := by
    intro a ha
    have hle : Tlv.size (Writer.tlvOf a) ≤ p.attributesSize :=
      List.le_sum_of_mem (List.mem_map_of_mem (List.mem_map_of_mem ha))
    have hpadded := Writer.le_paddedSize a.2.length
    change 4 + paddedSize a.2.length ≤ _ at hle
    omega
  obtain ⟨body, hspells, hbody⟩ := (holds_writeHeader p buffer (by omega)).addAll hshort (by
    rw [List.length_drop]
    change p.attributesSize ≤ _
    omega)
  have hlength : body.length = p.attributesSize := hspells.length
  rw [← h.writeAttributes_eq] at hbody
  have hrest : ((buffer.drop 20).drop body.length).length + 20 + body.length = buffer.length := by
    rw [List.length_drop, List.length_drop]
    omega
  have hpos : (p.writeAttributes (p.writeHeader buffer)).pos = 20 + body.length := by
    rw [hbody.pos_eq, List.length_append, length_headerBytes]
  -- with and without MESSAGE-INTEGRITY the writer stands behind what FINGERPRINT is about
  have hintegrity : ∃ rest, 8 ≤ rest.length ∧
      (if p.addMessageIntegrity then
          p.writeMessageIntegrity getHmacSha1 (p.writeAttributes (p.writeHeader buffer))
        else p.writeAttributes (p.writeHeader buffer)).Holds
      (p.authenticatedBytes getHmacSha1 body) rest := by
    unfold authenticatedBytes integrityTlvs
    split
    · rename_i hadd
      rw [if_pos hadd] at hsize
      refine ⟨((buffer.drop 20).drop body.length).drop 24, ?_, ?_⟩
      · rw [List.length_drop]
        omega
      · rw [List.flatMap_singleton]
        exact holds_writeMessageIntegrity hhmac hbody (by omega)
    · rename_i hadd
      rw [if_neg hadd] at hsize
      refine ⟨(buffer.drop 20).drop body.length, by omega, ?_⟩
      rw [List.flatMap_nil, List.append_nil]
      exact hbody
  obtain ⟨rest, hroom', hheld⟩ := hintegrity
  have hfinal := holds_writeFingerprint getCrc32 hheld hroom'
  have hmessage : (p.messageBytes getHmacSha1 getCrc32 body).length = p.requiredSize := by
    have hbytes : ((p.integrityTlvs getHmacSha1 body).flatMap Tlv.bytes).length =
        if p.addMessageIntegrity then 24 else 0 := by
      unfold integrityTlvs
      split
      · rw [List.flatMap_singleton, length_tlv_bytes]
        change 4 + (getHmacSha1 _ _).length = 24
        rw [hhmac]
      · rfl
    have hfingerprint : (fingerprintTlv getCrc32
        (p.authenticatedBytes getHmacSha1 body)).bytes.length =
        8 := rfl
    rw [messageBytes, List.length_append, hfingerprint, authenticatedBytes, List.length_append,
      List.length_append, length_headerBytes, hbytes, hlength]
    omega
  refine ⟨body, hspells, hlength, hmessage, ?_⟩
  have hpos' := hfinal.pos_eq.trans hmessage
  have htake := hfinal.take_eq
  rw [hpos'] at htake
  unfold serialize
  dsimp only
  rw [hpos', htake, hpos, decide_eq_true rfl]
  rfl

/-! ## Reading the attributes back -/

/-- Reading the attributes turns the packet into another one. -/
def Reads (q : StunPacket) (tlvs : List Tlv) (q' : StunPacket) : Prop :=
  ∀ s : Parser, s.packet = q → s.fingerprint = none → s.hasMessageIntegrity = false →
    s.readTlvs tlvs = .ok (some { s with packet := q', pos := s.pos + (tlvs.map Tlv.size).sum })

variable {q q' q'' : StunPacket}

theorem Reads.append {tlvs tlvs' : List Tlv} (h : Reads q tlvs q') (h' : Reads q' tlvs' q'') :
    Reads q (tlvs ++ tlvs') q'' := by
  intro s hs hfingerprint hintegrity
  rw [Parser.readTlvs_append, h s hs hfingerprint hintegrity, List.map_append, List.sum_append,
    ← Nat.add_assoc]
  exact h' _ rfl hfingerprint hintegrity

theorem reads_nil (q : StunPacket) : Reads q [] q := by
  intro s hs _ _
  rw [← hs]
  rfl

/-- An attribute whose value changes the packet by `f`. -/
theorem reads_singleton {tlv : Tlv} (f : StunPacket → StunPacket)
    (hread : ∀ s : Parser, s.readValue tlv.1 tlv.2 = .ok (some { s with packet := f s.packet })) :
    Reads q [tlv] (f q) := by
  intro s hs hfingerprint hintegrity
  have hfirst : ¬s.fingerprint.isSome = true := by
    rw [hfingerprint]
    exact nofun
  have hlast : ¬(s.hasMessageIntegrity = true ∧ tlv.1 ≠ StunAttribute.fingerprint.code) := by
    rw [hintegrity]
    exact fun hand ↦ absurd hand.1 nofun
  have htlv : s.readTlv tlv = .ok (some { s with packet := f q, pos := s.pos + tlv.size }) := by
    rw [Parser.readTlv, if_neg hfirst, if_neg hlast, hread s, hs]
    rfl
  rw [Parser.readTlvs, htlv]
  rfl

/-- An attribute that is only written if the member is set. -/
theorem reads_optional (c : Prop) [Decidable c] {a : StunAttribute × List Byte}
    (f : StunPacket → StunPacket)
    (hread : c → ∀ s : Parser, s.readValue a.1.code a.2 =
      .ok (some { s with packet := f s.packet }))
    (hskip : ¬c → f q = q) : Reads q ((if c then [a] else []).map Writer.tlvOf) (f q) := by
  split
  · rename_i hc
    exact reads_singleton f (hread hc)
  · rename_i hnot
    rw [hskip hnot]
    exact reads_nil q

theorem get4Bytes_set4Bytes (v : BitVec 32) : Byte.get4Bytes (Byte.set4Bytes v) 0 = .ok v :=
  congrArg Except.ok (Byte.join4_set4Bytes v)

theorem get8Bytes_set8Bytes (v : BitVec 64) : Byte.get8Bytes (Byte.set8Bytes v) 0 = .ok v := by
  have hhigh : Byte.get4Bytes (Byte.set8Bytes v) 0 = .ok ((v >>> 32).setWidth 32) := by
    rw [Byte.set8Bytes_eq]
    exact get4Bytes_set4Bytes _
  have hlow : Byte.get4Bytes (Byte.set8Bytes v) 4 = .ok (v.setWidth 32) := by
    rw [Byte.set8Bytes_eq]
    exact get4Bytes_set4Bytes _
  rw [Byte.get8Bytes, hhigh, hlow]
  exact congrArg Except.ok (Byte.join8 v)

namespace Parser

theorem readValue_priority (s : Parser) (v : BitVec 32) :
    s.readValue StunAttribute.priority.code (Byte.set4Bytes v) =
      .ok (some { s with packet.priority := v }) := by
  change (do let priority ← Byte.get4Bytes (Byte.set4Bytes v) 0; _) = _
  rw [get4Bytes_set4Bytes]
  rfl

theorem readValue_iceControlling (s : Parser) (v : BitVec 64) :
    s.readValue StunAttribute.iceControlling.code (Byte.set8Bytes v) =
      .ok (some { s with packet.iceControlling := v }) := by
  change (do let iceControlling ← Byte.get8Bytes (Byte.set8Bytes v) 0; _) = _
  rw [get8Bytes_set8Bytes]
  rfl

theorem readValue_iceControlled (s : Parser) (v : BitVec 64) :
    s.readValue StunAttribute.iceControlled.code (Byte.set8Bytes v) =
      .ok (some { s with packet.iceControlled := v }) := by
  change (do let iceControlled ← Byte.get8Bytes (Byte.set8Bytes v) 0; _) = _
  rw [get8Bytes_set8Bytes]
  rfl

end Parser

/-- Class and number of an error code spell it. -/
theorem errorCode_split {errorCode : BitVec 16} (hlow : 300 ≤ errorCode.toNat)
    (hhigh : errorCode.toNat ≤ 699) :
    BitVec.ofNat 16 (((errorCode / 100).setWidth 8 : Byte).toNat * 100 +
      (errorCode.setWidth 8 - (errorCode / 100).setWidth 8 * 100 : Byte).toNat) = errorCode := by
  have hclass : ((errorCode / 100).setWidth 8 : Byte).toNat = errorCode.toNat / 100 := by
    rw [BitVec.toNat_setWidth, BitVec.toNat_udiv]
    change errorCode.toNat / 100 % 256 = _
    omega
  have hnumber : (errorCode.setWidth 8 - (errorCode / 100).setWidth 8 * 100 : Byte).toNat =
      errorCode.toNat % 100 := by
    rw [BitVec.toNat_sub, BitVec.toNat_mul, hclass, BitVec.toNat_setWidth]
    change (2 ^ 8 - errorCode.toNat / 100 * 100 % 2 ^ 8 + errorCode.toNat % 2 ^ 8) % 2 ^ 8 = _
    omega
  rw [hclass, hnumber]
  apply BitVec.eq_of_toNat_eq
  rw [BitVec.toNat_ofNat]
  omega

/-- What is read back of an error code. -/
def readErrorCode (p : StunPacket) : BitVec 16 := if p.klass = .errorResponse
    then p.errorCode else 0

/-- XOR-MAPPED-ADDRESS is not read. -/
theorem reads_xorMappedAddress (p q : StunPacket) :
    Reads q (p.xorMappedAddressAttributes.map Writer.tlvOf) q := by
  unfold xorMappedAddressAttributes
  cases p.addedXorMappedAddress with
  | none => exact reads_nil q
  | some address => exact reads_singleton id fun s ↦ rfl

/-- A packet with the attributes that are read back of `p`. -/
def fill (p q : StunPacket) : StunPacket :=
  { q with
    username := p.username
    priority := p.priority
    iceControlling := p.iceControlling
    iceControlled := p.iceControlled
    hasUseCandidate := p.hasUseCandidate
    errorCode := p.readErrorCode }

/-- **Reading the attributes back** into a packet that has none yet. -/
theorem Serializable.reads_attributes (h : p.Serializable) (husername : q.username = [])
    (hpriority : q.priority = 0) (hcontrolling : q.iceControlling = 0)
    (hcontrolled : q.iceControlled = 0) (hcandidate : q.hasUseCandidate = false)
    (herror : q.errorCode = 0) :
    Reads q (p.attributes.map Writer.tlvOf) (p.fill q) := by
  unfold attributes
  simp only [List.map_append]
  refine (reads_optional _ (fun q ↦ { q with username := p.username }) (fun _ s ↦ rfl) ?_).append ?_
  · intro hempty
    rw [not_not.mp hempty, ← husername]
  refine (reads_optional _ (fun q ↦ { q with priority := p.priority })
    (fun _ s ↦ s.readValue_priority p.priority) ?_).append ?_
  · intro hzero
    rw [not_not.mp hzero, ← hpriority]
  refine (reads_optional _ (fun q ↦ { q with iceControlling := p.iceControlling })
    (fun _ s ↦ s.readValue_iceControlling p.iceControlling) ?_).append ?_
  · intro hzero
    rw [not_not.mp hzero, ← hcontrolling]
  refine (reads_optional _ (fun q ↦ { q with iceControlled := p.iceControlled })
    (fun _ s ↦ s.readValue_iceControlled p.iceControlled) ?_).append ?_
  · intro hzero
    rw [not_not.mp hzero, ← hcontrolled]
  refine (reads_optional _ (fun q ↦ { q with hasUseCandidate := p.hasUseCandidate })
    (fun htrue s ↦ ?_)
    ?_).append ?_
  · rw [htrue]
    rfl
  · intro hfalse
    rw [Bool.eq_false_iff.mpr hfalse, ← hcandidate]
  refine (p.reads_xorMappedAddress _).append ?_
  refine reads_optional _ (fun q ↦ { q with errorCode := p.readErrorCode }) (fun hadd s ↦ ?_) ?_
  · obtain ⟨hne, hklass⟩ : p.errorCode ≠ 0 ∧ p.klass = .errorResponse := by
      simpa [addErrorCode] using hadd
    obtain ⟨hlow, hhigh⟩ := h.errorCode_range.resolve_left hne
    rw [readErrorCode, if_pos hklass, ← errorCode_split hlow hhigh]
    rfl
  · intro hnot
    have hread : p.readErrorCode = 0 := by
      unfold readErrorCode
      split
      · rename_i hklass
        by_contra hne
        refine hnot ?_
        rw [addErrorCode, decide_eq_true hne, decide_eq_true hklass]
        rfl
      · rfl
    rw [hread]
    exact congrArg (fun errorCode ↦ { q with
      username := p.username
      priority := p.priority
      iceControlling := p.iceControlling
      iceControlled := p.iceControlled
      hasUseCandidate := p.hasUseCandidate
      errorCode := errorCode }) herror.symm

/-- The packet as `Parse` creates it. -/
def created (p : StunPacket) (data : List Byte) : StunPacket where
  klass := p.klass
  method := p.method
  transactionId := p.transactionId
  data := data
  size := data.length

/-- The packet that is read from a message of `p`. -/
def parsed (p : StunPacket) (data : List Byte) (messageIntegrity : Option ℕ) : StunPacket :=
  { p.fill (p.created data) with
    messageIntegrity := messageIntegrity
    hasFingerprint := true }

theorem length_le_sum_size (tlvs : List Tlv) : tlvs.length ≤ (tlvs.map Tlv.size).sum := by
  induction tlvs with
  | nil => exact le_rfl
  | cons tlv tlvs ih =>
    rw [List.length_cons, List.map_cons, List.sum_cons, Tlv.size]
    omega

theorem sum_size_mod (tlvs : List Tlv) : (tlvs.map Tlv.size).sum % 4 = 0 := by
  induction tlvs with
  | nil => rfl
  | cons tlv tlvs ih =>
    rw [List.map_cons, List.sum_cons, Tlv.size, paddedSize]
    omega

/-- Behind the attributes come MESSAGE-INTEGRITY, if it is added, and FINGERPRINT. -/
theorem readTlvs_integrity {getHmacSha1 : List Byte → List Byte → List Byte}
    (hhmac : ∀ key data, (getHmacSha1 key data).length = 20) (value : BitVec 32) (body : List Byte)
    {s : Parser} (hfingerprint : s.fingerprint = none)
    (hintegrity : s.hasMessageIntegrity = false) :
    s.readTlvs (p.integrityTlvs getHmacSha1 body ++
        [(StunAttribute.fingerprint.code, Byte.set4Bytes value)]) = .ok (some {
      packet := { s.packet with
        messageIntegrity := if p.addMessageIntegrity then some (s.pos + 4)
          else s.packet.messageIntegrity
        hasFingerprint := true }
      pos := s.pos + (if p.addMessageIntegrity then 24 else 0) + 8
      hasMessageIntegrity := p.addMessageIntegrity
      fingerprint := some (s.pos + (if p.addMessageIntegrity then 24 else 0), value) }) := by
  have hlast : ∀ t : Parser, t.fingerprint = none →
      t.readTlvs [(StunAttribute.fingerprint.code, Byte.set4Bytes value)] = .ok (some { t with
        fingerprint := some (t.pos, value)
        packet.hasFingerprint := true
        pos := t.pos + 8 }) := by
    intro t ht
    have hread : t.readValue StunAttribute.fingerprint.code (Byte.set4Bytes value) =
        .ok (some { t with
        fingerprint := some (t.pos, value), packet.hasFingerprint := true }) := by
      change (do let fingerprint ← Byte.get4Bytes (Byte.set4Bytes value) 0; _) = _
      rw [get4Bytes_set4Bytes]
      rfl
    have hsize : Tlv.size (StunAttribute.fingerprint.code, Byte.set4Bytes value) = 8 := by
      exact show 4 + paddedSize 4 = 8 by decide
    rw [Parser.readTlvs, Parser.readTlv, if_neg (by rw [ht]; exact nofun),
      if_neg (fun hand ↦ hand.2 rfl), hread, hsize]
    rfl
  unfold integrityTlvs
  cases hadd : p.addMessageIntegrity with
  | false =>
    rw [if_neg nofun, List.nil_append, hlast s hfingerprint]
    simp only [Bool.false_eq_true, if_false, Nat.add_zero, hintegrity]
  | true =>
    obtain ⟨hmac, hlength, heq⟩ : ∃ hmac : List Byte, hmac.length = 20 ∧ getHmacSha1 p.password
        (p.headerBytes (BitVec.ofNat 16 (p.requiredSize - 20 - 8)) ++ body) = hmac :=
        ⟨_, hhmac _ _, rfl⟩
    have hread : s.readValue StunAttribute.messageIntegrity.code hmac = .ok (some { s with
        hasMessageIntegrity := true
        packet.messageIntegrity := some (s.pos + 4) }) :=
      if_neg (not_not.mpr hlength)
    have hsize : Tlv.size (StunAttribute.messageIntegrity.code, hmac) = 24 := by
      change 4 + paddedSize hmac.length = 24
      rw [hlength]
      decide
    have hfirst : s.readTlv (StunAttribute.messageIntegrity.code, hmac) = .ok (some { s with
        hasMessageIntegrity := true
        packet.messageIntegrity := some (s.pos + 4)
        pos := s.pos + 24 }) := by
      rw [Parser.readTlv, if_neg (by rw [hfingerprint]; exact nofun),
        if_neg (by rw [hintegrity]; exact fun hand ↦ absurd hand.1 nofun), hread, hsize]
      rfl
    rw [if_pos rfl, heq, List.cons_append, List.nil_append, Parser.readTlvs, hfirst]
    exact hlast { s with
      hasMessageIntegrity := true
      packet.messageIntegrity := some (s.pos + 4)
      pos := s.pos + 24 } hfingerprint

/-- The attributes of a message, as far as the last byte. -/
theorem spells_message {getHmacSha1 : List Byte → List Byte → List Byte}
    (getCrc32 : List Byte → BitVec 32)
    (hhmac : ∀ key data, (getHmacSha1 key data).length = 20) {body : List Byte}
    (hbody : Spells body (p.attributes.map Writer.tlvOf)) :
    Spells (body ++ ((p.integrityTlvs getHmacSha1 body).flatMap Tlv.bytes ++
        (fingerprintTlv getCrc32 (p.authenticatedBytes getHmacSha1 body)).bytes))
      (p.attributes.map Writer.tlvOf ++ (p.integrityTlvs getHmacSha1 body ++
        [fingerprintTlv getCrc32 (p.authenticatedBytes getHmacSha1 body)])) := by
  have hunpadded : ∀ tlv : Tlv, tlv.2.length < 2 ^ 16 → paddedSize tlv.2.length = tlv.2.length →
      Spells tlv.bytes [tlv] := by
    intro tlv hlength hpadded
    have hspells := spells_singleton [] hlength (by rw [hpadded]; rfl)
    rwa [List.append_nil] at hspells
  have hintegrity : Spells ((p.integrityTlvs getHmacSha1 body).flatMap Tlv.bytes)
      (p.integrityTlvs getHmacSha1 body) := by
    unfold integrityTlvs
    split
    · rw [List.flatMap_singleton]
      have hlength := hhmac p.password
        (p.headerBytes (BitVec.ofNat 16 (p.requiredSize - 20 - 8)) ++ body)
      exact hunpadded _ (by rw [hlength]; decide) (by rw [hlength]; decide)
    · exact .nil
  exact hbody.append (hintegrity.append
    (hunpadded _ (show 4 < 2 ^ 16 by decide) (show paddedSize 4 = 4 by decide)))

theorem isStun_header (hmethod : p.method = binding) (msgLength : BitVec 16) (tail : List Byte) :
    isStun (p.headerBytes msgLength ++ tail) = .ok true := by
  have hlong : ¬(p.headerBytes msgLength ++ tail).length < 20 := by
    rw [List.length_append, length_headerBytes]
    omega
  have hcookie : slice (p.headerBytes msgLength ++ tail) 4 4 = magicCookie := by
    have hslice := slice_append
        (Byte.set2Bytes (typeField p.method p.klass) ++ Byte.set2Bytes msgLength)
      magicCookie (p.transactionIdBytes ++ tail)
    rw [headerBytes]
    simp only [List.append_assoc] at hslice ⊢
    exact hslice
  have hfirst : Byte.get1Byte (p.headerBytes msgLength ++ tail) 0 =
      .ok ((typeField p.method p.klass >>> 8).setWidth 8) := rfl
  have hlow : ((typeField p.method p.klass >>> 8).setWidth 8 : Byte) < 3 := by
    rw [hmethod]
    cases p.klass <;> decide
  rw [isStun, if_neg hlong, hfirst, hcookie]
  change Except.ok (decide _ && decide (magicCookie = magicCookie)) = _
  rw [decide_eq_true hlow]
  rfl

/-- **Parsing the header.** -/
theorem parse_header (getCrc32 : List Byte → BitVec 32) (rounds : ℕ) (hmethod : p.method = binding)
    {msgLength : BitVec 16} {tail : List Byte} (hlength : msgLength.toNat = tail.length)
    (hmod : tail.length % 4 = 0) :
    parse getCrc32 rounds (p.headerBytes msgLength ++ tail) =
      Parser.parseAttributes getCrc32 (p.headerBytes msgLength ++ tail) rounds
        { packet := p.created (p.headerBytes msgLength ++ tail) } := by
  have htype : Byte.get2Bytes (p.headerBytes msgLength ++ tail) 0 =
      .ok (typeField p.method p.klass) :=
    Byte.get2Bytes_append [] _ (typeField p.method p.klass)
  have hlen : Byte.get2Bytes (p.headerBytes msgLength ++ tail) 2 = .ok msgLength :=
    Byte.get2Bytes_append (Byte.set2Bytes (typeField p.method p.klass)) _ msgLength
  have hfirst : Byte.get1Byte (p.headerBytes msgLength ++ tail) 0 =
      .ok ((typeField p.method p.klass >>> 8).setWidth 8) := rfl
  have hsecond : Byte.get1Byte (p.headerBytes msgLength ++ tail) 1 =
      .ok ((typeField p.method p.klass).setWidth 8) := rfl
  have hid : slice (p.headerBytes msgLength ++ tail) 8 12 = p.transactionIdBytes := by
    have hslice := slice_append (Byte.set2Bytes (typeField p.method p.klass) ++
      (Byte.set2Bytes msgLength ++ magicCookie)) p.transactionIdBytes tail
    rw [transactionIdBytes, Byte.length_bytesOf] at hslice
    rw [headerBytes]
    simp only [List.append_assoc] at hslice ⊢
    exact hslice
  have htransaction : BitVec.ofNat 96 (Byte.valueOf p.transactionIdBytes) = p.transactionId := by
    rw [transactionIdBytes, Byte.valueOf_bytesOf]
    apply BitVec.eq_of_toNat_eq
    rw [BitVec.toNat_ofNat]
    have hlt := p.transactionId.isLt
    omega
  have hfield : ¬(msgLength.toNat ≠ (p.headerBytes msgLength ++ tail).length - 20 ∨
      msgLength &&& 0x03 ≠ 0) := by
    rw [List.length_append, length_headerBytes, Nat.add_sub_cancel_left, hlength]
    have hlow : msgLength &&& 0x03 = 0 := by
      apply BitVec.eq_of_toNat_eq
      rw [Packing.toNat_and_mask (k := 2) _ rfl, hlength]
      exact hmod
    exact fun hor ↦ hor.elim (fun hne ↦ hne rfl) fun hne ↦ hne hlow
  have hmsgMethod : (typeField p.method p.klass &&& 0x000f) |||
      (typeField p.method p.klass &&& 0x00e0) >>> 1 |||
      (typeField p.method p.klass &&& 0x3E00) >>> 2 = p.method := by
    rw [hmethod]
    cases p.klass <;> decide
  have hclass : StunClass.ofBits
      ((((typeField p.method p.klass >>> 8).setWidth 8 : Byte) &&& 0x01) <<< 1 |||
      (((typeField p.method p.klass).setWidth 8 : Byte) &&& 0x10) >>> 4) = p.klass := by
    rw [hmethod]
    cases p.klass <;> decide
  rw [parse, isStun_header hmethod, htype, hlen, hfirst, hsecond]
  simp only [bind, Except.bind, not_true_eq_false, if_false, if_neg hfield, hmsgMethod, hclass, hid,
    htransaction]
  rfl

/-- **Parsing a message.** -/
theorem Serializable.parse_message (h : p.Serializable)
    {getHmacSha1 : List Byte → List Byte → List Byte} {getCrc32 : List Byte → BitVec 32}
    (hhmac : ∀ key data, (getHmacSha1 key data).length = 20) {body : List Byte}
    (hbody : Spells body (p.attributes.map Writer.tlvOf)) (hlength : body.length = p.attributesSize)
    (hsize : (p.messageBytes getHmacSha1 getCrc32 body).length = p.requiredSize) {rounds : ℕ}
    (hrounds : p.requiredSize ≤ rounds) :
    parse getCrc32 rounds (p.messageBytes getHmacSha1 getCrc32 body) =
      .ok (.packet (p.parsed (p.messageBytes getHmacSha1 getCrc32 body)
        (if p.addMessageIntegrity then some (20 + body.length + 4) else none))) := by
  have hspells := spells_message getCrc32 hhmac hbody
  have hmessage : p.messageBytes getHmacSha1 getCrc32 body =
      p.headerBytes (BitVec.ofNat 16 (p.requiredSize - 20)) ++
        (body ++ ((p.integrityTlvs getHmacSha1 body).flatMap Tlv.bytes ++
          (fingerprintTlv getCrc32 (p.authenticatedBytes getHmacSha1 body)).bytes)) := by
    rw [messageBytes, authenticatedBytes]
    simp only [List.append_assoc]
  have hheader := length_headerBytes p (BitVec.ofNat 16 (p.requiredSize - 20))
  have hrequired := h.requiredSize_eq
  have hsmall := h.attributesSize_le
  have hite : (if p.addMessageIntegrity then 24 else 0) ≤ 24 := by
    split
    · exact le_rfl
    · exact Nat.zero_le 24
  have htail := hspells.length
  have hmod := sum_size_mod (p.attributes.map Writer.tlvOf ++ (p.integrityTlvs getHmacSha1 body ++
    [fingerprintTlv getCrc32 (p.authenticatedBytes getHmacSha1 body)]))
  rw [← htail] at hmod
  have hbytes := congrArg List.length hmessage
  rw [hsize, List.length_append, hheader] at hbytes
  have hfield : (BitVec.ofNat 16 (p.requiredSize - 20)).toNat = (body ++
      ((p.integrityTlvs getHmacSha1 body).flatMap Tlv.bytes ++
        (fingerprintTlv getCrc32 (p.authenticatedBytes getHmacSha1 body)).bytes)).length := by
    rw [BitVec.toNat_ofNat, Nat.mod_eq_of_lt (by omega)]
    omega
  have hcount : (p.attributes.map Writer.tlvOf ++ (p.integrityTlvs getHmacSha1 body ++
      [fingerprintTlv getCrc32 (p.authenticatedBytes getHmacSha1 body)])).length ≤ rounds := by
    have hle := length_le_sum_size (p.attributes.map Writer.tlvOf ++
      (p.integrityTlvs getHmacSha1 body ++
        [fingerprintTlv getCrc32 (p.authenticatedBytes getHmacSha1 body)]))
    omega
  have hattributes : Parser.readTlvs
      { packet := p.created (p.messageBytes getHmacSha1 getCrc32 body) }
      (p.attributes.map Writer.tlvOf) = .ok (some
        { packet := p.fill (p.created (p.messageBytes getHmacSha1 getCrc32 body))
          pos := 20 + p.attributesSize }) :=
    h.reads_attributes rfl rfl rfl rfl rfl rfl { packet := _ } rfl rfl rfl
  have hend : 20 + p.attributesSize + (if p.addMessageIntegrity then 24 else 0) =
      (p.authenticatedBytes getHmacSha1 body).length := by
    have hauth := hsize
    rw [messageBytes, List.length_append] at hauth
    change _ + 8 = _ at hauth
    omega
  rw [hmessage, parse_header getCrc32 rounds h.method_eq hfield hmod,
    Parser.parseAttributes_of_spells getCrc32 hspells _ _ rounds hheader.symm
      (show 20 % 4 = 0 by decide) (by
      rw [List.length_append, hheader, ← hbytes]
      omega) hcount, ← hmessage, Parser.readTlvs_append, hattributes]
  have hlast := readTlvs_integrity (p := p) hhmac
    (computedFingerprint getCrc32 (p.authenticatedBytes getHmacSha1 body)) body
    (s := { packet := p.fill (p.created (p.messageBytes getHmacSha1 getCrc32 body))
            pos := 20 + p.attributesSize }) rfl rfl
  simp only [bind, Except.bind, fingerprintTlv, hlast]
  have hpos : 20 + p.attributesSize + (if p.addMessageIntegrity then 24 else 0) + 8 =
      (p.messageBytes getHmacSha1 getCrc32 body).length := by
    rw [hsize, hrequired]
  have htake : (p.messageBytes getHmacSha1 getCrc32 body).take
      (p.authenticatedBytes getHmacSha1 body).length = p.authenticatedBytes getHmacSha1 body :=
    List.take_left
  change Except.ok (Parser.finish getCrc32 _ _) = _
  rw [Parser.finish, if_neg (not_not.mpr hpos)]
  dsimp only
  rw [hend, htake, if_neg (not_not.mpr rfl), hlength]
  rfl

/-! ## Authentication -/

/-- The comparison leaves a packet alone whose length field is right. -/
theorem compareIntegrity_eq {getHmacSha1 : List Byte → List Byte → List Byte} {messageIntegrity : ℕ}
    (hdata : 4 ≤ p.data.length) (hposition : 4 ≤ messageIntegrity)
    (hfield : slice p.data 2 2 = Byte.set2Bytes (BitVec.ofNat 16 (p.size - 20)))
    (localPassword : List Byte) :
    p.compareIntegrity getHmacSha1 messageIntegrity localPassword =
      (if slice p.data messageIntegrity 20 =
          getHmacSha1 localPassword (p.authenticated messageIntegrity) then .ok
            else .unauthorized, p) := by
  unfold compareIntegrity authenticated
  by_cases hfingerprint : p.hasFingerprint = true
  · have hfits : 2 + (Byte.set2Bytes (BitVec.ofNat 16 (p.size - 20 - 8))).length ≤ p.data.length :=
      hdata
    have hrestored : splice (splice p.data 2 (Byte.set2Bytes (BitVec.ofNat 16 (p.size - 20 - 8)))) 2
        (Byte.set2Bytes (BitVec.ofNat 16 (p.size - 20))) = p.data := by
      have hwhole := splice_slice (i := 2) (n := 2) hdata
      rw [splice_splice hfits (Byte.length_set2Bytes _), ← hfield, hwhole]
    simp only [if_pos hfingerprint]
    rw [slice_splice_after hfits hposition, hrestored]
  · simp only [if_neg hfingerprint]

/-- **Checking in place** leaves a packet alone whose length field is right. -/
theorem checkAuthenticationInPlace_eq (getHmacSha1 : List Byte → List Byte → List Byte)
    (hdata : 4 ≤ p.data.length) (hposition : ∀ i, p.messageIntegrity = some i → 4 ≤ i)
    (hfield : slice p.data 2 2 = Byte.set2Bytes (BitVec.ofNat 16 (p.size - 20)))
    (localUsername localPassword : List Byte) :
    p.checkAuthenticationInPlace getHmacSha1 localUsername localPassword =
      (p.checkAuthentication getHmacSha1 localUsername localPassword, p) := by
  unfold checkAuthenticationInPlace checkAuthentication
  cases hintegrity : p.messageIntegrity with
  | none => cases p.klass <;> rfl
  | some messageIntegrity =>
    have hcompare : (if p.username = [] then (.badRequest, p)
        else if ¬p.namesLocal localUsername then (.unauthorized, p)
        else p.compareIntegrity getHmacSha1 messageIntegrity localPassword) =
        (if p.username = [] then Authentication.badRequest
        else if ¬p.namesLocal localUsername then .unauthorized
        else if slice p.data messageIntegrity 20 =
          getHmacSha1 localPassword (p.authenticated messageIntegrity) then .ok
        else .unauthorized, p) := by
      rw [compareIntegrity_eq hdata (hposition _ hintegrity) hfield]
      split
      · rfl
      · split
        · rfl
        · rfl
    cases p.klass with
    | request => exact hcompare
    | indication => exact hcompare
    | successResponse => rfl
    | errorResponse => rfl

theorem checkAuthentication_eq_ok {getHmacSha1 : List Byte → List Byte → List Byte}
    {localUsername localPassword : List Byte} {i : ℕ}
    (hklass : p.klass = .request ∨ p.klass = .indication)
    (hintegrity : p.messageIntegrity = some i) (husername : p.username ≠ [])
    (hnamed : p.namesLocal localUsername = true)
    (hhmac : slice p.data i 20 = getHmacSha1 localPassword (p.authenticated i)) :
    p.checkAuthentication getHmacSha1 localUsername localPassword = .ok := by
  have hcheck : (if p.username = [] then Authentication.badRequest
      else if ¬p.namesLocal localUsername then .unauthorized
      else if slice p.data i 20 = getHmacSha1 localPassword (p.authenticated i) then .ok
      else .unauthorized) = .ok := by
    rw [if_neg husername, if_neg (not_not.mpr hnamed), if_pos hhmac]
  unfold checkAuthentication
  rw [hintegrity]
  rcases hklass with hklass | hklass
  · rw [hklass]
    exact hcheck
  · rw [hklass]
    exact hcheck

theorem checkAuthentication_response {getHmacSha1 : List Byte → List Byte → List Byte}
    {localUsername localPassword : List Byte}
    (hklass : p.klass = .successResponse ∨ p.klass = .errorResponse) :
    p.checkAuthentication getHmacSha1 localUsername localPassword = .badRequest := by
  unfold checkAuthentication
  rcases hklass with hklass | hklass
  · rw [hklass]
  · rw [hklass]

/-- A packet with what has been written of `p`. -/
structure ReadsBack (p r : StunPacket) : Prop where
  klass_eq : r.klass = p.klass
  method_eq : r.method = p.method
  transactionId_eq : r.transactionId = p.transactionId
  username_eq : r.username = p.username
  priority_eq : r.priority = p.priority
  iceControlling_eq : r.iceControlling = p.iceControlling
  iceControlled_eq : r.iceControlled = p.iceControlled
  hasUseCandidate_eq : r.hasUseCandidate = p.hasUseCandidate
  errorCode_eq : r.errorCode = if p.klass = .errorResponse then p.errorCode else 0
  messageIntegrity_iff : r.messageIntegrity.isSome ↔ p.klass ≠ .errorResponse ∧ p.password ≠ []
  hasFingerprint_eq : r.hasFingerprint = true

/-- How the check of the authentication ends for what is read of `p`, given the credentials it was
made with. -/
structure Authenticates (getHmacSha1 : List Byte → List Byte → List Byte) (p r : StunPacket) :
    Prop where
  /-- A request or an indication that names the local user and has been authenticated. -/
  ok : p.klass = .request ∨ p.klass = .indication → p.password ≠ [] →
    ∀ localUsername rest, p.username = localUsername ++ colon :: rest →
      (r.checkAuthenticationInPlace getHmacSha1 localUsername p.password).1 = .ok
  /-- Responses cannot be checked. -/
  badRequest : p.klass = .successResponse ∨ p.klass = .errorResponse →
    ∀ localUsername localPassword,
    (r.checkAuthenticationInPlace getHmacSha1 localUsername localPassword).1 = .badRequest
  /-- The packet is as before. -/
  unchanged : ∀ localUsername localPassword,
    (r.checkAuthenticationInPlace getHmacSha1 localUsername localPassword).2 = r

theorem addMessageIntegrity_iff (p : StunPacket) :
    p.addMessageIntegrity = true ↔ p.klass ≠ .errorResponse ∧ p.password ≠ [] := by
  rw [addMessageIntegrity, Bool.and_eq_true, decide_eq_true_iff, decide_eq_true_iff]

theorem splice_header (p : StunPacket) (msgLength msgLength' : BitVec 16) (tail : List Byte) :
    splice (p.headerBytes msgLength ++ tail) 2 (Byte.set2Bytes msgLength') =
      p.headerBytes msgLength' ++ tail := by
  have hsplice := splice_append (Byte.set2Bytes (typeField p.method p.klass))
    (Byte.set2Bytes msgLength ++ ((magicCookie ++ p.transactionIdBytes) ++ tail))
    (Byte.set2Bytes msgLength')
  rw [headerBytes, headerBytes]
  simp only [List.append_assoc] at hsplice ⊢
  exact hsplice

/-- The HMAC in a message is that of the bytes before it. -/
theorem integrity_message (getHmacSha1 : List Byte → List Byte → List Byte)
    (getCrc32 : List Byte → BitVec 32) (hhmac : ∀ key data, (getHmacSha1 key data).length = 20)
    {body : List Byte}
    (hsize : (p.messageBytes getHmacSha1 getCrc32 body).length = p.requiredSize)
    (hadd : p.addMessageIntegrity = true) {r : StunPacket}
    (hr : r = p.parsed (p.messageBytes getHmacSha1 getCrc32 body) (some (20 + body.length + 4))) :
    slice r.data (20 + body.length + 4) 20 =
      getHmacSha1 p.password (r.authenticated (20 + body.length + 4)) := by
  obtain ⟨last, hdata⟩ : ∃ last, r.data = p.headerBytes (BitVec.ofNat 16 (p.requiredSize - 20)) ++
      (body ++ (Tlv.bytes (StunAttribute.messageIntegrity.code, getHmacSha1 p.password
        (p.headerBytes (BitVec.ofNat 16 (p.requiredSize - 20 - 8)) ++ body)) ++ last)) := by
    refine ⟨(fingerprintTlv getCrc32 (p.authenticatedBytes getHmacSha1 body)).bytes, ?_⟩
    have hbytes : (p.integrityTlvs getHmacSha1 body).flatMap Tlv.bytes =
        Tlv.bytes (StunAttribute.messageIntegrity.code, getHmacSha1 p.password
          (p.headerBytes (BitVec.ofNat 16 (p.requiredSize - 20 - 8)) ++ body)) := by
      rw [integrityTlvs, if_pos hadd, List.flatMap_singleton]
    rw [hr, ← List.append_assoc body, ← List.append_assoc, ← hbytes]
    rfl
  have hauthenticated : r.authenticated (20 + body.length + 4) =
      p.headerBytes (BitVec.ofNat 16 (p.requiredSize - 20 - 8)) ++ body := by
    have hflag : r.hasFingerprint = true := by rw [hr]; rfl
    have hrsize : r.size = p.requiredSize := by rw [hr]; exact hsize
    rw [authenticated, if_pos hflag, hrsize, hdata, splice_header, Nat.add_sub_cancel,
      ← List.append_assoc]
    exact List.take_left' (by rw [List.length_append, length_headerBytes])
  have hlength := hhmac p.password
    (p.headerBytes (BitVec.ofNat 16 (p.requiredSize - 20 - 8)) ++ body)
  rw [hauthenticated, hdata]
  generalize getHmacSha1 p.password _ = hmac at hlength
  have hslice := slice_append (p.headerBytes (BitVec.ofNat 16 (p.requiredSize - 20)) ++ (body ++
    (Byte.set2Bytes StunAttribute.messageIntegrity.code ++
      Byte.set2Bytes (BitVec.ofNat 16 hmac.length)))) hmac last
  rw [List.length_append, length_headerBytes, List.length_append, List.length_append,
    Byte.length_set2Bytes, Byte.length_set2Bytes, hlength] at hslice
  rw [Tlv.bytes]
  simp only [List.append_assoc, Nat.add_assoc, Nat.reduceAdd, hlength] at hslice ⊢
  exact hslice

/-- What is read of a message of `p` is authenticated as `p` is. -/
theorem Serializable.authenticates_message (h : p.Serializable)
    {getHmacSha1 : List Byte → List Byte → List Byte} {getCrc32 : List Byte → BitVec 32}
    (hhmac : ∀ key data, (getHmacSha1 key data).length = 20) {body : List Byte}
    (hsize : (p.messageBytes getHmacSha1 getCrc32 body).length = p.requiredSize) :
    Authenticates getHmacSha1 p (p.parsed (p.messageBytes getHmacSha1 getCrc32 body)
      (if p.addMessageIntegrity then some (20 + body.length + 4) else none)) := by
  let r := p.parsed (p.messageBytes getHmacSha1 getCrc32 body)
    (if p.addMessageIntegrity then some (20 + body.length + 4) else none)
  have hlong : 4 ≤ r.data.length := by
    change 4 ≤ (p.messageBytes getHmacSha1 getCrc32 body).length
    rw [hsize, h.requiredSize_eq]
    omega
  have hposition : ∀ i, r.messageIntegrity = some i → 4 ≤ i := by
    intro i hi
    change (if p.addMessageIntegrity then some (20 + body.length + 4) else none) = some i at hi
    split at hi
    · cases hi
      exact Nat.le_add_left 4 _
    · cases hi
  have hfield : slice r.data 2 2 = Byte.set2Bytes (BitVec.ofNat 16 (r.size - 20)) := by
    change slice (p.messageBytes getHmacSha1 getCrc32 body) 2 2 = Byte.set2Bytes (BitVec.ofNat 16
      ((p.messageBytes getHmacSha1 getCrc32 body).length - 20))
    rw [hsize, messageBytes, authenticatedBytes, headerBytes]
    simp only [List.append_assoc]
    exact slice_append (Byte.set2Bytes (typeField p.method p.klass)) _ _
  have hcheck := checkAuthenticationInPlace_eq (p := r) getHmacSha1 hlong hposition hfield
  refine ⟨fun hklass hpassword localUsername rest husername ↦ ?_,
    fun hklass localUsername localPassword ↦ ?_,
    fun localUsername localPassword ↦ congrArg Prod.snd (hcheck localUsername localPassword)⟩
  · have hadd : p.addMessageIntegrity = true := by
      rw [addMessageIntegrity_iff]
      refine ⟨fun herror ↦ ?_, hpassword⟩
      rw [herror] at hklass
      exact hklass.elim nofun nofun
    have hr : r = p.parsed (p.messageBytes getHmacSha1 getCrc32 body)
        (some (20 + body.length + 4)) :=
      congrArg (p.parsed _) (if_pos hadd)
    have hintegrity := integrity_message getHmacSha1 getCrc32 hhmac hsize hadd hr
    have hnamed : r.namesLocal localUsername = true := by
      change decide (p.username.take (localUsername.length + 1) = localUsername ++ [colon]) = true
      rw [husername, decide_eq_true_iff, List.append_cons]
      exact List.take_left' List.length_append
    have hne : p.username ≠ [] := by
      rw [husername]
      exact List.append_ne_nil_of_right_ne_nil _ (List.cons_ne_nil _ _)
    rw [hcheck localUsername p.password]
    exact checkAuthentication_eq_ok hklass (if_pos hadd) hne hnamed hintegrity
  · rw [hcheck localUsername localPassword]
    exact checkAuthentication_response hklass

/-- **Round trip.** The bytes of a packet are read back as a packet with the same members, whose
authentication is checked as that of the packet they were made of. -/
theorem serialize_parse (getHmacSha1 : List Byte → List Byte → List Byte)
    (getCrc32 : List Byte → BitVec 32) (hhmac : ∀ key data, (getHmacSha1 key data).length = 20)
    (p : StunPacket) (h : p.Serializable) (buffer : List Byte)
    (hroom : p.requiredSize ≤ buffer.length) :
    ∃ q, p.serialize getHmacSha1 getCrc32 buffer = .ok q ∧
      ∀ rounds, q.size ≤ rounds → ∃ r, parse getCrc32 rounds q.data = .ok (.packet r) ∧
        r.data = q.data ∧ r.size = q.size ∧ ReadsBack p r ∧ Authenticates getHmacSha1 p r := by
  obtain ⟨body, hbody, hlength, hsize, hserialize⟩ :=
    h.serialize_eq getCrc32 hhmac hroom
  refine ⟨_, hserialize, fun rounds hrounds ↦ ?_⟩
  refine ⟨_, h.parse_message hhmac hbody hlength hsize hrounds, rfl, hsize, ?_, ?_⟩
  · refine ⟨rfl, rfl, rfl, rfl, rfl, rfl, rfl, rfl, rfl, ?_, rfl⟩
    rw [← addMessageIntegrity_iff]
    change (if p.addMessageIntegrity then some (20 + body.length + 4) else none).isSome = true ↔ _
    split
    · rename_i hadd
      exact iff_of_true rfl hadd
    · rename_i hadd
      exact iff_of_false nofun hadd
  · exact h.authenticates_message hhmac hsize

/-- A binding request of "u:r" with the password "p". -/
def bindingRequest : StunPacket where
  klass := .request
  method := binding
  transactionId := 0x0102030405060708090A0B0C
  username := [117, 58, 114]
  priority := 1
  hasUseCandidate := true
  password := [112]

/-- The HMAC of that request. -/
def bindingHmac (_key _data : List Byte) : List Byte :=
  [119, 85, 236, 1, 238, 40, 86, 147, 71, 86, 113, 56, 33, 155, 239, 182, 133, 179, 134, 23]

/-- The CRC32 of that request. -/
def bindingCrc32 (_data : List Byte) : BitVec 32 := 0xEB920BA3

/-- The request is read back and its authentication is accepted. -/
theorem serialize_parse_request : ∃ q, bindingRequest.serialize bindingHmac bindingCrc32
    (List.replicate 100 0) = .ok q ∧ ∃ r, parse bindingCrc32 q.size q.data = .ok (.packet r) ∧
      r.username = [117, 58, 114] ∧ (r.checkAuthenticationInPlace bindingHmac [117] [112]).1 =
        .ok := by
  have hroom : bindingRequest.requiredSize ≤ (List.replicate 100 (0 : Byte)).length := by decide
  obtain ⟨q, hq, hparse⟩ := serialize_parse bindingHmac bindingCrc32 (fun _ _ ↦ rfl) bindingRequest
    ⟨rfl, by decide, Or.inl rfl⟩ (List.replicate 100 0) hroom
  obtain ⟨r, hr, -, -, hback, hauth⟩ := hparse q.size le_rfl
  exact ⟨q, hq, r, hr, hback.username_eq, hauth.ok (Or.inl rfl) nofun [117] [114] rfl⟩

/-- The authentication of a response cannot be checked, and only an error response has an error
code. -/
theorem serialize_parse_response : ¬∀ (getHmacSha1 : List Byte → List Byte → List Byte)
    (getCrc32 : List Byte → BitVec 32), (∀ key data, (getHmacSha1 key data).length = 20) →
    ∀ (p q r : StunPacket) (localUsername rest : List Byte), p.Serializable → p.password ≠ [] →
      p.username = localUsername ++ colon :: rest →
      p.serialize getHmacSha1 getCrc32 (List.replicate 100 0) = .ok q →
      parse getCrc32 q.size q.data = .ok (.packet r) →
      r.errorCode = p.errorCode ∧
        (r.checkAuthenticationInPlace getHmacSha1 localUsername p.password).1 = .ok := by
  intro hall
  let getHmacSha1 : List Byte → List Byte → List Byte := fun _ _ ↦
    [101, 63, 168, 122, 254, 43, 56, 219, 210, 184, 226, 47, 168, 189, 89, 153, 135, 61, 152, 214]
  let getCrc32 : List Byte → BitVec 32 := fun _ ↦ 0xC2C48C68
  let p : StunPacket := {
    klass := .successResponse
    method := binding
    transactionId := 0x0102030405060708090A0B0C
    username := [117, 58, 114]
    errorCode := 400
    password := [112] }
  obtain ⟨q, hq, _, hr, r, rfl, hcode⟩ :
      ∃ q, p.serialize getHmacSha1 getCrc32 (List.replicate 100 0) = .ok q ∧
        ∃ outcome, parse getCrc32 q.size q.data = .ok outcome ∧
          ∃ r, outcome = .packet r ∧ r.errorCode ≠ 400 := by
    decide +kernel
  exact hcode (hall getHmacSha1 getCrc32 (fun _ _ ↦ rfl) p q r [117] [114]
    ⟨rfl, by decide, Or.inr (by decide)⟩ (List.cons_ne_nil _ _) rfl hq hr).1


end StunPacket

end MediasoupSfu
