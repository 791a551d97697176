import MediasoupSfu.Ice.StunRoundTrip

/-!
# What the STUN parser accepts

`Parse` gets any bytes. Here it is compared with a grammar that knows no positions: the attributes
fill the message (`Spells`), each has a length that its type allows, and their order keeps
FINGERPRINT last and lets nothing else follow MESSAGE-INTEGRITY (`Rules`).

Bytes that spell no attributes have one whose length exceeds what is left, and there the loop stops
(`parseAttributes_of_not_spells`). On those that do, the flags of the loop say what has been read so
far (`ReadSoFar`), so that it stops exactly where a rule is broken (`readTlvs_iff`). As the message
has a multiple of four bytes and less than 2 ^ 16 of them, its 16-bit position does not come round.
-/

namespace MediasoupSfu

open Memory

theorem StunAttribute.eq_code {attrType : BitVec 16} {attr : StunAttribute}
    (h : ofCode attrType = some attr) : attrType = attr.code := by
  rw [ofCode] at h
  have hcode := List.find?_some h
  exact (of_decide_eq_true hcode).symm

namespace StunPacket

/-! ## The rules -/

/-- The type of an attribute allows the length of its value. -/
def LengthAllowed (tlv : Tlv) : Prop :=
  match StunAttribute.ofCode tlv.1 with
  | some .priority | some .fingerprint => tlv.2.length = 4
  | some .iceControlling | some .iceControlled => tlv.2.length = 8
  | some .useCandidate => tlv.2.length = 0
  | some .messageIntegrity => tlv.2.length = 20
  | some .errorCode => 4 ≤ tlv.2.length
  | some .username | some .xorMappedAddress | none => True

/-- The second attribute may come behind the first one. -/
def MayFollow (first second : Tlv) : Prop :=
  first.1 ≠ StunAttribute.fingerprint.code ∧
    (first.1 = StunAttribute.messageIntegrity.code → second.1 = StunAttribute.fingerprint.code)

/-- Lengths and order. -/
structure Rules (tlvs : List Tlv) : Prop where
  lengths : ∀ tlv ∈ tlvs, LengthAllowed tlv
  order : tlvs.Pairwise MayFollow

/-- Where an attribute begins. -/
def positionBehind (tlvs : List Tlv) : ℕ := 20 + (tlvs.map Tlv.size).sum

/-- The FINGERPRINT, if there is one, is the CRC of the bytes before it. -/
def FingerprintMatches (getCrc32 : List Byte → BitVec 32) (data : List Byte) (tlvs : List Tlv) :
    Prop :=
  ∀ pre value post, tlvs = pre ++ (StunAttribute.fingerprint.code, value) :: post →
    value = Byte.set4Bytes (computedFingerprint getCrc32 (data.take (positionBehind pre)))

/-- The messages that the parser is meant to accept, with their attributes. -/
structure WellFormed (getCrc32 : List Byte → BitVec 32) (data : List Byte) (tlvs : List Tlv) :
    Prop where
  /-- The header has 20 bytes. -/
  size : 20 ≤ data.length
  first : ∀ b ∈ data.head?, b < 3
  cookie : slice data 4 4 = magicCookie
  /-- The length field counts what is behind the header. -/
  length : slice data 2 2 = Byte.set2Bytes (BitVec.ofNat 16 (data.length - 20))
  multiple : (data.length - 20) % 4 = 0
  /-- The attributes fill the message. -/
  spells : Spells (data.drop 20) tlvs
  rules : Rules tlvs
  fingerprint : FingerprintMatches getCrc32 data tlvs

theorem positionBehind_append (pre : List Tlv) (tlv : Tlv) :
    positionBehind (pre ++ [tlv]) = positionBehind pre + tlv.size := by
  rw [positionBehind, positionBehind, List.map_append, List.sum_append, List.map_singleton,
    List.sum_singleton, Nat.add_assoc]

theorem Rules.of_append {pre post : List Tlv} (h : Rules (pre ++ post)) : Rules pre :=
  ⟨fun tlv htlv ↦ h.lengths tlv (List.mem_append_left _ htlv), (List.pairwise_append.mp h.order).1⟩

theorem rules_concat_iff {pre : List Tlv} {tlv : Tlv} :
    Rules (pre ++ [tlv]) ↔ Rules pre ∧ LengthAllowed tlv ∧ ∀ other ∈ pre, MayFollow other tlv := by
  constructor
  · intro h
    refine ⟨h.of_append, h.lengths tlv (by simp), fun other hother ↦ ?_⟩
    exact (List.pairwise_append.mp h.order).2.2 other hother tlv (List.mem_singleton_self tlv)
  · rintro ⟨hpre, hlength, hfollow⟩
    refine ⟨fun other hother ↦ ?_, List.pairwise_append.mpr ⟨hpre.order,
      List.pairwise_singleton _ _, fun other hother last hlast ↦ ?_⟩⟩
    · rcases List.mem_append.mp hother with hother | hother
      · exact hpre.lengths other hother
      · rwa [List.mem_singleton.mp hother]
    · rw [List.mem_singleton.mp hlast]
      exact hfollow other hother

namespace Parser

/-! ## One attribute -/

theorem get8Bytes_of_length {data : List Byte} (h : data.length = 8) :
    ∃ value, Byte.get8Bytes data 0 = .ok value := by
  obtain ⟨high, hhigh⟩ := get4Bytes_of_lt data 0 (by omega)
  obtain ⟨low, hlow⟩ := get4Bytes_of_lt data 4 (by omega)
  rw [Byte.get8Bytes, hhigh, hlow]
  exact ⟨_, rfl⟩

/-- Four bytes are those of a number. -/
theorem exists_set4Bytes {data : List Byte} (h : data.length = 4) :
    ∃ value, Byte.get4Bytes data 0 = .ok value ∧ data = Byte.set4Bytes value := by
  match data, h with
  | [a, b, c, d], _ =>
    refine ⟨Byte.join4 a b c d, rfl, ?_⟩
    have htoNat := Byte.join4_toNat a b c d
    have ha : ((Byte.join4 a b c d) >>> 24).setWidth 8 = a := by bv_omega
    have hb : ((Byte.join4 a b c d) >>> 16).setWidth 8 = b := by bv_omega
    have hc : ((Byte.join4 a b c d) >>> 8).setWidth 8 = c := by bv_omega
    have hd : (Byte.join4 a b c d).setWidth 8 = d := by bv_omega
    rw [Byte.set4Bytes, ha, hb, hc, hd]

/-- What reading a value does to the flags. -/
structure ReadsValue (s : Parser) (tlv : Tlv) (t : Parser) : Prop where
  integrity : t.hasMessageIntegrity = true ↔
    s.hasMessageIntegrity = true ∨ tlv.1 = StunAttribute.messageIntegrity.code
  fingerprint : tlv.1 = StunAttribute.fingerprint.code →
    ∃ v, tlv.2 = Byte.set4Bytes v ∧ t.fingerprint = some (s.pos, v)
  other : tlv.1 ≠ StunAttribute.fingerprint.code → t.fingerprint = s.fingerprint

/-- The flags stay as they are. -/
theorem readsValue_of_other {s t : Parser} {tlv : Tlv} {attr : Option StunAttribute}
    (hattr : StunAttribute.ofCode tlv.1 = attr) (hintegrity : attr ≠ some .messageIntegrity)
    (hfingerprint : attr ≠ some .fingerprint)
    (h : t.hasMessageIntegrity = s.hasMessageIntegrity) (h' : t.fingerprint = s.fingerprint) :
    ReadsValue s tlv t where
  integrity := by
    rw [h, or_iff_left]
    rintro heq
    rw [heq, StunAttribute.ofCode_code] at hattr
    exact hintegrity hattr.symm
  fingerprint heq := by
    rw [heq, StunAttribute.ofCode_code] at hattr
    exact absurd hattr.symm hfingerprint
  other _ := h'

/-- An attribute is read if its length is allowed. -/
theorem readValue_cases (s : Parser) (tlv : Tlv) :
    (LengthAllowed tlv ∧ ∃ t, s.readValue tlv.1 tlv.2 = .ok (some t) ∧ ReadsValue s tlv t) ∨
    (¬LengthAllowed tlv ∧ s.readValue tlv.1 tlv.2 = .ok none) := by
  rw [readValue, LengthAllowed]
  cases hattr : StunAttribute.ofCode tlv.1 with
  | none => exact Or.inl ⟨trivial, s, rfl, readsValue_of_other hattr nofun nofun rfl rfl⟩
  | some attr =>
    cases attr with
    | username => exact Or.inl ⟨trivial, _, rfl, readsValue_of_other hattr nofun nofun rfl rfl⟩
    | xorMappedAddress =>
      exact Or.inl ⟨trivial, s, rfl, readsValue_of_other hattr nofun nofun rfl rfl⟩
    | priority =>
      by_cases hlength : tlv.2.length = 4
      · obtain ⟨value, hvalue, -⟩ := exists_set4Bytes hlength
        refine Or.inl ⟨hlength, { s with packet.priority := value }, ?_,
          readsValue_of_other hattr nofun nofun rfl rfl⟩
        simp only [hlength, hvalue, ne_eq, not_true_eq_false, if_false]
        rfl
      · exact Or.inr ⟨hlength, if_pos hlength⟩
    | iceControlling =>
      by_cases hlength : tlv.2.length = 8
      · obtain ⟨value, hvalue⟩ := get8Bytes_of_length hlength
        refine Or.inl ⟨hlength, { s with packet.iceControlling := value }, ?_,
          readsValue_of_other hattr nofun nofun rfl rfl⟩
        simp only [hlength, hvalue, ne_eq, not_true_eq_false, if_false]
        rfl
      · exact Or.inr ⟨hlength, if_pos hlength⟩
    | iceControlled =>
      by_cases hlength : tlv.2.length = 8
      · obtain ⟨value, hvalue⟩ := get8Bytes_of_length hlength
        refine Or.inl ⟨hlength, { s with packet.iceControlled := value }, ?_,
          readsValue_of_other hattr nofun nofun rfl rfl⟩
        simp only [hlength, hvalue, ne_eq, not_true_eq_false, if_false]
        rfl
      · exact Or.inr ⟨hlength, if_pos hlength⟩
    | useCandidate =>
      by_cases hlength : tlv.2.length = 0
      · exact Or.inl ⟨hlength, _, if_neg (not_not_intro hlength),
          readsValue_of_other hattr nofun nofun rfl rfl⟩
      · exact Or.inr ⟨hlength, if_pos hlength⟩
    | errorCode =>
      by_cases hlength : 4 ≤ tlv.2.length
      · let errorCode :=
          BitVec.ofNat 16 ((tlv.2.getD 2 0).toNat * 100 + (tlv.2.getD 3 0).toNat)
        refine Or.inl ⟨hlength, { s with packet.errorCode := errorCode }, ?_,
          readsValue_of_other hattr nofun nofun rfl rfl⟩
        simp only [Nat.not_lt.mpr hlength, if_false,
          get1Byte_of_lt (show 2 < tlv.2.length by omega),
          get1Byte_of_lt (show 3 < tlv.2.length by omega)]
        rfl
      · exact Or.inr ⟨hlength, if_pos (by omega)⟩
    | messageIntegrity =>
      have htype := StunAttribute.eq_code hattr
      by_cases hlength : tlv.2.length = 20
      · refine Or.inl ⟨hlength, _, if_neg (not_not_intro hlength), ?_, ?_, fun _ ↦ rfl⟩
        · exact iff_of_true rfl (Or.inr htype)
        · rw [htype]
          exact nofun
      · exact Or.inr ⟨hlength, if_pos hlength⟩
    | fingerprint =>
      by_cases hlength : tlv.2.length = 4
      · obtain ⟨value, hvalue, hbytes⟩ := exists_set4Bytes hlength
        refine Or.inl ⟨hlength, { s with
          fingerprint := some (s.pos, value)
          packet.hasFingerprint := true }, ?_, ?_, fun _ ↦ ⟨value, hbytes, rfl⟩,
          fun hother ↦ absurd (StunAttribute.eq_code hattr) hother⟩
        · simp only [hlength, hvalue, ne_eq, not_true_eq_false, if_false]
          rfl
        · rw [StunAttribute.eq_code hattr]
          exact (or_iff_left nofun).symm
      · exact Or.inr ⟨hlength, if_pos hlength⟩

/-! ## A sequence of attributes -/

/-- What the loop knows of the attributes that have been read. -/
structure ReadSoFar (s : Parser) (tlvs : List Tlv) : Prop where
  rules : Rules tlvs
  pos : s.pos = positionBehind tlvs
  integrity : s.hasMessageIntegrity = true ↔
    ∃ tlv ∈ tlvs, tlv.1 = StunAttribute.messageIntegrity.code
  fingerprint : ∀ position v, s.fingerprint = some (position, v) → ∃ pre,
    tlvs = pre ++ [(StunAttribute.fingerprint.code, Byte.set4Bytes v)] ∧
      position = positionBehind pre
  noFingerprint : s.fingerprint = none → ∀ tlv ∈ tlvs, tlv.1 ≠ StunAttribute.fingerprint.code

/-- The flags tell whether the next attribute may follow. -/
theorem ReadSoFar.mayFollow_iff {s : Parser} {pre : List Tlv} (h : ReadSoFar s pre) (tlv : Tlv) :
    (∀ other ∈ pre, MayFollow other tlv) ↔ s.fingerprint = none ∧
      (s.hasMessageIntegrity = true → tlv.1 = StunAttribute.fingerprint.code) := by
  constructor
  · intro hfollow
    constructor
    · cases hfingerprint : s.fingerprint with
      | none => rfl
      | some found =>
        obtain ⟨q, rfl, -⟩ := h.fingerprint found.1 found.2 hfingerprint
        exact absurd rfl (hfollow _ (List.mem_append_right q (List.mem_singleton_self _))).1
    · intro hintegrity
      obtain ⟨other, hother, htype⟩ := h.integrity.mp hintegrity
      exact (hfollow other hother).2 htype
  · rintro ⟨hnone, hintegrity⟩ other hother
    exact ⟨h.noFingerprint hnone other hother,
      fun htype ↦ hintegrity (h.integrity.mpr ⟨other, hother, htype⟩)⟩

/-- One more attribute is read exactly if the rules allow it. -/
theorem ReadSoFar.readTlv_cases {s : Parser} {pre : List Tlv} (h : ReadSoFar s pre) (tlv : Tlv) :
    (∃ t, s.readTlv tlv = .ok (some t) ∧ ReadSoFar t (pre ++ [tlv])) ∨
      (s.readTlv tlv = .ok none ∧ ¬Rules (pre ++ [tlv])) := by
  have hrules : Rules (pre ++ [tlv]) ↔ LengthAllowed tlv ∧ s.fingerprint = none ∧
      (s.hasMessageIntegrity = true → tlv.1 = StunAttribute.fingerprint.code) := by
    rw [rules_concat_iff, and_iff_right h.rules, h.mayFollow_iff]
  rw [readTlv, hrules]
  by_cases hfingerprint : s.fingerprint = none
  swap
  · rw [if_pos (Option.isSome_iff_ne_none.mpr hfingerprint)]
    exact Or.inr ⟨rfl, fun hall ↦ hfingerprint hall.2.1⟩
  rw [if_neg (by rw [hfingerprint]; exact Bool.false_ne_true)]
  by_cases hintegrity : s.hasMessageIntegrity = true ∧ tlv.1 ≠ StunAttribute.fingerprint.code
  · rw [if_pos hintegrity]
    exact Or.inr ⟨rfl, fun hall ↦ hintegrity.2 (hall.2.2 hintegrity.1)⟩
  rw [if_neg hintegrity]
  rcases readValue_cases s tlv with ⟨hallowed, t, hread, ht⟩ | ⟨hallowed, hread⟩
  · have hnext := hrules.mpr ⟨hallowed, hfingerprint,
      fun hset ↦ not_ne_iff.mp fun hne ↦ hintegrity ⟨hset, hne⟩⟩
    rw [hread]
    refine Or.inl ⟨{ t with pos := s.pos + tlv.size }, rfl, hnext, ?_, ?_, ?_, ?_⟩
    · rw [positionBehind_append, ← h.pos]
    · rw [show Parser.hasMessageIntegrity { t with pos := s.pos + tlv.size } =
        t.hasMessageIntegrity from rfl, ht.integrity, h.integrity]
      simp only [List.mem_append, List.mem_singleton, or_and_right, exists_or, exists_eq_left]
    · intro position v hv
      by_cases htype : tlv.1 = StunAttribute.fingerprint.code
      · obtain ⟨w, hbytes, hw⟩ := ht.fingerprint htype
        cases hw.symm.trans hv
        refine ⟨pre, ?_, h.pos⟩
        rw [← htype, ← hbytes]
      · have hold := ht.other htype
        rw [hfingerprint] at hold
        cases hold.symm.trans hv
    · intro hnone other hother
      rcases List.mem_append.mp hother with hother | hother
      · exact h.noFingerprint hfingerprint other hother
      · rw [List.mem_singleton.mp hother]
        intro htype
        obtain ⟨w, -, hw⟩ := ht.fingerprint htype
        cases hw.symm.trans hnone
  · rw [hread]
    exact Or.inr ⟨rfl, fun hall ↦ hallowed hall.1⟩

/-- The attributes are read exactly if they follow the rules. -/
theorem ReadSoFar.readTlvs_cases (tlvs : List Tlv) : ∀ {s : Parser} {pre : List Tlv},
    ReadSoFar s pre →
    (∃ t, s.readTlvs tlvs = .ok (some t) ∧ ReadSoFar t (pre ++ tlvs)) ∨
      (s.readTlvs tlvs = .ok none ∧ ¬Rules (pre ++ tlvs)) := by
  induction tlvs with
  | nil =>
    intro s pre h
    refine Or.inl ⟨s, rfl, ?_⟩
    rwa [List.append_nil]
  | cons tlv tlvs ih =>
    intro s pre h
    rw [readTlvs, List.append_cons]
    rcases h.readTlv_cases tlv with ⟨t, hread, ht⟩ | ⟨hread, hrules⟩
    · rw [hread]
      exact ih ht
    · rw [hread]
      exact Or.inr ⟨rfl, fun hall ↦ hrules hall.of_append⟩

/-! ## Bytes that spell no attributes -/

theorem exists_set2Bytes (a b : Byte) : ∃ value, [a, b] = Byte.set2Bytes value := by
  refine ⟨Byte.join2 a b, ?_⟩
  have htoNat := Byte.join2_toNat a b
  have ha : ((Byte.join2 a b) >>> 8).setWidth 8 = a := by bv_omega
  have hb : (Byte.join2 a b).setWidth 8 = b := by bv_omega
  rw [Byte.set2Bytes, ha, hb]

/-- The head of an attribute is followed by its value and padding, or by too few bytes. -/
theorem head_cases {bytes : List Byte} (hpos : 4 ≤ bytes.length) (hmod : bytes.length % 4 = 0) :
    (∃ attrType attrLength rest, bytes =
        Byte.set2Bytes attrType ++ (Byte.set2Bytes attrLength ++ rest) ∧
        rest.length < attrLength.toNat) ∨
      ∃ tlv padding rest, bytes = Tlv.bytes tlv ++ (padding ++ rest) ∧ tlv.2.length < 2 ^ 16 ∧
        tlv.2.length + padding.length = paddedSize tlv.2.length := by
  match bytes, hpos with
  | a :: b :: c :: d :: rest, _ =>
    obtain ⟨attrType, hattrType⟩ := exists_set2Bytes a b
    obtain ⟨attrLength, hattrLength⟩ := exists_set2Bytes c d
    have hbytes : a :: b :: c :: d :: rest =
        Byte.set2Bytes attrType ++ (Byte.set2Bytes attrLength ++ rest) := by
      rw [← hattrType, ← hattrLength]
      rfl
    by_cases hshort : rest.length < attrLength.toNat
    · exact Or.inl ⟨attrType, attrLength, rest, hbytes, hshort⟩
    · have hlength : (rest.take attrLength.toNat).length = attrLength.toNat := by
        rw [List.length_take]
        omega
      have hlt := attrLength.isLt
      have hrest : (a :: b :: c :: d :: rest).length = rest.length + 4 := rfl
      set padding := (rest.drop attrLength.toNat).take
        (paddedSize attrLength.toNat - attrLength.toNat) with hpadding
      refine Or.inr ⟨(attrType, rest.take attrLength.toNat), padding,
        rest.drop (paddedSize attrLength.toNat), ?_, by rw [hlength]; exact hlt, ?_⟩
      · have hsplit : rest = rest.take attrLength.toNat ++
            (padding ++ rest.drop (paddedSize attrLength.toNat)) := by
          have hdrop : rest.drop (paddedSize attrLength.toNat) =
              (rest.drop attrLength.toNat).drop
                (paddedSize attrLength.toNat - attrLength.toNat) := by
            rw [List.drop_drop]
            congr 1
            rw [paddedSize]
            omega
          rw [hdrop, hpadding, List.take_append_drop, List.take_append_drop]
        rw [hbytes, Tlv.bytes, hlength, BitVec.ofNat_toNat, BitVec.setWidth_eq, List.append_assoc,
          List.append_assoc, ← hsplit]
      · rw [hlength, hpadding, List.length_take, List.length_drop, paddedSize]
        omega

/-- **Unfilled messages.** If the bytes spell no attributes then the message is discarded. -/
theorem parseAttributes_of_not_spells (getCrc32 : List Byte → BitVec 32) : ∀ (rounds : ℕ)
    {s : Parser} {tlvs : List Tlv} {front bytes : List Byte}, ReadSoFar s tlvs →
    s.pos = front.length → s.pos % 4 = 0 → bytes.length % 4 = 0 →
    (front ++ bytes).length + 3 < 2 ^ 16 → bytes.length ≤ rounds →
    (∀ tlvs, ¬Spells bytes tlvs) →
    s.parseAttributes getCrc32 (front ++ bytes) rounds = .ok .discarded := by
  intro rounds
  induction rounds with
  | zero =>
    intro s tlvs front bytes _ _ _ _ _ hrounds hspells
    rw [List.eq_nil_of_length_eq_zero (Nat.le_zero.mp hrounds)] at hspells
    exact absurd .nil (hspells [])
  | succ rounds ih =>
    intro s tlvs front bytes hs hfront hmod hmod' hbound hrounds hspells
    have hne : bytes ≠ [] := fun hnil ↦ hspells [] (hnil ▸ .nil)
    have hpos := List.length_pos_iff.mpr hne
    have hlength : (front ++ bytes).length = s.pos + bytes.length := by
      rw [List.length_append, hfront]
    rw [parseAttributes, if_pos (by omega)]
    rcases head_cases (by omega) hmod' with
      ⟨attrType, attrLength, rest, rfl, hshort⟩ | ⟨tlv, padding, rest, rfl, hlong, hpadding⟩
    · have htype := Byte.get2Bytes_append front (Byte.set2Bytes attrLength ++ rest) attrType
      have hlen := Byte.get2Bytes_append (front ++ Byte.set2Bytes attrType) rest attrLength
      rw [List.append_assoc, List.length_append, Byte.length_set2Bytes] at hlen
      have htotal :
          (front ++ (Byte.set2Bytes attrType ++ (Byte.set2Bytes attrLength ++ rest))).length =
            front.length + 4 + rest.length := by
        simp only [List.length_append, Byte.length_set2Bytes]
        omega
      rw [parseAttribute, hfront, htype, hlen]
      dsimp only [bind, Except.bind]
      rw [if_pos (by omega)]
      rfl
    · have hsize : tlv.size + rest.length = (tlv.bytes ++ (padding ++ rest)).length := by
        rw [List.length_append, List.length_append, length_tlv_bytes, Tlv.size, ← hpadding]
        omega
      have hle : 4 + tlv.2.length ≤ tlv.size := by
        rw [Tlv.size, ← hpadding]
        omega
      have hsizeMod : tlv.size % 4 = 0 := by
        rw [Tlv.size, paddedSize]
        omega
      rw [parseAttribute_eq hlong hfront, readAttribute_eq hmod (by omega)]
      rcases hs.readTlv_cases tlv with ⟨t, hread, ht⟩ | ⟨hread, -⟩
      · have hposition : t.pos = (front ++ (tlv.bytes ++ padding)).length := by
          rw [ht.pos, positionBehind_append, ← hs.pos, List.length_append, List.length_append,
            length_tlv_bytes, hfront, Tlv.size, ← hpadding]
          omega
        have hnext := @ih t _ _ rest ht hposition
        rw [List.append_assoc, List.append_assoc] at hnext
        rw [hread]
        refine hnext ?_ (by omega) hbound (by omega) fun others hothers ↦
          hspells (tlv :: others) (.cons hlong hpadding hothers)
        rw [ht.pos, positionBehind_append, ← hs.pos]
        omega
      · rw [hread]
        rfl

/-! ## The whole message -/

/-- Behind the attributes only the FINGERPRINT is checked. -/
theorem ReadSoFar.finish_iff {s : Parser} {tlvs : List Tlv} (h : ReadSoFar s tlvs)
    (getCrc32 : List Byte → BitVec 32) {data : List Byte} (hpos : s.pos = data.length) :
    s.finish getCrc32 data ≠ .unfinished ∧
      ((∃ packet, s.finish getCrc32 data = .packet packet) ↔
        FingerprintMatches getCrc32 data tlvs) := by
  rw [finish, if_neg (not_not_intro hpos)]
  cases hfingerprint : s.fingerprint with
  | none =>
    refine ⟨ParseOutcome.packet_ne_unfinished _, iff_of_true ⟨s.packet, rfl⟩
      fun pre value post hsplit ↦ ?_⟩
    refine absurd rfl (h.noFingerprint hfingerprint (StunAttribute.fingerprint.code, value) ?_)
    rw [hsplit]
    exact List.mem_append_right pre List.mem_cons_self
  | some found =>
    obtain ⟨position, v⟩ := found
    obtain ⟨q, rfl, rfl⟩ := h.fingerprint position v hfingerprint
    dsimp only
    -- FINGERPRINT is the last attribute and the only one of its type
    have hlast : ∀ pre value post, q ++ [(StunAttribute.fingerprint.code, Byte.set4Bytes v)] =
        pre ++ (StunAttribute.fingerprint.code, value) :: post →
        pre = q ∧ value = Byte.set4Bytes v := by
      intro pre value post hsplit
      rcases List.eq_nil_or_concat post with rfl | ⟨post, last, rfl⟩
      · obtain ⟨rfl, hend⟩ := List.append_inj' hsplit rfl
        cases hend
        exact ⟨rfl, rfl⟩
      · rw [List.concat_eq_append, ← List.cons_append, ← List.append_assoc] at hsplit
        obtain ⟨rfl, -⟩ := List.append_inj' hsplit rfl
        have horder := h.rules.order
        rw [List.append_assoc] at horder
        have hfollow := (List.pairwise_append.mp horder).2.1
        rw [List.cons_append] at hfollow
        exact absurd rfl ((List.pairwise_cons.mp hfollow).1 _
          (List.mem_append_right post (List.mem_singleton_self _))).1
    by_cases hsame : v = computedFingerprint getCrc32 (data.take (positionBehind q))
    · rw [if_neg (not_not_intro hsame)]
      refine ⟨ParseOutcome.packet_ne_unfinished _, iff_of_true ⟨s.packet, rfl⟩
        fun pre value post hsplit ↦ ?_⟩
      obtain ⟨rfl, rfl⟩ := hlast pre value post hsplit
      rw [← hsame]
    · rw [if_pos hsame]
      refine ⟨ParseOutcome.discarded_ne_unfinished,
        iff_of_false ParseOutcome.not_packet_discarded fun hall ↦ hsame ?_⟩
      have hvalue := hall q (Byte.set4Bytes v) [] rfl
      have hget := get4Bytes_set4Bytes v
      rw [hvalue, get4Bytes_set4Bytes] at hget
      exact (Except.ok.inj hget).symm

/-- Before any attribute. -/
theorem readSoFar_nil (packet : StunPacket) : ReadSoFar { packet } [] :=
  ⟨⟨nofun, .nil⟩, rfl, ⟨nofun, fun ⟨_, h, _⟩ ↦ absurd h List.not_mem_nil⟩, nofun, fun _ ↦ nofun⟩

section Message

variable {data : List Byte} (hheader : 20 ≤ data.length) (hmod : (data.length - 20) % 4 = 0)
  (hbound : data.length ≤ 65535)

include hheader hmod hbound

/-- A message that its attributes fill. -/
theorem parseAttributes_of_filled (getCrc32 : List Byte → BitVec 32) (packet : StunPacket)
    {tlvs : List Tlv} (hspells : Spells (data.drop 20) tlvs) :
    ∃ outcome, outcome ≠ .unfinished ∧
      (∀ rounds, data.length ≤ rounds →
        parseAttributes getCrc32 data rounds { packet } = .ok outcome) ∧
      ((∃ packet, outcome = .packet packet) ↔
        Rules tlvs ∧ FingerprintMatches getCrc32 data tlvs) := by
  have hsplit : data.take 20 ++ data.drop 20 = data := List.take_append_drop 20 data
  have hfront : (data.take 20).length = 20 := by
    rw [List.length_take]
    omega
  have hrest : (data.drop 20).length = data.length - 20 := List.length_drop
  have hsum := hspells.length
  have hcount := length_le_sum_size tlvs
  have hparse := fun rounds (hrounds : data.length ≤ rounds) ↦
    parseAttributes_of_spells getCrc32 hspells { packet } (data.take 20) rounds
      hfront.symm (show 20 % 4 = 0 from rfl) (by rw [hsplit]; omega) (by omega)
  rw [hsplit] at hparse
  rcases (readSoFar_nil packet).readTlvs_cases tlvs with ⟨t, hread, ht⟩ | ⟨hread, hrules⟩
  · have hend : t.pos = data.length := by
      rw [ht.pos, positionBehind, List.nil_append]
      omega
    obtain ⟨hfinished, haccepted⟩ := ht.finish_iff getCrc32 hend
    refine ⟨t.finish getCrc32 data, hfinished, fun rounds hrounds ↦ ?_, ?_⟩
    · rw [hparse rounds hrounds, hread]
      rfl
    · rw [haccepted, List.nil_append]
      exact (and_iff_right ht.rules).symm
  · refine ⟨.discarded, ParseOutcome.discarded_ne_unfinished, fun rounds hrounds ↦ ?_,
      iff_of_false ParseOutcome.not_packet_discarded ?_⟩
    · rw [hparse rounds hrounds, hread]
      rfl
    · exact fun hall ↦ hrules hall.1

/-- The attributes of a message, from the beginning. -/
theorem parseAttributes_iff (getCrc32 : List Byte → BitVec 32) (packet : StunPacket) :
    ∃ outcome, outcome ≠ .unfinished ∧
      (∀ rounds, data.length ≤ rounds →
        parseAttributes getCrc32 data rounds { packet } = .ok outcome) ∧
      ((∃ packet, outcome = .packet packet) ↔ ∃ tlvs, Spells (data.drop 20) tlvs ∧ Rules tlvs ∧
        FingerprintMatches getCrc32 data tlvs) := by
  by_cases hspells : ∃ tlvs, Spells (data.drop 20) tlvs
  · obtain ⟨tlvs, htlvs⟩ := hspells
    obtain ⟨outcome, hfinished, hparse, haccepted⟩ :=
      parseAttributes_of_filled hheader hmod hbound getCrc32 packet htlvs
    refine ⟨outcome, hfinished, hparse, ?_⟩
    refine ⟨fun h ↦ ⟨tlvs, htlvs, haccepted.mp h⟩, ?_⟩
    rintro ⟨tlvs', htlvs', hall⟩
    obtain ⟨outcome', -, hparse', haccepted'⟩ :=
      parseAttributes_of_filled hheader hmod hbound getCrc32 packet htlvs'
    cases (hparse _ le_rfl).symm.trans (hparse' _ le_rfl)
    exact haccepted'.mpr hall
  · rw [not_exists] at hspells
    have hsplit : data.take 20 ++ data.drop 20 = data := List.take_append_drop 20 data
    have hfront : (data.take 20).length = 20 := by
      rw [List.length_take]
      omega
    have hrest : (data.drop 20).length = data.length - 20 := List.length_drop
    refine ⟨.discarded, ParseOutcome.discarded_ne_unfinished, fun rounds hrounds ↦ ?_,
      iff_of_false ParseOutcome.not_packet_discarded ?_⟩
    · have hparse := parseAttributes_of_not_spells getCrc32 rounds (readSoFar_nil packet)
        hfront.symm (show 20 % 4 = 0 from rfl) (by omega) (by rw [hsplit]; omega) (by omega) hspells
      rwa [hsplit] at hparse
    · rintro ⟨tlvs, htlvs, -⟩
      exact hspells tlvs htlvs

end Message

end Parser

/-- Two bytes are those of a field. -/
theorem exists_get2Bytes {data : List Byte} {i : ℕ} (h : i + 2 ≤ data.length) :
    ∃ v, Byte.get2Bytes data i = .ok v ∧ slice data i 2 = Byte.set2Bytes v := by
  have hsplit : data.take i ++ data.drop i = data := List.take_append_drop i data
  have hfront : (data.take i).length = i := by
    rw [List.length_take]
    omega
  match hrest : data.drop i with
  | a :: b :: rest =>
    obtain ⟨v, hv⟩ := Parser.exists_set2Bytes a b
    have hget := Byte.get2Bytes_append (data.take i) rest v
    rw [← hv, List.cons_append, List.singleton_append, ← hrest, hsplit, hfront] at hget
    refine ⟨v, hget, ?_⟩
    rw [slice, hrest, ← hv]
    rfl
  | [a] | [] =>
    have hlength := congrArg List.length hrest
    rw [List.length_drop] at hlength
    simp only [List.length_cons, List.length_nil] at hlength
    omega

theorem set2Bytes_inj {v w : BitVec 16} (h : Byte.set2Bytes v = Byte.set2Bytes w) : v = w := by
  have hv := Byte.join2_set2Bytes v
  obtain ⟨hhigh, hlow⟩ := List.cons.inj h
  rw [hhigh, (List.cons.inj hlow).1, Byte.join2_set2Bytes] at hv
  exact hv.symm

/-- What is checked of the length field. -/
theorem lengthField_iff {v : BitVec 16} {n : ℕ} (h : n < 2 ^ 16) :
    ¬(v.toNat ≠ n ∨ v &&& 0x03 ≠ 0) ↔
      Byte.set2Bytes v = Byte.set2Bytes (BitVec.ofNat 16 n) ∧ n % 4 = 0 := by
  have hlow : v &&& 0x03 = 0 ↔ v.toNat % 4 = 0 := by
    have hand : (v &&& 0x03).toNat = v.toNat % 4 := Packing.toNat_and_mask (k := 2) v rfl
    rw [← hand]
    exact ⟨fun hzero ↦ by rw [hzero]; rfl, fun hzero ↦ BitVec.eq_of_toNat_eq hzero⟩
  rw [not_or, not_ne_iff, not_ne_iff, hlow]
  constructor
  · rintro ⟨rfl, hmod⟩
    rw [BitVec.ofNat_toNat, BitVec.setWidth_eq]
    exact ⟨rfl, hmod⟩
  · rintro ⟨hbytes, hmod⟩
    have hv : v.toNat = n := by
      rw [set2Bytes_inj hbytes, BitVec.toNat_ofNat, Nat.mod_eq_of_lt h]
    exact ⟨hv, hv ▸ hmod⟩

/-- **What is accepted.** Every buffer of at most 65535 bytes is parsed to an end, without reading
outside, and it is accepted exactly if it is a well-formed message. -/
theorem parse_accepts_iff (getCrc32 : List Byte → BitVec 32) (data : List Byte)
    (hbound : data.length ≤ 65535) :
    ∃ outcome, outcome ≠ .unfinished ∧
      (∀ rounds, data.length ≤ rounds → parse getCrc32 rounds data = .ok outcome) ∧
      ((∃ packet, outcome = .packet packet) ↔ ∃ tlvs, WellFormed getCrc32 data tlvs) := by
  -- a message that is discarded before its attributes are read
  have hdiscard : (∀ rounds, parse getCrc32 rounds data = .ok .discarded) →
      (¬∃ tlvs, WellFormed getCrc32 data tlvs) → ∃ outcome, outcome ≠ .unfinished ∧
      (∀ rounds, data.length ≤ rounds → parse getCrc32 rounds data = .ok outcome) ∧
      ((∃ packet, outcome = .packet packet) ↔ ∃ tlvs, WellFormed getCrc32 data tlvs) :=
    fun hparse hnot ↦ ⟨.discarded, ParseOutcome.discarded_ne_unfinished,
      fun rounds _ ↦ hparse rounds, iff_of_false ParseOutcome.not_packet_discarded hnot⟩
  by_cases hsize : 20 ≤ data.length
  swap
  · refine hdiscard (fun rounds ↦ ?_) (not_exists.mpr fun tlvs h ↦ hsize h.size)
    rw [parse, isStun, if_pos (by omega)]
    rfl
  have hfirst := get1Byte_of_lt (show 0 < data.length by omega)
  have hhead : data.head? = some (data.getD 0 0) := by
    cases data with
    | nil => exact absurd hsize (by decide)
    | cons b rest => rfl
  by_cases hstun : data.getD 0 0 < 3 ∧ slice data 4 4 = magicCookie
  swap
  · refine hdiscard (fun rounds ↦ ?_) (not_exists.mpr fun tlvs h ↦
      hstun ⟨h.first _ hhead, h.cookie⟩)
    rw [parse, isStun, if_neg (by omega), hfirst]
    change (if ¬(decide (data.getD 0 0 < 3) && decide (slice data 4 4 = magicCookie)) = true then
      _ else _) = _
    rw [if_pos]
    · rfl
    · rwa [Bool.and_eq_true, decide_eq_true_iff, decide_eq_true_iff]
  obtain ⟨msgType, hmsgType, -⟩ := exists_get2Bytes (show 0 + 2 ≤ data.length by omega)
  obtain ⟨msgLength, hmsgLength, hfield⟩ := exists_get2Bytes (show 2 + 2 ≤ data.length by omega)
  have hsecond := get1Byte_of_lt (show 1 < data.length by omega)
  have hisStun : isStun data = .ok true := by
    rw [isStun, if_neg (by omega), hfirst]
    change Except.ok (decide (data.getD 0 0 < 3) && decide (slice data 4 4 = magicCookie)) = _
    rw [decide_eq_true hstun.1, decide_eq_true hstun.2]
    rfl
  by_cases hlength : msgLength.toNat ≠ data.length - 20 ∨ msgLength &&& 0x03 ≠ 0
  · refine hdiscard (fun rounds ↦ ?_) (not_exists.mpr fun tlvs h ↦
      (lengthField_iff (by omega)).mpr ⟨hfield ▸ h.length, h.multiple⟩ hlength)
    rw [parse, hisStun, hmsgType, hmsgLength]
    simp only [bind, Except.bind, not_true_eq_false, if_false, if_pos hlength]
    rfl
  · obtain ⟨hbytes, hmod⟩ := (lengthField_iff (by omega)).mp hlength
    have hparse : ∃ packet : StunPacket, ∀ rounds, parse getCrc32 rounds data =
        Parser.parseAttributes getCrc32 data rounds { packet } := by
      refine ⟨{
        klass := StunClass.ofBits
          ((data.getD 0 0 &&& 0x01) <<< 1 ||| (data.getD 1 0 &&& 0x10) >>> 4)
        method := (msgType &&& 0x000f) ||| (msgType &&& 0x00e0) >>> 1 |||
          (msgType &&& 0x3E00) >>> 2
        transactionId := BitVec.ofNat 96 (Byte.valueOf (slice data 8 12))
        data := data
        size := data.length }, fun rounds ↦ ?_⟩
      rw [parse, hisStun, hmsgType, hmsgLength, hfirst, hsecond]
      simp only [bind, Except.bind, not_true_eq_false, if_false, if_neg hlength]
    obtain ⟨packet, hparse⟩ := hparse
    obtain ⟨outcome, hfinished, hattributes, haccepted⟩ :=
      Parser.parseAttributes_iff hsize hmod hbound getCrc32 packet
    refine ⟨outcome, hfinished, fun rounds hrounds ↦ (hparse rounds).trans
      (hattributes rounds hrounds), haccepted.trans ⟨?_, ?_⟩⟩
    · rintro ⟨tlvs, hspells, hrules, hfingerprint⟩
      refine ⟨tlvs, hsize, fun b hb ↦ ?_, hstun.2, hfield.trans hbytes, hmod, hspells, hrules,
        hfingerprint⟩
      cases hhead.symm.trans hb
      exact hstun.1
    · rintro ⟨tlvs, h⟩
      exact ⟨tlvs, h.spells, h.rules, h.fingerprint⟩

/-- A header without attributes. -/
def emptyRequest : List Byte := [0, 1, 0, 0] ++ magicCookie ++ List.replicate 12 0

theorem parse_accepts_iff_empty_request :
    ∃ outcome, outcome ≠ .unfinished ∧
      (∀ rounds, emptyRequest.length ≤ rounds →
        parse (fun _ ↦ 0) rounds emptyRequest = .ok outcome) ∧
      ((∃ packet, outcome = .packet packet) ↔
        ∃ tlvs, WellFormed (fun _ ↦ 0) emptyRequest tlvs) :=
  parse_accepts_iff (fun _ ↦ 0) emptyRequest (by decide)

end StunPacket

end MediasoupSfu
