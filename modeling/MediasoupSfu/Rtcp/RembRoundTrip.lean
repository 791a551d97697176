import MediasoupSfu.Library.Significand
import MediasoupSfu.Rtcp.Feedback
import MediasoupSfu.Rtcp.XrRoundTrip

/-!
# Bit rates in REMB packets

A REMB packet has a bit rate as a mantissa of 18 bits and an exponent. `Serialize` shifts the bit
rate to the right until it fits and counts the shifts, so that the highest bits are kept; parsing
shifts to the left again. The count of the SSRCs has a byte, and has to agree with the length.

## Main results

* `normalize_eq` : the search for the exponent drops the bits after the first 18.
* `parse_serialize` : what is parsed of the bytes of a REMB packet.
* `remb_round_trip` : a packet that is serialized is parsed with its bit rate rounded down, and one
  that was parsed is serialized without loss.
-/

namespace MediasoupSfu

namespace Rtcp

open Byte FeedbackRtpTransportPacket

/-! ## The highest bits -/

/-- The number of bits after the first 18. -/
def droppedBits (n : ℕ) : ℕ := n.log2 - 17

/-- **A number rounded down to its 18 most significant bits.** -/
def roundDown (n : ℕ) : ℕ := n / 2 ^ droppedBits n * 2 ^ droppedBits n

theorem droppedBits_eq (n : ℕ) : droppedBits n = Significand.dropped 18 n := by
  rw [droppedBits, Significand.dropped]
  omega

theorem roundDown_eq (n : ℕ) : roundDown n = Significand.roundDown 18 n := by
  rw [roundDown, droppedBits_eq, Significand.roundDown]

theorem droppedBits_le {n k : ℕ} (h : n < 2 ^ (18 + k)) : droppedBits n ≤ k := by
  rw [droppedBits_eq]
  exact Significand.dropped_le (by decide) h

/-! ## Serializing -/

/-- `FeedbackPsRembPacket`. -/
structure RembPacket where
  senderSsrc : BitVec 32
  mediaSsrc : BitVec 32
  /-- Bitrate represented in bps. -/
  bitrate : BitVec 64
  ssrcs : List (BitVec 32)
  deriving DecidableEq, Repr

/-- The loop of `Serialize`: the mantissa and the exponent. -/
def normalize (mantissa : BitVec 64) (exponent : Byte) : BitVec 64 × Byte :=
  if 0x3FFFF < mantissa then normalize (mantissa >>> 1) (exponent + 1) else (mantissa, exponent)
termination_by mantissa.toNat
decreasing_by
  have hlt : 0x3FFFF < mantissa.toNat := ‹_›
  rw [BitVec.toNat_ushiftRight, Nat.shiftRight_eq_div_pow]
  omega

namespace RembPacket

/-- The packet among the feedback packets. Its message type is AFB. -/
def toFeedback (p : RembPacket) : FeedbackPacket where
  messageType := 15
  senderSsrc := p.senderSsrc
  mediaSsrc := p.mediaSsrc
  body := .remb p.bitrate p.ssrcs

/-- `GetSize()`. -/
def getSize (p : RembPacket) : ℕ := feedbackHeaderSize + 8 + 4 * p.ssrcs.length

/-- The four bytes with the number of SSRCs and the bit rate. -/
def serializeBitrate (p : RembPacket) : List Byte :=
  let (mantissa, exponent) := normalize p.bitrate 0
  BitVec.ofNat 8 p.ssrcs.length ::
    (exponent.setWidth 64 <<< 2 ||| mantissa >>> 16).setWidth 8 ::
      set2Bytes ((mantissa &&& 0xFFFF).setWidth 16)

/-- `Serialize(buffer)`. -/
def serialize (p : RembPacket) : List Byte :=
  serializeHeader 15 .psfb p.getSize ++ set4Bytes p.senderSsrc ++ set4Bytes p.mediaSsrc ++
    set4Bytes uniqueIdentifier ++ p.serializeBitrate ++ p.ssrcs.flatMap set4Bytes

theorem length_serialize (p : RembPacket) : p.serialize.length = p.getSize := by
  have hssrcs := length_wordBytes p.ssrcs
  rw [wordBytes] at hssrcs
  simp only [serialize, serializeBitrate, List.length_append, length_serializeHeader,
    length_set4Bytes, List.length_cons, length_set2Bytes, hssrcs, getSize, feedbackHeaderSize]

end RembPacket

/-- **The search for the exponent** drops the bits after the first 18. -/
theorem normalize_eq (mantissa : BitVec 64) (exponent : Byte) :
    normalize mantissa exponent =
      (mantissa >>> droppedBits mantissa.toNat,
        exponent + BitVec.ofNat 8 (droppedBits mantissa.toNat)) := by
  rw [droppedBits_eq]
  refine Significand.normalize_eq (by decide) (fun m e ↦ ?_) mantissa exponent
  rw [normalize]
  rfl

/-! ## Mantissa and exponent in bytes -/

/-- The byte with the exponent and the two highest bits of the mantissa. -/
def exponentByte (mantissa : BitVec 64) (exponent : Byte) : Byte :=
  (exponent.setWidth 64 <<< 2 ||| mantissa >>> 16).setWidth 8

section Bytes

variable {mantissa : BitVec 64} {exponent : Byte}

theorem exponentByte_toNat (hmantissa : mantissa.toNat < 2 ^ 18) (hexponent : exponent.toNat < 64) :
    (exponentByte mantissa exponent).toNat = exponent.toNat * 4 + mantissa.toNat / 2 ^ 16 := by
  have hhigh : mantissa.toNat / 2 ^ 16 < 2 ^ 2 := by omega
  simp only [exponentByte, BitVec.toNat_setWidth, BitVec.toNat_or, BitVec.toNat_shiftLeft,
    BitVec.toNat_ushiftRight, Nat.shiftRight_eq_div_pow, Nat.shiftLeft_eq]
  rw [Nat.mod_eq_of_lt (show exponent.toNat < 2 ^ 64 by omega),
    Nat.mod_eq_of_lt (show exponent.toNat * 2 ^ 2 < 2 ^ 64 by omega), Packing.or_eq_add hhigh]
  omega

/-- The exponent is read from the byte. -/
theorem exponentByte_shiftRight (hmantissa : mantissa.toNat < 2 ^ 18)
    (hexponent : exponent.toNat < 64) : exponentByte mantissa exponent >>> 2 = exponent := by
  apply BitVec.eq_of_toNat_eq
  rw [BitVec.toNat_ushiftRight, Nat.shiftRight_eq_div_pow, exponentByte_toNat hmantissa hexponent]
  omega

/-- The two bits and the 16 bits of a mantissa. -/
theorem mantissa_toNat (high : Byte) (low : BitVec 16) :
    (((high &&& (0x03 : Byte)).setWidth 32 <<< 16 ||| low.setWidth 32).setWidth 64).toNat =
      high.toNat % 4 * 2 ^ 16 + low.toNat := by
  have hlow := low.isLt
  simp only [BitVec.toNat_setWidth, BitVec.toNat_or, BitVec.toNat_shiftLeft, Nat.shiftLeft_eq]
  rw [Packing.toNat_and_mask (k := 2) high rfl,
    Nat.mod_eq_of_lt (show high.toNat % 2 ^ 2 < 2 ^ 32 by omega),
    Nat.mod_eq_of_lt (show high.toNat % 2 ^ 2 * 2 ^ 16 < 2 ^ 32 by omega),
    Nat.mod_eq_of_lt (show low.toNat < 2 ^ 32 by omega), Packing.or_eq_add hlow]
  omega

/-- The mantissa is read from the bytes. -/
theorem mantissa_eq (hmantissa : mantissa.toNat < 2 ^ 18) (hexponent : exponent.toNat < 64) :
    ((exponentByte mantissa exponent &&& (0x03 : Byte)).setWidth 32 <<< 16 |||
      ((mantissa &&& 0xFFFF).setWidth 16).setWidth 32).setWidth 64 = mantissa := by
  have hlow : ((mantissa &&& 0xFFFF).setWidth 16).toNat = mantissa.toNat % 2 ^ 16 := by
    rw [BitVec.toNat_setWidth, Packing.toNat_and_mask (k := 16) mantissa rfl, Nat.mod_mod]
  apply BitVec.eq_of_toNat_eq
  rw [mantissa_toNat, exponentByte_toNat hmantissa hexponent, hlow]
  omega

end Bytes

/-! ## Parsing what was serialized -/

theorem parseRembSsrcs_wordBytes (ssrcs : List (BitVec 32)) :
    parseRembSsrcs ssrcs.length (wordBytes ssrcs) = .ok ssrcs := by
  induction ssrcs with
  | nil => rfl
  | cons ssrc ssrcs ih =>
    have hget : get4Bytes (wordBytes (ssrc :: ssrcs)) 0 = .ok ssrc :=
      congrArg Except.ok (join4_set4Bytes ssrc)
    have hdrop : (wordBytes (ssrc :: ssrcs)).drop 4 = wordBytes ssrcs := rfl
    rw [List.length_cons, parseRembSsrcs, hget, hdrop, ih]
    rfl

namespace RembPacket

/-- The mantissa and the exponent of a bit rate. -/
def mantissa (p : RembPacket) : BitVec 64 := p.bitrate >>> droppedBits p.bitrate.toNat

def exponent (p : RembPacket) : Byte := BitVec.ofNat 8 (droppedBits p.bitrate.toNat)

theorem mantissa_toNat (p : RembPacket) :
    p.mantissa.toNat = p.bitrate.toNat / 2 ^ droppedBits p.bitrate.toNat := by
  rw [mantissa, BitVec.toNat_ushiftRight, Nat.shiftRight_eq_div_pow]

theorem exponent_toNat (p : RembPacket) : p.exponent.toNat = droppedBits p.bitrate.toNat := by
  have hbits := droppedBits_le (show p.bitrate.toNat < 2 ^ (18 + 46) from p.bitrate.isLt)
  rw [exponent, BitVec.toNat_ofNat, Nat.mod_eq_of_lt (by omega)]

theorem mantissa_lt (p : RembPacket) : p.mantissa.toNat < 2 ^ 18 := by
  rw [mantissa_toNat, droppedBits_eq]
  exact Significand.div_dropped_lt 18 _

theorem exponent_lt (p : RembPacket) : p.exponent.toNat < 64 := by
  have hbits := droppedBits_le (show p.bitrate.toNat < 2 ^ (18 + 46) from p.bitrate.isLt)
  rw [exponent_toNat]
  omega

/-- The packet with the bit rate rounded down. -/
def rounded (p : RembPacket) : RembPacket :=
  { p with bitrate := BitVec.ofNat 64 (roundDown p.bitrate.toNat) }

theorem rounded_bitrate_toNat (p : RembPacket) :
    p.rounded.bitrate.toNat = roundDown p.bitrate.toNat := by
  have hlt := (Significand.roundDown_le 18 p.bitrate.toNat).trans_lt p.bitrate.isLt
  rw [rounded, BitVec.toNat_ofNat, roundDown_eq, Nat.mod_eq_of_lt hlt]

theorem mantissa_shiftLeft (p : RembPacket) :
    p.mantissa <<< p.exponent.toNat = p.rounded.bitrate ∧
      p.mantissa <<< p.exponent.toNat >>> p.exponent.toNat = p.mantissa := by
  have hround := Significand.shiftRight_shiftLeft_dropped 18 p.bitrate
  rw [exponent_toNat, mantissa, droppedBits_eq]
  refine ⟨BitVec.eq_of_toNat_eq (hround.1.trans ?_), hround.2⟩
  rw [rounded_bitrate_toNat, roundDown_eq]

theorem serializeBitrate_eq (p : RembPacket) :
    p.serializeBitrate = BitVec.ofNat 8 p.ssrcs.length :: exponentByte p.mantissa p.exponent ::
      set2Bytes ((p.mantissa &&& 0xFFFF).setWidth 16) := by
  have hexponent : 0 + BitVec.ofNat 8 (droppedBits p.bitrate.toNat) = p.exponent :=
    BitVec.zero_add _
  rw [serializeBitrate, normalize_eq, hexponent]
  rfl

/-- The bytes of a packet. -/
theorem serialize_eq (p : RembPacket) :
    p.serialize = commonHeader 15 .psfb (4 + p.ssrcs.length) ++
      (set4Bytes p.senderSsrc ++ (set4Bytes p.mediaSsrc ++ (set4Bytes uniqueIdentifier ++
        ((BitVec.ofNat 8 p.ssrcs.length :: exponentByte p.mantissa p.exponent ::
          set2Bytes ((p.mantissa &&& 0xFFFF).setWidth 16)) ++ wordBytes p.ssrcs)))) := by
  have hsize : p.getSize / 4 - 1 = 4 + p.ssrcs.length := by
    rw [getSize, feedbackHeaderSize]
    omega
  rw [serialize, serializeHeader, hsize, serializeBitrate_eq, wordBytes]
  simp only [List.append_assoc]

/-- **What is parsed of the bytes of a packet**: the SSRCs and the bit rate, rounded down. -/
theorem parseRembPacket_serialize {p : RembPacket} (h : p.ssrcs.length ≤ 255) :
    parseRembPacket p.serialize = .ok (some (.remb p.rounded.bitrate p.ssrcs)) := by
  have hsize : p.serialize.length = (4 + p.ssrcs.length + 1) * 4 := by
    rw [length_serialize, getSize, feedbackHeaderSize]
    omega
  have hlength : announcedLength p.serialize = .ok ((4 + p.ssrcs.length + 1) * 4) := by
    have hget : get2Bytes p.serialize 2 = .ok (BitVec.ofNat 16 (4 + p.ssrcs.length)) := by
      rw [serialize_eq]
      exact congrArg Except.ok (join2_set2Bytes _)
    rw [announcedLength, hget]
    change Except.ok (((BitVec.ofNat 16 (4 + p.ssrcs.length)).toNat + 1) * 4) = _
    rw [BitVec.toNat_ofNat, Nat.mod_eq_of_lt (by omega)]
  have hnum : get1Byte p.serialize (feedbackHeaderSize + 4) =
      .ok (BitVec.ofNat 8 p.ssrcs.length) := by
    rw [serialize_eq]
    rfl
  have hnumNat : (BitVec.ofNat 8 p.ssrcs.length).toNat = p.ssrcs.length := by
    rw [BitVec.toNat_ofNat, Nat.mod_eq_of_lt (by omega)]
  have hidentifier : get4Bytes p.serialize feedbackHeaderSize = .ok uniqueIdentifier := by
    rw [serialize_eq]
    exact congrArg Except.ok (join4_set4Bytes _)
  have hexponent : get1Byte p.serialize (feedbackHeaderSize + 5) =
      .ok (exponentByte p.mantissa p.exponent) := by
    rw [serialize_eq]
    rfl
  have hlow : get2Bytes p.serialize (feedbackHeaderSize + 6) =
      .ok ((p.mantissa &&& 0xFFFF).setWidth 16) := by
    rw [serialize_eq]
    exact congrArg Except.ok (join2_set2Bytes _)
  have hdrop : p.serialize.drop (feedbackHeaderSize + 8) = wordBytes p.ssrcs := by
    rw [serialize_eq]
    rfl
  rw [parseRembPacket, if_neg (by rw [hsize, feedbackHeaderSize]; omega), hlength]
  simp only [bind, Except.bind, pure, Except.pure]
  rw [if_neg (by omega), hnum]
  dsimp only
  rw [hnumNat, if_neg (by rw [feedbackHeaderSize]; omega), hidentifier]
  dsimp only
  rw [if_neg (not_not.mpr rfl), hexponent]
  dsimp only
  rw [hlow]
  dsimp only
  rw [exponentByte_shiftRight p.mantissa_lt p.exponent_lt,
    mantissa_eq p.mantissa_lt p.exponent_lt, p.mantissa_shiftLeft.2, if_neg (not_not.mpr rfl),
    hdrop, parseRembSsrcs_wordBytes, p.mantissa_shiftLeft.1]

/-- **A serialized packet is parsed** as it was, but for its bit rate, which is rounded down. -/
theorem parse_serialize {p : RembPacket} (h : p.ssrcs.length ≤ 255) :
    parseFeedbackPsPacket p.serialize = .ok (some p.rounded.toFeedback) := by
  have hsize : p.serialize.length = 20 + 4 * p.ssrcs.length := by
    rw [length_serialize, getSize, feedbackHeaderSize]
  have hcount : headerCount p.serialize = .ok 15 := by
    rw [serialize_eq]
    exact headerCount_commonHeader _ _ _ _
  have hremb : isRemb p.serialize = .ok true := by
    have hidentifier : get4Bytes p.serialize feedbackHeaderSize = .ok uniqueIdentifier := by
      rw [serialize_eq]
      exact congrArg Except.ok (join4_set4Bytes _)
    rw [isRemb, if_neg (by rw [hsize, feedbackHeaderSize]; omega), hidentifier]
    rfl
  have hsender : get4Bytes p.serialize 4 = .ok p.senderSsrc := by
    rw [serialize_eq]
    exact congrArg Except.ok (join4_set4Bytes _)
  have hmedia : get4Bytes p.serialize 8 = .ok p.mediaSsrc := by
    rw [serialize_eq]
    exact congrArg Except.ok (join4_set4Bytes _)
  rw [parseFeedbackPsPacket, if_neg (by rw [hsize, feedbackHeaderSize]; omega), hcount]
  change (parseAfbPacket p.serialize >>= _) = _
  rw [parseAfbPacket, if_neg (by rw [hsize, feedbackHeaderSize]; omega), hremb]
  change (parseRembPacket p.serialize >>= _) = _
  rw [parseRembPacket_serialize h]
  dsimp only [bind, Except.bind]
  rw [withHeaders, hsender, hmedia]
  rfl

end RembPacket

/-! ## Serializing what was parsed -/

theorem length_of_parseRembSsrcs {numSsrcs : ℕ} {data : List Byte} {ssrcs : List (BitVec 32)}
    (h : parseRembSsrcs numSsrcs data = .ok ssrcs) : ssrcs.length = numSsrcs := by
  induction numSsrcs generalizing data ssrcs with
  | zero =>
    obtain rfl := Except.ok.inj h
    rfl
  | succ numSsrcs ih =>
    obtain ⟨ssrc, -, h⟩ := bind_eq_ok.mp h
    obtain ⟨rest, hrest, h⟩ := bind_eq_ok.mp h
    obtain rfl := Except.ok.inj h
    rw [List.length_cons, ih hrest]

/-- The bit rate of a packet that is accepted has 18 bits, and zeros after them. -/
theorem roundDown_of_parseRembPacket {data : List Byte} {bitrate : BitVec 64}
    {ssrcs : List (BitVec 32)} (h : parseRembPacket data = .ok (some (.remb bitrate ssrcs))) :
    roundDown bitrate.toNat = bitrate.toNat ∧ ssrcs.length ≤ 255 := by
  rw [parseRembPacket] at h
  split at h
  · cases h
  obtain ⟨len, -, h⟩ := bind_eq_ok.mp h
  split at h
  · cases h
  obtain ⟨numSsrcs, -, h⟩ := bind_eq_ok.mp h
  split at h
  · cases h
  obtain ⟨identifier, -, h⟩ := bind_eq_ok.mp h
  split at h
  · cases h
  obtain ⟨b₅, -, h⟩ := bind_eq_ok.mp h
  obtain ⟨low, -, h⟩ := bind_eq_ok.mp h
  dsimp only at h
  split at h
  · cases h
  obtain ⟨found, hfound, h⟩ := bind_eq_ok.mp h
  obtain ⟨rfl, rfl⟩ := FeedbackBody.remb.inj (Option.some.inj (Except.ok.inj h))
  constructor
  · generalize hmantissa : ((b₅ &&& (0x03 : Byte)).setWidth 32 <<< 16 |||
      low.setWidth 32).setWidth 64 = mantissa
    have hlt : mantissa.toNat < 2 ^ 18 := by
      have hlow := low.isLt
      rw [← hmantissa, mantissa_toNat]
      omega
    have hexponent : (b₅ >>> 2).toNat < 64 := by
      have hbyte := b₅.isLt
      rw [BitVec.toNat_ushiftRight, Nat.shiftRight_eq_div_pow]
      omega
    generalize (b₅ >>> 2).toNat = exponent at hexponent
    have hvalue : (mantissa <<< exponent).toNat = mantissa.toNat * 2 ^ exponent % 2 ^ 64 := by
      rw [BitVec.toNat_shiftLeft, Nat.shiftLeft_eq]
    rw [roundDown_eq]
    refine Significand.roundDown_of_dvd (j := exponent) (by decide) ?_ ?_
    · rw [hvalue, pow_add]
      exact (Nat.mod_le _ _).trans_lt (Nat.mul_lt_mul_of_pos_right hlt (Nat.two_pow_pos _))
    · rw [hvalue, Nat.dvd_mod_iff (pow_dvd_pow 2 (by omega))]
      exact Nat.dvd_mul_left _ _
  · have hlength := length_of_parseRembSsrcs hfound
    have hbyte := numSsrcs.isLt
    omega

theorem ofCount_eq_afb {count : ℕ} (h : PsMessageType.ofCount count = some .afb) : count = 15 := by
  unfold PsMessageType.ofCount at h
  split at h <;> first | rfl | cases h

theorem items_of_parseItemsPacket {cls : ItemClass} {keeps : FeedbackItem → Bool} {data : List Byte}
    {body : FeedbackBody} (h : parseItemsPacket cls keeps data = .ok (some body)) :
    ∃ items, body = .items items := by
  rw [parseItemsPacket] at h
  split at h
  · cases h
  · obtain ⟨items, -, h⟩ := bind_eq_ok.mp h
    exact ⟨items, (Option.some.inj (Except.ok.inj h)).symm⟩

theorem bare_of_parseBare {data : List Byte} {body : FeedbackBody}
    (h : parseBare data = .ok (some body)) : body = .bare := by
  rw [parseBare] at h
  split at h
  · cases h
  · exact (Option.some.inj (Except.ok.inj h)).symm

/-- Only application layer feedback is parsed to a REMB packet. -/
theorem remb_of_parsePsBody {data : List Byte} {type : Option PsMessageType} {bitrate : BitVec 64}
    {ssrcs : List (BitVec 32)} (h : parsePsBody data type = .ok (some (.remb bitrate ssrcs))) :
    type = some .afb ∧ parseRembPacket data = .ok (some (.remb bitrate ssrcs)) := by
  match type with
  | some .afb =>
    refine ⟨rfl, ?_⟩
    change parseAfbPacket data = _ at h
    rw [parseAfbPacket] at h
    split at h
    · cases h
    obtain ⟨remb, -, h⟩ := bind_eq_ok.mp h
    cases remb with
    | true => exact h
    | false =>
      obtain ⟨len, -, h⟩ := bind_eq_ok.mp h
      cases h
  | some .pli => cases bare_of_parseBare h
  | some .sli | some .rpsi | some .fir | some .tstr | some .tstn | some .vbcm | some .pslei =>
    obtain ⟨items, hitems⟩ := items_of_parseItemsPacket h
    cases hitems
  | some .roi | some .ext | none => cases h

/-- **A REMB packet that was parsed** is the feedback of a packet whose bit rate is not rounded. -/
theorem exists_rounded_of_parse {data : List Byte} {packet : FeedbackPacket} {bitrate : BitVec 64}
    {ssrcs : List (BitVec 32)} (h : parseFeedbackPsPacket data = .ok (some packet))
    (hbody : packet.body = .remb bitrate ssrcs) :
    ∃ p : RembPacket, packet = p.toFeedback ∧ p.rounded = p ∧ p.ssrcs.length ≤ 255 := by
  rw [parseFeedbackPsPacket] at h
  split at h
  · cases h
  obtain ⟨messageType, -, h⟩ := bind_eq_ok.mp h
  obtain ⟨body, hparse, h⟩ := bind_eq_ok.mp h
  cases body with
  | none => cases h
  | some body =>
    obtain ⟨senderSsrc, -, h⟩ := bind_eq_ok.mp h
    obtain ⟨mediaSsrc, -, h⟩ := bind_eq_ok.mp h
    obtain rfl := Option.some.inj (Except.ok.inj h)
    obtain rfl : body = .remb bitrate ssrcs := hbody
    obtain ⟨htype, hremb⟩ := remb_of_parsePsBody hparse
    obtain rfl := ofCount_eq_afb htype
    obtain ⟨hround, hlength⟩ := roundDown_of_parseRembPacket hremb
    refine ⟨⟨senderSsrc, mediaSsrc, bitrate, ssrcs⟩, rfl, ?_, hlength⟩
    rw [RembPacket.rounded, hround, BitVec.ofNat_toNat, BitVec.setWidth_eq]

/-- **The round trip of bit rates.** A packet of up to 255 SSRCs that is serialized is parsed with
its SSRCs and the 18 most significant bits of its bit rate, and with all of its bit rate if it is
below `2 ^ 18`. A packet that was parsed is serialized and parsed again without a change. -/
theorem remb_round_trip :
    (∀ p : RembPacket, p.ssrcs.length ≤ 255 →
      parseFeedbackPsPacket p.serialize = .ok (some p.rounded.toFeedback) ∧
        p.rounded.bitrate.toNat = roundDown p.bitrate.toNat ∧
        (p.bitrate.toNat < 2 ^ 18 → p.rounded = p)) ∧
      ∀ (data : List Byte) (packet : FeedbackPacket) (bitrate : BitVec 64)
        (ssrcs : List (BitVec 32)), parseFeedbackPsPacket data = .ok (some packet) →
        packet.body = .remb bitrate ssrcs →
        parseFeedbackPsPacket
          (RembPacket.mk packet.senderSsrc packet.mediaSsrc bitrate ssrcs).serialize =
          .ok (some packet) := by
  constructor
  · intro p h
    refine ⟨RembPacket.parse_serialize h, p.rounded_bitrate_toNat, fun hlt ↦ ?_⟩
    rw [RembPacket.rounded, roundDown_eq, Significand.roundDown_of_lt (by decide) hlt,
      BitVec.ofNat_toNat, BitVec.setWidth_eq]
  · intro data packet bitrate ssrcs h hbody
    obtain ⟨p, rfl, hround, hlength⟩ := exists_rounded_of_parse h hbody
    obtain ⟨rfl, rfl⟩ := FeedbackBody.remb.inj hbody
    have hparse := RembPacket.parse_serialize hlength
    rwa [hround] at hparse

/-- A bit rate of 19 bits, the lowest of which is lost. -/
def lossyRemb : RembPacket := ⟨0xfa17fa17, 0, 0x40001, [0x02d03702, 0x04a76747]⟩

theorem remb_round_trip_lossy :
    parseFeedbackPsPacket lossyRemb.serialize = .ok (some lossyRemb.rounded.toFeedback) ∧
      lossyRemb.rounded.bitrate = 0x40000 ∧
      parseFeedbackPsPacket lossyRemb.rounded.serialize =
        .ok (some lossyRemb.rounded.toFeedback) := by
  have hparse := (remb_round_trip.1 lossyRemb (by decide)).1
  have hbitrate : lossyRemb.rounded.bitrate = 0x40000 := by decide +kernel
  exact ⟨hparse, hbitrate, remb_round_trip.2 _ lossyRemb.rounded.toFeedback
    lossyRemb.rounded.bitrate lossyRemb.rounded.ssrcs hparse rfl⟩

end Rtcp

end MediasoupSfu
