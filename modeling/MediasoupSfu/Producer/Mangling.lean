import MediasoupSfu.Producer.Lookups
import MediasoupSfu.Rtp.Message

/-!
# Packets on their way into the router

`MangleRtpPacket` prepares a packet of a producer for the consumers. The payload type and the SSRC
are replaced by those of the router, and the header extension by one in the one-byte form, with ids
that are the same for every producer: an empty MID of eight bytes that each consumer fills in, for
video the values that are set on sending, and the values that are handed on as they are.

`RtpMessage.mangled` is what becomes of the message. A value that does not fit into an element of
the one-byte form is lost there.
-/

namespace MediasoupSfu

open Memory

/-- `RTC::Media::Kind`. -/
inductive MediaKind where
  | all
  | audio
  | video
  deriving DecidableEq, Repr

/-- `RTC::RtpHeaderExtensionUri::Type`. -/
inductive RtpHeaderExtensionUri where
  | unknown
  | mid
  | rtpStreamId
  | repairedRtpStreamId
  | absSendTime
  | transportWideCc01
  | frameMarking07
  | frameMarking
  | ssrcAudioLevel
  | videoOrientation
  | toffset
  deriving DecidableEq, Repr

/-- The `uint8_t` behind a type, which is the id of such an element in the router. -/
def RtpHeaderExtensionUri.id : RtpHeaderExtensionUri → Byte
  | unknown => 0
  | mid => 1
  | rtpStreamId => 2
  | repairedRtpStreamId => 3
  | absSendTime => 4
  | transportWideCc01 => 5
  | frameMarking07 => 6
  | frameMarking => 7
  | ssrcAudioLevel => 10
  | videoOrientation => 11
  | toffset => 12

/-- `RtpHeaderExtensionIds`, of which 0 means no id. -/
structure RtpHeaderExtensionIds where
  mid : Byte := 0
  rid : Byte := 0
  rrid : Byte := 0
  absSendTime : Byte := 0
  transportWideCc01 : Byte := 0
  frameMarking07 : Byte := 0
  frameMarking : Byte := 0
  ssrcAudioLevel : Byte := 0
  videoOrientation : Byte := 0
  toffset : Byte := 0
  deriving DecidableEq, Repr

/-- The members of `Producer` that, besides its tables, are needed for a packet whose stream has
been found. -/
structure ProducerMapping where
  kind : MediaKind
  rtpHeaderExtensionIds : RtpHeaderExtensionIds
  /-- `rtpMapping.codecs`. -/
  codecs : Byte → Option Byte

namespace ProducerMapping

open GenericExtension

/-! ## The code -/

/-- `std::memcpy` out of a packet; the length is a `uint8_t`. -/
def readValue (body : List Byte) (value len : ℕ) :
    Except Fault { bytes : List Byte // bytes.length < 256 } :=
  if h : value + len ≤ body.length ∧ len < 256 then
    .ok ⟨slice body value len, by rw [length_slice h.1]; exact h.2⟩
  else .error .outOfBounds

/-- Proxy an extension of the packet, if it has it. -/
def proxied (packet : RtpPacket) (id : Byte) (type : RtpHeaderExtensionUri) :
    Except Fault (List GenericExtension) := do
  match ← packet.getExtension id with
  | none => return []
  | some (extenValue, extenLen) =>
    let value ← readValue packet.body extenValue extenLen
    return [⟨type.id, value.1, value.2⟩]

/-- The MID that is added. The first bytes of the static buffer are never written. -/
def emptyMid : GenericExtension :=
  ⟨RtpHeaderExtensionUri.mid.id, List.replicate midMaxLength 0, by decide⟩

/-- The other values that are added. The sending transport will update them. -/
def emptyAbsSendTime : GenericExtension :=
  ⟨RtpHeaderExtensionUri.absSendTime.id, Byte.set3Bytes 0, by decide⟩

def emptyTransportWideCc01 : GenericExtension :=
  ⟨RtpHeaderExtensionUri.transportWideCc01.id, Byte.set2Bytes 0, by decide⟩

/-- The `extensions` that `MangleRtpPacket` collects. -/
def mangledExtensions (mapping : ProducerMapping) (packet : RtpPacket) :
    Except Fault (List GenericExtension) :=
  let ids := mapping.rtpHeaderExtensionIds
  match mapping.kind with
  | .all => .ok [emptyMid]
  | .audio => do
    let ssrcAudioLevel ← proxied packet ids.ssrcAudioLevel .ssrcAudioLevel
    return emptyMid :: ssrcAudioLevel
  | .video => do
    let frameMarking07 ← proxied packet ids.frameMarking07 .frameMarking07
    let frameMarking ← proxied packet ids.frameMarking .frameMarking
    let videoOrientation ← proxied packet ids.videoOrientation .videoOrientation
    let toffset ← proxied packet ids.toffset .toffset
    return emptyMid :: emptyAbsSendTime :: emptyTransportWideCc01 ::
      (frameMarking07 ++ (frameMarking ++ (videoOrientation ++ toffset)))

/-- Assign mediasoup RTP header extension ids. -/
def mangledIds (ids : ExtensionIds) : ExtensionIds :=
  { ids with
    midExtensionId := RtpHeaderExtensionUri.mid.id
    absSendTimeExtensionId := RtpHeaderExtensionUri.absSendTime.id
    transportWideCc01ExtensionId := RtpHeaderExtensionUri.transportWideCc01.id
    frameMarking07ExtensionId := RtpHeaderExtensionUri.frameMarking07.id
    frameMarkingExtensionId := RtpHeaderExtensionUri.frameMarking.id
    ssrcAudioLevelExtensionId := RtpHeaderExtensionUri.ssrcAudioLevel.id
    videoOrientationExtensionId := RtpHeaderExtensionUri.videoOrientation.id }

/-- `MangleRtpPacket(packet, rtpStream)`: what is returned, and the packet afterwards. -/
def mangleRtpPacket (mapping : ProducerMapping) (producer : Producer) (packet : RtpPacket)
    (rtpStream : ℕ) : Except Fault (Bool × RtpPacket) :=
  match mapping.codecs packet.getPayloadType with
  -- Unknown payload type.
  | none => .ok (false, packet)
  | some mappedPayloadType =>
    match producer.mapRtpStreamMappedSsrc rtpStream with
    | none => .error .outOfBounds
    | some mappedSsrc => do
      let packet := (packet.setPayloadType mappedPayloadType).setSsrc mappedSsrc
      let extensions ← mapping.mangledExtensions packet
      -- Set the new extensions into the packet using One-Byte format.
      let packet ← packet.setExtensions 1 extensions
      return (true, { packet with ids := mangledIds packet.ids })

/-! ## What becomes of the message -/

/-- The value, if an element of the one-byte form can hold it. -/
def kept (value : Option (List Byte)) : Option (List Byte) :=
  value.filter fun bytes ↦ decide (0 < bytes.length ∧ bytes.length ≤ 16)

/-- The values after `MangleRtpPacket`. -/
def mangledValues (mapping : ProducerMapping) (values : ExtensionValues) : ExtensionValues :=
  let ids := mapping.rtpHeaderExtensionIds
  match mapping.kind with
  | .all => fun id ↦ if id = RtpHeaderExtensionUri.mid.id then some emptyMid.value else none
  | .audio => fun id ↦
    if id = RtpHeaderExtensionUri.mid.id then some emptyMid.value
    else if id = RtpHeaderExtensionUri.ssrcAudioLevel.id then kept (values ids.ssrcAudioLevel)
    else none
  | .video => fun id ↦
    if id = RtpHeaderExtensionUri.mid.id then some emptyMid.value
    else if id = RtpHeaderExtensionUri.absSendTime.id then some emptyAbsSendTime.value
    else if id = RtpHeaderExtensionUri.transportWideCc01.id then some emptyTransportWideCc01.value
    else if id = RtpHeaderExtensionUri.frameMarking07.id then kept (values ids.frameMarking07)
    else if id = RtpHeaderExtensionUri.frameMarking.id then kept (values ids.frameMarking)
    else if id = RtpHeaderExtensionUri.videoOrientation.id then kept (values ids.videoOrientation)
    else if id = RtpHeaderExtensionUri.toffset.id then kept (values ids.toffset)
    else none

/-- The message after `MangleRtpPacket`. -/
def mangled (mapping : ProducerMapping) (mappedPayloadType : Byte) (mappedSsrc : BitVec 32)
    (m : RtpMessage) : RtpMessage :=
  { m with
    header := { m.header with
      extension := true
      payloadType := mappedPayloadType.setWidth 7
      ssrc := mappedSsrc }
    values := mapping.mangledValues m.values }

/-! ## The extensions that are set -/

variable {mapping : ProducerMapping} {p : RtpPacket} {m : RtpMessage}

theorem totalSize_append (type : Byte) (es es' : List GenericExtension) :
    totalSize type (es ++ es') = totalSize type es + totalSize type es' := by
  induction es with
  | nil => exact (Nat.zero_add _).symm
  | cons e es ih =>
    rw [List.cons_append, totalSize, totalSize, ih]
    split
    · rfl
    · exact (Nat.add_assoc _ _ _).symm

/-- A value takes up at most 17 bytes in the one-byte form. -/
theorem totalSize_singleton_le (e : GenericExtension) : totalSize 1 [e] ≤ 17 := by
  rw [totalSize, isSkipped, if_pos rfl, if_pos rfl]
  split
  · exact Nat.zero_le _
  · rename_i hnot
    rw [decide_eq_true_eq] at hnot
    push Not at hnot
    change 1 + e.len + 0 ≤ 17
    omega

/-- What is written of a single element. -/
theorem written_eq (e : GenericExtension) (hid : e.id ≠ 0 ∧ e.id ≤ 14) (j : Byte) :
    RtpPacket.written [e] j = if j = e.id then kept (some e.value) else none := by
  have hskipped : e.isSkipped 1 = false ↔ 0 < e.value.length ∧ e.value.length ≤ 16 := by
    rw [isSkipped, if_pos rfl, decide_eq_false_iff_not, GenericExtension.len]
    have hle : ¬14 < e.id := BitVec.not_lt.mpr hid.2
    have hne := hid.1
    constructor
    · intro h
      push Not at h
      omega
    · rintro h (hzero | hgt | hempty | hlong)
      · exact hne hzero
      · exact hle hgt
      · omega
      · omega
  rw [RtpPacket.written_singleton, kept, Option.filter_some]
  by_cases hj : j = e.id
  · simp only [hskipped, hj, and_true, decide_eq_true_eq, if_true]
  · rw [if_neg hj, if_neg fun hand ↦ hj hand.2.symm]

/-- A value that is handed on. -/
theorem proxied_spec (h : p.InSync) (hshows : p.Shows m) (id : Byte)
    (type : RtpHeaderExtensionUri) (htype : type.id ≠ 0 ∧ type.id ≤ 14) :
    ∃ es, proxied p id type = .ok es ∧ totalSize 1 es ≤ 17 ∧ ∀ j, RtpPacket.written es j =
      if j = type.id then kept (m.values id) else none := by
  obtain ⟨place, hget⟩ := h.located.getExtension_returns h.formed id
  have hvalue := hshows.value id
  rw [RtpPacket.getExtensionValue, hget] at hvalue
  unfold proxied
  rw [hget]
  rcases place with _ | ⟨value, len⟩
  · refine ⟨[], rfl, Nat.zero_le _, fun j ↦ ?_⟩
    rw [← Except.ok.inj hvalue]
    exact (ite_self _).symm
  · obtain ⟨type', _, _, _, _, hvalid, _, _, _, hin⟩ := h.of_getExtension hget
    have hpayload := h.formed.payload_le
    have hlt : len < 256 := by
      have hlen := hvalid.2
      split at hlen <;> omega
    have hread : readValue p.body value len = .ok ⟨slice p.body value len, by
        rw [length_slice (by omega)]; exact hlt⟩ := dif_pos ⟨by omega, hlt⟩
    change ∃ es, (readValue p.body value len >>= fun _ ↦ _) = .ok es ∧ _
    rw [hread]
    refine ⟨_, rfl, totalSize_singleton_le _, fun j ↦ ?_⟩
    rw [written_eq _ htype, ← Except.ok.inj hvalue]

theorem written_cons (e : GenericExtension) (es : List GenericExtension) (j : Byte) :
    RtpPacket.written (e :: es) j = (RtpPacket.written es j).or (RtpPacket.written [e] j) :=
  RtpPacket.written_append [e] es j

theorem written_emptyMid (j : Byte) : RtpPacket.written [emptyMid] j =
    if j = RtpHeaderExtensionUri.mid.id then some emptyMid.value else none :=
  written_eq emptyMid (by decide) j

theorem written_emptyAbsSendTime (j : Byte) : RtpPacket.written [emptyAbsSendTime] j =
    if j = RtpHeaderExtensionUri.absSendTime.id then some emptyAbsSendTime.value else none :=
  written_eq emptyAbsSendTime (by decide) j

theorem written_emptyTransportWideCc01 (j : Byte) :
    RtpPacket.written [emptyTransportWideCc01] j =
      if j = RtpHeaderExtensionUri.transportWideCc01.id then some emptyTransportWideCc01.value
      else none :=
  written_eq emptyTransportWideCc01 (by decide) j

/-- Of two values for different ids only one is there. -/
theorem or_ite {j id : Byte} {x value : Option (List Byte)} (hne : j = id → x = none) :
    x.or (if j = id then value else none) = if j = id then value else x := by
  split
  · rw [hne ‹_›, Option.none_or]
  · exact Option.or_none

/-- The extensions that `MangleRtpPacket` collects have the values of the mangled message. -/
theorem mangledExtensions_spec (mapping : ProducerMapping) (h : p.InSync) (hshows : p.Shows m) :
    ∃ es, mapping.mangledExtensions p = .ok es ∧ totalSize 1 es ≤ 84 ∧
      RtpPacket.written es = mapping.mangledValues m.values := by
  have hmid := totalSize_singleton_le emptyMid
  unfold mangledExtensions mangledValues
  cases mapping.kind with
  | all => exact ⟨_, rfl, by omega, funext written_emptyMid⟩
  | audio =>
    obtain ⟨es, hok, hsize, hwritten⟩ := proxied_spec h hshows
      mapping.rtpHeaderExtensionIds.ssrcAudioLevel .ssrcAudioLevel (by decide)
    dsimp only
    rw [hok]
    refine ⟨emptyMid :: es, rfl, ?_, funext fun j ↦ ?_⟩
    · rw [← List.singleton_append, totalSize_append]
      omega
    · rw [written_cons, hwritten, written_emptyMid]
      exact or_ite fun hj ↦ if_neg (by rw [hj]; decide)
  | video =>
    have habs := totalSize_singleton_le emptyAbsSendTime
    obtain ⟨es₁, hok₁, hsize₁, hwritten₁⟩ := proxied_spec h hshows
      mapping.rtpHeaderExtensionIds.frameMarking07 .frameMarking07 (by decide)
    obtain ⟨es₂, hok₂, hsize₂, hwritten₂⟩ := proxied_spec h hshows
      mapping.rtpHeaderExtensionIds.frameMarking .frameMarking (by decide)
    obtain ⟨es₃, hok₃, hsize₃, hwritten₃⟩ := proxied_spec h hshows
      mapping.rtpHeaderExtensionIds.videoOrientation .videoOrientation (by decide)
    obtain ⟨es₄, hok₄, hsize₄, hwritten₄⟩ := proxied_spec h hshows
      mapping.rtpHeaderExtensionIds.toffset .toffset (by decide)
    dsimp only
    rw [hok₁, hok₂, hok₃, hok₄]
    refine ⟨emptyMid :: emptyAbsSendTime :: emptyTransportWideCc01 ::
      (es₁ ++ (es₂ ++ (es₃ ++ es₄))), rfl, ?_, funext fun j ↦ ?_⟩
    · have hhead : totalSize 1 [emptyMid, emptyAbsSendTime, emptyTransportWideCc01] = 16 := rfl
      rw [show emptyMid :: emptyAbsSendTime :: emptyTransportWideCc01 ::
          (es₁ ++ (es₂ ++ (es₃ ++ es₄))) = [emptyMid, emptyAbsSendTime, emptyTransportWideCc01] ++
          (es₁ ++ (es₂ ++ (es₃ ++ es₄))) from rfl, totalSize_append, totalSize_append,
        totalSize_append, totalSize_append, hhead]
      omega
    · rw [written_cons, written_cons, written_cons, RtpPacket.written_append,
        RtpPacket.written_append, RtpPacket.written_append, hwritten₁, hwritten₂, hwritten₃,
        hwritten₄, written_emptyMid, written_emptyAbsSendTime, written_emptyTransportWideCc01]
      rw [or_ite, or_ite, or_ite, or_ite, or_ite, or_ite]
      all_goals
        intro hj
        rw [hj]
        rfl

/-! ## The whole function -/

variable {producer : Producer} {rtpStream : ℕ} {mappedPayloadType : Byte} {mappedSsrc : BitVec 32}

/-- `MangleRtpPacket` on a packet whose members agree with its bytes. -/
theorem mangleRtpPacket_spec (h : p.InSync) (hshows : p.Shows m)
    (hroom : p.size + 88 ≤ RtpHeader.bytes + p.body.length)
    (hcodec : mapping.codecs p.getPayloadType = some mappedPayloadType)
    (hssrc : producer.mapRtpStreamMappedSsrc rtpStream = some mappedSsrc) :
    ∃ q, mapping.mangleRtpPacket producer p rtpStream = .ok (true, q) ∧
      q.Carries (mapping.mangled mappedPayloadType mappedSsrc m) ∧ q.ids = mangledIds {} := by
  let packet := (p.setPayloadType mappedPayloadType).setSsrc mappedSsrc
  have hsync : packet.InSync := h.setHeader rfl rfl rfl rfl
  have hshown : packet.Shows { m with
      header := { m.header with
        payloadType := mappedPayloadType.setWidth 7
        ssrc := mappedSsrc } } := by
    rw [← hshows.header]
    exact hshows.setHeader rfl
  obtain ⟨es, hok, htotal, hwritten⟩ := mangledExtensions_spec mapping hsync hshown
  have hlt : totalSize 1 es < 32768 := by omega
  have hpadded := paddedSize_eq hlt
  have hshort := hsync.short
  obtain ⟨q, hset, hextended⟩ := RtpPacket.setExtensions_of_le hsync.formed (Or.inl rfl) hlt
    (by
      change p.size + _ ≤ RtpHeader.bytes + p.body.length + _
      omega) (by omega) (Or.inr (by omega))
  refine ⟨{ q with ids := mangledIds q.ids }, ?_, ?_, ?_⟩
  · rw [mangleRtpPacket, hcodec]
    dsimp only
    rw [hssrc]
    change (mapping.mangledExtensions packet >>= fun es ↦ _) = _
    rw [hok]
    change (packet.setExtensions 1 es >>= fun q ↦ _) = _
    rw [hset]
    rfl
  · have hmid : RtpPacket.written es (mangledIds q.ids).midExtensionId = some emptyMid.value := by
      rw [hwritten]
      unfold mangledValues
      cases mapping.kind <;> rfl
    have hcarries := hextended.carries hsync hshown (by omega) hmid (by decide)
    rw [hwritten] at hcarries
    exact hcarries
  · exact congrArg mangledIds (RtpPacket.ids_of_setExtensions hset)

/-- A buffer that starts with a packet with a video orientation and three bytes of payload. -/
def orientedBuffer : List Byte :=
  [0x90, 96, 0, 1, 0, 0, 0, 0, 0, 0, 0x08, 0xAE, 0xBE, 0xDE, 0, 1, 0x50, 0x01, 0, 0, 0xAB, 0xCD,
    0xEF] ++ List.replicate 96 0

/-- VP8 with one encoding. -/
def orientedParameters : RtpParameters where
  mid := []
  codecs := [{ type := .video, subtype := .vp8, payloadType := 96 }]
  encodings := [{ ssrc := 2222, codecPayloadType := 96, hasCodecPayloadType := true }]

/-- The stream of the encoding. -/
def orientedStream : ProducedStream :=
  { encodingIdx := 0, ssrc := 2222, payloadType := 96, rid := [] }

/-- Its producer. -/
def orientedProducer : Producer :=
  (Producer.initial orientedParameters [9000]).insertStream orientedStream 9000

theorem consistent_orientedProducer : orientedProducer.Consistent := by
  have hmake : Producer.make orientedParameters [⟨true, false, some 9000⟩] =
      .ok (Producer.initial orientedParameters [9000]) := rfl
  have hparameters : RtpParameters.make none orientedParameters.codecs
      orientedParameters.encodings = .ok orientedParameters := rfl
  exact (Producer.consistent_make hparameters hmake).insertStream (List.nodup_singleton 9000) rfl
    rfl rfl rfl rfl rfl

/-- VP8 is 101 in the router, and the id of the video orientation is 5. -/
def orientedMapping : ProducerMapping where
  kind := .video
  rtpHeaderExtensionIds := { videoOrientation := 5 }
  codecs payloadType := if payloadType = 96 then some 101 else none

end ProducerMapping

end MediasoupSfu
