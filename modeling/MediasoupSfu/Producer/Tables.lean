import Mathlib.Data.List.Sort
import MediasoupSfu.Library.Run
import MediasoupSfu.Producer.RtpParameters
import MediasoupSfu.Rtp.Sending

/-!
# The streams of a producer

A producer finds the stream of a packet by its SSRC. If there is none it may create one, for an
encoding with this SSRC, for an encoding with the RID that the packet carries, or for the only
encoding if that has neither. The streams are kept in five tables.

Every table is determined by the streams: `Consistent` says how, and that no two streams share an
encoding or an SSRC. It is kept when a stream is created for an encoding that has none, with an SSRC
that is not in use (`Consistent.insertStream`), and when a RTX stream with such an SSRC is attached
(`Consistent.withRtx`).

A stream is identified by the order in which the streams have been created. What it does with a
packet does not touch the tables and is left out.
-/

namespace MediasoupSfu

open Memory

/-! ## The code -/

/-- The value of an element, if it is there and not empty. -/
def RtpPacket.readExtension (packet : RtpPacket) (id : Byte) :
    Except Fault (Option (List Byte)) := do
  match ← packet.getExtension id with
  | some (extenValue, extenLen) =>
    if 0 < extenLen then return some (slice packet.body extenValue extenLen) else return none
  | none => return none

/-- `ReadRid(rid)`. -/
def RtpPacket.readRid (packet : RtpPacket) : Except Fault (Option (List Byte)) := do
  -- First try with the RID id then with the Repaired RID id.
  match ← packet.readExtension packet.ids.ridExtensionId with
  | some rid => return some rid
  | none => packet.readExtension packet.ids.rridExtensionId

/-- `RtpEncodingMapping`, with the optional entries as far as the constructor checks them. -/
structure RtpEncodingMapping where
  hasSsrc : Bool
  hasRid : Bool
  mappedSsrc : Option (BitVec 32)
  deriving DecidableEq, Repr

/-- What the producer reads of a `RtpStreamRecv`. -/
structure ProducedStream where
  encodingIdx : ℕ
  ssrc : BitVec 32
  payloadType : Byte
  rid : List Byte
  hasRtx : Bool := false
  rtxPayloadType : Byte := 0
  rtxSsrc : BitVec 32 := 0
  deriving DecidableEq, Repr

/-- The members of `Producer` that find streams. -/
structure Producer where
  rtpParameters : RtpParameters
  /-- The mapped SSRC of each encoding. -/
  mappedSsrcs : List (BitVec 32)
  /-- The streams, in the order of their creation. -/
  rtpStreams : List ProducedStream := []
  /-- In the order of the SSRCs. -/
  mapSsrcRtpStream : List (BitVec 32 × ℕ) := []
  mapRtxSsrcRtpStream : BitVec 32 → Option ℕ := fun _ ↦ none
  rtpStreamByEncodingIdx : List (Option ℕ)
  mapRtpStreamMappedSsrc : ℕ → Option (BitVec 32) := fun _ ↦ none
  mapMappedSsrcSsrc : BitVec 32 → Option (BitVec 32) := fun _ ↦ none

/-- `ReceiveRtpPacketResult`. -/
inductive ReceiveRtpPacketResult where
  | discarded
  | media
  | retransmission
  deriving DecidableEq, Repr

namespace Producer

/-- The checks on an entry of `rtpMapping.encodings`, one of `count`. -/
def checkMapping (mid : List Byte) (count : ℕ) (encoding : RtpEncodingMapping) :
    Except Thrown (BitVec 32) :=
  if 1 < count ∧ ¬encoding.hasSsrc ∧ ¬encoding.hasRid then
    .error (.typeError "wrong entry in rtpMapping.encodings (missing ssrc or rid)")
  else if mid = [] ∧ count = 1 ∧ ¬encoding.hasSsrc ∧ ¬encoding.hasRid then
    .error (.typeError
      "wrong entry in rtpMapping.encodings (missing ssrc or rid, or rtpParameters.mid)")
  else match encoding.mappedSsrc with
  | none => .error (.typeError "wrong entry in rtpMapping.encodings (missing mappedSsrc)")
  | some mappedSsrc => .ok mappedSsrc

/-- The members at the end of the constructor. -/
def initial (rtpParameters : RtpParameters) (mappedSsrcs : List (BitVec 32)) : Producer where
  rtpParameters := rtpParameters
  mappedSsrcs := mappedSsrcs
  -- Reserve a slot for each RTP stream.
  rtpStreamByEncodingIdx := List.replicate rtpParameters.encodings.length none

/-- `Producer(id, listener, data)`, with the RTP parameters and the mapping of the data. -/
def make (rtpParameters : RtpParameters) (rtpMapping : List RtpEncodingMapping) :
    Except Thrown Producer :=
  match rtpParameters.encodings with
  | [] => .error (.fault .outOfBounds)
  | encoding :: _ =>
    match rtpParameters.getCodecForEncoding encoding with
    | .error f => .error (.fault f)
    | .ok mediaCodec =>
      if ¬isValidTypeForCodec rtpParameters.getType mediaCodec then
        .error (.typeError "%s codec not supported for %s")
      else do
        let mappedSsrcs ← rtpMapping.mapM (checkMapping rtpParameters.mid rtpMapping.length)
        if rtpParameters.encodings.length ≠ rtpMapping.length then
          .error (.typeError "rtpParameters.encodings size does not match rtpMapping.encodings size")
        else return initial rtpParameters mappedSsrcs

/-- `mapSsrcRtpStream.find(ssrc)`. -/
def findStream (p : Producer) (ssrc : BitVec 32) : Option ℕ :=
  (p.mapSsrcRtpStream.find? fun kv ↦ kv.1 = ssrc).map Prod.snd

/-- The stream behind a pointer. -/
def streamAt (p : Producer) (rtpStream : ℕ) : Except Fault ProducedStream :=
  match p.rtpStreams[rtpStream]? with
  | some stream => .ok stream
  | none => .error .outOfBounds

/-- The first stream with the given RID. -/
def findRid (p : Producer) (rid : List Byte) : Option ℕ :=
  (p.mapSsrcRtpStream.find? fun kv ↦
    match p.rtpStreams[kv.2]? with
    | some stream => stream.rid = rid
    | none => false).map Prod.snd

/-- The tables after a stream has been created. -/
def insertStream (p : Producer) (stream : ProducedStream) (mappedSsrc : BitVec 32) : Producer :=
  let rtpStream := p.rtpStreams.length
  { p with
    rtpStreams := p.rtpStreams ++ [stream]
    mapSsrcRtpStream :=
      p.mapSsrcRtpStream.orderedInsert (fun a b ↦ a.1 ≤ b.1) (stream.ssrc, rtpStream)
    rtpStreamByEncodingIdx := p.rtpStreamByEncodingIdx.set stream.encodingIdx (some rtpStream)
    mapRtpStreamMappedSsrc := Function.update p.mapRtpStreamMappedSsrc rtpStream (some mappedSsrc)
    mapMappedSsrcSsrc := Function.update p.mapMappedSsrcSsrc mappedSsrc (some stream.ssrc) }

/-- The tables after RTX data has been attached to a stream. -/
def withRtx (p : Producer) (rtpStream : ℕ) (stream : ProducedStream) (payloadType : Byte)
    (ssrc : BitVec 32) : Producer :=
  { p with
    rtpStreams := p.rtpStreams.set rtpStream { stream with
      hasRtx := true
      rtxPayloadType := payloadType
      rtxSsrc := ssrc }
    mapRtxSsrcRtpStream := Function.update p.mapRtxSsrcRtpStream ssrc (some rtpStream) }

/-- `CreateRtpStream(packet, mediaCodec, encodingIdx)`, on the SSRC of the packet. -/
def createRtpStream (p : Producer) (ssrc : BitVec 32) (mediaCodec : RtpCodecParameters)
    (encodingIdx : ℕ) : Except Fault (Option ℕ × Producer) := do
  msAssert (p.findStream ssrc).isNone "RtpStream with given SSRC already exists"
  msAssert p.rtpStreamByEncodingIdx[encodingIdx]?.join.isNone
    "RtpStream for given encoding index already exists"
  match p.rtpParameters.encodings[encodingIdx]?, p.mappedSsrcs[encodingIdx]? with
  | some encoding, some mappedSsrc =>
    let stream : ProducedStream := {
      encodingIdx := encodingIdx
      ssrc := ssrc
      payloadType := mediaCodec.payloadType
      rid := encoding.rid }
    return (some p.rtpStreams.length, p.insertStream stream mappedSsrc)
  | _, _ => .error .outOfBounds

/-- Update the stream RTX data, and insert the new RTX ssrc into the map, unless a RTX ssrc was
previously detected. -/
def attachRtx (p : Producer) (rtpStream : ℕ) (payloadType : Byte) (ssrc : BitVec 32) :
    Except Fault (Option ℕ × Producer) := do
  let stream ← p.streamAt rtpStream
  if stream.hasRtx then return (none, p)
  else return (some rtpStream, p.withRtx rtpStream stream payloadType ssrc)

/-- The media codec of an encoding, whether a payload type is its one, and whether it is that of its
RTX codec. -/
def matchCodecs (p : Producer) (encoding : RtpEncodingParameters) (payloadType : Byte) :
    Except Fault (RtpCodecParameters × Bool × Bool) := do
  let mediaCodec ← p.rtpParameters.getCodecForEncoding encoding
  let rtxCodec ← p.rtpParameters.getRtxCodecForEncoding encoding
  return (mediaCodec, decide (mediaCodec.payloadType = payloadType),
    rtxCodec.any fun codec ↦ decide (codec.payloadType = payloadType))

/-- The loop of `GetRtpStream` over the encodings for one with matching media or RTX ssrc value:
what is returned, if anything. -/
def ssrcLookup (p : Producer) (ssrc : BitVec 32) (payloadType : Byte) :
    List (RtpEncodingParameters × ℕ) → Except Fault (Option (Option ℕ × Producer))
  | [] => .ok none
  | (encoding, i) :: encodings => do
    let (mediaCodec, isMediaPacket, isRtxPacket) ← p.matchCodecs encoding payloadType
    if isMediaPacket ∧ encoding.ssrc = ssrc then return some (← p.createRtpStream ssrc mediaCodec i)
    else if isRtxPacket ∧ encoding.hasRtx ∧ encoding.rtxSsrc = ssrc then
      match p.findStream encoding.ssrc with
      -- Ignore if no stream has been created yet for the corresponding encoding.
      | none => return some (none, p)
      | some rtpStream => return some (← p.attachRtx rtpStream payloadType ssrc)
    else ssrcLookup p ssrc payloadType encodings

/-- The loop of `GetRtpStream` over the encodings for one matching the packet RID value. -/
def ridLookup (p : Producer) (ssrc : BitVec 32) (payloadType : Byte) (rid : List Byte) :
    List (RtpEncodingParameters × ℕ) → Except Fault (Option ℕ × Producer)
  -- Ignore a packet with unknown RID.
  | [] => .ok (none, p)
  | (encoding, i) :: encodings =>
    if encoding.rid ≠ rid then ridLookup p ssrc payloadType rid encodings
    else do
      let (mediaCodec, isMediaPacket, isRtxPacket) ← p.matchCodecs encoding payloadType
      if isMediaPacket then
        -- Ensure no other stream already exists with same RID.
        if (p.findRid rid).isSome then return (none, p)
        else p.createRtpStream ssrc mediaCodec i
      else if isRtxPacket then
        -- Ensure a stream already exists with same RID.
        match p.findRid rid with
        | some rtpStream => p.attachRtx rtpStream payloadType ssrc
        | none => return (none, p)
      else ridLookup p ssrc payloadType rid encodings

/-- The end of `GetRtpStream`: a single encoding without ssrc and RID. -/
def singleLookup (p : Producer) (ssrc : BitVec 32) (payloadType : Byte) :
    Except Fault (Option ℕ × Producer) :=
  match p.rtpParameters.encodings with
  | [encoding] =>
    if encoding.ssrc = 0 ∧ encoding.rid = [] then do
      let (mediaCodec, isMediaPacket, isRtxPacket) ← p.matchCodecs encoding payloadType
      if isMediaPacket then
        -- Ensure there is no other RTP stream already.
        if p.mapSsrcRtpStream ≠ [] then return (none, p)
        else p.createRtpStream ssrc mediaCodec 0
      else if isRtxPacket then
        -- There must be already a media RTP stream.
        match p.mapSsrcRtpStream with
        | [] => return (none, p)
        | (_, rtpStream) :: _ => p.attachRtx rtpStream payloadType ssrc
      else return (none, p)
    else .ok (none, p)
  | _ => .ok (none, p)

/-- `GetRtpStream(packet)`. -/
def getRtpStream (p : Producer) (packet : RtpPacket) : Except Fault (Option ℕ × Producer) :=
  let ssrc := packet.getSsrc
  let payloadType := packet.getPayloadType
  match p.findStream ssrc with
  | some rtpStream => .ok (some rtpStream, p)
  | none =>
    match p.mapRtxSsrcRtpStream ssrc with
    | some rtpStream => .ok (some rtpStream, p)
    | none => do
      -- Otherwise check our encodings and, if appropriate, create a new stream.
      match ← p.ssrcLookup ssrc payloadType p.rtpParameters.encodings.zipIdx with
      | some result => return result
      | none =>
        match ← packet.readRid with
        | some rid => p.ridLookup ssrc payloadType rid p.rtpParameters.encodings.zipIdx
        | none => p.singleLookup ssrc payloadType

/-- `ReceiveRtpPacket(packet)`, up to the call of the stream. -/
def receiveRtpPacket (p : Producer) (packet : RtpPacket) :
    Except Fault (ReceiveRtpPacketResult × Producer) := do
  match ← p.getRtpStream packet with
  | (none, p) => return (.discarded, p)
  | (some rtpStream, p) =>
    let stream ← p.streamAt rtpStream
    if packet.getSsrc = stream.ssrc then return (.media, p)
    else if packet.getSsrc = stream.rtxSsrc then return (.retransmission, p)
    -- Should not happen.
    else .error (.assertion "found stream does not match received packet")

/-! ## Consistent tables -/

variable {p : Producer} {ssrc mappedSsrc : BitVec 32} {payloadType : Byte} {rtpStream : ℕ}
  {stream : ProducedStream}

/-- **The invariant.** Every table is determined by the streams, and no two streams share an
encoding or a SSRC. -/
structure Consistent (p : Producer) : Prop where
  length_eq : p.rtpStreamByEncodingIdx.length = p.rtpParameters.encodings.length
  codec_of_encoding : ∀ encoding ∈ p.rtpParameters.encodings,
    ∃ codec, p.rtpParameters.getCodecForEncoding encoding = .ok codec
  rid_eq : ∀ (rtpStream : ℕ) (stream : ProducedStream), p.rtpStreams[rtpStream]? = some stream →
    (p.rtpParameters.encodings[stream.encodingIdx]?).map RtpEncodingParameters.rid = some stream.rid
  mem_mapSsrcRtpStream : ∀ ssrc rtpStream, (ssrc, rtpStream) ∈ p.mapSsrcRtpStream ↔
    ∃ stream : ProducedStream, p.rtpStreams[rtpStream]? = some stream ∧ stream.ssrc = ssrc
  ssrc_inj : ∀ (a b : ℕ) (s t : ProducedStream), p.rtpStreams[a]? = some s →
    p.rtpStreams[b]? = some t → s.ssrc = t.ssrc → a = b
  rtpStreamByEncodingIdx_iff : ∀ i rtpStream, p.rtpStreamByEncodingIdx[i]? = some (some rtpStream) ↔
    ∃ stream : ProducedStream, p.rtpStreams[rtpStream]? = some stream ∧ stream.encodingIdx = i
  mapRtxSsrcRtpStream_iff : ∀ ssrc rtpStream, p.mapRtxSsrcRtpStream ssrc = some rtpStream ↔
    ∃ stream : ProducedStream, p.rtpStreams[rtpStream]? = some stream ∧ stream.hasRtx = true ∧
      stream.rtxSsrc = ssrc
  ssrc_ne_rtxSsrc : ∀ (a b : ℕ) (s t : ProducedStream), p.rtpStreams[a]? = some s →
    p.rtpStreams[b]? = some t → t.hasRtx = true → s.ssrc ≠ t.rtxSsrc
  mapRtpStreamMappedSsrc_iff : ∀ rtpStream mappedSsrc,
    p.mapRtpStreamMappedSsrc rtpStream = some mappedSsrc ↔
      ∃ stream : ProducedStream, p.rtpStreams[rtpStream]? = some stream ∧
        p.mappedSsrcs[stream.encodingIdx]? = some mappedSsrc
  mapMappedSsrcSsrc_iff : ∀ mappedSsrc ssrc, p.mapMappedSsrcSsrc mappedSsrc = some ssrc ↔
    ∃ (rtpStream : ℕ) (stream : ProducedStream), p.rtpStreams[rtpStream]? = some stream ∧
      p.mappedSsrcs[stream.encodingIdx]? = some mappedSsrc ∧ stream.ssrc = ssrc

/-- Each encoding has at most one stream. -/
theorem Consistent.of_findStream (h : p.Consistent) (hfind : p.findStream ssrc = some rtpStream) :
    ∃ stream : ProducedStream, p.rtpStreams[rtpStream]? = some stream ∧ stream.ssrc = ssrc := by
  unfold findStream at hfind
  obtain ⟨⟨found, rtpStream⟩, hfound, rfl⟩ := Option.map_eq_some_iff.mp hfind
  have hssrc : found = ssrc := by simpa using List.find?_some hfound
  rw [hssrc] at hfound
  exact (h.mem_mapSsrcRtpStream ssrc rtpStream).mp (List.mem_of_find?_eq_some hfound)

/-- A SSRC that is not found is that of no stream. -/
theorem Consistent.ssrc_ne_of_findStream (h : p.Consistent) (hfind : p.findStream ssrc = none)
    (hstream : p.rtpStreams[rtpStream]? = some stream) : stream.ssrc ≠ ssrc := by
  rintro rfl
  have hmem := (h.mem_mapSsrcRtpStream stream.ssrc rtpStream).mpr ⟨stream, hstream, rfl⟩
  unfold findStream at hfind
  rw [Option.map_eq_none_iff] at hfind
  simpa using List.find?_eq_none.mp hfind _ hmem

theorem Consistent.of_findRid (h : p.Consistent) {rid : List Byte}
    (hfind : p.findRid rid = some rtpStream) : ∃ stream : ProducedStream, p.rtpStreams[rtpStream]? =
    some stream := by
  unfold findRid at hfind
  obtain ⟨⟨ssrc, rtpStream⟩, hfound, rfl⟩ := Option.map_eq_some_iff.mp hfind
  obtain ⟨stream, hstream, -⟩ := (h.mem_mapSsrcRtpStream ssrc rtpStream).mp
    (List.mem_of_find?_eq_some hfound)
  exact ⟨stream, hstream⟩

/-- A RID that is not found is that of no stream. -/
theorem Consistent.rid_ne_of_findRid (h : p.Consistent) {rid : List Byte}
    (hfind : p.findRid rid = none)
    (hstream : p.rtpStreams[rtpStream]? = some stream) : stream.rid ≠ rid := by
  rintro rfl
  have hmem := (h.mem_mapSsrcRtpStream stream.ssrc rtpStream).mpr ⟨stream, hstream, rfl⟩
  unfold findRid at hfind
  rw [Option.map_eq_none_iff] at hfind
  have hnot := List.find?_eq_none.mp hfind _ hmem
  rw [hstream] at hnot
  exact hnot (by simp)

/-- The entry of an encoding without a stream. -/
theorem Consistent.join_eq_none (h : p.Consistent) {i : ℕ}
    (hnone : ∀ (rtpStream : ℕ) (stream : ProducedStream), p.rtpStreams[rtpStream]? = some stream →
      stream.encodingIdx ≠ i) :
    p.rtpStreamByEncodingIdx[i]?.join = none := by
  cases hentry : p.rtpStreamByEncodingIdx[i]? with
  | none => rfl
  | some entry =>
    cases entry with
    | none => rfl
    | some rtpStream =>
      obtain ⟨stream, hstream, heq⟩ := (h.rtpStreamByEncodingIdx_iff i rtpStream).mp hentry
      exact absurd heq (hnone rtpStream stream hstream)

/-! ## A new stream -/

/-- The streams after one has been created. -/
theorem getElem?_insertStream {other : ProducedStream} :
    (p.insertStream stream mappedSsrc).rtpStreams[rtpStream]? = some other ↔
      p.rtpStreams[rtpStream]? = some other ∨ rtpStream = p.rtpStreams.length ∧ other = stream := by
  change (p.rtpStreams ++ [stream])[rtpStream]? = some other ↔ _
  rcases Nat.lt_trichotomy rtpStream p.rtpStreams.length with hlt | rfl | hgt
  · rw [List.getElem?_append_left hlt]
    exact ⟨Or.inl, fun h ↦ h.elim id fun h ↦ absurd h.1 hlt.ne⟩
  · rw [List.getElem?_concat_length, List.getElem?_eq_none le_rfl]
    constructor
    · intro h
      exact Or.inr ⟨rfl, (Option.some.inj h).symm⟩
    · rintro (h | ⟨-, rfl⟩)
      · cases h
      · rfl
  · have hlength : (p.rtpStreams ++ [stream]).length = p.rtpStreams.length + 1 := List.length_append
    rw [List.getElem?_eq_none (by omega), List.getElem?_eq_none (by omega)]
    constructor
    · intro h
      cases h
    · rintro (h | ⟨rfl, -⟩)
      · cases h
      · exact absurd hgt (lt_irrefl _)

/-- **A new stream** for an encoding that has none, with a SSRC that is not in use. -/
theorem Consistent.insertStream (h : p.Consistent) (hnodup : p.mappedSsrcs.Nodup)
    (hfind : p.findStream stream.ssrc = none) (hrtx : p.mapRtxSsrcRtpStream stream.ssrc = none)
    (hentry : p.rtpStreamByEncodingIdx[stream.encodingIdx]? = some none)
    (hrid : (p.rtpParameters.encodings[stream.encodingIdx]?).map RtpEncodingParameters.rid =
      some stream.rid)
    (hmapped : p.mappedSsrcs[stream.encodingIdx]? = some mappedSsrc) (hno : stream.hasRtx = false) :
    (p.insertStream stream mappedSsrc).Consistent := by
  have hfresh : ∀ other, p.rtpStreams[p.rtpStreams.length]? ≠ some other := fun other hother ↦ by
    rw [List.getElem?_eq_none le_rfl] at hother
    cases hother
  have hencoding : ∀ (a : ℕ) (s : ProducedStream), p.rtpStreams[a]? = some s →
      s.encodingIdx ≠ stream.encodingIdx := by
    intro a s hs heq
    have hused := (h.rtpStreamByEncodingIdx_iff s.encodingIdx a).mpr ⟨s, hs, rfl⟩
    rw [heq, hentry] at hused
    cases hused
  have hother : ∀ (a : ℕ) (s : ProducedStream), p.rtpStreams[a]? = some s →
      p.mappedSsrcs[s.encodingIdx]? ≠ some mappedSsrc := by
    intro a s hs hsame
    obtain ⟨hlt, -⟩ := List.getElem?_eq_some_iff.mp hsame
    exact hencoding a s hs ((List.getElem?_inj hlt hnodup).mp (hsame.trans hmapped.symm))
  refine ⟨(List.length_set).trans h.length_eq, h.codec_of_encoding, ?_, ?_, ?_, ?_, ?_, ?_, ?_, ?_⟩
  · intro rtpStream other hstream
    rcases getElem?_insertStream.mp hstream with hold | ⟨-, rfl⟩
    · exact h.rid_eq rtpStream other hold
    · exact hrid
  · intro ssrc rtpStream
    change (ssrc, rtpStream) ∈ p.mapSsrcRtpStream.orderedInsert _ _ ↔ _
    rw [List.mem_orderedInsert, h.mem_mapSsrcRtpStream]
    constructor
    · rintro (heq | ⟨other, hold, hssrc⟩)
      · cases heq
        exact ⟨stream, getElem?_insertStream.mpr (Or.inr ⟨rfl, rfl⟩), rfl⟩
      · exact ⟨other, getElem?_insertStream.mpr (Or.inl hold), hssrc⟩
    · rintro ⟨other, hstream, rfl⟩
      rcases getElem?_insertStream.mp hstream with hold | ⟨rfl, rfl⟩
      · exact Or.inr ⟨other, hold, rfl⟩
      · exact Or.inl rfl
  · intro a b s t hs ht heq
    rcases getElem?_insertStream.mp hs with hold | ⟨rfl, rfl⟩
    · rcases getElem?_insertStream.mp ht with hold' | ⟨rfl, rfl⟩
      · exact h.ssrc_inj a b s t hold hold' heq
      · exact absurd heq (h.ssrc_ne_of_findStream hfind hold)
    · rcases getElem?_insertStream.mp ht with hold' | ⟨rfl, rfl⟩
      · exact absurd heq.symm (h.ssrc_ne_of_findStream hfind hold')
      · rfl
  · intro i rtpStream
    change (p.rtpStreamByEncodingIdx.set stream.encodingIdx (some p.rtpStreams.length))[i]? = _ ↔ _
    by_cases hi : stream.encodingIdx = i
    · subst hi
      obtain ⟨hlt, -⟩ := List.getElem?_eq_some_iff.mp hentry
      rw [List.getElem?_set_self hlt]
      constructor
      · intro heq
        cases heq
        exact ⟨stream, getElem?_insertStream.mpr (Or.inr ⟨rfl, rfl⟩), rfl⟩
      · rintro ⟨other, hstream, heq⟩
        rcases getElem?_insertStream.mp hstream with hold | ⟨rfl, rfl⟩
        · exact absurd heq (hencoding _ _ hold)
        · rfl
    · rw [List.getElem?_set_ne hi, h.rtpStreamByEncodingIdx_iff]
      constructor
      · rintro ⟨other, hold, heq⟩
        exact ⟨other, getElem?_insertStream.mpr (Or.inl hold), heq⟩
      · rintro ⟨other, hstream, heq⟩
        rcases getElem?_insertStream.mp hstream with hold | ⟨rfl, rfl⟩
        · exact ⟨other, hold, heq⟩
        · exact absurd heq hi
  · intro ssrc rtpStream
    change p.mapRtxSsrcRtpStream ssrc = some rtpStream ↔ _
    rw [h.mapRtxSsrcRtpStream_iff]
    constructor
    · rintro ⟨other, hold, hhas, heq⟩
      exact ⟨other, getElem?_insertStream.mpr (Or.inl hold), hhas, heq⟩
    · rintro ⟨other, hstream, hhas, heq⟩
      rcases getElem?_insertStream.mp hstream with hold | ⟨rfl, rfl⟩
      · exact ⟨other, hold, hhas, heq⟩
      · rw [hno] at hhas
        cases hhas
  · intro a b s t hs ht hhas heq
    rcases getElem?_insertStream.mp ht with hold | ⟨rfl, rfl⟩
    · rcases getElem?_insertStream.mp hs with hold' | ⟨rfl, rfl⟩
      · exact h.ssrc_ne_rtxSsrc a b s t hold' hold hhas heq
      · have hused := (h.mapRtxSsrcRtpStream_iff t.rtxSsrc b).mpr ⟨t, hold, hhas, rfl⟩
        rw [← heq, hrtx] at hused
        cases hused
    · rw [hno] at hhas
      cases hhas
  · intro rtpStream other
    change Function.update p.mapRtpStreamMappedSsrc p.rtpStreams.length (some mappedSsrc)
      rtpStream =
      some other ↔ _
    rw [Function.update_apply]
    split
    · rename_i heq
      subst heq
      constructor
      · intro heq
        cases heq
        exact ⟨stream, getElem?_insertStream.mpr (Or.inr ⟨rfl, rfl⟩), hmapped⟩
      · rintro ⟨found, hstream, hfound⟩
        rcases getElem?_insertStream.mp hstream with hold | ⟨-, rfl⟩
        · exact absurd hold (hfresh found)
        · exact hmapped.symm.trans hfound
    · rename_i hne
      rw [h.mapRtpStreamMappedSsrc_iff]
      constructor
      · rintro ⟨found, hold, hfound⟩
        exact ⟨found, getElem?_insertStream.mpr (Or.inl hold), hfound⟩
      · rintro ⟨found, hstream, hfound⟩
        rcases getElem?_insertStream.mp hstream with hold | ⟨heq, -⟩
        · exact ⟨found, hold, hfound⟩
        · exact absurd heq hne
  · intro other ssrc
    change Function.update p.mapMappedSsrcSsrc mappedSsrc (some stream.ssrc) other = some ssrc ↔ _
    rw [Function.update_apply]
    split
    · rename_i heq
      subst heq
      constructor
      · intro heq
        cases heq
        exact ⟨_, stream, getElem?_insertStream.mpr (Or.inr ⟨rfl, rfl⟩), hmapped, rfl⟩
      · rintro ⟨rtpStream, found, hstream, hfound, rfl⟩
        rcases getElem?_insertStream.mp hstream with hold | ⟨-, rfl⟩
        · exact absurd hfound (hother _ _ hold)
        · rfl
    · rename_i hne
      rw [h.mapMappedSsrcSsrc_iff]
      constructor
      · rintro ⟨rtpStream, found, hold, hfound, heq⟩
        exact ⟨rtpStream, found, getElem?_insertStream.mpr (Or.inl hold), hfound, heq⟩
      · rintro ⟨rtpStream, found, hstream, hfound, heq⟩
        rcases getElem?_insertStream.mp hstream with hold | ⟨-, rfl⟩
        · exact ⟨rtpStream, found, hold, hfound, heq⟩
        · exact absurd (Option.some.inj (hfound.symm.trans hmapped)) hne

/-! ## A new RTX stream -/

/-- The streams afterwards. -/
theorem getElem?_withRtx (hstream : p.rtpStreams[rtpStream]? = some stream) {a : ℕ}
    {s : ProducedStream} : (p.withRtx rtpStream stream payloadType ssrc).rtpStreams[a]? = some s ↔
      (a = rtpStream ∧ s =
        { stream with hasRtx := true, rtxPayloadType := payloadType, rtxSsrc := ssrc }) ∨
        (a ≠ rtpStream ∧ p.rtpStreams[a]? = some s) := by
  change (p.rtpStreams.set rtpStream _)[a]? = some s ↔ _
  by_cases ha : a = rtpStream
  · subst ha
    obtain ⟨hlt, -⟩ := List.getElem?_eq_some_iff.mp hstream
    rw [List.getElem?_set_self hlt]
    constructor
    · intro heq
      exact Or.inl ⟨rfl, (Option.some.inj heq).symm⟩
    · rintro (⟨-, rfl⟩ | ⟨hne, -⟩)
      · rfl
      · exact absurd rfl hne
  · rw [List.getElem?_set_ne (Ne.symm ha)]
    constructor
    · exact fun heq ↦ Or.inr ⟨ha, heq⟩
    · rintro (⟨heq, -⟩ | ⟨-, heq⟩)
      · exact absurd heq ha
      · exact heq

/-- Apart from its RTX data a stream stays what it is. -/
theorem exists_withRtx (hstream : p.rtpStreams[rtpStream]? = some stream) {a : ℕ}
    {P : ProducedStream → Prop} (hP : ∀ s : ProducedStream, P s ↔
      P { s with hasRtx := true, rtxPayloadType := payloadType, rtxSsrc := ssrc }) :
    (∃ s, (p.withRtx rtpStream stream payloadType ssrc).rtpStreams[a]? = some s ∧ P s) ↔
      ∃ s, p.rtpStreams[a]? = some s ∧ P s := by
  constructor
  · rintro ⟨s, hs, hPs⟩
    rcases (getElem?_withRtx hstream).mp hs with ⟨rfl, rfl⟩ | ⟨-, hold⟩
    · exact ⟨stream, hstream, (hP stream).mpr hPs⟩
    · exact ⟨s, hold, hPs⟩
  · rintro ⟨s, hs, hPs⟩
    by_cases ha : a = rtpStream
    · subst ha
      rw [hstream] at hs
      cases hs
      exact ⟨_, (getElem?_withRtx hstream).mpr (Or.inl ⟨rfl, rfl⟩), (hP stream).mp hPs⟩
    · exact ⟨s, (getElem?_withRtx hstream).mpr (Or.inr ⟨ha, hs⟩), hPs⟩

/-- **A new RTX stream** with a SSRC that is not in use. -/
theorem Consistent.withRtx (h : p.Consistent) (hfind : p.findStream ssrc = none)
    (hrtx : p.mapRtxSsrcRtpStream ssrc = none) (hstream : p.rtpStreams[rtpStream]? = some stream)
    (hno : stream.hasRtx = false) : (p.withRtx rtpStream stream payloadType ssrc).Consistent := by
  -- every stream comes from one that differs at most in its RTX data
  have hold : ∀ {a : ℕ} {s : ProducedStream},
      (p.withRtx rtpStream stream payloadType ssrc).rtpStreams[a]? = some s →
      ∃ t : ProducedStream, p.rtpStreams[a]? = some t ∧ t.encodingIdx = s.encodingIdx ∧
        t.ssrc = s.ssrc ∧ t.rid = s.rid := by
    intro a s hs
    rcases (getElem?_withRtx hstream).mp hs with ⟨rfl, rfl⟩ | ⟨-, hs⟩
    · exact ⟨stream, hstream, rfl, rfl, rfl⟩
    · exact ⟨s, hs, rfl, rfl, rfl⟩
  refine ⟨h.length_eq, h.codec_of_encoding, ?_, ?_, ?_, ?_, ?_, ?_, ?_, ?_⟩
  · intro a s hs
    obtain ⟨t, ht, hidx, -, hrid⟩ := hold hs
    rw [← hidx, ← hrid]
    exact h.rid_eq a t ht
  · intro other a
    exact (h.mem_mapSsrcRtpStream other a).trans
      (exists_withRtx (P := fun s ↦ s.ssrc = other) hstream fun _ ↦ Iff.rfl).symm
  · intro a b s t hs ht heq
    obtain ⟨s', hs', -, hssrc, -⟩ := hold hs
    obtain ⟨t', ht', -, hssrc', -⟩ := hold ht
    exact h.ssrc_inj a b s' t' hs' ht' (hssrc.trans (heq.trans hssrc'.symm))
  · intro i a
    exact (h.rtpStreamByEncodingIdx_iff i a).trans
      (exists_withRtx (P := fun s ↦ s.encodingIdx = i) hstream fun _ ↦ Iff.rfl).symm
  · intro other a
    change Function.update p.mapRtxSsrcRtpStream ssrc (some rtpStream) other = some a ↔ _
    rw [Function.update_apply]
    split
    · rename_i heq
      subst heq
      constructor
      · intro heq
        cases heq
        exact ⟨_, (getElem?_withRtx hstream).mpr (Or.inl ⟨rfl, rfl⟩), rfl, rfl⟩
      · rintro ⟨s, hs, hhas, heq⟩
        rcases (getElem?_withRtx hstream).mp hs with ⟨rfl, -⟩ | ⟨-, hs⟩
        · rfl
        · have hused := (h.mapRtxSsrcRtpStream_iff other a).mpr ⟨s, hs, hhas, heq⟩
          rw [hrtx] at hused
          cases hused
    · rename_i hne
      rw [h.mapRtxSsrcRtpStream_iff]
      constructor
      · rintro ⟨s, hs, hhas, heq⟩
        have ha : a ≠ rtpStream := by
          rintro rfl
          rw [hstream] at hs
          cases hs
          rw [hno] at hhas
          cases hhas
        exact ⟨s, (getElem?_withRtx hstream).mpr (Or.inr ⟨ha, hs⟩), hhas, heq⟩
      · rintro ⟨s, hs, hhas, heq⟩
        rcases (getElem?_withRtx hstream).mp hs with ⟨-, rfl⟩ | ⟨-, hs⟩
        · exact absurd heq.symm hne
        · exact ⟨s, hs, hhas, heq⟩
  · intro a b s t hs ht hhas
    obtain ⟨s', hs', -, hssrc, -⟩ := hold hs
    rw [← hssrc]
    rcases (getElem?_withRtx hstream).mp ht with ⟨-, rfl⟩ | ⟨-, ht⟩
    · exact h.ssrc_ne_of_findStream hfind hs'
    · exact h.ssrc_ne_rtxSsrc a b s' t hs' ht hhas
  · intro a mappedSsrc
    exact (h.mapRtpStreamMappedSsrc_iff a mappedSsrc).trans
      (exists_withRtx (P := fun s ↦ p.mappedSsrcs[s.encodingIdx]? = some mappedSsrc) hstream
        fun _ ↦ Iff.rfl).symm
  · intro mappedSsrc other
    refine (h.mapMappedSsrcSsrc_iff mappedSsrc other).trans (exists_congr fun a ↦ ?_)
    exact (exists_withRtx (P := fun s ↦ p.mappedSsrcs[s.encodingIdx]? = some mappedSsrc ∧
      s.ssrc = other)
      hstream fun _ ↦ Iff.rfl).symm

end Producer

end MediasoupSfu
