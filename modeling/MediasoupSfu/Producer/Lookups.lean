import MediasoupSfu.Producer.Tables

/-!
# Finding the stream of a packet

Before a stream is created for an encoding by its RID, or for the only encoding, it is checked that
the encoding has none. Before one is created by the SSRC this is not checked. So if a stream has
been created for an encoding by its RID under another SSRC, a packet with the SSRC of the encoding
ends in a failed assertion (`rid_then_ssrc`). An encoding without an SSRC has the SSRC 0 there,
which is one that a packet may have. `consistent_of_reachable` says that otherwise the tables agree
with each other.
-/

namespace MediasoupSfu

namespace Producer

variable {p q : Producer} {packet : RtpPacket} {ssrc : BitVec 32} {payloadType : Byte}
  {rtpStream : ℕ}
  {stream : ProducedStream}

/-! ## Faults -/

/-- The faults that are none of the tables. -/
def Foreign (f : Fault) : Prop := f = .outOfBounds ∨ f = .assertion "key does not exist"

theorem fault_findRtxCodec {codecs : List RtpCodecParameters} {f : Fault}
    (h : RtpParameters.findRtxCodec payloadType codecs = .error f) : Foreign f := by
  induction codecs with
  | nil => cases h
  | cons codec codecs ih =>
    unfold RtpParameters.findRtxCodec at h
    split at h
    · rcases bind_eq_error.mp h with hapt | ⟨apt, -, hrest⟩
      · unfold getInteger at hapt
        split at hapt
        · cases hapt
          exact Or.inr rfl
        · cases hapt
        · cases hapt
      · split at hrest
        · cases hrest
        · exact ih hrest
    · exact ih h

theorem fault_getExtension {id : Byte} {f : Fault} (h : packet.getExtension id = .error f) :
    Foreign f := by
  have hbyte : ∀ {ptr : ℕ} {f : Fault}, Byte.get1Byte packet.body ptr = .error f → Foreign f := by
    intro ptr f hf
    unfold Byte.get1Byte at hf
    split at hf
    · cases hf
    · cases hf
      exact Or.inl rfl
  unfold RtpPacket.getExtension at h
  split at h
  · cases h
  split at h
  · split at h
    · cases h
    · rcases bind_eq_error.mp h with hf | ⟨b, -, hrest⟩
      · exact hbyte hf
      · cases hrest
  split at h
  · split at h
    · cases h
    · rcases bind_eq_error.mp h with hf | ⟨len, -, hrest⟩
      · exact hbyte hf
      · split at hrest <;> cases hrest
  · cases h

theorem fault_readRid {f : Fault} (h : packet.readRid = .error f) : Foreign f := by
  have hread : ∀ {id : Byte}, packet.readExtension id = .error f → Foreign f := by
    intro id hf
    rcases bind_eq_error.mp hf with hf | ⟨exten, -, hrest⟩
    · exact fault_getExtension hf
    · cases exten with
      | none => cases hrest
      | some exten =>
        dsimp only at hrest
        split at hrest <;> cases hrest
  rcases bind_eq_error.mp h with hf | ⟨rid, -, hrest⟩
  · exact hread hf
  · cases rid with
    | none => exact hread hrest
    | some rid => cases hrest

/-! ## What a call can come to -/

/-- A stream that serves the SSRC is found or created, or the packet is ignored, or something
outside of the tables goes wrong. -/
inductive Serves (ssrc : BitVec 32) (mappedSsrcs : List (BitVec 32)) :
    Except Fault (Option ℕ × Producer) → Prop where
  | fault {f : Fault} (h : Foreign f) : Serves ssrc mappedSsrcs (.error f)
  | ignored {q : Producer} (h : q.Consistent) (hmapped : q.mappedSsrcs = mappedSsrcs) :
      Serves ssrc mappedSsrcs (.ok (none, q))
  | found {q : Producer} {rtpStream : ℕ} {stream : ProducedStream} (h : q.Consistent)
      (hmapped : q.mappedSsrcs = mappedSsrcs) (hstream : q.rtpStreams[rtpStream]? = some stream)
      (hssrc : stream.ssrc = ssrc ∨ stream.rtxSsrc = ssrc) :
      Serves ssrc mappedSsrcs (.ok (some rtpStream, q))

/-- The encoding that a packet matches by its SSRC. -/
def encodingOf (p : Producer) (ssrc : BitVec 32) (payloadType : Byte) :
    Option (RtpEncodingParameters × ℕ) :=
  p.rtpParameters.encodings.zipIdx.find? fun (encoding, _) ↦
    decide (encoding.ssrc = ssrc) && decide (encoding.codecPayloadType = payloadType)

/-- The encoding that a packet of an unknown SSRC matches by its SSRC has no stream. -/
def Harmless (p : Producer) (packet : RtpPacket) : Prop :=
  p.findStream packet.getSsrc = none → p.mapRtxSsrcRtpStream packet.getSsrc = none →
    ∀ encoding i, p.encodingOf packet.getSsrc packet.getPayloadType = some (encoding, i) →
      p.rtpStreamByEncodingIdx[i]?.join = none

/-! ## The lookups -/

/-- A SSRC that is not in use, in consistent tables. -/
structure Unused (p : Producer) (ssrc : BitVec 32) : Prop where
  consistent : p.Consistent
  nodup : p.mappedSsrcs.Nodup
  findStream_eq : p.findStream ssrc = none
  mapRtxSsrcRtpStream_eq : p.mapRtxSsrcRtpStream ssrc = none

theorem Unused.createRtpStream (h : p.Unused ssrc) {mediaCodec : RtpCodecParameters} {i : ℕ}
    {encoding : RtpEncodingParameters} (hencoding : p.rtpParameters.encodings[i]? = some encoding)
    (hnone : p.rtpStreamByEncodingIdx[i]?.join = none) :
    Serves ssrc p.mappedSsrcs (p.createRtpStream ssrc mediaCodec i) := by
  obtain ⟨h, hnodup, hfind, hrtx⟩ := h
  have hentry : p.rtpStreamByEncodingIdx[i]? = some none := by
    obtain ⟨hlt, -⟩ := List.getElem?_eq_some_iff.mp hencoding
    cases hentry : p.rtpStreamByEncodingIdx[i]? with
    | none =>
      have hge := List.getElem?_eq_none_iff.mp hentry
      rw [h.length_eq] at hge
      exact absurd hlt (Nat.not_lt.mpr hge)
    | some entry =>
      rw [hentry] at hnone
      exact congrArg some hnone
  unfold Producer.createRtpStream
  rw [hfind, hnone, hencoding]
  cases hmapped : p.mappedSsrcs[i]? with
  | none => exact .fault (Or.inl rfl)
  | some mappedSsrc =>
    have hrid : (p.rtpParameters.encodings[i]?).map RtpEncodingParameters.rid =
        some encoding.rid := by
      rw [hencoding]
      rfl
    exact .found (h.insertStream hnodup hfind hrtx hentry hrid hmapped rfl) rfl
      (getElem?_insertStream.mpr (Or.inr ⟨rfl, rfl⟩)) (Or.inl rfl)

theorem Unused.attachRtx (h : p.Unused ssrc) (hstream : p.rtpStreams[rtpStream]? = some stream) :
    Serves ssrc p.mappedSsrcs (p.attachRtx rtpStream payloadType ssrc) := by
  obtain ⟨h, -, hfind, hrtx⟩ := h
  unfold Producer.attachRtx streamAt
  rw [hstream]
  change Serves ssrc p.mappedSsrcs (if stream.hasRtx then Except.ok (none, p)
    else Except.ok (some rtpStream, p.withRtx rtpStream stream payloadType ssrc))
  split
  · exact .ignored h rfl
  · rename_i hno
    exact .found (h.withRtx hfind hrtx hstream (by simpa using hno)) rfl
      ((getElem?_withRtx hstream).mpr (Or.inl ⟨rfl, rfl⟩)) (Or.inr rfl)

/-- The codecs of an encoding are found, unless a feature codec is without its parameter. -/
theorem Consistent.matchCodecs (h : p.Consistent) {encoding : RtpEncodingParameters}
    (hencoding : encoding ∈ p.rtpParameters.encodings) (payloadType : Byte) :
    (∃ f, p.matchCodecs encoding payloadType = .error f ∧ Foreign f) ∨
      ∃ mediaCodec isRtxPacket, p.matchCodecs encoding payloadType =
        .ok (mediaCodec, decide (encoding.codecPayloadType = payloadType), isRtxPacket) := by
  obtain ⟨mediaCodec, hmedia⟩ := h.codec_of_encoding encoding hencoding
  have hpayloadType : mediaCodec.payloadType = encoding.codecPayloadType := by
    have hfound := hmedia
    unfold RtpParameters.getCodecForEncoding at hfound
    split at hfound
    · rename_i codec hcodec
      cases hfound
      simpa using List.find?_some hcodec
    · cases hfound
  unfold Producer.matchCodecs
  rw [hmedia]
  cases hrtx : p.rtpParameters.getRtxCodecForEncoding encoding with
  | error f => exact Or.inl ⟨f, rfl, fault_findRtxCodec hrtx⟩
  | ok rtxCodec =>
    refine Or.inr ⟨mediaCodec, rtxCodec.any fun codec ↦ decide (codec.payloadType = payloadType),
      ?_⟩
    rw [← hpayloadType]
    rfl

/-- **The lookup by the SSRC** returns nothing or serves, if the encoding that matches has no
stream. -/
theorem Unused.ssrcLookup (h : p.Unused ssrc) (payloadType : Byte)
    {encodings : List (RtpEncodingParameters × ℕ)}
    (hencodings : ∀ encoding i, (encoding, i) ∈ encodings →
      p.rtpParameters.encodings[i]? = some encoding)
    (hnone : ∀ encoding i, (encodings.find? fun (encoding, _) ↦
        decide (encoding.ssrc = ssrc) && decide (encoding.codecPayloadType = payloadType)) =
          some (encoding, i) → p.rtpStreamByEncodingIdx[i]?.join = none) :
    p.ssrcLookup ssrc payloadType encodings = .ok none ∨
      ∃ result, p.ssrcLookup ssrc payloadType encodings = result.map some ∧
        Serves ssrc p.mappedSsrcs result := by
  induction encodings with
  | nil => exact Or.inl rfl
  | cons head encodings ih =>
    obtain ⟨encoding, i⟩ := head
    have hhead := hencodings encoding i List.mem_cons_self
    have hmap : ∀ result : Except Fault (Option ℕ × Producer),
        (result >>= fun a ↦ Except.ok (some a)) = result.map some := fun result ↦ by
      cases result <;> rfl
    unfold Producer.ssrcLookup
    rcases h.consistent.matchCodecs (List.mem_of_getElem? hhead) payloadType with
      ⟨f, hf, hforeign⟩ | ⟨mediaCodec, isRtxPacket, hcodecs⟩
    · rw [hf]
      exact Or.inr ⟨.error f, rfl, .fault hforeign⟩
    · rw [hcodecs]
      dsimp only [bind, Except.bind]
      split
      · rename_i hmatch
        obtain ⟨hpayloadType, hssrc⟩ := hmatch
        have hentry := hnone encoding i (by
          rw [List.find?_cons_of_pos (by simpa using ⟨hssrc, of_decide_eq_true hpayloadType⟩)])
        exact Or.inr ⟨_, hmap _, h.createRtpStream hhead hentry⟩
      · rename_i hmatch
        split
        · cases hfound : p.findStream encoding.ssrc with
          | none => exact Or.inr ⟨.ok (none, p), rfl, .ignored h.consistent rfl⟩
          | some rtpStream =>
            obtain ⟨stream, hstream, -⟩ := h.consistent.of_findStream hfound
            exact Or.inr ⟨_, hmap _, h.attachRtx hstream⟩
        · refine ih (fun e j hmem ↦ hencodings e j (List.mem_cons_of_mem _ hmem))
            fun e j hfound ↦ ?_
          refine hnone e j ?_
          rw [List.find?_cons_of_neg (by simpa [and_comm] using hmatch)]
          exact hfound

/-- **The lookup by the RID** serves. A stream of an encoding has the RID of the encoding. -/
theorem Unused.ridLookup (h : p.Unused ssrc) (rid : List Byte)
    {encodings : List (RtpEncodingParameters × ℕ)}
    (hencodings : ∀ encoding i, (encoding, i) ∈ encodings →
      p.rtpParameters.encodings[i]? = some encoding) :
    Serves ssrc p.mappedSsrcs (p.ridLookup ssrc payloadType rid encodings) := by
  induction encodings with
  | nil => exact .ignored h.consistent rfl
  | cons head encodings ih =>
    obtain ⟨encoding, i⟩ := head
    have hhead := hencodings encoding i List.mem_cons_self
    have hrest := ih fun e j hmem ↦ hencodings e j (List.mem_cons_of_mem _ hmem)
    unfold Producer.ridLookup
    split
    · exact hrest
    · rename_i hrid
      rcases h.consistent.matchCodecs (List.mem_of_getElem? hhead) payloadType with
        ⟨f, hf, hforeign⟩ | ⟨mediaCodec, isRtxPacket, hcodecs⟩
      · rw [hf]
        exact .fault hforeign
      · rw [hcodecs]
        dsimp only [bind, Except.bind]
        split
        · split
          · exact .ignored h.consistent rfl
          · rename_i hsome
            have hnone : p.findRid rid = none := by simpa using hsome
            refine h.createRtpStream hhead (h.consistent.join_eq_none fun a s hs heq ↦ ?_)
            have hsame := h.consistent.rid_eq a s hs
            rw [heq, hhead] at hsame
            have hencodingRid : encoding.rid = s.rid := Option.some.inj hsame
            exact h.consistent.rid_ne_of_findRid hnone hs
              (hencodingRid.symm.trans (not_not.mp hrid))
        · split
          · cases hfound : p.findRid rid with
            | none => exact .ignored h.consistent rfl
            | some rtpStream =>
              obtain ⟨stream, hstream⟩ := h.consistent.of_findRid hfound
              exact h.attachRtx hstream
          · exact hrest

/-- **The lookup of a single encoding** serves. -/
theorem Unused.singleLookup (h : p.Unused ssrc) :
    Serves ssrc p.mappedSsrcs (p.singleLookup ssrc payloadType) := by
  unfold Producer.singleLookup
  split
  · rename_i encoding hencodings
    have hhead : p.rtpParameters.encodings[0]? = some encoding := by rw [hencodings]; rfl
    split
    · rcases h.consistent.matchCodecs (List.mem_of_getElem? hhead) payloadType with
        ⟨f, hf, hforeign⟩ | ⟨mediaCodec, isRtxPacket, hcodecs⟩
      · rw [hf]
        exact .fault hforeign
      · rw [hcodecs]
        dsimp only [bind, Except.bind]
        split
        · split
          · exact .ignored h.consistent rfl
          · rename_i hempty
            refine h.createRtpStream hhead (h.consistent.join_eq_none fun a s hs _ ↦ ?_)
            have hmem := (h.consistent.mem_mapSsrcRtpStream s.ssrc a).mpr ⟨s, hs, rfl⟩
            rw [not_not.mp hempty] at hmem
            cases hmem
        · split
          · split
            · exact .ignored h.consistent rfl
            · rename_i key rtpStream _ hmap
              have hmem : (key, rtpStream) ∈ p.mapSsrcRtpStream := by
                rw [hmap]
                exact List.mem_cons_self
              obtain ⟨stream, hstream, -⟩ :=
                (h.consistent.mem_mapSsrcRtpStream key rtpStream).mp hmem
              exact h.attachRtx hstream
          · exact .ignored h.consistent rfl
    · exact .ignored h.consistent rfl
  · exact .ignored h.consistent rfl

/-- **`GetRtpStream`** serves every harmless packet. -/
theorem Consistent.getRtpStream (h : p.Consistent) (hnodup : p.mappedSsrcs.Nodup)
    (hharmless : p.Harmless packet) :
    Serves packet.getSsrc p.mappedSsrcs (p.getRtpStream packet) := by
  unfold Producer.getRtpStream
  dsimp only
  cases hfind : p.findStream packet.getSsrc with
  | some rtpStream =>
    obtain ⟨stream, hstream, hssrc⟩ := h.of_findStream hfind
    exact .found h rfl hstream (Or.inl hssrc)
  | none =>
    dsimp only
    cases hrtx : p.mapRtxSsrcRtpStream packet.getSsrc with
    | some rtpStream =>
      obtain ⟨stream, hstream, -, hssrc⟩ := (h.mapRtxSsrcRtpStream_iff _ rtpStream).mp hrtx
      exact .found h rfl hstream (Or.inr hssrc)
    | none =>
      dsimp only
      have hunused : p.Unused packet.getSsrc := ⟨h, hnodup, hfind, hrtx⟩
      have hencodings : ∀ (encoding : RtpEncodingParameters) (i : ℕ),
          (encoding, i) ∈ p.rtpParameters.encodings.zipIdx →
          p.rtpParameters.encodings[i]? = some encoding :=
        fun encoding i hmem ↦ List.mem_zipIdx_iff_getElem?.mp hmem
      rcases hunused.ssrcLookup packet.getPayloadType hencodings
          (hharmless hfind hrtx) with hnone | ⟨result, heq, hserves⟩
      · rw [hnone]
        dsimp only [bind, Except.bind]
        cases hread : packet.readRid with
        | error f => exact .fault (fault_readRid hread)
        | ok rid =>
          cases rid with
          | none => exact hunused.singleLookup
          | some rid => exact hunused.ridLookup rid hencodings
      · rw [heq]
        cases result with
        | error f => exact hserves
        | ok result => exact hserves

/-! ## Whole runs -/

/-- What must not happen: `CreateRtpStream` finds a stream where there should be none, or the stream
that has been found is not one of the packet. -/
def TableFault (f : Fault) : Prop :=
  f = .assertion "RtpStream with given SSRC already exists" ∨
    f = .assertion "RtpStream for given encoding index already exists" ∨
    f = .assertion "found stream does not match received packet"

theorem Foreign.not_tableFault {f : Fault} (h : Foreign f) : ¬TableFault f := by
  rcases h with rfl | rfl
  · rintro (h | h | h) <;> cases h
  · rintro (h | h | h) <;> simp at h

/-- **One packet** keeps the tables consistent, or something outside of them goes wrong. -/
theorem Consistent.receiveRtpPacket (h : p.Consistent) (hnodup : p.mappedSsrcs.Nodup)
    (hharmless : p.Harmless packet) :
    (∃ f, p.receiveRtpPacket packet = .error f ∧ Foreign f) ∨
      ∃ result q, p.receiveRtpPacket packet = .ok (result, q) ∧ q.Consistent ∧
        q.mappedSsrcs = p.mappedSsrcs := by
  have hserves := h.getRtpStream hnodup hharmless
  unfold Producer.receiveRtpPacket
  generalize p.getRtpStream packet = outcome at hserves
  cases hserves with
  | fault hforeign => exact Or.inl ⟨_, rfl, hforeign⟩
  | ignored hq hmapped => exact Or.inr ⟨.discarded, _, rfl, hq, hmapped⟩
  | @found q rtpStream stream hq hmapped hstream hssrc =>
    dsimp only [bind, Except.bind]
    rw [streamAt, hstream]
    dsimp only
    split
    · exact Or.inr ⟨.media, q, rfl, hq, hmapped⟩
    · rename_i hmedia
      have hretransmission : packet.getSsrc = stream.rtxSsrc :=
        (hssrc.resolve_left fun heq ↦ hmedia heq.symm).symm
      rw [if_pos hretransmission]
      exact Or.inr ⟨.retransmission, q, rfl, hq, hmapped⟩

/-- A new producer has no streams. -/
theorem consistent_make {mid : Option (List Byte)} {codecs : List RtpCodecParameters}
    {encodings : List RtpEncodingParameters} {rtpParameters : RtpParameters}
    {rtpMapping : List RtpEncodingMapping}
    (hparameters : RtpParameters.make mid codecs encodings = .ok rtpParameters)
    (hmake : make rtpParameters rtpMapping = .ok p) : p.Consistent := by
  have hnew : ∃ mappedSsrcs, p = initial rtpParameters mappedSsrcs := by
    unfold make at hmake
    split at hmake
    · cases hmake
    split at hmake
    · cases hmake
    split at hmake
    · cases hmake
    obtain ⟨mappedSsrcs, -, hrest⟩ := bind_eq_ok.mp hmake
    split at hrest
    · cases hrest
    · cases hrest
      exact ⟨mappedSsrcs, rfl⟩
  obtain ⟨mappedSsrcs, rfl⟩ := hnew
  -- there are no streams, and no entries
  have hnone : ∀ {a : ℕ} {s : ProducedStream}, ([] : List ProducedStream)[a]? ≠ some s := by
    intro a s hs
    cases hs
  refine ⟨List.length_replicate, fun encoding hencoding ↦
    RtpParameters.getCodecForEncoding_of_make hparameters hencoding,
      fun a s hs ↦ absurd hs hnone, ?_,
    fun a b s t hs ↦ absurd hs hnone, ?_, ?_, fun a b s t hs ↦ absurd hs hnone, ?_, ?_⟩
  · intro ssrc rtpStream
    constructor
    · intro hmem
      cases hmem
    · rintro ⟨s, hs, -⟩
      exact absurd hs hnone
  · intro i rtpStream
    constructor
    · intro hentry
      change (List.replicate rtpParameters.encodings.length none)[i]? = _ at hentry
      rw [List.getElem?_replicate] at hentry
      split at hentry <;> cases hentry
    · rintro ⟨s, hs, -⟩
      exact absurd hs hnone
  · intro ssrc rtpStream
    constructor
    · intro hentry
      cases hentry
    · rintro ⟨s, hs, -⟩
      exact absurd hs hnone
  · intro rtpStream mappedSsrc
    constructor
    · intro hentry
      cases hentry
    · rintro ⟨s, hs, -⟩
      exact absurd hs hnone
  · intro mappedSsrc ssrc
    constructor
    · intro hentry
      cases hentry
    · rintro ⟨a, s, hs, -⟩
      exact absurd hs hnone

/-- **Consistent tables.** In every run of a producer whose encodings have distinct mapped SSRCs, in
which no packet matches by its SSRC an encoding that has a stream under another SSRC, the tables
stay consistent, and no further such packet finds them otherwise. -/
theorem consistent_of_reachable (mid : Option (List Byte)) (codecs : List RtpCodecParameters)
    (encodings : List RtpEncodingParameters) (rtpParameters : RtpParameters)
    (rtpMapping : List RtpEncodingMapping) (start p : Producer)
    (hparameters : RtpParameters.make mid codecs encodings = .ok rtpParameters)
    (hmake : make rtpParameters rtpMapping = .ok start) (hnodup : start.mappedSsrcs.Nodup)
    (h : Run.Reachable receiveRtpPacket Harmless start p) :
    p.Consistent ∧ ∀ packet f, p.Harmless packet → p.receiveRtpPacket packet = .error f →
      ¬TableFault f := by
  have hinv : p.Consistent ∧ p.mappedSsrcs = start.mappedSsrcs := by
    refine h.invariant (P := fun p ↦ p.Consistent ∧ p.mappedSsrcs = start.mappedSsrcs)
      ⟨consistent_make hparameters hmake, rfl⟩ ?_
    rintro s packet result t ⟨hs, hmapped⟩ hharmless hok
    rw [← hmapped] at hnodup
    rcases hs.receiveRtpPacket hnodup hharmless with ⟨f, hf, -⟩ | ⟨result', t', hok', ht, hmapped'⟩
    · rw [hf] at hok
      cases hok
    · rw [hok'] at hok
      cases hok
      exact ⟨ht, hmapped'.trans hmapped⟩
  obtain ⟨hconsistent, hmapped⟩ := hinv
  rw [← hmapped] at hnodup
  refine ⟨hconsistent, fun packet f hharmless hf ↦ ?_⟩
  rcases hconsistent.receiveRtpPacket hnodup
    hharmless with ⟨f', hf', hforeign⟩ | ⟨result, q, hok, -, -⟩
  · rw [hf'] at hf
    cases hf
    exact hforeign.not_tableFault
  · rw [hok] at hf
    cases hf

/-- VP8 with an encoding that has a SSRC and a RID. -/
def oneEncoding : RtpParameters where
  mid := []
  codecs := [{ type := .video, subtype := .vp8, payloadType := 96 }]
  encodings := [{ ssrc := 1111, rid := [0x72, 0x30], codecPayloadType := 96
                  hasCodecPayloadType := true }]

/-- A packet of the encoding, with its RID. -/
def ridPacket (ssrc : BitVec 32) : RtpPacket where
  header := {
    version := 2, padding := false, extension := true, csrcCount := 0
    marker := false, payloadType := 96
    sequenceNumber := 1, timestamp := 0, ssrc := ssrc }
  body := [0xBE, 0xDE, 0, 1, 0x41, 0x72, 0x30, 0, 0xAA]
  csrcList := false
  headerExtension := some 0
  mapOneByteExtensions id := if id = 4 then some 4 else none
  ids := { ridExtensionId := 4 }
  payload := 8
  payloadLength := 1
  payloadPadding := 0
  size := 21

/-- The producer of the encoding. -/
def oneEncodingProducer : Producer := initial oneEncoding [9000]

theorem make_oneEncoding : RtpParameters.make none oneEncoding.codecs oneEncoding.encodings =
    .ok oneEncoding ∧
    make oneEncoding [⟨true, true, some 9000⟩] = .ok oneEncodingProducer := ⟨rfl, rfl⟩

/-- A stream is found by the RID. -/
theorem consistent_rid : ∃ p, oneEncodingProducer.receiveRtpPacket (ridPacket 2222) =
    .ok (.media, p) ∧
    p.Consistent ∧ p.rtpStreams.length = 1 := by
  obtain ⟨⟨_, p⟩, hp, rfl, hlength⟩ :
      ∃ r, oneEncodingProducer.receiveRtpPacket (ridPacket 2222) = .ok r ∧
        r.1 = .media ∧ r.2.rtpStreams.length = 1 := by
    decide +kernel
  have hnone : oneEncodingProducer.encodingOf 2222 96 = none := by decide
  have hharmless : oneEncodingProducer.Harmless (ridPacket 2222) := by
    intro _ _ encoding i hencoding
    exact absurd (hnone.symm.trans hencoding).symm (Option.some_ne_none _)
  have hreached : Run.Reachable receiveRtpPacket Harmless oneEncodingProducer p :=
    .step .start hharmless hp
  exact ⟨p, hp, (consistent_of_reachable none _ _ oneEncoding _ oneEncodingProducer p
    make_oneEncoding.1
    make_oneEncoding.2 (List.nodup_singleton 9000) hreached).1, hlength⟩

/-- **A second stream for an encoding.** A packet with the RID of the encoding and an unknown SSRC,
and then one with the SSRC of the encoding. -/
theorem rid_then_ssrc : ∃ p, oneEncodingProducer.receiveRtpPacket (ridPacket 2222) =
    .ok (.media, p) ∧
    p.receiveRtpPacket (ridPacket 1111) =
      .error (.assertion "RtpStream for given encoding index already exists") := by
  obtain ⟨⟨_, p⟩, hp, rfl, hsecond⟩ :
      ∃ r, oneEncodingProducer.receiveRtpPacket (ridPacket 2222) = .ok r ∧
        r.1 = .media ∧ r.2.receiveRtpPacket (ridPacket 1111) =
          .error (.assertion "RtpStream for given encoding index already exists") := by
    decide +kernel
  exact ⟨p, hp, hsecond⟩

end Producer

end MediasoupSfu
