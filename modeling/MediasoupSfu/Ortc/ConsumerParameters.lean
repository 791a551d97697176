import MediasoupSfu.Ortc.Selection

/-!
# The parameters of a consumer

Two parts of the reduction miss the new parameters. The header extensions that the capabilities have
are written to the copy of the consumable parameters, so that the consumer gets none. And the
maximum bitrate is computed into a variable that is not read afterwards.

With more than one encoding the scalability mode is parsed, and the parsed object is converted to a
number. That throws for every mode.

## Main results

* `consumer_negotiates` : the header extensions are right if and only if there are none to keep.
* `consumer_reduces` : when a consumer gets the one encoding it should get.
-/

namespace MediasoupSfu

namespace Ortc

open Json (Failure)

/-! ## Header extensions -/

/-- The parameters that a consumer gets, if it gets any. -/
theorem getConsumerRtpParameters_returns {drawn : DrawnSsrcs}
    {consumableParams result : RtpParameters}
    {caps : RtpCapabilities} {pipe : Bool}
    (h : getConsumerRtpParameters drawn consumableParams caps pipe = .ok result) :
    result.headerExtensions = [] ∧ ∃ codecs rtxSupported,
      selectCodecs consumableParams caps = .ok (codecs, rtxSupported) ∧
      result.codecs = codecs.map (·.filterFeedback
        (keepsFeedback (matchingExtensions caps consumableParams.headerExtensions))) := by
  obtain ⟨-, -, h⟩ := bind_eq_ok.mp h
  obtain ⟨⟨codecs, rtxSupported⟩, hselect, h⟩ := bind_eq_ok.mp h
  dsimp only at h
  split at h
  · cases h
    exact ⟨rfl, codecs, rtxSupported, hselect, rfl⟩
  · obtain ⟨encoding, -, h⟩ := bind_eq_ok.mp h
    cases h
    exact ⟨rfl, codecs, rtxSupported, hselect, rfl⟩

/-- **What is promised of the header extensions of a consumer and the feedback that goes with
them.** -/
structure Negotiated (consumableParams : RtpParameters) (caps : RtpCapabilities)
    (result : RtpParameters) : Prop where
  /-- The consumable extensions that the capabilities have, each once and in order. -/
  headerExtensions : result.headerExtensions = consumableParams.headerExtensions.filter fun ext ↦
    caps.headerExtensions.any fun capExt ↦ matchesExtension capExt ext
  transportCc : ∀ codec ∈ result.codecs, ∀ fb ∈ codec.rtcpFeedback, fb.type = "transport-cc" →
    ∃ ext ∈ result.headerExtensions, ext.uri = transportWideCcUri
  remb : ∀ codec ∈ result.codecs, ∀ fb ∈ codec.rtcpFeedback, fb.type = "goog-remb" →
    (∃ ext ∈ result.headerExtensions, ext.uri = absSendTimeUri) ∧
      ∀ ext ∈ result.headerExtensions, ext.uri ≠ transportWideCcUri

/-- An extension is kept by the loop as often as the capabilities have it. -/
theorem matchingExtensions_eq_nil {caps : RtpCapabilities}
    {exts : List RtpHeaderExtensionParameters}
    (h : ∀ ext ∈ exts, ∀ capExt ∈ caps.headerExtensions, matchesExtension capExt ext = false) :
    matchingExtensions caps exts = [] := by
  simp only [matchingExtensions, List.flatMap_eq_nil_iff, List.map_eq_nil_iff]
  intro ext hext
  exact List.filter_eq_nil_iff.mpr fun capExt hcapExt ↦ by simp [h ext hext capExt hcapExt]

/-- **The header extensions of a consumer are negotiated** if and only if the capabilities have none
of the consumable ones. -/
theorem consumer_negotiates {drawn : DrawnSsrcs} {consumableParams result : RtpParameters}
    {caps : RtpCapabilities} {pipe : Bool}
    (h : getConsumerRtpParameters drawn consumableParams caps pipe = .ok result) :
    Negotiated consumableParams caps result ↔
      ∀ ext ∈ consumableParams.headerExtensions, ∀ capExt ∈ caps.headerExtensions,
        matchesExtension capExt ext = false := by
  obtain ⟨hnone, codecs, rtxSupported, -, hcodecs⟩ := getConsumerRtpParameters_returns h
  constructor
  · intro hnegotiated ext hext capExt hcapExt
    have hfilter := hnegotiated.headerExtensions
    rw [hnone] at hfilter
    have hall := List.filter_eq_nil_iff.mp hfilter.symm ext hext
    simpa using fun hmatch ↦ hall (List.any_eq_true.mpr ⟨capExt, hcapExt, hmatch⟩)
  · intro hno
    rw [matchingExtensions_eq_nil hno] at hcodecs
    -- Without extensions all feedback for bandwidth estimation is removed.
    have hfeedback : ∀ codec ∈ result.codecs, ∀ fb ∈ codec.rtcpFeedback,
        fb.type ≠ "transport-cc" ∧ fb.type ≠ "goog-remb" := by
      intro codec hcodec fb hfb
      rw [hcodecs] at hcodec
      obtain ⟨c, -, rfl⟩ := List.mem_map.mp hcodec
      simpa [keepsFeedback] using (List.mem_filter.mp hfb).2
    refine ⟨?_, fun codec hcodec fb hfb htype ↦ ?_, fun codec hcodec fb hfb htype ↦ ?_⟩
    · rw [hnone]
      refine (List.filter_eq_nil_iff.mpr fun ext hext ↦ ?_).symm
      simpa using fun capExt hcapExt ↦ hno ext hext capExt hcapExt
    · exact absurd htype (hfeedback codec hcodec fb hfb).1
    · exact absurd htype (hfeedback codec hcodec fb hfb).2

/-- Random numbers. -/
def DrawnSsrcs.lowest : DrawnSsrcs where
  ssrc := 100000000
  rtxSsrc := 200000000
  ssrc_range := by decide
  rtxSsrc_range := by decide

def vp8Stream : RtpCodecParameters :=
  { mimeType := "video/VP8", payloadType := 100, clockRate := 90000 }

def vp8Cap : RtpCodecCapability :=
  { kind := "video", mimeType := "video/VP8", preferredPayloadType := 100, clockRate := 90000
    rtcpFeedback := [{ type := "goog-remb" }] }

/-- A VP8 stream with the extension for the absolute send time. -/
def vp8Consumable (maxBitrates : List ℤ) : RtpParameters where
  codecs := [vp8Stream]
  headerExtensions := [{ uri := absSendTimeUri, id := 4 }]
  encodings := maxBitrates.map fun maxBitrate ↦ { ssrc := 1111, maxBitrate }

/-- Capabilities with VP8 and some header extensions. -/
def vp8Caps (headerExtensions : List RtpHeaderExtension) : RtpCapabilities where
  codecs := [vp8Cap]
  headerExtensions

/-- The extension for the absolute send time, as a capability. -/
def absSendTimeCap : RtpHeaderExtension :=
  { kind := "video", uri := absSendTimeUri, preferredId := 4, direction := "sendrecv" }

theorem consumer_negotiates_without_extensions : ∃ result,
    getConsumerRtpParameters .lowest (vp8Consumable [0]) (vp8Caps []) false = .ok result ∧
      (Negotiated (vp8Consumable [0]) (vp8Caps []) result ↔
        ∀ ext ∈ (vp8Consumable [0]).headerExtensions, ∀ capExt ∈ (vp8Caps []).headerExtensions,
          matchesExtension capExt ext = false) := by
  have hok : (getConsumerRtpParameters .lowest (vp8Consumable [0]) (vp8Caps []) false).isOk =
      true := by
    decide +kernel
  obtain ⟨result, hresult⟩ := exists_ok_of_isOk hok
  exact ⟨result, hresult, consumer_negotiates hresult⟩

/-- **An extension that both sides have is lost.** -/
theorem not_consumer_negotiates :
    ¬ ∀ (drawn : DrawnSsrcs) (consumableParams : RtpParameters) (caps : RtpCapabilities)
      (pipe : Bool)
      (result : RtpParameters), getConsumerRtpParameters drawn consumableParams caps pipe =
      .ok result →
      Negotiated consumableParams caps result := by
  intro hclaim
  have hok : (getConsumerRtpParameters .lowest (vp8Consumable [0]) (vp8Caps [absSendTimeCap])
      false).isOk = true := by decide +kernel
  obtain ⟨result, hresult⟩ := exists_ok_of_isOk hok
  have hnone := (getConsumerRtpParameters_returns hresult).1
  have hfilter := (hclaim _ _ _ _ _ hresult).headerExtensions
  rw [hnone] at hfilter
  have hall := List.filter_eq_nil_iff.mp hfilter.symm { uri := absSendTimeUri, id := 4 } (by
    simp [vp8Consumable])
  simp [vp8Caps, absSendTimeCap, matchesExtension] at hall

/-! ## One encoding -/

/-- The scalability mode that is promised: for simulcast one spatial layer for each encoding, with
the temporal layers of the first mode; else the mode of the producer. -/
def promisedScalabilityMode (encodings : List RtpEncodingParameters) : String :=
  if encodings.length > 1 then
    let temporalLayers := ((matchScalabilityMode (firstScalabilityMode encodings)).getD (1, 1)).2
    "S" ++ toString encodings.length ++ "T" ++ toString temporalLayers
  else firstScalabilityMode encodings

/-- **What is promised of the encoding of a consumer.** -/
structure ReducedTo (drawn : DrawnSsrcs) (encodings : List RtpEncodingParameters)
    (result : RtpParameters) (encoding : RtpEncodingParameters) : Prop where
  single : result.encodings = [encoding]
  ssrc : encoding.ssrc = drawn.ssrc
  rtx : encoding.rtxSsrc ≠ 0 ↔ ∃ codec ∈ result.codecs, isRtxMimeType codec.mimeType = true
  scalabilityMode : encoding.scalabilityMode = promisedScalabilityMode encodings
  maxBitrate : IsGreatest {b | ∃ e ∈ encodings, e.maxBitrate = b} encoding.maxBitrate

/-- A parsed mode is no number. -/
theorem mangleScalabilityMode_of_simulcast {encodings : List RtpEncodingParameters}
    (h : encodings.length > 1) : mangleScalabilityMode encodings = .error (.exception 302) := by
  simp only [mangleScalabilityMode, if_pos h]
  rfl

/-- With simulcast a consumer gets nothing. -/
theorem getConsumerRtpParameters_of_simulcast {drawn : DrawnSsrcs}
    {consumableParams : RtpParameters}
    {caps : RtpCapabilities} (hn : consumableParams.encodings.length > 1) (result : RtpParameters) :
    getConsumerRtpParameters drawn consumableParams caps false ≠ .ok result := by
  intro h
  obtain ⟨-, -, h⟩ := bind_eq_ok.mp h
  obtain ⟨⟨codecs, rtxSupported⟩, -, h⟩ := bind_eq_ok.mp h
  obtain ⟨encoding, hencoding, -⟩ := bind_eq_ok.mp h
  simp [consumerEncoding, mangleScalabilityMode_of_simulcast hn, bind, Except.bind] at hencoding

/-- What the encoding of a consumer is where there is no simulcast. -/
theorem consumerEncoding_eq (drawn : DrawnSsrcs) (rtxSupported : Bool)
    {encodings : List RtpEncodingParameters} (h : ¬ encodings.length > 1) :
    consumerEncoding drawn rtxSupported encodings = .ok
      { ssrc := drawn.ssrc, rtxSsrc := if rtxSupported then drawn.ssrc + 1 else 0
        scalabilityMode := firstScalabilityMode encodings, maxBitrate := 0 } := by
  simp [consumerEncoding, mangleScalabilityMode, if_neg h, bind, Except.bind, pure, Except.pure]

/-- The selection returns if every `apt` can be read and a media codec is left at the front. -/
theorem selectCodecs_returns_iff {consumableParams : RtpParameters} {caps : RtpCapabilities} :
    (∃ selected, selectCodecs consumableParams caps = .ok selected) ↔
      ∃ matched, matchingCodecs caps consumableParams.codecs = .ok matched ∧
        AptsReadable (matched.map withFeedback) ∧ ¬ Blocked (matched.map withFeedback) := by
  constructor
  · rintro ⟨selected, h⟩
    obtain ⟨matched, hmatched, -⟩ := bind_eq_ok.mp h
    have hapts : AptsReadable (matched.map withFeedback) := by
      by_contra hapts
      rw [selectCodecs_unreadable hmatched hapts] at h
      cases h
    refine ⟨matched, hmatched, hapts, fun hblocked ↦ ?_⟩
    rw [(selectCodecs_eq hmatched hapts).1 hblocked] at h
    cases h
  · rintro ⟨matched, hmatched, hapts, hfree⟩
    obtain ⟨rtxSupported, h, -⟩ := (selectCodecs_eq hmatched hapts).2 hfree
    exact ⟨_, h⟩

/-- RTX is supported if an RTX codec is kept. -/
theorem rtxSupported_iff {consumableParams : RtpParameters} {caps : RtpCapabilities}
    {codecs : List RtpCodecParameters} {rtxSupported : Bool}
    (h : selectCodecs consumableParams caps = .ok (codecs, rtxSupported)) :
    rtxSupported = true ↔ ∃ codec ∈ codecs, isRtxMimeType codec.mimeType = true := by
  obtain ⟨matched, hmatched, hapts, hfree⟩ := selectCodecs_returns_iff.mp ⟨_, h⟩
  obtain ⟨rtxSupported', h', hiff⟩ := (selectCodecs_eq hmatched hapts).2 hfree
  cases h.symm.trans h'
  exact hiff

theorem getConsumerRtpParameters_eq {drawn : DrawnSsrcs} {consumableParams : RtpParameters}
    {caps : RtpCapabilities} {u : Unit} (hvalid : validateCapCodecs caps.codecs = .ok u)
    {codecs : List RtpCodecParameters} {rtxSupported : Bool}
    (hselect : selectCodecs consumableParams caps = .ok (codecs, rtxSupported))
    {encoding : RtpEncodingParameters}
    (hencoding : consumerEncoding drawn rtxSupported consumableParams.encodings = .ok encoding) :
    getConsumerRtpParameters drawn consumableParams caps false = .ok
      { rtcp := consumableParams.rtcp
        codecs := codecs.map (·.filterFeedback
          (keepsFeedback (matchingExtensions caps consumableParams.headerExtensions)))
        encodings := [encoding] } := by
  simp [getConsumerRtpParameters, hvalid, hselect, hencoding, bind, Except.bind, pure, Except.pure]

/-- **A consumer gets the one encoding it should get** if and only if the codecs can be selected,
there is one encoding, and that one has no maximum bitrate. -/
theorem consumer_reduces (drawn : DrawnSsrcs) (consumableParams : RtpParameters)
    (caps : RtpCapabilities) :
    (∃ result encoding, getConsumerRtpParameters drawn consumableParams caps false = .ok result ∧
        ReducedTo drawn consumableParams.encodings result encoding) ↔
      (∃ u, validateCapCodecs caps.codecs = .ok u) ∧
        (∃ matched, matchingCodecs caps consumableParams.codecs = .ok matched ∧
          AptsReadable (matched.map withFeedback) ∧ ¬ Blocked (matched.map withFeedback)) ∧
        ∃ encoding, consumableParams.encodings = [encoding] ∧ encoding.maxBitrate = 0 := by
  rw [← selectCodecs_returns_iff]
  constructor
  · rintro ⟨result, encoding, h, hreduced⟩
    have hsimulcast : ¬ consumableParams.encodings.length > 1 :=
      fun hn ↦ getConsumerRtpParameters_of_simulcast hn result h
    obtain ⟨u, hvalid, h⟩ := bind_eq_ok.mp h
    obtain ⟨⟨codecs, rtxSupported⟩, hselect, h⟩ := bind_eq_ok.mp h
    obtain ⟨e, hencoding, h⟩ := bind_eq_ok.mp h
    cases h
    rw [consumerEncoding_eq drawn rtxSupported hsimulcast] at hencoding
    cases hencoding
    obtain rfl : _ = encoding := (List.cons.inj hreduced.single).1
    obtain ⟨⟨e, he, hzero⟩, -⟩ := hreduced.maxBitrate
    refine ⟨⟨u, hvalid⟩, ⟨_, hselect⟩, e, ?_, hzero⟩
    -- The list is not empty and has no second encoding.
    match hencodings : consumableParams.encodings, hsimulcast with
    | [], _ =>
      rw [hencodings] at he
      cases he
    | [e'], _ =>
      rw [hencodings] at he
      rw [List.mem_singleton.mp he]
    | _ :: _ :: _, hsimulcast => simp at hsimulcast
  · rintro ⟨⟨u, hvalid⟩, ⟨⟨codecs, rtxSupported⟩, hselect⟩, e, hencodings, hzero⟩
    have hsimulcast : ¬ consumableParams.encodings.length > 1 := by simp [hencodings]
    have hresult := getConsumerRtpParameters_eq hvalid hselect
      (consumerEncoding_eq drawn rtxSupported hsimulcast)
    refine ⟨_, _, hresult, rfl, rfl, ?_, ?_, ?_⟩
    · have hset : drawn.ssrc + 1 ≠ 0 := by
        have hrange := drawn.ssrc_range
        intro h
        have := congrArg BitVec.toNat h
        simp [BitVec.toNat_add] at this
        omega
      have hiff := rtxSupported_iff hselect
      cases rtxSupported <;> simp_all [RtpCodecParameters.filterFeedback]
    · rw [promisedScalabilityMode, if_neg hsimulcast]
    · simp [hencodings, hzero]

/-- The capabilities match a media codec of the consumable parameters. -/
def SharesMediaCodec (consumableParams : RtpParameters) (caps : RtpCapabilities) : Prop :=
  ∃ codec ∈ consumableParams.codecs, isRtxMimeType codec.mimeType = false ∧
    ∃ capCodec ∈ caps.codecs, ∃ j, matchCodecs capCodec.toJson codec.toJson true false =
      .ok (true, j)

/-- **A stream with two encodings cannot be consumed.** -/
theorem not_consumer_reduces :
    ¬ ∀ (drawn : DrawnSsrcs) (consumableParams : RtpParameters) (caps : RtpCapabilities),
      1 ≤ consumableParams.encodings.length → SharesMediaCodec consumableParams caps →
      ∃ result encoding, getConsumerRtpParameters drawn consumableParams caps false = .ok result ∧
        ReducedTo drawn consumableParams.encodings result encoding := by
  intro hclaim
  obtain ⟨⟨_, j⟩, hmatch, rfl⟩ :
      ∃ r, matchCodecs vp8Cap.toJson vp8Stream.toJson true false = .ok r ∧ r.1 = true := by
    decide +kernel
  have hshares : SharesMediaCodec (vp8Consumable [0, 0]) (vp8Caps []) :=
    ⟨vp8Stream, List.mem_singleton_self _, by decide +kernel, vp8Cap, List.mem_singleton_self _,
      j, hmatch⟩
  obtain ⟨result, -, hresult, -⟩ := hclaim .lowest (vp8Consumable [0, 0]) (vp8Caps [])
    (by simp [vp8Consumable]) hshares
  exact getConsumerRtpParameters_of_simulcast (by simp [vp8Consumable]) result hresult

end Ortc

end MediasoupSfu
