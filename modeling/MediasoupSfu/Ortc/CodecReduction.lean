import MediasoupSfu.Ortc.ConsumerParameters

/-!
# The codecs of a consumer

A consumer gets the consumable codecs that its capabilities match, but no useless RTX codecs: one is
useless if its `apt` is the payload type of no codec that the consumer gets. The list is sanitized
from its end, and any codec of it counts as the associated media codec, also an RTX codec that is
removed later. Then an RTX codec is kept although the codec it is for is not.

This happens if an RTX codec is for an earlier one (or, without `apt`, for a codec with the payload
type 0) and following the `apt`s from there leads to no media codec and not in a circle. `Supported`
says that it does not: there is a set of matched codecs with the codec in it such that every RTX
codec in the set is for a codec in the set.

## Main results

* `consumer_reducesCodecs_iff` : the codecs of a consumer are the right ones exactly if every
  matched RTX codec for an earlier one is supported.
-/

namespace MediasoupSfu

namespace Ortc

open Json (Failure)

/-! ## What is promised -/

/-- A capability matches a codec strictly. -/
def strictlyMatches (capCodec : RtpCodecCapability) (codec : RtpCodecParameters) : Bool :=
  match matchCodecs capCodec.toJson codec.toJson true false with
  | .ok (matched, _) => matched
  | .error _ => false

/-- The codecs that some capability matches, each with the first such capability. -/
def matchedCodecs (caps : RtpCapabilities) (codecs : List RtpCodecParameters) :
    List (RtpCodecParameters × RtpCodecCapability) :=
  codecs.filterMap fun codec ↦
    (caps.codecs.find? fun capCodec ↦ strictlyMatches capCodec codec).map fun capCodec ↦
      (codec, capCodec)

/-- The `apt` of a codec, if it has one. -/
def apt? (codec : RtpCodecParameters) : Option ℤ :=
  (codec.parameters.lookup "apt").bind fun apt ↦ apt.getInt32.toOption

/-- A codec is a media codec, or it is an RTX codec for one of `codecs`. -/
def isUseful (codecs : List RtpCodecParameters) (codec : RtpCodecParameters) : Bool :=
  !isRtxMimeType codec.mimeType ||
    codecs.any fun associated ↦ apt? codec == some associated.payloadType

/-- The header extensions that both sides have. -/
def sharedExtensions (consumableParams : RtpParameters) (caps : RtpCapabilities) :
    List RtpHeaderExtensionParameters :=
  consumableParams.headerExtensions.filter fun ext ↦
    caps.headerExtensions.any fun capExt ↦ matchesExtension capExt ext

/-- A matched codec as a consumer gets it. -/
def reducedCodec (consumableParams : RtpParameters) (caps : RtpCapabilities)
    (pair : RtpCodecParameters × RtpCodecCapability) : RtpCodecParameters :=
  (withFeedback pair).filterFeedback (keepsFeedback (sharedExtensions consumableParams caps))

/-- **What is promised of the codecs of a consumer.** -/
structure ReducesCodecs (consumableParams : RtpParameters) (caps : RtpCapabilities)
    (result : RtpParameters) : Prop where
  /-- They are the useful ones of the matched codecs, in order, with the reduced feedback of the
  first matching capability. -/
  codecs : result.codecs =
    ((matchedCodecs caps consumableParams.codecs).map (reducedCodec consumableParams caps)).filter
      (isUseful result.codecs)
  /-- A matched media codec keeps its RTX codec. -/
  rtx : ∀ media ∈ matchedCodecs caps consumableParams.codecs,
    isRtxMimeType media.1.mimeType = false →
    ∀ rtx ∈ matchedCodecs caps consumableParams.codecs, apt? rtx.1 = some media.1.payloadType →
      reducedCodec consumableParams caps rtx ∈ result.codecs

/-! ## The condition -/

/-- **A codec is supported** by the codecs it is among: it is in a set of them in which every RTX
codec is for a codec of the set. -/
def Supported (codecs : List RtpCodecParameters) (codec : RtpCodecParameters) : Prop :=
  ∃ S : Set RtpCodecParameters, codec ∈ S ∧ (∀ c ∈ S, c ∈ codecs) ∧
    ∀ c ∈ S, isRtxMimeType c.mimeType = true →
      ∃ associated ∈ S, apt? c = some associated.payloadType

/-- **Every RTX codec that is for an earlier codec or itself is supported.** One without `apt` is
taken to be for the payload type 0, wherever that codec is. -/
def RtxSupported (codecs : List RtpCodecParameters) : Prop :=
  ∀ (i : ℕ) (codec : RtpCodecParameters), codecs[i]? = some codec →
    isRtxMimeType codec.mimeType = true → ∀ associated : RtpCodecParameters,
      aptOf codec.parameters = .ok associated.payloadType →
      (∃ j ≤ i, codecs[j]? = some associated) ∨ Supported codecs associated →
        Supported codecs codec

/-! ## Supported and anchored codecs -/

variable {codecs : List RtpCodecParameters} {codec associated : RtpCodecParameters}

theorem aptOf_of_apt? {apt : ℤ} (h : apt? codec = some apt) : aptOf codec.parameters = .ok apt := by
  obtain ⟨value, hlookup, hvalue⟩ := Option.bind_eq_some_iff.mp h
  rw [aptOf, hlookup]
  dsimp only
  cases hint : value.getInt32 with
  | error e =>
    rw [hint] at hvalue
    cases hvalue
  | ok n =>
    rw [hint] at hvalue
    rw [Option.some.inj hvalue]

/-- A codec in a supporting set is supported. -/
theorem supported_of_set {S : Set RtpCodecParameters} (hcodecs : ∀ c ∈ S, c ∈ codecs)
    (hclosed : ∀ c ∈ S, isRtxMimeType c.mimeType = true →
      ∃ associated ∈ S, apt? c = some associated.payloadType) (hcodec : codec ∈ S) :
    Supported codecs codec := ⟨S, hcodec, hcodecs, hclosed⟩

theorem Supported.mem (h : Supported codecs codec) : codec ∈ codecs := by
  obtain ⟨S, hcodec, hcodecs, -⟩ := h
  exact hcodecs codec hcodec

theorem supported_of_media (hmem : codec ∈ codecs) (hmedia : isRtxMimeType codec.mimeType = false) :
    Supported codecs codec := by
  refine supported_of_set (S := {codec}) ?_ ?_ rfl
  · rintro c rfl
    exact hmem
  · rintro c rfl hrtx
    rw [hmedia] at hrtx
    cases hrtx

/-- A supported RTX codec is for a supported codec. -/
theorem Supported.exists_associated (h : Supported codecs codec)
    (hrtx : isRtxMimeType codec.mimeType = true) :
    ∃ associated, Supported codecs associated ∧ apt? codec = some associated.payloadType := by
  obtain ⟨S, hcodec, hcodecs, hclosed⟩ := h
  obtain ⟨associated, hassociated, hapt⟩ := hclosed codec hcodec hrtx
  exact ⟨associated, supported_of_set hcodecs hclosed hassociated, hapt⟩

/-- A codec for a supported one is supported. -/
theorem Supported.rtx (h : Supported codecs associated) (hmem : codec ∈ codecs)
    (hapt : apt? codec = some associated.payloadType) : Supported codecs codec := by
  obtain ⟨S, hassociated, hcodecs, hclosed⟩ := h
  refine supported_of_set (S := insert codec S) ?_ ?_ (Set.mem_insert _ _)
  · rintro c (rfl | hc)
    · exact hmem
    · exact hcodecs c hc
  · rintro c (rfl | hc) hrtx
    · exact ⟨associated, Set.mem_insert_of_mem _ hassociated, hapt⟩
    · obtain ⟨a, ha, hapt'⟩ := hclosed c hc hrtx
      exact ⟨a, Set.mem_insert_of_mem _ ha, hapt'⟩

/-- An RTX codec for an anchored one is anchored, on whichever side that one is. -/
theorem Anchored.rtx {i j : ℕ} (h : Anchored codecs j) (hassociated : codecs[j]? = some associated)
    (hcodec : codecs[i]? = some codec)
    (hapt : aptOf codec.parameters = .ok associated.payloadType) : Anchored codecs i := by
  rcases Nat.lt_or_ge i j with hlt | hle
  · exact .after hcodec hlt h hassociated hapt
  · exact .before hcodec hle hassociated hapt

/-- **A supported codec is anchored.** What it is for is before it, or it is after it and anchored:
the induction is on the number of codecs after it. -/
theorem Supported.anchored (h : Supported codecs codec) {i : ℕ} (hcodec : codecs[i]? = some codec) :
    Anchored codecs i := by
  induction hn : codecs.length - i using Nat.strong_induction_on generalizing i codec with
  | _ n ih =>
    cases hrtx : isRtxMimeType codec.mimeType with
    | false => exact .media hcodec hrtx
    | true =>
      obtain ⟨associated, hassociated, hapt⟩ := h.exists_associated hrtx
      obtain ⟨j, hj⟩ := List.mem_iff_getElem?.mp hassociated.mem
      rcases Nat.lt_or_ge i j with hlt | hle
      · obtain ⟨hlength, -⟩ := List.getElem?_eq_some_iff.mp hj
        exact .after hcodec hlt (ih (codecs.length - j) (by omega) hassociated hj rfl) hj
          (aptOf_of_apt? hapt)
      · exact .before hcodec hle hj (aptOf_of_apt? hapt)

/-- **An anchored codec is supported**, if the RTX codecs for earlier ones are. -/
theorem Anchored.supported {i : ℕ} (h : Anchored codecs i) (hsupported : RtxSupported codecs) :
    ∀ {codec}, codecs[i]? = some codec → Supported codecs codec := by
  induction h with
  | @media i codec hcodec hmedia =>
    intro c hc
    cases hcodec.symm.trans hc
    exact supported_of_media (List.mem_of_getElem? hcodec) hmedia
  | @before i j codec associated hcodec hj hassociated hapt =>
    intro c hc
    cases hcodec.symm.trans hc
    cases hrtx : isRtxMimeType codec.mimeType with
    | false => exact supported_of_media (List.mem_of_getElem? hcodec) hrtx
    | true => exact hsupported i codec hcodec hrtx associated hapt (Or.inl ⟨j, hj, hassociated⟩)
  | @after i j codec associated hcodec hj _ hassociated hapt ih =>
    intro c hc
    cases hcodec.symm.trans hc
    cases hrtx : isRtxMimeType codec.mimeType with
    | false => exact supported_of_media (List.mem_of_getElem? hcodec) hrtx
    | true => exact hsupported i codec hcodec hrtx associated hapt (Or.inr (ih hassociated))

/-! ## The useful codecs -/

/-- Only the MIME type and the parameters of a codec, and the payload types of the others, decide
whether it is useful. -/
theorem isUseful_congr {list list' : List RtpCodecParameters} {codec' : RtpCodecParameters}
    (hlist : list.map RtpCodecParameters.payloadType = list'.map RtpCodecParameters.payloadType)
    (hmime : codec.mimeType = codec'.mimeType)
    (hparameters : codec.parameters = codec'.parameters) :
    isUseful list codec = isUseful list' codec' := by
  have hany (l : List RtpCodecParameters) (c : RtpCodecParameters) :
      (l.any fun associated ↦ apt? c == some associated.payloadType) =
        (l.map RtpCodecParameters.payloadType).any
          fun payloadType ↦ apt? c == some payloadType := by
    rw [List.any_map]
    rfl
  have hapt : apt? codec = apt? codec' := by rw [apt?, apt?, hparameters]
  rw [isUseful, isUseful, hany, hany, hlist, hmime, hapt]

theorem isUseful_iff {list : List RtpCodecParameters} :
    isUseful list codec = true ↔ (isRtxMimeType codec.mimeType = true →
      ∃ associated ∈ list, apt? codec = some associated.payloadType) := by
  simp [isUseful, Bool.or_eq_true, imp_iff_not_or]

/-- A useful codec is anchored. -/
theorem anchored_of_isUseful {i : ℕ} (hcodec : codecs[i]? = some codec)
    (huseful : isUseful (anchoredFrom codecs 0) codec = true) : Anchored codecs i := by
  cases hrtx : isRtxMimeType codec.mimeType with
  | false => exact .media hcodec hrtx
  | true =>
    obtain ⟨associated, hmem, hapt⟩ := isUseful_iff.mp huseful hrtx
    obtain ⟨j, -, hj, hanchored⟩ := mem_anchoredFrom.mp hmem
    exact hanchored.rtx hj hcodec (aptOf_of_apt? hapt)

/-- If the anchored codecs are useful, they are the useful codecs. -/
theorem anchoredFrom_eq_filter
    (h : ∀ codec ∈ anchoredFrom codecs 0, isUseful (anchoredFrom codecs 0) codec = true) :
    anchoredFrom codecs 0 = codecs.filter (isUseful (anchoredFrom codecs 0)) := by
  classical
  have hfilter (p : RtpCodecParameters → Bool) :
      codecs.filter p = (codecs.zipIdx.filter (p ∘ Prod.fst)).map Prod.fst := by
    rw [← List.filter_map, List.zipIdx_map_fst]
  conv_lhs => rw [anchoredFrom, List.drop_zero]
  rw [hfilter]
  refine congrArg (List.map Prod.fst) (List.filter_congr fun entry hentry ↦ ?_)
  obtain ⟨codec, i⟩ := entry
  have hcodec : codecs[i]? = some codec := List.mem_zipIdx_iff_getElem?.mp hentry
  rw [Function.comp_apply, Bool.eq_iff_iff, decide_eq_true_iff]
  exact ⟨fun hanchored ↦ h codec (mem_anchoredFrom.mpr ⟨i, Nat.zero_le i, hcodec, hanchored⟩),
    anchored_of_isUseful hcodec⟩

/-- **The anchored codecs are useful** exactly if the RTX codecs for earlier codecs are
supported. -/
theorem anchored_useful_iff :
    (∀ codec ∈ anchoredFrom codecs 0, isUseful (anchoredFrom codecs 0) codec = true) ↔
      RtxSupported codecs := by
  constructor
  · intro h i codec hcodec hrtx associated hapt hfor
    have hanchored : Anchored codecs i := by
      rcases hfor with ⟨j, hj, hassociated⟩ | hassociated
      · exact .before hcodec hj hassociated hapt
      · obtain ⟨j, hj⟩ := List.mem_iff_getElem?.mp hassociated.mem
        exact (hassociated.anchored hj).rtx hj hcodec hapt
    -- The anchored codecs support each other.
    refine supported_of_set (S := {c | c ∈ anchoredFrom codecs 0}) (fun c hc ↦ ?_)
      (fun c hc ↦ isUseful_iff.mp (h c hc))
      (mem_anchoredFrom.mpr ⟨i, Nat.zero_le i, hcodec, hanchored⟩)
    obtain ⟨j, -, hj, -⟩ := mem_anchoredFrom.mp hc
    exact List.mem_of_getElem? hj
  · intro hsupported codec hmem
    obtain ⟨i, -, hcodec, hanchored⟩ := mem_anchoredFrom.mp hmem
    refine isUseful_iff.mpr fun hrtx ↦ ?_
    obtain ⟨associated, hassociated, hapt⟩ :=
      (hanchored.supported hsupported hcodec).exists_associated hrtx
    obtain ⟨j, hj⟩ := List.mem_iff_getElem?.mp hassociated.mem
    exact ⟨associated, mem_anchoredFrom.mpr ⟨j, Nat.zero_le j, hj, hassociated.anchored hj⟩, hapt⟩

/-! ## What a consumer gets -/

theorem findCapCodec_eq {capCodecs : List RtpCodecCapability} {found : Option RtpCodecCapability}
    (h : findCapCodec codec capCodecs = .ok found) :
    found = capCodecs.find? fun capCodec ↦ strictlyMatches capCodec codec := by
  induction capCodecs with
  | nil => exact (Except.ok.inj h).symm
  | cons capCodec rest ih =>
    obtain ⟨⟨matched, j⟩, hmatched, h⟩ := bind_eq_ok.mp h
    have hstrictly : strictlyMatches capCodec codec = matched := by rw [strictlyMatches, hmatched]
    dsimp only at h
    rw [List.find?_cons, hstrictly]
    cases matched with
    | false => exact ih h
    | true => exact (Except.ok.inj h).symm

/-- The codecs that are matched are those that some capability matches. -/
theorem matchingCodecs_eq {caps : RtpCapabilities}
    {matched : List (RtpCodecParameters × RtpCodecCapability)}
    (h : matchingCodecs caps codecs = .ok matched) : matched = matchedCodecs caps codecs := by
  induction codecs generalizing matched with
  | nil => exact (Except.ok.inj h).symm
  | cons codec rest ih =>
    obtain ⟨found, hfound, h⟩ := bind_eq_ok.mp h
    rw [matchedCodecs, List.filterMap_cons, ← findCapCodec_eq hfound]
    cases found with
    | none => exact ih h
    | some capCodec =>
      obtain ⟨pairs, hpairs, h⟩ := bind_eq_ok.mp h
      cases h
      rw [ih hpairs]
      rfl

/-- An extension that the capabilities have several times counts like one they have once. -/
theorem keepsFeedback_matchingExtensions (consumableParams : RtpParameters)
    (caps : RtpCapabilities) :
    keepsFeedback (matchingExtensions caps consumableParams.headerExtensions) =
      keepsFeedback (sharedExtensions consumableParams caps) := by
  have hany (p : RtpHeaderExtensionParameters → Bool) :
      (matchingExtensions caps consumableParams.headerExtensions).any p =
        (sharedExtensions consumableParams caps).any p := by
    rw [Bool.eq_iff_iff, List.any_eq_true, List.any_eq_true]
    constructor
    · rintro ⟨ext, hext, hp⟩
      obtain ⟨ext', hext', hmem⟩ := List.mem_flatMap.mp hext
      obtain ⟨capExt, hcapExt, rfl⟩ := List.mem_map.mp hmem
      obtain ⟨hcapExt, hmatch⟩ := List.mem_filter.mp hcapExt
      exact ⟨ext', List.mem_filter.mpr ⟨hext', List.any_eq_true.mpr ⟨capExt, hcapExt, hmatch⟩⟩, hp⟩
    · rintro ⟨ext, hext, hp⟩
      obtain ⟨hext, hmatch⟩ := List.mem_filter.mp hext
      obtain ⟨capExt, hcapExt, hmatch⟩ := List.any_eq_true.mp hmatch
      exact ⟨ext, List.mem_flatMap.mpr ⟨ext, hext,
        List.mem_map.mpr ⟨capExt, List.mem_filter.mpr ⟨hcapExt, hmatch⟩, rfl⟩⟩, hp⟩
  funext fb
  rw [keepsFeedback, keepsFeedback, hany, hany]

/-- The codecs of a consumer are the anchored ones of the matched codecs. -/
theorem codecs_eq_anchoredFrom {drawn : DrawnSsrcs} {consumableParams result : RtpParameters}
    {caps : RtpCapabilities} {pipe : Bool}
    (h : getConsumerRtpParameters drawn consumableParams caps pipe = .ok result) :
    result.codecs =
      (anchoredFrom ((matchedCodecs caps consumableParams.codecs).map withFeedback) 0).map
        (·.filterFeedback (keepsFeedback (sharedExtensions consumableParams caps))) := by
  obtain ⟨-, selected, rtxSupported, hselect, hcodecs⟩ := getConsumerRtpParameters_returns h
  obtain ⟨matched, hmatched, hapts, hfree⟩ := selectCodecs_returns_iff.mp ⟨_, hselect⟩
  obtain ⟨rtxSupported', hselect', -⟩ := (selectCodecs_eq hmatched hapts).2 hfree
  have hselected : selected = anchoredFrom (matched.map withFeedback) 0 :=
    congrArg Prod.fst (Except.ok.inj (hselect.symm.trans hselect'))
  rw [hcodecs, hselected, matchingCodecs_eq hmatched, keepsFeedback_matchingExtensions]

/-- **The codecs of a consumer are the right ones** exactly if every matched RTX codec for an
earlier one is supported. -/
theorem consumer_reducesCodecs_iff {drawn : DrawnSsrcs} {consumableParams result : RtpParameters}
    {caps : RtpCapabilities} {pipe : Bool}
    (h : getConsumerRtpParameters drawn consumableParams caps pipe = .ok result) :
    ReducesCodecs consumableParams caps result ↔
      RtxSupported ((matchedCodecs caps consumableParams.codecs).map withFeedback) := by
  have hresult := codecs_eq_anchoredFrom h
  generalize hmatched : (matchedCodecs caps consumableParams.codecs).map withFeedback = codecs
    at hresult
  have hreduced : (matchedCodecs caps consumableParams.codecs).map
      (reducedCodec consumableParams caps) =
      codecs.map (·.filterFeedback (keepsFeedback (sharedExtensions consumableParams caps))) := by
    rw [← hmatched, List.map_map]
    rfl
  have huseful (codec : RtpCodecParameters) (keep : RtcpFeedback → Bool) :
      isUseful result.codecs (codec.filterFeedback keep) =
        isUseful (anchoredFrom codecs 0) codec := by
    refine isUseful_congr ?_ rfl rfl
    rw [hresult, List.map_map]
    rfl
  rw [← anchored_useful_iff]
  constructor
  · intro hreduces codec hmem
    have hcodec : codec.filterFeedback (keepsFeedback (sharedExtensions consumableParams caps)) ∈
        result.codecs := by
      rw [hresult]
      exact List.mem_map_of_mem hmem
    rw [hreduces.codecs] at hcodec
    exact (huseful codec _).symm.trans (List.mem_filter.mp hcodec).2
  · intro hanchored
    have hcodecs : result.codecs = ((matchedCodecs caps consumableParams.codecs).map
        (reducedCodec consumableParams caps)).filter (isUseful result.codecs) := by
      rw [hreduced, List.filter_map]
      conv_lhs => rw [hresult, anchoredFrom_eq_filter hanchored]
      refine congrArg _ (List.filter_congr fun codec _ ↦ ?_)
      exact (huseful codec _).symm
    refine ⟨hcodecs, fun media hmedia hkind rtx hrtx hapt ↦ ?_⟩
    have hkept : reducedCodec consumableParams caps media ∈ result.codecs := by
      rw [hcodecs]
      refine List.mem_filter.mpr ⟨List.mem_map_of_mem hmedia, isUseful_iff.mpr fun hrtx ↦ ?_⟩
      exact absurd (hkind.symm.trans hrtx) Bool.false_ne_true
    rw [hcodecs]
    exact List.mem_filter.mpr ⟨List.mem_map_of_mem hrtx,
      isUseful_iff.mpr fun _ ↦ ⟨_, hkept, hapt⟩⟩

/-! ## RTX for RTX -/

/-- An RTX codec. -/
def rtxFor (payloadType apt : ℤ) : RtpCodecParameters :=
  { mimeType := "video/rtx", payloadType, clockRate := 90000, parameters := [("apt", .number apt)] }

/-- A VP8 stream with RTX codecs. -/
def vp8WithRtx (rtxCodecs : List RtpCodecParameters) : RtpParameters where
  codecs := vp8Stream :: rtxCodecs
  encodings := [{ ssrc := 1111 }]

/-- Capabilities with VP8 and RTX. -/
def vp8RtxCaps : RtpCapabilities where
  codecs := [vp8Cap, { kind := "video", mimeType := "video/rtx", preferredPayloadType := 101
                       clockRate := 90000, parameters := [("apt", .number 100)] }]

/-- An orphan is removed, and the RTX codec for the media codec is kept. -/
theorem reducesCodecs_vp8 : ∃ result,
    getConsumerRtpParameters .lowest (vp8WithRtx [rtxFor 101 50, rtxFor 102 100]) vp8RtxCaps false =
      .ok result ∧
    (ReducesCodecs (vp8WithRtx [rtxFor 101 50, rtxFor 102 100]) vp8RtxCaps result ↔
      RtxSupported ((matchedCodecs vp8RtxCaps
        (vp8WithRtx [rtxFor 101 50, rtxFor 102 100]).codecs).map withFeedback)) := by
  have hok : (getConsumerRtpParameters .lowest (vp8WithRtx [rtxFor 101 50, rtxFor 102 100])
      vp8RtxCaps false).isOk = true := by decide +kernel
  obtain ⟨result, hresult⟩ := exists_ok_of_isOk hok
  exact ⟨result, hresult, consumer_reducesCodecs_iff hresult⟩

/-- **A useless RTX codec is kept.** The second RTX codec is for the first one, which is removed
after the second one has been looked at. -/
theorem not_reducesCodecs :
    ¬∀ (drawn : DrawnSsrcs) (consumableParams : RtpParameters) (caps : RtpCapabilities)
      (pipe : Bool) (result : RtpParameters),
      getConsumerRtpParameters drawn consumableParams caps pipe = .ok result →
      ReducesCodecs consumableParams caps result := by
  intro hclaim
  obtain ⟨result, hresult, codec, hcodec, huseless⟩ :
      ∃ result, getConsumerRtpParameters .lowest (vp8WithRtx [rtxFor 101 50, rtxFor 102 101])
        vp8RtxCaps false = .ok result ∧
        ∃ codec ∈ result.codecs, ¬isUseful result.codecs codec = true := by
    decide +kernel
  rw [(hclaim _ _ _ _ _ hresult).codecs] at hcodec
  exact huseless (List.mem_filter.mp hcodec).2

end Ortc

end MediasoupSfu
