import MediasoupSfu.Ortc.MappingAgrees
import MediasoupSfu.Ortc.Selection

/-!
# `canConsume` and the selection of codecs

A consumer is only created if `canConsume` says so, and its creation throws if the selection of
codecs finds no media codec. Both match the consumable codecs with the same capabilities in the same
order. But `canConsume` looks at the first matched codec, and the selection removes orphaned RTX
codecs first.

They disagree if the first matched codec is an orphaned RTX codec and a media codec comes after it
with nothing but orphans before it.

## Main results

* `canConsume_agrees` : when the two agree, for all parameters and capabilities.
-/

namespace MediasoupSfu

namespace Ortc

open Json (Failure)

/-- **`canConsume` returns true exactly if the selection finds a media codec.** -/
def CanConsumeAgrees (consumableParams : RtpParameters) (caps : RtpCapabilities) : Prop :=
  canConsume consumableParams caps = .ok true ↔
    selectCodecs consumableParams caps ≠ .error (.thrown noCompatibleMediaCodecs)

/-- The first matched codec is a media codec. -/
def MediaFirst (matched : List (RtpCodecParameters × RtpCodecCapability)) : Prop :=
  ∃ pair ∈ matched.head?, isRtxMimeType pair.1.mimeType = false

/-- `canConsume` looks at the first matched codec. -/
theorem canConsume_eq_true_iff {consumableParams : RtpParameters} {caps : RtpCapabilities}
    {matched : List (RtpCodecParameters × RtpCodecCapability)}
    (h : matchingCodecs caps consumableParams.codecs = .ok matched) :
    canConsume consumableParams caps = .ok true ↔
      (∃ j, validateRtpCapabilities caps.toJson = .ok j) ∧ MediaFirst matched := by
  have hmime := matchingCodecs_returns h
  unfold canConsume
  cases hvalid : validateRtpCapabilities caps.toJson with
  | error e => simp [bind, Except.bind]
  | ok j =>
    simp only [h, bind, Except.bind]
    cases matched with
    | nil => simp [MediaFirst, pure, Except.pure]
    | cons pair rest =>
      simp [MediaFirst, isRtxCodec_toJson, hmime pair (by simp), pure, Except.pure]

/-- A media codec at the front is not blocked. -/
theorem not_blocked_of_mediaFirst {matched : List (RtpCodecParameters × RtpCodecCapability)}
    (h : MediaFirst matched) : ¬ Blocked (matched.map withFeedback) := by
  obtain ⟨pair, hpair, hmedia⟩ := h
  intro hblocked
  obtain ⟨j, hj, -⟩ := hblocked 0 (withFeedback pair) (by
    cases matched with
    | nil => cases hpair
    | cons _ _ => cases hpair; rfl) hmedia
  omega

/-- **When `canConsume` agrees with the selection of codecs.** The codecs can be compared, and
either the capabilities are valid and match a media codec first, or every `apt` can be read and no
media codec is left at the front. -/
theorem canConsume_agrees (consumableParams : RtpParameters) (caps : RtpCapabilities) :
    CanConsumeAgrees consumableParams caps ↔
      ∃ matched, matchingCodecs caps consumableParams.codecs = .ok matched ∧
        ((∃ j, validateRtpCapabilities caps.toJson = .ok j) ∧ MediaFirst matched ∨
          AptsReadable (matched.map withFeedback) ∧ Blocked (matched.map withFeedback)) := by
  unfold CanConsumeAgrees
  cases hmatched : matchingCodecs caps consumableParams.codecs with
  | error e =>
    have hcan : canConsume consumableParams caps ≠ .ok true := by
      intro h
      obtain ⟨j, -, h⟩ := bind_eq_ok.mp h
      simp [hmatched, bind, Except.bind] at h
    have hselect : selectCodecs consumableParams caps = .error e := by
      simp [selectCodecs, hmatched, bind, Except.bind]
    have hsilent : e ≠ .thrown noCompatibleMediaCodecs := by
      rintro rfl
      exact silent_matchingCodecs caps consumableParams.codecs _ hmatched
    simp [hcan, hselect, hsilent]
  | ok matched =>
    rw [canConsume_eq_true_iff hmatched]
    simp only [Except.ok.injEq, exists_eq_left']
    by_cases hapts : AptsReadable (matched.map withFeedback)
    · obtain ⟨hblocked, hfree⟩ := selectCodecs_eq hmatched hapts
      by_cases hb : Blocked (matched.map withFeedback)
      · have hmedia : ¬ MediaFirst matched := fun h ↦ not_blocked_of_mediaFirst h hb
        simp [hblocked hb, hmedia, hapts, hb]
      · obtain ⟨rtxSupported, hselect, -⟩ := hfree hb
        simp [hselect, hb]
    · simp [selectCodecs_unreadable hmatched hapts, hapts]

/-! ## A disagreement -/

/-- A producer of two video codecs, the first one with RTX. -/
def twoCodecsParams : RtpParameters where
  codecs := [{ mimeType := "video/H265", payloadType := 96, clockRate := 90000 },
    { mimeType := "video/rtx", payloadType := 97, clockRate := 90000
      parameters := [("apt", .number 96)] },
    { mimeType := "video/VP8", payloadType := 98, clockRate := 90000 }]

/-- A router that has both codecs, the first one with RTX. -/
def twoCodecsRouterCaps : RtpCapabilities where
  codecs := [{ kind := "video", mimeType := "video/H265", preferredPayloadType := 100
               clockRate := 90000 },
    { kind := "video", mimeType := "video/rtx", preferredPayloadType := 101, clockRate := 90000
      parameters := [("apt", .number 100)] },
    { kind := "video", mimeType := "video/VP8", preferredPayloadType := 102, clockRate := 90000 }]

/-- Capabilities with RTX and only the second codec. -/
def vp8AndRtxCaps : RtpCapabilities where
  codecs := [{ kind := "video", mimeType := "video/VP8", preferredPayloadType := 110
               clockRate := 90000 },
    { kind := "video", mimeType := "video/rtx", preferredPayloadType := 111, clockRate := 90000
      parameters := [("apt", .number 110)] }]

/-- The producer is mapped, and its stream is offered to a consumer with the second codec. -/
def offerSecondCodec : Except Failure Bool := do
  let rtpMapping ← getProducerRtpParametersMapping .inOrder twoCodecsParams twoCodecsRouterCaps
  let consumableParams ←
    getConsumableRtpParameters "video" twoCodecsParams twoCodecsRouterCaps rtpMapping
  let can ← canConsume consumableParams vp8AndRtxCaps
  let _ ← selectCodecs consumableParams vp8AndRtxCaps
  return can

/-- **A media codec behind an orphaned RTX codec is missed**: `canConsume` returns false, and the
selection finds a media codec. -/
theorem not_canConsume_agrees :
    ¬ ∀ (u : Unspecified) (kind : String) (params consumableParams : RtpParameters)
      (routerCaps : RtpCapabilities) (rtpMapping : RtpMapping),
      getProducerRtpParametersMapping u params routerCaps = .ok rtpMapping →
      getConsumableRtpParameters kind params routerCaps rtpMapping = .ok consumableParams →
      ∀ caps, CanConsumeAgrees consumableParams caps := by
  intro hclaim
  obtain ⟨can, hresult, rfl⟩ : ∃ can, offerSecondCodec = .ok can ∧ can = false := by
    decide +kernel
  obtain ⟨rtpMapping, hmapping, h⟩ := bind_eq_ok.mp hresult
  obtain ⟨consumableParams, hconsumable, h⟩ := bind_eq_ok.mp h
  obtain ⟨can', hcan, h⟩ := bind_eq_ok.mp h
  obtain ⟨selected, hselect, h⟩ := bind_eq_ok.mp h
  cases h
  have hagrees := hclaim .inOrder "video" _ _ _ _ hmapping hconsumable vp8AndRtxCaps
  rw [CanConsumeAgrees, hcan, hselect] at hagrees
  simp at hagrees

end Ortc

end MediasoupSfu
