import MediasoupSfu.Ortc.Consume

/-!
# The parameters of a pipe consumer

A pipe consumer keeps the encodings of the producer and gives up bandwidth estimation, and RTX and
NACK too unless RTX is enabled. The conditions on the feedback compare the type of a feedback twice,
where the second comparison is meant for its parameter. So PLI and FIR are never kept for their own
sake, and the condition for the generic NACK, which has no parameter, asks for one.

The header extensions that are kept are written to the consumable parameters, and not to those of
the consumer. They are a reference to what the producer stores, so that every later consumer misses
the extensions that were left out.

## Main results

* `pipe_reduces` : when a pipe consumer gets the parameters it should get, and the producer keeps
  its own.
-/

namespace MediasoupSfu

namespace Ortc

open Json (Failure)

/-- Which feedback is promised to be kept: PLI and FIR, and the generic NACK with RTX. -/
def promisedPipeFeedback (enableRtx : Bool) (fb : RtcpFeedback) : Bool :=
  (fb.type = "nack" && fb.parameter = "pli") || (fb.type = "ccm" && fb.parameter = "fir") ||
    (enableRtx && fb.type = "nack" && fb.parameter = "")

/-- The codecs that a pipe consumer keeps. -/
def keptCodecs (enableRtx : Bool) (codecs : List RtpCodecParameters) : List RtpCodecParameters :=
  codecs.filter fun codec ↦ enableRtx || !isRtxMimeType codec.mimeType

/-- **What is promised of the parameters of a pipe consumer**, and of the consumable parameters
afterwards. -/
structure Piped (drawn : DrawnSsrcs) (enableRtx : Bool)
    (consumableParams result after : RtpParameters) :
    Prop where
  unchanged : after = consumableParams
  codecs : result.codecs = (keptCodecs enableRtx consumableParams.codecs).map
    (·.filterFeedback (promisedPipeFeedback enableRtx))
  headerExtensions : result.headerExtensions = consumableParams.headerExtensions.filter
    isPipeExtension
  encodings : result.encodings = consumableParams.encodings.mapIdx fun i encoding ↦ { encoding with
    ssrc := drawn.ssrc + BitVec.ofNat 32 i
    rtxSsrc := if enableRtx then drawn.rtxSsrc + BitVec.ofNat 32 i else 0 }

/-- Two filters agree on a list if they agree on its elements. -/
theorem filter_eq_filter_iff {α : Type} {p q : α → Bool} {l : List α} :
    l.filter p = l.filter q ↔ ∀ a ∈ l, p a = q a := by
  constructor
  · intro h a ha
    have hp : p a = true ↔ a ∈ l.filter p := by simp [ha]
    have hq : q a = true ↔ a ∈ l.filter q := by simp [ha]
    rw [Bool.eq_iff_iff, hp, hq, h]
  · exact fun h ↦ List.filter_congr h

/-- The codecs of a pipe consumer. A codec without a MIME type cannot be told from RTX. -/
theorem pipeCodecs_eq {enableRtx : Bool} {codecs : List RtpCodecParameters}
    (h : enableRtx = false → ∀ codec ∈ codecs, codec.mimeType ≠ "") :
    pipeCodecs enableRtx codecs = .ok ((keptCodecs enableRtx codecs).map
      (·.filterFeedback (keepsPipeFeedback enableRtx))) := by
  induction codecs with
  | nil => rfl
  | cons codec rest ih =>
    have hrest := ih fun hrtx c hc ↦ h hrtx c (List.mem_cons_of_mem _ hc)
    cases enableRtx with
    | true =>
      simp [pipeCodecs, hrest, keptCodecs, bind, Except.bind, pure, Except.pure]
    | false =>
      have hcodec := h rfl codec (by simp)
      cases hr : isRtxMimeType codec.mimeType <;>
        simp [pipeCodecs, hrest, isRtxCodec_toJson, hcodec, hr, keptCodecs, bind, Except.bind, pure,
          Except.pure]

theorem pipeCodecs_undefined {codecs : List RtpCodecParameters} {codec : RtpCodecParameters}
    (hmem : codec ∈ codecs) (h : codec.mimeType = "") :
    pipeCodecs false codecs = .error .undefined := by
  induction codecs with
  | nil => cases hmem
  | cons c rest ih =>
    by_cases hc : c.mimeType = ""
    · simp [pipeCodecs, isRtxCodec_toJson, hc, bind, Except.bind]
    · have hrest := ih ((List.mem_cons.mp hmem).resolve_left fun heq ↦ hc (heq ▸ h))
      cases hr : isRtxMimeType c.mimeType <;>
        simp [pipeCodecs, isRtxCodec_toJson, hc, hr, hrest, bind, Except.bind]

/-- The feedback for which the code does what is promised. -/
def FeedbackKept (enableRtx : Bool) (fb : RtcpFeedback) : Prop :=
  ¬ (fb.type = "ccm" ∧ fb.parameter = "fir") ∧
    (fb.type = "nack" → if enableRtx then fb.parameter = "pli" else fb.parameter ≠ "pli")

theorem keepsPipeFeedback_eq_iff (enableRtx : Bool) (fb : RtcpFeedback) :
    keepsPipeFeedback enableRtx fb = promisedPipeFeedback enableRtx fb ↔
      FeedbackKept enableRtx fb := by
  obtain ⟨type, parameter⟩ := fb
  unfold keepsPipeFeedback promisedPipeFeedback FeedbackKept
  by_cases hnack : type = "nack"
  · subst hnack
    by_cases hpli : parameter = "pli"
    · subst hpli
      cases enableRtx <;> simp
    · cases enableRtx <;> by_cases hempty : parameter = "" <;> simp [hpli, hempty]
  · by_cases hccm : type = "ccm"
    · subst hccm
      by_cases hfir : parameter = "fir" <;> simp [hfir]
    · simp [hnack, hccm]

/-- The codecs of a pipe consumer are as promised if and only if their feedback is. -/
theorem map_filterFeedback_eq_iff (enableRtx : Bool) (codecs : List RtpCodecParameters) :
    codecs.map (·.filterFeedback (keepsPipeFeedback enableRtx)) =
        codecs.map (·.filterFeedback (promisedPipeFeedback enableRtx)) ↔
      ∀ codec ∈ codecs, ∀ fb ∈ codec.rtcpFeedback, FeedbackKept enableRtx fb := by
  rw [List.map_inj_left]
  refine forall₂_congr fun codec _ ↦ ?_
  have hfeedback : codec.filterFeedback (keepsPipeFeedback enableRtx) =
      codec.filterFeedback (promisedPipeFeedback enableRtx) ↔
      codec.rtcpFeedback.filter (keepsPipeFeedback enableRtx) =
        codec.rtcpFeedback.filter (promisedPipeFeedback enableRtx) := by
    simp [RtpCodecParameters.filterFeedback]
  rw [hfeedback, filter_eq_filter_iff]
  exact forall₂_congr fun fb _ ↦ keepsPipeFeedback_eq_iff enableRtx fb

/-- The header extensions are as promised, and those of the producer unchanged, if there are
none. -/
theorem headerExtensions_iff (exts : List RtpHeaderExtensionParameters) :
    exts.filter isPipeExtension = exts ∧ [] = exts.filter isPipeExtension ↔ exts = [] := by
  constructor
  · rintro ⟨hkept, hnone⟩
    rw [← hkept, ← hnone]
  · rintro rfl
    exact ⟨rfl, rfl⟩

theorem getPipeConsumerRtpParameters_eq {drawn : DrawnSsrcs} {consumableParams : RtpParameters}
    {enableRtx : Bool}
    (h : enableRtx = false → ∀ codec ∈ consumableParams.codecs, codec.mimeType ≠ "") :
    getPipeConsumerRtpParameters drawn consumableParams enableRtx = .ok
      ({ rtcp := consumableParams.rtcp
         codecs := (keptCodecs enableRtx consumableParams.codecs).map
           (·.filterFeedback (keepsPipeFeedback enableRtx))
         encodings := pipeEncodings drawn enableRtx consumableParams.encodings },
       { consumableParams with
         headerExtensions := consumableParams.headerExtensions.filter isPipeExtension }) := by
  simp [getPipeConsumerRtpParameters, pipeCodecs_eq h, bind, Except.bind, pure, Except.pure]

/-- **A pipe consumer gets what it should get**, and the producer keeps its parameters, if and only
if every codec has a MIME type where RTX is not enabled, the feedback has none for which the
conditions are wrong, and there are no header extensions. -/
theorem pipe_reduces (drawn : DrawnSsrcs) (consumableParams : RtpParameters) (enableRtx : Bool) :
    (∃ result after, getPipeConsumerRtpParameters drawn consumableParams enableRtx =
      .ok (result, after) ∧
        Piped drawn enableRtx consumableParams result after) ↔
      (enableRtx = false → ∀ codec ∈ consumableParams.codecs, codec.mimeType ≠ "") ∧
        (∀ codec ∈ keptCodecs enableRtx consumableParams.codecs, ∀ fb ∈ codec.rtcpFeedback,
          FeedbackKept enableRtx fb) ∧
        consumableParams.headerExtensions = [] := by
  rw [← map_filterFeedback_eq_iff, ← headerExtensions_iff]
  constructor
  · rintro ⟨result, after, h, hpiped⟩
    have hmime : enableRtx = false → ∀ codec ∈ consumableParams.codecs, codec.mimeType ≠ "" := by
      rintro rfl codec hcodec hempty
      obtain ⟨codecs, hcodecs, -⟩ := bind_eq_ok.mp h
      rw [pipeCodecs_undefined hcodec hempty] at hcodecs
      cases hcodecs
    rw [getPipeConsumerRtpParameters_eq hmime] at h
    cases h
    exact ⟨hmime, hpiped.codecs, congrArg RtpParameters.headerExtensions hpiped.unchanged,
      hpiped.headerExtensions⟩
  · rintro ⟨hmime, hcodecs, hkept, hnone⟩
    exact ⟨_, _, getPipeConsumerRtpParameters_eq hmime, by rw [hkept], hcodecs, hnone, rfl⟩

/-- A VP8 stream with the generic NACK. -/
def nackStream : RtpCodecParameters :=
  { mimeType := "video/VP8", payloadType := 100, clockRate := 90000
    rtcpFeedback := [{ type := "nack" }] }

/-- **The generic NACK is lost** where RTX is enabled. -/
theorem not_pipe_reduces :
    ¬ ∀ (drawn : DrawnSsrcs) (consumableParams : RtpParameters) (enableRtx : Bool),
      ∃ result after,
        getPipeConsumerRtpParameters drawn consumableParams enableRtx = .ok (result, after) ∧
          Piped drawn enableRtx consumableParams result after := by
  intro hclaim
  obtain ⟨result, after, h, hpiped⟩ :=
    hclaim ⟨100000000, 100000000, by decide, by decide⟩ { codecs := [nackStream] } true
  rw [getPipeConsumerRtpParameters_eq (by simp)] at h
  cases h
  have hkept := (map_filterFeedback_eq_iff true _).mp hpiped.codecs
  have hnack : FeedbackKept true { type := "nack" } := by
    refine hkept nackStream ?_ _ ?_ <;> simp [keptCodecs, nackStream]
  exact absurd (hnack.2 rfl) (by decide)

end Ortc

end MediasoupSfu
