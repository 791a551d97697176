import MediasoupSfu.Consumer.Switching

/-!
# Sender reports of the streams that a consumer switches between

The timestamps of two simulcast streams are related by their sender reports. So a spatial layer
other than the reference layer is chosen as target only if both streams have one
(`CanSwitchToSpatialLayer`), and `SendRtpPacket` asserts that they still do when the key frame comes
that the stream is synced on.

A stream without a sender report is one whose report has the NTP time 0. But the NTP time of a
report comes from the remote endpoint, which sends 0 if it has no clock, and a report replaces the
one before. So a stream may lose its report between the choice and the key frame, and the assertion
fails (`report_lost`). `reportsServe_of_reachable` says that nothing else makes it fail.
-/

namespace MediasoupSfu

/-! ## The code -/

/-- `Utils::Time::Ntp2TimeMs`, which rounds to the nearest millisecond. -/
def ntp2TimeMs (seconds fractions : BitVec 32) : BitVec 64 :=
  seconds.setWidth 64 * 1000 + BitVec.ofNat 64 ((fractions.toNat * 1000 + 2 ^ 31) / 2 ^ 32)

/-- What a consumer reads of a stream of its producer. -/
structure ProducerRtpStream where
  score : Byte := 10
  senderReport : SenderReport := ⟨0, 0⟩
  deriving DecidableEq, Repr

/-- A `SimulcastConsumer` with the streams of its producer and the flags that `IsActive` reads. -/
structure SimulcastMembers (codec : Codec) where
  consumer : SimulcastConsumer codec
  /-- The streams by spatial layer, or `none` for a null pointer. -/
  producerRtpStreams : List (Option ProducerRtpStream)
  transportConnected : Bool
  paused : Bool
  producerPaused : Bool

/-- What can happen to a consumer and to the streams of its producer. -/
inductive SimulcastEvent (codec : Codec) where
  /-- A call of `ProducerRtpStream` or `ProducerNewRtpStream`. -/
  | producerRtpStream (spatialLayer : ℕ) (stream : ProducerRtpStream)
  /-- A call of `RtpStreamRecv::ReceiveRtcpSenderReport`. -/
  | receiveRtcpSenderReport (spatialLayer : ℕ) (ntpSec ntpFrac rtpTs : BitVec 32)
  /-- The score of a stream changes. -/
  | producerRtpStreamScore (spatialLayer : ℕ) (score : Byte)
  /-- `ApplyLayers` or `MayChangeLayers` with layers found among those of the streams. -/
  | applyLayers (spatialLayer temporalLayer : ℕ)
  /-- `ApplyLayers` or `MayChangeLayers` without layers found. -/
  | unsetLayers
  | pause
  | resume
  | producerPaused
  | producerResumed
  | transportConnected
  | transportDisconnected
  /-- A call of `SendRtpPacket`. -/
  | sendRtpPacket (uninitializedSeq : BitVec 16) (nowMs : BitVec 64) (packet : CodecPacket codec)
  /-- Anything else that happens to `rtpStream`. -/
  | rtpStream (e : SendEvent)

namespace SimulcastMembers

variable {codec : Codec}

/-- `GetProducerTargetRtpStream()` and `GetProducerTsReferenceRtpStream()`, at their layers. -/
def producerRtpStream (s : SimulcastMembers codec) (spatialLayer : ℤ) : Option ProducerRtpStream :=
  if spatialLayer < 0 then none else s.producerRtpStreams[spatialLayer.toNat]?.join

/-- `IsActive()`. -/
def isActive (s : SimulcastMembers codec) : Bool :=
  s.transportConnected && !s.paused && !s.producerPaused &&
    s.producerRtpStreams.any fun rtpStream ↦
      match rtpStream with
      | some rtpStream => decide (0 < rtpStream.score)
      | none => false

/-- What `SendRtpPacket` finds. -/
def surroundings (s : SimulcastMembers codec) (uninitializedSeq : BitVec 16) (nowMs : BitVec 64) :
    ConsumerSurroundings where
  isActive := s.isActive
  producerTsReferenceRtpStream :=
    (s.producerRtpStream s.consumer.tsReferenceSpatialLayer).map ProducerRtpStream.senderReport
  producerTargetRtpStream :=
    (s.producerRtpStream s.consumer.targetSpatialLayer).map ProducerRtpStream.senderReport
  uninitializedSeq := uninitializedSeq
  nowMs := nowMs

/-- `CanSwitchToSpatialLayer(spatialLayer)`. -/
def canSwitchToSpatialLayer (s : SimulcastMembers codec) (spatialLayer : ℤ) : Except Fault Bool :=
  match s.producerRtpStream spatialLayer with
  | none => .error (.assertion "no Producer RtpStream for the given spatialLayer")
  | some rtpStream =>
    if s.consumer.tsReferenceSpatialLayer = -1 ∨
      spatialLayer = s.consumer.tsReferenceSpatialLayer then
      .ok true
    else match s.producerRtpStream s.consumer.tsReferenceSpatialLayer with
    | none => .error .nullPointer
    | some reference =>
      .ok (decide (reference.senderReport.ntpMs ≠ 0) && decide (rtpStream.senderReport.ntpMs ≠ 0))

/-- One stream is changed, if there is one. -/
def modifyStream (s : SimulcastMembers codec) (spatialLayer : ℕ)
    (f : ProducerRtpStream → ProducerRtpStream) : SimulcastMembers codec :=
  { s with producerRtpStreams := s.producerRtpStreams.modify spatialLayer (Option.map f) }

/-- `UserOnPaused()` and `UserOnTransportDisconnected()`. -/
def userOnPaused (s : SimulcastMembers codec) :
    Except Fault (ConsumerOutput × SimulcastMembers codec) := do
  let (_, consumer) ← s.consumer.step (.rtpStream .clearBuffer)
  let (output, consumer) := consumer.updateTargetLayers (-1) (-1)
  return (output, { s with consumer := consumer })

/-- `UserOnResumed()` and `UserOnTransportConnected()`, up to `MayChangeLayers()`. -/
def userOnResumed (s : SimulcastMembers codec) : SimulcastMembers codec :=
  { s with consumer := s.consumer.requireSync }

/-- One event. -/
def step (s : SimulcastMembers codec) :
    SimulcastEvent codec → Except Fault (ConsumerOutput × SimulcastMembers codec)
  | .producerRtpStream spatialLayer rtpStream => do
    -- `Producer::CreateRtpStream` asserts this.
    msAssert (s.producerRtpStream spatialLayer).isNone
      "RtpStream for given encoding index already exists"
    return (.nothing,
      { s with producerRtpStreams := s.producerRtpStreams.set spatialLayer (some rtpStream) })
  | .receiveRtcpSenderReport spatialLayer ntpSec ntpFrac rtpTs =>
    .ok (.nothing, s.modifyStream spatialLayer fun rtpStream ↦
      { rtpStream with senderReport := ⟨ntp2TimeMs ntpSec ntpFrac, rtpTs⟩ })
  | .producerRtpStreamScore spatialLayer score =>
    .ok (.nothing, s.modifyStream spatialLayer fun rtpStream ↦ { rtpStream with score := score })
  | .applyLayers spatialLayer temporalLayer =>
    -- Producer stream does not exist. Ignore.
    if (s.producerRtpStream spatialLayer).isNone then .ok (.nothing, s)
    else do
      if ← s.canSwitchToSpatialLayer spatialLayer then
        let (output, consumer) := s.consumer.updateTargetLayers spatialLayer temporalLayer
        return (output, { s with consumer := consumer })
      -- We may not yet switch to this spatial layer.
      else return (.nothing, s)
  | .unsetLayers =>
    let (output, consumer) := s.consumer.updateTargetLayers (-1) (-1)
    .ok (output, { s with consumer := consumer })
  | .pause =>
    if s.paused then .ok (.nothing, s)
    else if s.isActive then userOnPaused { s with paused := true }
    else .ok (.nothing, { s with paused := true })
  | .resume =>
    if ¬s.paused then .ok (.nothing, s)
    else
      let s := { s with paused := false }
      .ok (.nothing, if s.isActive then s.userOnResumed else s)
  | .producerPaused =>
    if s.producerPaused then .ok (.nothing, s)
    else if s.isActive then userOnPaused { s with producerPaused := true }
    else .ok (.nothing, { s with producerPaused := true })
  | .producerResumed =>
    if ¬s.producerPaused then .ok (.nothing, s)
    else
      let s := { s with producerPaused := false }
      .ok (.nothing, if s.isActive then s.userOnResumed else s)
  | .transportConnected => .ok (.nothing, userOnResumed { s with transportConnected := true })
  | .transportDisconnected => userOnPaused { s with transportConnected := false }
  | .sendRtpPacket uninitializedSeq nowMs packet => do
    let (output, consumer) ← s.consumer.sendRtpPacket (s.surroundings uninitializedSeq nowMs) packet
    return (output, { s with consumer := consumer })
  | .rtpStream e => do
    let (output, consumer) ← s.consumer.step (.rtpStream e)
    return (output, { s with consumer := consumer })

/-- A new consumer of a producer without streams. -/
def init (codec : Codec) (params : RtpStreamParams) (supportedCodecPayloadTypes : List Byte)
    (consumableSsrcs : List (BitVec 32)) (transportConnected paused producerPaused : Bool) :
    SimulcastMembers codec where
  consumer := SimulcastConsumer.init codec params supportedCodecPayloadTypes consumableSsrcs
  producerRtpStreams := List.replicate consumableSsrcs.length none
  transportConnected := transportConnected
  paused := paused
  producerPaused := producerPaused

/-! ## Sender reports that matter -/

variable {s t : SimulcastMembers codec} {spatialLayer : ℤ}

/-- A layer other than the reference layer is sent or to be sent. -/
def OffReference (s : SimulcastMembers codec) : Prop :=
  (s.consumer.targetSpatialLayer ≠ -1 ∧
      s.consumer.targetSpatialLayer ≠ s.consumer.tsReferenceSpatialLayer) ∨
    (s.consumer.currentSpatialLayer ≠ -1 ∧
      s.consumer.currentSpatialLayer ≠ s.consumer.tsReferenceSpatialLayer)

/-- A sender report with the NTP time 0 comes only for a stream whose report does not matter. -/
def Harmless (s : SimulcastMembers codec) : SimulcastEvent codec → Prop
  | .receiveRtcpSenderReport spatialLayer ntpSec ntpFrac _ =>
    ntp2TimeMs ntpSec ntpFrac = 0 → s.OffReference →
      (spatialLayer : ℤ) ≠ s.consumer.tsReferenceSpatialLayer ∧
        (spatialLayer : ℤ) ≠ s.consumer.targetSpatialLayer
  | _ => True

/-- The NTP time is 0 within the first half of a millisecond. -/
theorem ntp2TimeMs_eq_zero_iff (seconds fractions : BitVec 32) :
    ntp2TimeMs seconds fractions = 0 ↔ seconds = 0 ∧ fractions.toNat * 1000 < 2 ^ 31 := by
  have hseconds := seconds.isLt
  have hfractions := fractions.isLt
  have hvalue : (ntp2TimeMs seconds fractions).toNat =
      seconds.toNat * 1000 + (fractions.toNat * 1000 + 2 ^ 31) / 2 ^ 32 := by
    have hthousand : (1000 : BitVec 64).toNat = 1000 := rfl
    rw [ntp2TimeMs, BitVec.toNat_add, BitVec.toNat_mul, BitVec.toNat_setWidth, BitVec.toNat_ofNat,
      hthousand]
    omega
  constructor
  · intro h
    rw [h] at hvalue
    change 0 = _ at hvalue
    constructor
    · apply BitVec.eq_of_toNat_eq
      change _ = 0
      omega
    · omega
  · rintro ⟨rfl, hsmall⟩
    apply BitVec.eq_of_toNat_eq
    rw [hvalue]
    change 0 * 1000 + _ = 0
    omega

/-- **The invariant.** The streams of the reference and of the target layer exist, and have sender
reports while a layer other than the reference layer is in use. -/
structure Timed (s : SimulcastMembers codec) : Prop where
  layers_nonneg : ∀ ssrc layer, s.consumer.mapMappedSsrcSpatialLayer ssrc = some layer → 0 ≤ layer
  target_of_reference : s.consumer.tsReferenceSpatialLayer = -1 → s.consumer.targetSpatialLayer = -1
  current_of_target : s.consumer.targetSpatialLayer = -1 → s.consumer.currentSpatialLayer = -1
  exists_stream : ∀ layer, layer = s.consumer.tsReferenceSpatialLayer ∨
    layer = s.consumer.targetSpatialLayer → layer ≠ -1 →
      ∃ stream, s.producerRtpStream layer = some stream
  ntpMs_ne_zero : s.OffReference → ∀ layer, layer = s.consumer.tsReferenceSpatialLayer ∨
    layer = s.consumer.targetSpatialLayer → ∀ stream, s.producerRtpStream layer = some stream →
      stream.senderReport.ntpMs ≠ 0

/-! ## What the invariant is for -/

/-- What the sender reports are for: wherever `SendRtpPacket` syncs the stream it finds the offset
between the timestamps, and `CanSwitchToSpatialLayer` finds the reference stream. -/
structure ReportsServe (s : SimulcastMembers codec) : Prop where
  sync : ∀ uninitializedSeq nowMs packet spatialLayer shouldSwitch,
    s.consumer.select (s.surroundings uninitializedSeq nowMs) packet =
        .ok (some (spatialLayer, shouldSwitch)) →
      s.consumer.syncRequired = true ∨ shouldSwitch = true →
      ∃ tsOffset, s.consumer.referenceTsOffset (s.surroundings uninitializedSeq nowMs)
        spatialLayer =
        .ok tsOffset
  canSwitch : ∀ spatialLayer stream, s.producerRtpStream spatialLayer = some stream →
    ∃ can, s.canSwitchToSpatialLayer spatialLayer = .ok can

theorem Timed.reportsServe (h : s.Timed) : s.ReportsServe := by
  constructor
  · intro uninitializedSeq nowMs packet spatialLayer shouldSwitch hselect hsync
    obtain ⟨hlayer, htarget⟩ := SimulcastConsumer.layer_of_select hselect
    have hnonneg := h.layers_nonneg _ _ hlayer
    unfold SimulcastConsumer.referenceTsOffset
    split
    · exact ⟨0, rfl⟩
    · rename_i href
      have hoff : s.OffReference ∧ s.consumer.targetSpatialLayer ≠ -1 := by
        cases shouldSwitch with
        | true =>
          rw [htarget rfl] at hnonneg href
          have hne : s.consumer.targetSpatialLayer ≠ -1 := by omega
          exact ⟨Or.inl ⟨hne, href⟩, hne⟩
        | false =>
          rw [SimulcastConsumer.eq_current_of_select hselect] at hnonneg href
          have hne : s.consumer.currentSpatialLayer ≠ -1 := by omega
          exact ⟨Or.inr ⟨hne, href⟩, fun htarget ↦ hne (h.current_of_target htarget)⟩
      obtain ⟨hoff, htargetne⟩ := hoff
      have hrefne : s.consumer.tsReferenceSpatialLayer ≠ -1 :=
        fun href ↦ htargetne (h.target_of_reference href)
      obtain ⟨reference, hreference⟩ := h.exists_stream _ (Or.inl rfl) hrefne
      obtain ⟨target, htarget⟩ := h.exists_stream _ (Or.inr rfl) htargetne
      have hntp₁ := h.ntpMs_ne_zero hoff _ (Or.inl rfl) reference hreference
      have hntp₂ := h.ntpMs_ne_zero hoff _ (Or.inr rfl) target htarget
      simp only [surroundings, hreference, htarget, Option.map_some]
      rw [decide_eq_true hntp₁, decide_eq_true hntp₂]
      exact ⟨_, rfl⟩
  · intro spatialLayer stream hstream
    unfold canSwitchToSpatialLayer
    rw [hstream]
    dsimp only
    split
    · exact ⟨true, rfl⟩
    · rename_i hother
      obtain ⟨reference, hreference⟩ :=
        h.exists_stream _ (Or.inl rfl) fun href ↦ hother (Or.inl href)
      rw [hreference]
      exact ⟨_, rfl⟩

/-! ## The steps -/

/-- The layers that are in use decide, whatever the flags and scores. -/
theorem Timed.congr (h : s.Timed)
    (hkeeps : SimulcastConsumer.Keeps s.consumer t.consumer)
    (hcurrent : t.consumer.currentSpatialLayer = s.consumer.currentSpatialLayer ∨
      t.consumer.currentSpatialLayer = s.consumer.targetSpatialLayer)
    (hstreams : t.producerRtpStreams = s.producerRtpStreams) : t.Timed := by
  have hstream : ∀ layer, t.producerRtpStream layer = s.producerRtpStream layer := fun layer ↦ by
    rw [producerRtpStream, producerRtpStream, hstreams]
  obtain ⟨htarget, hlayers, href⟩ := hkeeps
  have hoff : t.OffReference → s.OffReference := by
    unfold OffReference
    rw [htarget, href]
    rcases hcurrent with hcurrent | hcurrent
    · rw [hcurrent]
      exact id
    · rw [hcurrent]
      exact fun hor ↦ Or.inl (hor.elim id id)
  refine ⟨?_, ?_, ?_, ?_, ?_⟩
  · rw [hlayers]
    exact h.layers_nonneg
  · rw [htarget, href]
    exact h.target_of_reference
  · rw [htarget]
    intro hnone
    rcases hcurrent with hcurrent | hcurrent
    · rw [hcurrent]
      exact h.current_of_target hnone
    · exact hcurrent.trans hnone
  · intro layer
    rw [htarget, href, hstream]
    exact h.exists_stream layer
  · intro hoff' layer
    rw [htarget, href, hstream]
    exact h.ntpMs_ne_zero (hoff hoff') layer

/-- The layers after `UpdateTargetLayers(-1, -1)`. -/
theorem layers_unset (consumer : SimulcastConsumer codec) {updated : SimulcastConsumer codec}
    (h : (consumer.updateTargetLayers (-1) (-1)).2 = updated) :
    updated.targetSpatialLayer = -1 ∧ updated.currentSpatialLayer = -1 ∧
      updated.mapMappedSsrcSpatialLayer = consumer.mapMappedSsrcSpatialLayer ∧
      updated.tsReferenceSpatialLayer = consumer.tsReferenceSpatialLayer := by
  subst h
  simp [SimulcastConsumer.updateTargetLayers]

/-- The layers after `UpdateTargetLayers` with a layer. -/
theorem layers_updateTargetLayers {consumer : SimulcastConsumer codec} {layer temporalLayer : ℤ}
    (hlayer : layer ≠ -1) {updated : SimulcastConsumer codec}
    (h : (consumer.updateTargetLayers layer temporalLayer).2 = updated) :
    updated.targetSpatialLayer = layer ∧
      updated.currentSpatialLayer = consumer.currentSpatialLayer ∧
      updated.mapMappedSsrcSpatialLayer = consumer.mapMappedSsrcSpatialLayer ∧
      updated.tsReferenceSpatialLayer =
        if consumer.tsReferenceSpatialLayer = -1 then layer
          else consumer.tsReferenceSpatialLayer := by
  subst h
  by_cases href : consumer.tsReferenceSpatialLayer = -1
  · simp only [SimulcastConsumer.updateTargetLayers, hlayer, href, ne_eq, not_false_eq_true,
      true_and, if_true, if_false]
    split <;> simp
  · simp only [SimulcastConsumer.updateTargetLayers, hlayer, href, ne_eq, not_false_eq_true,
      and_false, if_false]
    split <;> simp

/-- Without layers no report matters. -/
theorem Timed.unset (h : s.Timed) :
    Timed { s with consumer := (s.consumer.updateTargetLayers (-1) (-1)).2 } := by
  generalize hconsumer : (s.consumer.updateTargetLayers (-1) (-1)).2 = consumer
  obtain ⟨htarget, hcurrent, hlayers, href⟩ := layers_unset s.consumer hconsumer
  refine ⟨?_, fun _ ↦ htarget, fun _ ↦ hcurrent, ?_, ?_⟩
  · change ∀ ssrc layer, consumer.mapMappedSsrcSpatialLayer ssrc = some layer → 0 ≤ layer
    rw [hlayers]
    exact h.layers_nonneg
  · rintro layer (hlayer | hlayer) hne
    · exact h.exists_stream layer (Or.inl (hlayer.trans href)) hne
    · exact absurd (hlayer.trans htarget) hne
  · rintro (⟨hne, -⟩ | ⟨hne, -⟩)
    · exact absurd htarget hne
    · exact absurd hcurrent hne

/-- When the consumer can switch to a layer: there is no reference layer yet, it is the reference
layer, or both streams have sender reports. -/
theorem canSwitch_cases (hcan : s.canSwitchToSpatialLayer spatialLayer = .ok true) :
    ∃ stream, s.producerRtpStream spatialLayer = some stream ∧
      (s.consumer.tsReferenceSpatialLayer = -1 ∨ spatialLayer = s.consumer.tsReferenceSpatialLayer ∨
        ∃ reference, s.producerRtpStream s.consumer.tsReferenceSpatialLayer = some reference ∧
          reference.senderReport.ntpMs ≠ 0 ∧ stream.senderReport.ntpMs ≠ 0) := by
  unfold canSwitchToSpatialLayer at hcan
  split at hcan
  · cases hcan
  · rename_i stream hstream
    refine ⟨stream, hstream, ?_⟩
    split at hcan
    · rename_i hor
      exact hor.elim Or.inl fun heq ↦ Or.inr (Or.inl heq)
    · split at hcan
      · cases hcan
      · rename_i reference hreference
        have hboth := Except.ok.inj hcan
        rw [Bool.and_eq_true, decide_eq_true_eq, decide_eq_true_eq] at hboth
        exact Or.inr (Or.inr ⟨reference, hreference, hboth⟩)

/-- Layers that the consumer can switch to. -/
theorem Timed.apply (h : s.Timed) {layer temporalLayer : ℕ}
    (hcan : s.canSwitchToSpatialLayer layer = .ok true) :
    Timed { s with consumer := (s.consumer.updateTargetLayers layer temporalLayer).2 } := by
  have hne : (layer : ℤ) ≠ -1 := by omega
  obtain ⟨stream, hstream, hcases⟩ := canSwitch_cases hcan
  generalize hconsumer : (s.consumer.updateTargetLayers layer temporalLayer).2 = consumer
  obtain ⟨htarget, hcurrent, hlayers, href⟩ := layers_updateTargetLayers hne hconsumer
  have hexists : ∀ other, other = consumer.tsReferenceSpatialLayer ∨
      other = consumer.targetSpatialLayer → other ≠ -1 →
        ∃ found, s.producerRtpStream other = some found := by
    rw [htarget, href]
    rintro other (rfl | rfl) hother
    · split
      · exact ⟨stream, hstream⟩
      · rename_i hold
        exact h.exists_stream _ (Or.inl rfl) hold
    · exact ⟨stream, hstream⟩
  refine ⟨?_, ?_, ?_, hexists, ?_⟩
  · change ∀ ssrc found, consumer.mapMappedSsrcSpatialLayer ssrc = some found → 0 ≤ found
    rw [hlayers]
    exact h.layers_nonneg
  · change consumer.tsReferenceSpatialLayer = -1 → _
    rw [href]
    split
    · exact fun heq ↦ absurd heq hne
    · rename_i hold
      exact fun heq ↦ absurd heq hold
  · change consumer.targetSpatialLayer = -1 → _
    rw [htarget]
    exact fun heq ↦ absurd heq hne
  · intro hoff other
    change other = consumer.tsReferenceSpatialLayer ∨ other = consumer.targetSpatialLayer →
      ∀ found, s.producerRtpStream other = some found → _
    unfold OffReference at hoff
    change (consumer.targetSpatialLayer ≠ -1 ∧
      consumer.targetSpatialLayer ≠ consumer.tsReferenceSpatialLayer) ∨
      (consumer.currentSpatialLayer ≠ -1 ∧
      consumer.currentSpatialLayer ≠ consumer.tsReferenceSpatialLayer) at hoff
    rw [htarget, hcurrent] at hoff
    rw [htarget]
    by_cases hnone : s.consumer.tsReferenceSpatialLayer = -1
    · -- the first target layer becomes the reference layer
      rw [href, if_pos hnone] at hoff
      rcases hoff with ⟨-, hoff⟩ | ⟨hoff, -⟩
      · exact absurd rfl hoff
      · exact absurd (h.current_of_target (h.target_of_reference hnone)) hoff
    · rw [if_neg hnone] at href
      rw [href] at hoff ⊢
      rcases hcases with hold | heq | ⟨reference, hreference, hntp₁, hntp₂⟩
      · exact absurd hold hnone
      · -- back to the reference layer, while another one is still sent
        rw [heq] at hoff ⊢
        rcases hoff with ⟨-, hoff⟩ | hoff
        · exact absurd rfl hoff
        · rintro hor found hfound
          exact h.ntpMs_ne_zero (Or.inr hoff) other (Or.inl (hor.elim id id)) found hfound
      · rintro (rfl | rfl) found hfound
        · rw [hreference] at hfound
          cases hfound
          exact hntp₁
        · rw [hstream] at hfound
          cases hfound
          exact hntp₂

/-- A stream of a layer that had none. -/
theorem Timed.addStream (h : s.Timed) {layer : ℕ} (hnone : s.producerRtpStream layer = none)
    (stream : ProducerRtpStream) :
    Timed { s with producerRtpStreams := s.producerRtpStreams.set layer (some stream) } := by
  have hother : ∀ other : ℤ, other ≠ layer →
      producerRtpStream { s with
        producerRtpStreams := s.producerRtpStreams.set layer (some stream) } other =
        s.producerRtpStream other := by
    intro other hne
    unfold producerRtpStream
    split
    · rfl
    · rw [List.getElem?_set_ne (by omega)]
  have hused : ∀ other, other = s.consumer.tsReferenceSpatialLayer ∨
      other = s.consumer.targetSpatialLayer → other ≠ -1 → other ≠ layer := by
    rintro other hor hne rfl
    obtain ⟨found, hfound⟩ := h.exists_stream _ hor hne
    rw [hnone] at hfound
    cases hfound
  refine ⟨h.layers_nonneg, h.target_of_reference, h.current_of_target, ?_, ?_⟩
  · intro other hor hne
    rw [hother other (hused other hor hne)]
    exact h.exists_stream other hor hne
  · intro hoff other hor found hfound
    have hne : other ≠ -1 := by
      rintro rfl
      cases hfound
    rw [hother other (hused other hor hne)] at hfound
    exact h.ntpMs_ne_zero hoff other hor found hfound

theorem producerRtpStream_modifyStream (layer : ℕ) (f : ProducerRtpStream → ProducerRtpStream)
    (other : ℤ) : (s.modifyStream layer f).producerRtpStream other =
      if other = layer then (s.producerRtpStream other).map f else s.producerRtpStream other := by
  unfold producerRtpStream modifyStream
  by_cases hneg : other < 0
  · have hne : other ≠ layer := by omega
    rw [if_pos hneg, if_pos hneg, if_neg hne]
  · rw [if_neg hneg, if_neg hneg, List.getElem?_modify]
    by_cases heq : other = layer
    · subst heq
      simp only [Int.toNat_natCast, if_true]
      cases s.producerRtpStreams[layer]? <;> rfl
    · have hindex : layer ≠ other.toNat := by omega
      simp only [heq, hindex, if_false]
      cases s.producerRtpStreams[other.toNat]? <;> rfl

/-- A stream is changed whose report does not matter, or keeps a report. -/
theorem Timed.modifyStream (h : s.Timed) {layer : ℕ} {f : ProducerRtpStream → ProducerRtpStream}
    (hf : s.OffReference → (layer : ℤ) = s.consumer.tsReferenceSpatialLayer ∨
      (layer : ℤ) = s.consumer.targetSpatialLayer →
      ∀ stream, stream.senderReport.ntpMs ≠ 0 → (f stream).senderReport.ntpMs ≠ 0) :
    (s.modifyStream layer f).Timed := by
  refine ⟨h.layers_nonneg, h.target_of_reference, h.current_of_target, ?_, ?_⟩
  · intro other hor hne
    obtain ⟨found, hfound⟩ := h.exists_stream other hor hne
    rw [producerRtpStream_modifyStream, hfound]
    split
    · exact ⟨f found, rfl⟩
    · exact ⟨found, rfl⟩
  · intro hoff other hor found hfound
    rw [producerRtpStream_modifyStream] at hfound
    split at hfound
    · rename_i heq
      obtain ⟨old, hold, rfl⟩ := Option.map_eq_some_iff.mp hfound
      exact hf hoff (heq ▸ hor) old (h.ntpMs_ne_zero hoff other hor old hold)
    · exact h.ntpMs_ne_zero hoff other hor found hfound

theorem Timed.paused (h : s.Timed) {output : ConsumerOutput}
    (hok : s.userOnPaused = .ok (output, t)) :
    t.Timed := by
  unfold userOnPaused at hok
  obtain ⟨⟨_, consumer⟩, hclear, hrest⟩ := bind_eq_ok.mp hok
  obtain ⟨⟨_, rtpStream⟩, -, hconsumer⟩ := bind_eq_ok.mp hclear
  cases hconsumer
  cases hrest
  have hcleared : Timed { s with consumer := { s.consumer with rtpStream := rtpStream } } :=
    h.congr ⟨rfl, rfl, rfl⟩ (Or.inl rfl) rfl
  exact hcleared.unset

/-- **One event** keeps the invariant. -/
theorem Timed.step (h : s.Timed) {e : SimulcastEvent codec} (hharmless : s.Harmless e)
    {output : ConsumerOutput} (hok : s.step e = .ok (output, t)) : t.Timed := by
  cases e with
  | producerRtpStream layer stream =>
    obtain ⟨_, hassert, hrest⟩ := bind_eq_ok.mp hok
    cases hrest
    exact h.addStream (Option.isNone_iff_eq_none.mp (msAssert_eq_ok.mp hassert)) stream
  | receiveRtcpSenderReport layer ntpSec ntpFrac rtpTs =>
    cases hok
    refine h.modifyStream fun hoff hor stream _ hzero ↦ ?_
    obtain ⟨href, htarget⟩ := hharmless hzero hoff
    exact hor.elim href htarget
  | producerRtpStreamScore layer score =>
    cases hok
    exact h.modifyStream fun _ _ stream hntp ↦ hntp
  | applyLayers layer temporalLayer =>
    change (if (s.producerRtpStream layer).isNone then Except.ok (ConsumerOutput.nothing, s)
      else _) = _ at hok
    split at hok
    · cases hok
      exact h
    · obtain ⟨can, hcan, hrest⟩ := bind_eq_ok.mp hok
      cases can with
      | true =>
        cases hrest
        exact h.apply hcan
      | false =>
        cases hrest
        exact h
  | unsetLayers =>
    cases hok
    exact h.unset
  | pause =>
    change (if s.paused then _ else _) = _ at hok
    split at hok
    · cases hok
      exact h
    have hflag : Timed { s with paused := true } := h.congr ⟨rfl, rfl, rfl⟩ (Or.inl rfl) rfl
    split at hok
    · exact hflag.paused hok
    · cases hok
      exact hflag
  | resume =>
    change (if ¬s.paused then _ else _) = _ at hok
    split at hok
    · cases hok
      exact h
    · cases hok
      split <;> exact h.congr ⟨rfl, rfl, rfl⟩ (Or.inl rfl) rfl
  | producerPaused =>
    change (if s.producerPaused then _ else _) = _ at hok
    split at hok
    · cases hok
      exact h
    have hflag : Timed { s with producerPaused := true } := h.congr ⟨rfl, rfl, rfl⟩ (Or.inl rfl) rfl
    split at hok
    · exact hflag.paused hok
    · cases hok
      exact hflag
  | producerResumed =>
    change (if ¬s.producerPaused then _ else _) = _ at hok
    split at hok
    · cases hok
      exact h
    · cases hok
      split <;> exact h.congr ⟨rfl, rfl, rfl⟩ (Or.inl rfl) rfl
  | transportConnected =>
    cases hok
    exact h.congr ⟨rfl, rfl, rfl⟩ (Or.inl rfl) rfl
  | transportDisconnected =>
    have hflag : Timed { s with transportConnected := false } :=
      h.congr ⟨rfl, rfl, rfl⟩ (Or.inl rfl) rfl
    exact hflag.paused hok
  | sendRtpPacket uninitializedSeq nowMs packet =>
    obtain ⟨⟨_, consumer⟩, hsend, hrest⟩ := bind_eq_ok.mp hok
    cases hrest
    obtain ⟨hkeeps, hcurrent⟩ := (SimulcastConsumer.sends_sendRtpPacket hsend).keeps
    exact h.congr hkeeps hcurrent rfl
  | rtpStream e =>
    obtain ⟨⟨_, consumer⟩, hconsumer, hrest⟩ := bind_eq_ok.mp hok
    obtain ⟨⟨_, rtpStream⟩, -, hstream⟩ := bind_eq_ok.mp hconsumer
    cases hstream
    cases hrest
    exact h.congr ⟨rfl, rfl, rfl⟩ (Or.inl rfl) rfl

/-! ## Whole runs -/

/-- The spatial layers of the encodings are indices. -/
theorem nonneg_of_spatialLayers {consumableSsrcs : List (BitVec 32)} {ssrc : BitVec 32} {layer : ℤ}
    (h : SimulcastConsumer.spatialLayers consumableSsrcs ssrc = some layer) : 0 ≤ layer := by
  have hfold : ∀ (entries : List (BitVec 32 × ℕ)) (map : BitVec 32 → Option ℤ),
      (∀ ssrc layer, map ssrc = some layer → 0 ≤ layer) →
      ∀ ssrc layer, entries.foldl (fun (map : BitVec 32 → Option ℤ) entry ↦
        Function.update map entry.1 (some (entry.2 : ℤ))) map ssrc = some layer → 0 ≤ layer := by
    intro entries
    induction entries with
    | nil => exact fun map hmap ↦ hmap
    | cons entry entries ih =>
      intro map hmap
      refine ih _ fun ssrc' layer' hupdate ↦ ?_
      change Function.update map entry.1 (some (entry.2 : ℤ)) ssrc' = _ at hupdate
      rw [Function.update_apply] at hupdate
      split at hupdate
      · cases hupdate
        exact Int.natCast_nonneg _
      · exact hmap ssrc' layer' hupdate
  refine hfold _ _ (fun ssrc layer hnone ↦ ?_) ssrc layer h
  cases hnone

theorem timed_init (params : RtpStreamParams) (supportedCodecPayloadTypes : List Byte)
    (consumableSsrcs : List (BitVec 32)) (transportConnected paused producerPaused : Bool) :
    (init codec params supportedCodecPayloadTypes consumableSsrcs transportConnected paused
      producerPaused).Timed := by
  refine ⟨fun ssrc layer ↦ nonneg_of_spatialLayers, fun _ ↦ rfl, fun _ ↦ rfl, ?_, ?_⟩
  · rintro layer (rfl | rfl) hne <;> exact absurd rfl hne
  · rintro (⟨hne, -⟩ | ⟨hne, -⟩) <;> exact absurd rfl hne

/-- **Sender reports serve.** In every run in which no report that matters has the NTP time 0, no
assertion about the sender reports fails and the reference stream is not null where it is needed. -/
theorem reportsServe_of_reachable (codec : Codec) (params : RtpStreamParams)
    (supportedCodecPayloadTypes : List Byte) (consumableSsrcs : List (BitVec 32))
    (transportConnected paused producerPaused : Bool) (s : SimulcastMembers codec)
    (h : Run.Reachable step Harmless (init codec params supportedCodecPayloadTypes consumableSsrcs
      transportConnected paused producerPaused) s) : s.ReportsServe := by
  have htimed : s.Timed := h.invariant (timed_init _ _ _ _ _ _)
    fun _ _ _ _ hinv hharmless hok ↦ hinv.step hharmless hok
  exact htimed.reportsServe

/-- A consumer of two streams, both with sender reports, that sends the first one and is to switch
to the second. -/
def reportedEvents : List (SimulcastEvent h264) :=
  [.transportConnected, .producerRtpStream 0 {}, .producerRtpStream 1 {},
    .receiveRtcpSenderReport 0 1 0 200000, .receiveRtcpSenderReport 1 1 0 200000, .applyLayers 0 0,
    .sendRtpPacket 0 0 (SimulcastConsumer.markedPacket 100 200000 true true 0), .applyLayers 1 0]

/-- The consumer after these events. -/
def afterReports (events : List (SimulcastEvent h264)) : Except Fault (SimulcastMembers h264) :=
  events.foldlM (fun s e ↦ (s.step e).map Prod.snd)
    (init h264 { ssrc := 9, payloadType := 96, clockRate := 90000 } [96] [1001, 1002] false
      false false)

/-- The consumer switches to the second stream. -/
theorem reportsServe_second : ∃ s, afterReports reportedEvents = .ok s ∧ s.ReportsServe ∧
    s.OffReference := by
  obtain ⟨s, hs, htarget, href⟩ : ∃ s, afterReports reportedEvents = .ok s ∧
      s.consumer.targetSpatialLayer = 1 ∧ s.consumer.tsReferenceSpatialLayer = 0 := by
    decide +kernel
  have hone : ntp2TimeMs 1 0 ≠ 0 := by decide
  have hharmless : ∀ e ∈ reportedEvents, ∀ s : SimulcastMembers h264, s.Harmless e := by
    simp only [reportedEvents, List.forall_mem_cons, Harmless, hone, false_imp_iff, implies_true,
      List.not_mem_nil, and_self]
  refine ⟨s, hs, ?_, Or.inl ⟨?_, ?_⟩⟩
  · exact reportsServe_of_reachable h264 _ _ _ _ _ _ s (.of_foldlM hharmless .start hs)
  · rw [htarget]
    decide
  · rw [htarget, href]
    decide

/-- **A lost report.** A second sender report of the second stream, from a sender without a clock,
takes the NTP time back, and the assertion fails at the next key frame. -/
theorem report_lost :
    ∃ s, afterReports (reportedEvents ++ [.receiveRtcpSenderReport 1 0 0 203000]) = .ok s ∧
    s.step (.sendRtpPacket 0 0 (SimulcastConsumer.secondPacket 500 203000 true)) =
      .error (.assertion "no Sender Report for current RTP stream") ∧
    ¬s.ReportsServe := by
  obtain ⟨s, hs, hstep, hselect, hoffset⟩ :
      ∃ s, afterReports (reportedEvents ++ [.receiveRtcpSenderReport 1 0 0 203000]) = .ok s ∧
        s.step (.sendRtpPacket 0 0 (SimulcastConsumer.secondPacket 500 203000 true)) =
          .error (.assertion "no Sender Report for current RTP stream") ∧
        s.consumer.select (s.surroundings 0 0) (SimulcastConsumer.secondPacket 500 203000 true) =
          .ok (some (1, true)) ∧
        s.consumer.referenceTsOffset (s.surroundings 0 0) 1 =
          .error (.assertion "no Sender Report for current RTP stream") := by
    decide +kernel
  refine ⟨s, hs, hstep, fun hserve ↦ ?_⟩
  obtain ⟨tsOffset, hok⟩ := hserve.sync 0 0 _ 1 true hselect (Or.inr rfl)
  rw [hok] at hoffset
  cases hoffset

end SimulcastMembers

end MediasoupSfu
