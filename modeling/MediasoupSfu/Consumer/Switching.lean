import MediasoupSfu.Consumer.Numbering

/-!
# Switching to another stream

A simulcast consumer switches to the target stream at one of its key frames. The timestamps of the
two streams differ by an offset that comes from their sender reports, and a small extra offset may
be applied if the key frame would otherwise be older than what has been sent. If a large one were
needed, the switch is aborted once and another key frame is requested.

## Aborted switches

`SendRtpPacket` sets `syncRequired` before it knows whether the switch will happen, and does not
reset it when it aborts the switch. From then on the packets of the current stream are ignored up to
its next key frame, and this one starts the stream over (`aborted_drops_current`). Only if a sync
was required anyway is the current stream left as it was (`leftIntact_iff`).

## Timestamps

The extra offset is meant to lift the key frame above the highest timestamp sent. But it is the
difference of the two, so it lifts the key frame to just that timestamp; and whether it is needed at
all is decided by comparing unsigned numbers, without regard for the wrap. `newer_iff` says when the
key frame is newer.
-/

namespace MediasoupSfu

open Serial

namespace SimulcastConsumer

variable {codec : Codec} {s t : SimulcastConsumer codec} {env : ConsumerSurroundings}
  {packet : CodecPacket codec} {output : ConsumerOutput}

/-! ## Syncing -/

/-- The extra offset of a packet that the stream is synced on, once the offset to the reference
stream is known. -/
def extraOffset (s : SimulcastConsumer codec) (timestamp tsOffset : BitVec 32)
    (shouldSwitch : Bool) :
    Option (BitVec 32) :=
  if shouldSwitch ∧ timestamp - tsOffset ≤ s.rtpStream.seqState.maxPacketTs then
    s.tsExtraOffset timestamp tsOffset
  else some 0

/-- The consumer after a sync. -/
def synced (s : SimulcastConsumer codec) (packet : CodecPacket codec) (tsOffset : BitVec 32) :
    SimulcastConsumer codec :=
  { s with
    tsOffset := tsOffset
    rtpSeqManager := s.rtpSeqManager.sync (packet.getSequenceNumber - 1)
    encodingContext := { s.encodingContext with
      members := codec.syncRequired s.encodingContext.members }
    syncRequired := false
    keyFrameForTsOffsetRequested := false }

/-- A sync either is aborted, for want of an extra offset, or applies one. -/
theorem syncStream_cases {spatialLayer : ℤ} {shouldSwitch ok : Bool}
    (h : s.syncStream env packet spatialLayer shouldSwitch = .ok (ok, t)) :
    ∃ tsOffset, s.referenceTsOffset env spatialLayer = .ok tsOffset ∧
      ((ok = false ∧ s.extraOffset packet.getTimestamp tsOffset shouldSwitch = none ∧
          t = { s with keyFrameForTsOffsetRequested := true }) ∨
        (ok = true ∧ ∃ extra, s.extraOffset packet.getTimestamp tsOffset shouldSwitch = some extra ∧
          t = s.synced packet (tsOffset - extra))) := by
  unfold syncStream at h
  obtain ⟨tsOffset, hoffset, hrest⟩ := bind_eq_ok.mp h
  refine ⟨tsOffset, hoffset, ?_⟩
  dsimp only at hrest
  unfold extraOffset
  split at hrest
  · rename_i hextra
    cases hrest
    exact Or.inl ⟨rfl, hextra, rfl⟩
  · rename_i extra hextra
    cases hrest
    exact Or.inr ⟨rfl, extra, hextra, rfl⟩

/-- **What `SendRtpPacket` can do.** -/
inductive Sends (s : SimulcastConsumer codec) (env : ConsumerSurroundings)
    (packet : CodecPacket codec) : ConsumerOutput → SimulcastConsumer codec → Prop where
  | ignored (hselect : s.select env packet = .ok none) : Sends s env packet .nothing s
  | current {spatialLayer : ℤ} {output : ConsumerOutput} {t : SimulcastConsumer codec}
      (hselect : s.select env packet = .ok (some (spatialLayer, false)))
      (hsync : s.syncRequired = false)
      (hsend : s.sendCurrent env false packet = .ok (output, t)) : Sends s env packet output t
  | resynced {spatialLayer : ℤ} {tsOffset : BitVec 32} {output : ConsumerOutput}
      {t : SimulcastConsumer codec}
      (hselect : s.select env packet = .ok (some (spatialLayer, false)))
      (hsync : s.syncRequired = true)
      (hoffset : s.referenceTsOffset env spatialLayer = .ok tsOffset)
      (hsend : (s.synced packet tsOffset).sendCurrent env true packet = .ok (output, t)) :
      Sends s env packet output t
  | aborted {spatialLayer : ℤ} {tsOffset : BitVec 32}
      (hselect : s.select env packet = .ok (some (spatialLayer, true)))
      (hoffset : s.referenceTsOffset env spatialLayer = .ok tsOffset)
      (hextra : s.extraOffset packet.getTimestamp tsOffset true = none) :
      Sends s env packet .keyFrameRequested
        { s with syncRequired := true, keyFrameForTsOffsetRequested := true }
  | switched {spatialLayer : ℤ} {tsOffset extra : BitVec 32} {output : ConsumerOutput}
      {t : SimulcastConsumer codec}
      (hselect : s.select env packet = .ok (some (spatialLayer, true)))
      (hoffset : s.referenceTsOffset env spatialLayer = .ok tsOffset)
      (hextra : s.extraOffset packet.getTimestamp tsOffset true = some extra)
      (hsend : (s.synced packet (tsOffset - extra)).sendSwitched env packet = .ok (output, t)) :
      Sends s env packet output t

theorem sends_sendRtpPacket (h : s.sendRtpPacket env packet = .ok (output, t)) :
    Sends s env packet output t := by
  unfold sendRtpPacket at h
  obtain ⟨selected, hselect, hrest⟩ := bind_eq_ok.mp h
  cases selected with
  | none =>
    cases hrest
    exact .ignored hselect
  | some selected =>
    obtain ⟨spatialLayer, shouldSwitch⟩ := selected
    dsimp only at hrest
    split at hrest
    · rename_i hnot
      obtain ⟨hsync, rfl⟩ : s.syncRequired = false ∧ shouldSwitch = false := by simpa using hnot
      have hsame : { s with syncRequired := s.syncRequired || false } = s := by
        rw [hsync, Bool.false_or, ← hsync]
      rw [hsame] at hrest
      exact .current hselect hsync hrest
    · rename_i hsync
      obtain ⟨⟨ok, u⟩, hstream, hsend⟩ := bind_eq_ok.mp hrest
      obtain ⟨tsOffset, hoffset, ⟨rfl, hextra, rfl⟩ | ⟨rfl, extra, hextra, rfl⟩⟩ :=
        syncStream_cases hstream
      · cases shouldSwitch with
        | false =>
          -- without a switch there is always an extra offset
          cases hextra
        | true =>
          cases hsend
          rw [Bool.or_true]
          exact .aborted hselect hoffset hextra
      · cases shouldSwitch with
        | false =>
          cases hextra
          have hzero : tsOffset - 0 = tsOffset := BitVec.sub_zero tsOffset
          rw [hzero] at hsend
          exact .resynced hselect (by simpa using hsync) hoffset hsend
        | true => exact .switched hselect hoffset hextra hsend

/-! ## What stays -/

/-- The members that sending a packet leaves alone. -/
structure Keeps (s t : SimulcastConsumer codec) : Prop where
  targetSpatialLayer_eq : t.targetSpatialLayer = s.targetSpatialLayer
  layers_eq : t.mapMappedSsrcSpatialLayer = s.mapMappedSsrcSpatialLayer
  tsReferenceSpatialLayer_eq : t.tsReferenceSpatialLayer = s.tsReferenceSpatialLayer

theorem keeps_forward {isSyncPacket : Bool} {rewritten : RtpPacket}
    (h : s.forward env isSyncPacket rewritten = .ok (output, t)) :
    Keeps s t ∧ t.currentSpatialLayer = s.currentSpatialLayer := by
  unfold forward at h
  obtain ⟨rtpStream, -, hout⟩ := bind_eq_ok.mp h
  cases hout
  exact ⟨⟨rfl, rfl, rfl⟩, rfl⟩

theorem keeps_sendCurrent {isSyncPacket : Bool}
    (h : s.sendCurrent env isSyncPacket packet = .ok (output, t)) :
    Keeps s t ∧ t.currentSpatialLayer = s.currentSpatialLayer := by
  unfold sendCurrent at h
  obtain ⟨⟨passed, rewritten, context⟩, -, hrest⟩ := bind_eq_ok.mp h
  dsimp only at hrest
  split at hrest
  · cases hrest
    exact ⟨⟨rfl, rfl, rfl⟩, rfl⟩
  · obtain ⟨hkeeps, hcurrent⟩ := keeps_forward hrest
    exact ⟨⟨hkeeps.1, hkeeps.2, hkeeps.3⟩, hcurrent⟩

theorem keeps_sendSwitched (h : s.sendSwitched env packet = .ok (output, t)) :
    Keeps s t ∧ t.currentSpatialLayer = s.targetSpatialLayer := by
  unfold sendSwitched at h
  obtain ⟨⟨passed, rewritten, context⟩, -, hforward⟩ := bind_eq_ok.mp h
  obtain ⟨hkeeps, hcurrent⟩ := keeps_forward hforward
  exact ⟨⟨hkeeps.1, hkeeps.2, hkeeps.3⟩, hcurrent⟩

/-- Only the current layer may become the target layer. -/
theorem Sends.keeps (h : Sends s env packet output t) : Keeps s t ∧
    (t.currentSpatialLayer = s.currentSpatialLayer ∨
      t.currentSpatialLayer = s.targetSpatialLayer) := by
  cases h with
  | ignored => exact ⟨⟨rfl, rfl, rfl⟩, Or.inl rfl⟩
  | current _ _ hsend =>
    obtain ⟨hkeeps, hcurrent⟩ := keeps_sendCurrent hsend
    exact ⟨hkeeps, Or.inl hcurrent⟩
  | resynced _ _ _ hsend =>
    obtain ⟨hkeeps, hcurrent⟩ := keeps_sendCurrent hsend
    exact ⟨⟨hkeeps.1, hkeeps.2, hkeeps.3⟩, Or.inl hcurrent⟩
  | aborted => exact ⟨⟨rfl, rfl, rfl⟩, Or.inl rfl⟩
  | switched _ _ _ hsend =>
    obtain ⟨hkeeps, hcurrent⟩ := keeps_sendSwitched hsend
    exact ⟨⟨hkeeps.1, hkeeps.2, hkeeps.3⟩, Or.inr hcurrent⟩

/-! ## Aborted switches -/

/-- An aborted switch changes two members. -/
theorem sendRtpPacket_keyFrameRequested
    (h : s.sendRtpPacket env packet = .ok (.keyFrameRequested, t)) :
    (∃ spatialLayer, s.select env packet = .ok (some (spatialLayer, true))) ∧
      t = { s with syncRequired := true, keyFrameForTsOffsetRequested := true } := by
  have hforwards : ∀ {isSyncPacket : Bool}, ¬Forwards .keyFrameRequested isSyncPacket := by
    rintro isSyncPacket ⟨seq, sentPacket, sent, heq⟩
    cases heq
  have hcurrent : ∀ {u : SimulcastConsumer codec} {isSyncPacket : Bool},
      u.sendCurrent env isSyncPacket packet ≠ .ok (.keyFrameRequested, t) := by
    intro u isSyncPacket hsend
    rcases output_sendCurrent hsend with ⟨-, hforwarded⟩ | ⟨-, heq⟩
    · exact hforwards hforwarded
    · cases heq
  cases sends_sendRtpPacket h with
  | current _ _ hsend => exact absurd hsend hcurrent
  | resynced _ _ _ hsend => exact absurd hsend hcurrent
  | aborted hselect _ _ => exact ⟨⟨_, hselect⟩, rfl⟩
  | switched _ _ _ hsend => exact absurd (forwards_sendSwitched hsend) hforwards

/-- The target of a consumer with two states that differ at most in
`keyFrameForTsOffsetRequested`. -/
structure SameTarget (target : ℤ) (layers : BitVec 32 → Option ℤ) (s t : SimulcastConsumer codec) :
    Prop where
  target_eq : s.targetSpatialLayer = target
  layers_eq : s.mapMappedSsrcSpatialLayer = layers
  state_eq : ∃ requested, t = { s with keyFrameForTsOffsetRequested := requested }

/-- The target layers stay, and no packet is of the target stream. -/
def Undisturbed (target : ℤ) (layers : BitVec 32 → Option ℤ) : ConsumerEvent codec → Prop
  | .sendRtpPacket _ packet => layers packet.getSsrc ≠ some target
  | .updateTargetLayers _ _ => False
  | .userOnTransportConnected | .userOnResumed | .rtpStream _ => True

variable {target : ℤ} {layers : BitVec 32 → Option ℤ}

theorem alike_forward (h : SameTarget target layers s t) (isSyncPacket : Bool)
    (rewritten : RtpPacket) :
    Run.Alike (SameTarget target layers) (s.forward env isSyncPacket rewritten)
      (t.forward env isSyncPacket rewritten) := by
  obtain ⟨htarget, hlayers, requested, rfl⟩ := h
  unfold forward
  dsimp only
  cases s.rtpStream.receivePacket ((((rewritten.setSsrc s.encodingSsrc).setSequenceNumber
      ((s.rtpSeqManager.input rewritten.getSequenceNumber).1.getD
        env.uninitializedSeq)).setTimestamp
      (rewritten.getTimestamp - s.tsOffset))) env.nowMs with
  | error f => exact .error f
  | ok rtpStream => exact .ok ⟨htarget, hlayers, requested, rfl⟩

theorem alike_sendCurrent (h : SameTarget target layers s t) (isSyncPacket : Bool) :
    Run.Alike (SameTarget target layers) (s.sendCurrent env isSyncPacket packet)
      (t.sendCurrent env isSyncPacket packet) := by
  obtain ⟨htarget, hlayers, requested, rfl⟩ := h
  unfold sendCurrent
  dsimp only
  cases packet.processPayload s.encodingContext with
  | error f => exact .error f
  | ok processed =>
    obtain ⟨passed, rewritten, context⟩ := processed
    cases passed with
    | false => exact .ok ⟨htarget, hlayers, requested, rfl⟩
    | true =>
      refine alike_forward (s := { s with encodingContext := context }) ?_ isSyncPacket rewritten
      exact ⟨htarget, hlayers, requested, rfl⟩

/-- Only packets of the target stream are switched to. -/
theorem layer_of_select {spatialLayer : ℤ} {shouldSwitch : Bool}
    (h : s.select env packet = .ok (some (spatialLayer, shouldSwitch))) :
    s.mapMappedSsrcSpatialLayer packet.getSsrc = some spatialLayer ∧
      (shouldSwitch = true → spatialLayer = s.targetSpatialLayer) := by
  unfold select at h
  split at h
  · cases h
  split at h
  · cases h
  split at h
  · cases h
  split at h
  · cases h
  · rename_i layer hlayer
    split at h
    · rename_i hwaiting
      split at h
      · cases h
        exact ⟨hlayer, fun _ ↦ hwaiting.2⟩
      · cases h
    · split at h
      · cases h
      · split at h
        · cases h
        · cases h
          exact ⟨hlayer, nofun⟩

/-- Without a switch a packet of the current stream is sent. -/
theorem eq_current_of_select {spatialLayer : ℤ}
    (h : s.select env packet = .ok (some (spatialLayer, false))) :
    spatialLayer = s.currentSpatialLayer := by
  unfold select at h
  split at h
  · cases h
  split at h
  · cases h
  split at h
  · cases h
  split at h
  · cases h
  · split at h
    · split at h
      · cases h
      · cases h
    · split at h
      · cases h
      · rename_i hcurrent
        split at h
        · cases h
        · cases h
          exact not_not.mp hcurrent

/-- The part of `SendRtpPacket` behind the selection, on a packet of the current stream. -/
def sendSelected (s : SimulcastConsumer codec) (env : ConsumerSurroundings)
    (packet : CodecPacket codec)
    (spatialLayer : ℤ) : Except Fault (ConsumerOutput × SimulcastConsumer codec) :=
  if ¬s.syncRequired then s.sendCurrent env false packet
  else do
    let (synced, s) ← s.syncStream env packet spatialLayer false
    if ¬synced then return (.keyFrameRequested, s) else s.sendCurrent env true packet

theorem sendRtpPacket_eq_sendSelected {spatialLayer : ℤ}
    (hselect : s.select env packet = .ok (some (spatialLayer, false))) :
    s.sendRtpPacket env packet = s.sendSelected env packet spatialLayer := by
  rw [sendRtpPacket, hselect]
  change (if ¬(s.syncRequired || false) then _ else _) = _
  rw [Bool.or_false, sendSelected]
  simp only [Bool.false_eq_true, if_false]

/-- The sync resets the member in which two states may differ. -/
theorem sendSelected_requested {spatialLayer : ℤ} (hsync : s.syncRequired = true)
    (requested : Bool) :
    sendSelected { s with keyFrameForTsOffsetRequested := requested } env packet spatialLayer =
      s.sendSelected env packet spatialLayer := by
  have hstream : syncStream { s with keyFrameForTsOffsetRequested := requested } env packet
      spatialLayer false = s.syncStream env packet spatialLayer false := rfl
  unfold sendSelected
  rw [hstream, if_neg (not_not.mpr hsync), if_neg (not_not.mpr hsync)]

theorem alike_sendRtpPacket (h : SameTarget target layers s t)
    (hpacket : layers packet.getSsrc ≠ some target) :
    Run.Alike (SameTarget target layers) (s.sendRtpPacket env packet)
      (t.sendRtpPacket env packet) := by
  have hsame := h
  obtain ⟨htarget, hlayers, requested, rfl⟩ := hsame
  have hselected : select { s with keyFrameForTsOffsetRequested := requested } env packet =
      s.select env packet := rfl
  cases hselect : s.select env packet with
  | error f =>
    rw [sendRtpPacket, sendRtpPacket, hselected, hselect]
    exact .error f
  | ok selected =>
    cases selected with
    | none =>
      rw [sendRtpPacket, sendRtpPacket, hselected, hselect]
      exact .ok h
    | some selected =>
      obtain ⟨spatialLayer, shouldSwitch⟩ := selected
      obtain ⟨hlayer, hswitch⟩ := layer_of_select hselect
      cases shouldSwitch with
      | true =>
        rw [hlayers, hswitch rfl, htarget] at hlayer
        exact absurd hlayer hpacket
      | false =>
        have hsent := sendRtpPacket_eq_sendSelected hselect
        rw [hsent, sendRtpPacket_eq_sendSelected (hselected.trans hselect)]
        by_cases hsync : s.syncRequired = true
        · rw [sendSelected_requested hsync requested, ← hsent]
          cases hsend : s.sendRtpPacket env packet with
          | error f => exact .error f
          | ok result =>
            obtain ⟨output, u⟩ := result
            obtain ⟨hkeeps, -⟩ := (sends_sendRtpPacket hsend).keeps
            exact .ok ⟨hkeeps.targetSpatialLayer_eq.trans htarget, hkeeps.layers_eq.trans hlayers,
              u.keyFrameForTsOffsetRequested, rfl⟩
        · have hcurrent : ∀ u : SimulcastConsumer codec, ¬u.syncRequired = true →
              u.sendSelected env packet spatialLayer = u.sendCurrent env false packet :=
            fun u hu ↦ if_pos hu
          rw [hcurrent s hsync, hcurrent { s with keyFrameForTsOffsetRequested := requested } hsync]
          exact alike_sendCurrent h false

/-- **An undisturbed event** takes the two states alike. -/
theorem alike_step (h : SameTarget target layers s t) {e : ConsumerEvent codec}
    (he : Undisturbed target layers e) :
    Run.Alike (SameTarget target layers) (s.step e) (t.step e) := by
  cases e with
  | sendRtpPacket env packet => exact alike_sendRtpPacket h he
  | updateTargetLayers newTargetSpatialLayer newTargetTemporalLayer => exact he.elim
  | userOnTransportConnected =>
    obtain ⟨htarget, hlayers, requested, rfl⟩ := h
    exact .ok ⟨htarget, hlayers, false, rfl⟩
  | userOnResumed =>
    obtain ⟨htarget, hlayers, requested, rfl⟩ := h
    exact .ok ⟨htarget, hlayers, false, rfl⟩
  | rtpStream e =>
    obtain ⟨htarget, hlayers, requested, rfl⟩ := h
    change Run.Alike _ (s.rtpStream.step e >>= _) (s.rtpStream.step e >>= _)
    cases s.rtpStream.step e with
    | error f => exact .error f
    | ok result => exact .ok ⟨htarget, hlayers, requested, rfl⟩

/-- The current stream is left intact: the only trace of a call is that a key frame has been
requested, and as long as no packet of the target stream comes, the consumer goes on as if there had
been no call. -/
structure LeftIntact (s t : SimulcastConsumer codec) : Prop where
  state_eq : t = { s with keyFrameForTsOffsetRequested := true }
  outputs_eq : ∀ events, (∀ e ∈ events,
      Undisturbed s.targetSpatialLayer s.mapMappedSsrcSpatialLayer e) →
    Run.outputs step t events = Run.outputs step s events

/-- **Aborted switches.** An aborted switch leaves the current stream intact if and only if a sync
was required before. -/
theorem leftIntact_iff (codec : Codec) (s t : SimulcastConsumer codec) (env : ConsumerSurroundings)
    (packet : CodecPacket codec)
    (h : s.sendRtpPacket env packet = .ok (.keyFrameRequested, t)) :
    s.LeftIntact t ↔ s.syncRequired = true := by
  obtain ⟨-, ht⟩ := sendRtpPacket_keyFrameRequested h
  constructor
  · intro hintact
    have hsync := congrArg SimulcastConsumer.syncRequired hintact.state_eq
    rw [ht] at hsync
    exact hsync.symm
  · intro hsync
    have hstate : t = { s with keyFrameForTsOffsetRequested := true } := by rw [ht, ← hsync]
    refine ⟨hstate, fun events hevents ↦ ?_⟩
    have hsame : SameTarget s.targetSpatialLayer s.mapMappedSsrcSpatialLayer s t :=
      ⟨rfl, rfl, true, hstate⟩
    exact (Run.outputs_eq (fun u v e hR he ↦ alike_step hR he) hevents hsame).symm

/-! ### A run that switches -/

instance (o : ConsumerOutput) : Decidable (o = .keyFrameRequested) :=
  match o with
  | .keyFrameRequested => .isTrue rfl
  | .nothing | .dropped _ | .forwarded .. => .isFalse ConsumerOutput.noConfusion

instance (o : ConsumerOutput) : Decidable (o = .nothing) :=
  match o with
  | .nothing => .isTrue rfl
  | .keyFrameRequested | .dropped _ | .forwarded .. => .isFalse ConsumerOutput.noConfusion

instance (o : ConsumerOutput) (P : RtpPacket → Prop) [DecidablePred P] :
    Decidable (∃ isSyncPacket seq packet sent,
      o = .forwarded isSyncPacket seq packet sent ∧ P packet) :=
  match o with
  | .forwarded isSyncPacket seq packet sent => decidable_of_iff (P packet) (by simp)
  | .keyFrameRequested | .nothing | .dropped _ => .isFalse (by simp)

instance (o : ConsumerOutput) : Decidable (∃ isSyncPacket seq packet sent,
    o = .forwarded isSyncPacket seq packet sent) :=
  decidable_of_iff (∃ isSyncPacket seq packet sent,
    o = .forwarded isSyncPacket seq packet sent ∧ True) (by simp)

/-- A packet of the second stream. -/
def secondPacket (seq : BitVec 16) (timestamp : BitVec 32) (isKeyFrame : Bool) : CodecPacket h264 :=
  let packet := markedPacket seq timestamp isKeyFrame true 0
  { packet with toRtpPacket := packet.toRtpPacket.setSsrc 1002 }

/-- A consumer that sends the first stream and is to switch to the second. -/
def switchingEvents : List (ConsumerEvent h264) :=
  [.userOnTransportConnected, .updateTargetLayers 0 0,
    .sendRtpPacket {} (markedPacket 100 200000 true true 0), .updateTargetLayers 1 0]

/-- The two streams have sender reports without an offset. -/
def bothReports : ConsumerSurroundings where
  producerTsReferenceRtpStream := some ⟨1000, 200000⟩
  producerTargetRtpStream := some ⟨1000, 200000⟩

/-- The consumer after these events. -/
def afterEvents (events : List (ConsumerEvent h264)) : Except Fault (SimulcastConsumer h264) :=
  events.foldlM (fun s e ↦ (s.step e).map Prod.snd)
    (init h264 { ssrc := 9, payloadType := 96, clockRate := 90000 } [96] [1001, 1002])

/-- With a sync required the abortion of the switch leaves the first stream intact. -/
theorem leftIntact_resumed : ∃ s t, afterEvents (switchingEvents ++ [.userOnResumed]) = .ok s ∧
    s.sendRtpPacket bothReports (secondPacket 500 100000 true) = .ok (.keyFrameRequested, t) ∧
    s.LeftIntact t := by
  obtain ⟨s, hs, ⟨_, t⟩, ht, rfl, hsync⟩ :
      ∃ s, afterEvents (switchingEvents ++ [.userOnResumed]) = .ok s ∧
        ∃ r, s.sendRtpPacket bothReports (secondPacket 500 100000 true) = .ok r ∧
          r.1 = .keyFrameRequested ∧ s.syncRequired = true := by
    decide +kernel
  exact ⟨s, t, hs, ht, (leftIntact_iff h264 s t _ _ ht).mpr hsync⟩

/-- **An aborted switch stops the current stream.** The next packet of the first stream would have
been forwarded, and is ignored. -/
theorem aborted_drops_current : ∃ s t, afterEvents switchingEvents = .ok s ∧
    s.sendRtpPacket bothReports (secondPacket 500 100000 true) = .ok (.keyFrameRequested, t) ∧
    ¬s.LeftIntact t ∧
    (∃ u isSyncPacket seq packet sent, s.sendRtpPacket {} (markedPacket 101 203000 false true 0) =
      .ok (.forwarded isSyncPacket seq packet sent, u)) ∧
    ∃ u, t.sendRtpPacket {} (markedPacket 101 203000 false true 0) = .ok (.nothing, u) := by
  obtain ⟨s, hs, ⟨_, t⟩, ht, rfl, hbefore, hafter, ⟨_, u⟩, hforwarded,
      ⟨isSyncPacket, seq, packet, sent, rfl⟩, ⟨_, v⟩, hnothing, rfl⟩ :
      ∃ s, afterEvents switchingEvents = .ok s ∧
        ∃ r, s.sendRtpPacket bothReports (secondPacket 500 100000 true) = .ok r ∧
          r.1 = .keyFrameRequested ∧ s.syncRequired = false ∧ r.2.syncRequired = true ∧
          ∃ sent, s.sendRtpPacket {} (markedPacket 101 203000 false true 0) = .ok sent ∧
            (∃ isSyncPacket seq packet accepted,
              sent.1 = .forwarded isSyncPacket seq packet accepted) ∧
            ∃ ignored, r.2.sendRtpPacket {} (markedPacket 101 203000 false true 0) =
              .ok ignored ∧ ignored.1 = .nothing := by
    decide +kernel
  refine ⟨s, t, hs, ht, fun hintact ↦ ?_, ⟨u, _, _, _, _, hforwarded⟩, v, hnothing⟩
  rw [hintact.state_eq, hbefore] at hafter
  cases hafter

/-! ## Timestamps of completed switches -/

/-- The timestamp of a packet in terms of the reference stream. -/
def theoreticalTs (packet : CodecPacket codec) (tsOffset : BitVec 32) : BitVec 32 :=
  packet.getTimestamp - tsOffset

/-- The branch of `SendRtpPacket` that gives up on proper stream switching. -/
def GivesUp (s : SimulcastConsumer codec) (ts : BitVec 32) : Prop :=
  ts ≤ s.rtpStream.seqState.maxPacketTs ∧ s.keyFrameForTsOffsetRequested = true ∧
    maxExtraOffsetMs * s.rtpStream.params.clockRate / 1000 < s.rtpStream.seqState.maxPacketTs - ts

/-- The theoretical timestamp is above the highest one sent, as numbers, by less than half the
circle; or they are equal, no key frame has been requested, and a frame lasts for at least one tick
of the clock. -/
def Ahead (s : SimulcastConsumer codec) (ts : BitVec 32) : Prop :=
  (s.rtpStream.seqState.maxPacketTs.toNat < ts.toNat ∧
      ts.toNat < s.rtpStream.seqState.maxPacketTs.toNat + 2 ^ 31) ∨
    (ts = s.rtpStream.seqState.maxPacketTs ∧ s.keyFrameForTsOffsetRequested = false ∧
      msOffset * s.rtpStream.params.clockRate / 1000 ≠ 0)

instance (s : SimulcastConsumer codec) (ts : BitVec 32) : Decidable (s.GivesUp ts) := by
  unfold GivesUp
  infer_instance

instance (s : SimulcastConsumer codec) (ts : BitVec 32) : Decidable (s.Ahead ts) := by
  unfold Ahead
  infer_instance

theorem timestamp_forward {isSyncPacket : Bool} {seq : Option (BitVec 16)}
    {rewritten sentPacket : RtpPacket}
    {sent : Bool}
    (h : s.forward env isSyncPacket rewritten =
      .ok (.forwarded isSyncPacket seq sentPacket sent, t)) :
    sentPacket.getTimestamp = rewritten.getTimestamp - s.tsOffset := by
  unfold forward at h
  obtain ⟨rtpStream, -, hout⟩ := bind_eq_ok.mp h
  cases hout
  rfl

theorem getTimestamp_processPayload {context context' : EncodingContext codec.Members}
    {passed : Bool}
    {rewritten : RtpPacket}
    (h : packet.processPayload context = .ok (passed, rewritten, context')) :
    rewritten.getTimestamp = packet.getTimestamp :=
  congrArg RtpHeader.timestamp (CodecPacket.header_processPayload h)

/-- The outgoing timestamp of a completed switch is the theoretical one, lifted by the extra
offset. -/
theorem timestamp_switched {tsOffset extra : BitVec 32} {isSyncPacket : Bool}
    {seq : Option (BitVec 16)} {sentPacket : RtpPacket} {sent : Bool}
    (h : (s.synced packet (tsOffset - extra)).sendSwitched env packet =
      .ok (.forwarded isSyncPacket seq sentPacket sent, t)) :
    sentPacket.getTimestamp = theoreticalTs packet tsOffset + extra := by
  obtain ⟨_, _, _, heq⟩ := forwards_sendSwitched h
  cases heq
  unfold sendSwitched at h
  obtain ⟨⟨passed, rewritten, context⟩, hprocess, hforward⟩ := bind_eq_ok.mp h
  rw [timestamp_forward hforward, getTimestamp_processPayload hprocess, theoreticalTs]
  change packet.getTimestamp - (tsOffset - extra) = _
  bv_omega

theorem pos_add_self (m offset : BitVec 32) : pos m (m + offset) = offset.toNat := by
  rw [pos, BitVec.add_comm, BitVec.add_sub_cancel]

/-- A frame lasts for less than half the circle. -/
theorem precedes_frame_iff (m clockRate : BitVec 32) :
    Precedes m (m + msOffset * clockRate / 1000) ↔ msOffset * clockRate / 1000 ≠ 0 := by
  have hlt := (msOffset * clockRate).isLt
  have hdiv : (msOffset * clockRate / 1000).toNat = (msOffset * clockRate).toNat / 1000 :=
    BitVec.toNat_udiv
  rw [Precedes, pos_add_self]
  constructor
  · rintro ⟨hpos, -⟩ hzero
    rw [hzero] at hpos
    exact absurd hpos (Nat.lt_irrefl 0)
  · intro hne
    refine ⟨Nat.pos_of_ne_zero fun hzero ↦ hne (BitVec.eq_of_toNat_eq hzero), ?_⟩
    rw [hdiv]
    omega

/-- A number above another one is newer if it is near enough. -/
theorem precedes_above_iff {m ts : BitVec 32} (h : m.toNat < ts.toNat) :
    Precedes m ts ↔ ts.toNat < m.toNat + 2 ^ 31 := by
  have hsub : (ts - m).toNat = ts.toNat - m.toNat :=
    BitVec.toNat_sub_of_le (BitVec.le_def.mpr h.le)
  rw [Precedes, pos, hsub]
  constructor
  · rintro ⟨-, hnear⟩
    omega
  · intro hnear
    constructor
    · omega
    · omega

theorem not_precedes_self (m : BitVec 32) : ¬Precedes m m := fun h ↦ by
  rw [Precedes, pos_self] at h
  exact absurd h.1 (Nat.lt_irrefl 0)

/-- What the extra offset makes of a theoretical timestamp. -/
theorem precedes_lifted_iff {timestamp tsOffset extra : BitVec 32}
    (hextra : s.extraOffset timestamp tsOffset true = some extra)
    (hgive : ¬s.GivesUp (timestamp - tsOffset)) :
    Precedes s.rtpStream.seqState.maxPacketTs (timestamp - tsOffset + extra) ↔
      s.Ahead (timestamp - tsOffset) := by
  unfold extraOffset tsExtraOffset at hextra
  unfold GivesUp at hgive
  unfold Ahead
  generalize s.rtpStream.seqState.maxPacketTs = m at *
  have hneeded : m - timestamp + tsOffset = m - (timestamp - tsOffset) := by bv_omega
  rw [hneeded] at hextra
  generalize timestamp - tsOffset = ts at *
  have hlift : ts + (m - ts) = m := by bv_omega
  by_cases hle : ts ≤ m
  · have hbelow : ¬m.toNat < ts.toNat := Nat.not_lt.mpr (BitVec.le_def.mp hle)
    rw [if_pos ⟨rfl, hle⟩] at hextra
    cases hrequested : s.keyFrameForTsOffsetRequested with
    | true =>
      rw [hrequested, if_pos rfl, if_neg fun hlarge ↦ hgive ⟨hle, hrequested, hlarge⟩] at hextra
      cases hextra
      rw [hlift]
      simp [not_precedes_self, hbelow]
    | false =>
      rw [hrequested, if_neg nofun] at hextra
      split at hextra
      · cases hextra
      · split at hextra
        · rename_i hzero
          obtain rfl : ts = m := by bv_omega
          cases hextra
          rw [precedes_frame_iff]
          simp
        · rename_i hne
          have hts : ts ≠ m := by
            rintro rfl
            exact hne (BitVec.sub_self ts)
          cases hextra
          rw [hlift]
          simp [not_precedes_self, hbelow, hts]
  · have habove : m.toNat < ts.toNat := Nat.lt_of_not_le fun hge ↦ hle (BitVec.le_def.mpr hge)
    have hts : ts ≠ m := by
      rintro rfl
      exact absurd habove (Nat.lt_irrefl _)
    rw [if_neg fun hand ↦ hle hand.2] at hextra
    cases hextra
    have hzero : ts + 0 = ts := BitVec.add_zero ts
    rw [hzero, precedes_above_iff habove]
    simp [habove, hts]

/-- A completed switch that does not give up, and the outgoing key frame. -/
structure CompletesSwitch (s : SimulcastConsumer codec) (env : ConsumerSurroundings)
    (packet : CodecPacket codec) (ts : BitVec 32) (sentPacket : RtpPacket) : Prop where
  select_eq : ∃ spatialLayer tsOffset, s.select env packet = .ok (some (spatialLayer, true)) ∧
    s.referenceTsOffset env spatialLayer = .ok tsOffset ∧ ts = theoreticalTs packet tsOffset
  not_givesUp : ¬s.GivesUp ts
  forwarded : ∃ isSyncPacket seq sent t,
    s.sendRtpPacket env packet = .ok (.forwarded isSyncPacket seq sentPacket sent, t)

/-- **Timestamps across switches.** The key frame of a completed switch is newer than anything sent
before if and only if its theoretical timestamp is ahead. -/
theorem newer_iff (codec : Codec) (s : SimulcastConsumer codec) (env : ConsumerSurroundings)
    (packet : CodecPacket codec) (ts : BitVec 32) (sentPacket : RtpPacket)
    (h : CompletesSwitch s env packet ts sentPacket) :
    Precedes s.rtpStream.seqState.maxPacketTs sentPacket.getTimestamp ↔ s.Ahead ts := by
  obtain ⟨⟨spatialLayer, tsOffset, hselect, hoffset, rfl⟩, hgive, _, seq, sent, t, hsent⟩ := h
  cases sends_sendRtpPacket hsent with
  | current hselect' =>
    rw [hselect] at hselect'
    cases hselect'
  | resynced hselect' =>
    rw [hselect] at hselect'
    cases hselect'
  | switched hselect' hoffset' hextra hsend =>
    rw [hselect] at hselect'
    cases hselect'
    rw [hoffset] at hoffset'
    cases hoffset'
    rw [timestamp_switched hsend]
    exact precedes_lifted_iff hextra hgive

/-- A key frame of the second stream is switched to and sent as newer. -/
theorem newer_later : ∃ s sentPacket, afterEvents switchingEvents = .ok s ∧
    CompletesSwitch s bothReports (secondPacket 500 201000 true) 201000 sentPacket ∧
    Precedes s.rtpStream.seqState.maxPacketTs sentPacket.getTimestamp := by
  obtain ⟨s, hs, hgive, hahead, hselect, hoffset, ⟨_, t⟩, ht,
      ⟨isSyncPacket, seq, sentPacket, sent, rfl⟩⟩ :
      ∃ s, afterEvents switchingEvents = .ok s ∧ ¬s.GivesUp 201000 ∧ s.Ahead 201000 ∧
        s.select bothReports (secondPacket 500 201000 true) = .ok (some (1, true)) ∧
        s.referenceTsOffset bothReports 1 = .ok 0 ∧
        ∃ r, s.sendRtpPacket bothReports (secondPacket 500 201000 true) = .ok r ∧
          ∃ isSyncPacket seq sentPacket sent,
            r.1 = .forwarded isSyncPacket seq sentPacket sent := by
    decide +kernel
  have hcompletes : CompletesSwitch s bothReports (secondPacket 500 201000 true) 201000
      sentPacket :=
    ⟨⟨1, 0, hselect, hoffset, rfl⟩, hgive, _, _, _, _, ht⟩
  exact ⟨s, sentPacket, hs, hcompletes, (newer_iff h264 s _ _ _ _ hcompletes).mpr hahead⟩

/-- **A key frame that is not newer.** It is a little older than what has been sent, and is lifted
to just the highest timestamp. -/
theorem switched_not_newer : ∃ s sentPacket, afterEvents switchingEvents = .ok s ∧
    CompletesSwitch s bothReports (secondPacket 500 199000 true) 199000 sentPacket ∧
    sentPacket.getTimestamp = s.rtpStream.seqState.maxPacketTs ∧
    ¬Precedes s.rtpStream.seqState.maxPacketTs sentPacket.getTimestamp := by
  obtain ⟨s, hs, hgive, hselect, hoffset, ⟨_, t⟩, ht,
      ⟨isSyncPacket, seq, sentPacket, sent, rfl, heq⟩⟩ :
      ∃ s, afterEvents switchingEvents = .ok s ∧ ¬s.GivesUp 199000 ∧
        s.select bothReports (secondPacket 500 199000 true) = .ok (some (1, true)) ∧
        s.referenceTsOffset bothReports 1 = .ok 0 ∧
        ∃ r, s.sendRtpPacket bothReports (secondPacket 500 199000 true) = .ok r ∧
          ∃ isSyncPacket seq sentPacket sent,
            r.1 = .forwarded isSyncPacket seq sentPacket sent ∧
              sentPacket.getTimestamp = s.rtpStream.seqState.maxPacketTs := by
    decide +kernel
  refine ⟨s, sentPacket, hs, ⟨⟨1, 0, hselect, hoffset, rfl⟩, hgive, _, _, _, _, ht⟩, heq, ?_⟩
  rw [heq]
  exact not_precedes_self _

end SimulcastConsumer

end MediasoupSfu
