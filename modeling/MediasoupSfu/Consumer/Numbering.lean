import MediasoupSfu.Consumer.Simulcast
import MediasoupSfu.Library.Run

/-!
# The numbers of forwarded packets

Whether a forwarded packet gets a number from `Input` is a question about the dropped set, and so
about the past decisions of the codec: a recorded number is that of a packet that the codec has
rejected since the last sync. `Numbers` is all that `SendRtpPacket` can do to `rtpSeqManager`, and
everything else follows from it.
-/

namespace MediasoupSfu

open Serial

/-- Whether the event was a re-sync of the stream. -/
def ConsumerOutput.isSyncPacket : ConsumerOutput → Bool
  | .dropped isSyncPacket => isSyncPacket
  | .forwarded isSyncPacket _ _ _ => isSyncPacket
  | _ => false

/-- A packet that is forwarded carries a sequence number written by `Input`. -/
def ConsumerOutput.Assigned : ConsumerOutput → Prop
  | .forwarded _ seq packet _ => seq = some packet.getSequenceNumber
  | _ => True

instance : ∀ output : ConsumerOutput, Decidable output.Assigned
  | .forwarded _ seq packet _ =>
    inferInstanceAs (Decidable (seq = some packet.getSequenceNumber))
  | .nothing | .keyFrameRequested | .dropped _ => isTrue trivial

/-- The codec only rewrites the memory behind the header. -/
theorem CodecPacket.header_processPayload {codec : Codec} {packet : CodecPacket codec}
    {context context' : EncodingContext codec.Members} {passed : Bool} {rewritten : RtpPacket}
    (h : packet.processPayload context = .ok (passed, rewritten, context')) :
    rewritten.header = packet.header := by
  unfold processPayload at h
  split at h
  · cases h
    rfl
  · obtain ⟨⟨passed', body, context''⟩, -, hrewritten⟩ := bind_eq_ok.mp h
    cases hrewritten
    rfl

theorem CodecPacket.getSequenceNumber_processPayload {codec : Codec} {packet : CodecPacket codec}
    {context context' : EncodingContext codec.Members} {passed : Bool} {rewritten : RtpPacket}
    (h : packet.processPayload context = .ok (passed, rewritten, context')) :
    rewritten.getSequenceNumber = packet.getSequenceNumber :=
  congrArg RtpHeader.sequenceNumber (header_processPayload h)

namespace SimulcastConsumer

variable {codec : Codec} {s t : SimulcastConsumer codec} {env : ConsumerSurroundings}
  {packet : CodecPacket codec} {output : ConsumerOutput} {e : ConsumerEvent codec}

/-! ## One packet -/

/-- The manager that a packet finds: a packet that the stream is synced on starts over. -/
def entered (sm : SeqManager 16) (isSyncPacket : Bool) (seq : BitVec 16) : SeqManager 16 :=
  if isSyncPacket then sm.sync (seq - 1) else sm

/-- **What a packet does to the numbering.** -/
inductive Numbers (env : ConsumerSurroundings) (seq : BitVec 16) (sm : SeqManager 16) :
    ConsumerOutput → SeqManager 16 → Prop where
  | nothing : Numbers env seq sm .nothing sm
  | keyFrameRequested : Numbers env seq sm .keyFrameRequested sm
  | dropped (isSyncPacket : Bool) :
    Numbers env seq sm (.dropped isSyncPacket) ((entered sm isSyncPacket seq).drop seq)
  | forwarded (isSyncPacket : Bool) (packet : RtpPacket) (sent : Bool)
      (hseq : packet.getSequenceNumber =
        ((entered sm isSyncPacket seq).input seq).1.getD env.uninitializedSeq) :
    Numbers env seq sm
      (.forwarded isSyncPacket ((entered sm isSyncPacket seq).input seq).1 packet sent)
      ((entered sm isSyncPacket seq).input seq).2

/-- Whether the codec lets the packet through. -/
def passes (packet : CodecPacket codec) (context : EncodingContext codec.Members) : Bool :=
  match packet.processPayload context with
  | .ok (passed, _, _) => passed
  | .error _ => false

/-- Whether the packet is one that `SendRtpPacket` lets through without a sync. -/
def passesUnsynced (s : SimulcastConsumer codec) (env : ConsumerSurroundings)
    (packet : CodecPacket codec) : Bool :=
  match s.select env packet with
  | .ok (some (_, shouldSwitch)) =>
    !s.syncRequired && !shouldSwitch && passes packet s.encodingContext
  | _ => false

theorem numbers_forward {isSyncPacket : Bool} {rewritten : RtpPacket} {sm : SeqManager 16}
    {seq : BitVec 16} (hsm : s.rtpSeqManager = entered sm isSyncPacket seq)
    (hseq : rewritten.getSequenceNumber = seq)
    (h : s.forward env isSyncPacket rewritten = .ok (output, t)) :
    Numbers env seq sm output t.rtpSeqManager := by
  unfold forward at h
  obtain ⟨rtpStream, -, hout⟩ := bind_eq_ok.mp h
  cases hout
  dsimp only
  rw [hseq, hsm]
  exact Numbers.forwarded _ _ _ rfl

theorem numbers_sendSwitched {sm : SeqManager 16}
    (hsm : s.rtpSeqManager = entered sm true packet.getSequenceNumber)
    (h : s.sendSwitched env packet = .ok (output, t)) :
    Numbers env packet.getSequenceNumber sm output t.rtpSeqManager := by
  unfold sendSwitched at h
  obtain ⟨⟨passed, rewritten, context⟩, hprocess, hforward⟩ := bind_eq_ok.mp h
  refine numbers_forward ?_ (CodecPacket.getSequenceNumber_processPayload hprocess) hforward
  exact hsm

theorem numbers_sendCurrent {sm : SeqManager 16} {isSyncPacket : Bool}
    (hsm : s.rtpSeqManager = entered sm isSyncPacket packet.getSequenceNumber)
    (h : s.sendCurrent env isSyncPacket packet = .ok (output, t)) :
    Numbers env packet.getSequenceNumber sm output t.rtpSeqManager := by
  unfold sendCurrent at h
  obtain ⟨⟨passed, rewritten, context⟩, hprocess, hrest⟩ := bind_eq_ok.mp h
  dsimp only at hrest
  split at hrest
  · cases hrest
    dsimp only
    rw [hsm]
    exact Numbers.dropped _
  · refine numbers_forward ?_ (CodecPacket.getSequenceNumber_processPayload hprocess) hrest
    exact hsm

theorem numbers_syncStream {spatialLayer : ℤ} {shouldSwitch synced : Bool}
    (h : s.syncStream env packet spatialLayer shouldSwitch = .ok (synced, t)) :
    t.rtpSeqManager = entered s.rtpSeqManager synced packet.getSequenceNumber := by
  unfold syncStream at h
  obtain ⟨tsOffset, -, hrest⟩ := bind_eq_ok.mp h
  dsimp only at hrest
  split at hrest
  · cases hrest
    rfl
  · cases hrest
    rfl

/-- **One call of `SendRtpPacket`.** -/
theorem numbers_sendRtpPacket (h : s.sendRtpPacket env packet = .ok (output, t)) :
    Numbers env packet.getSequenceNumber s.rtpSeqManager output t.rtpSeqManager := by
  unfold sendRtpPacket at h
  obtain ⟨selected, -, hrest⟩ := bind_eq_ok.mp h
  cases selected with
  | none =>
    cases hrest
    exact Numbers.nothing
  | some selected =>
    obtain ⟨spatialLayer, shouldSwitch⟩ := selected
    dsimp only at hrest
    split at hrest
    · exact numbers_sendCurrent rfl hrest
    · obtain ⟨⟨synced, u⟩, hsync, hsend⟩ := bind_eq_ok.mp hrest
      have hu := numbers_syncStream hsync
      dsimp only at hsend hu
      cases synced with
      | false =>
        cases hsend
        rw [hu]
        exact Numbers.keyFrameRequested
      | true =>
        cases shouldSwitch with
        | false => exact numbers_sendCurrent hu hsend
        | true => exact numbers_sendSwitched hu hsend

/-! ## Packets without a sync -/

/-- The packet has been forwarded. -/
def Forwards (output : ConsumerOutput) (isSyncPacket : Bool) : Prop :=
  ∃ seq packet sent, output = .forwarded isSyncPacket seq packet sent

theorem forwards_forward {isSyncPacket : Bool} {rewritten : RtpPacket}
    (h : s.forward env isSyncPacket rewritten = .ok (output, t)) :
    Forwards output isSyncPacket := by
  unfold forward at h
  obtain ⟨rtpStream, -, hout⟩ := bind_eq_ok.mp h
  cases hout
  exact ⟨_, _, _, rfl⟩

theorem output_sendCurrent {isSyncPacket : Bool}
    (h : s.sendCurrent env isSyncPacket packet = .ok (output, t)) :
    (passes packet s.encodingContext = true ∧ Forwards output isSyncPacket) ∨
      (passes packet s.encodingContext = false ∧ output = .dropped isSyncPacket) := by
  unfold sendCurrent at h
  obtain ⟨⟨passed, rewritten, context⟩, hprocess, hrest⟩ := bind_eq_ok.mp h
  have hpasses : passes packet s.encodingContext = passed := by rw [passes, hprocess]
  dsimp only at hrest
  rw [hpasses]
  cases passed with
  | false =>
    cases hrest
    exact Or.inr ⟨rfl, rfl⟩
  | true => exact Or.inl ⟨rfl, forwards_forward hrest⟩

theorem forwards_sendSwitched (h : s.sendSwitched env packet = .ok (output, t)) :
    Forwards output true := by
  unfold sendSwitched at h
  obtain ⟨⟨passed, rewritten, context⟩, -, hforward⟩ := bind_eq_ok.mp h
  exact forwards_forward hforward

/-- The packets that are forwarded without a sync are those that pass without one. -/
theorem forwards_iff (h : s.sendRtpPacket env packet = .ok (output, t)) :
    Forwards output false ↔ s.passesUnsynced env packet = true := by
  unfold sendRtpPacket at h
  obtain ⟨selected, hselect, hrest⟩ := bind_eq_ok.mp h
  rw [passesUnsynced, hselect]
  cases selected with
  | none =>
    cases hrest
    simp [Forwards]
  | some selected =>
    obtain ⟨spatialLayer, shouldSwitch⟩ := selected
    dsimp only at hrest ⊢
    split at hrest
    · rename_i hsync
      have hnot : s.syncRequired = false ∧ shouldSwitch = false := by simpa using hsync
      rw [hnot.1, hnot.2]
      rcases output_sendCurrent hrest with ⟨hpasses, hforwards⟩ | ⟨hpasses, rfl⟩
      · exact ⟨fun _ ↦ hpasses, fun _ ↦ hforwards⟩
      · have hpasses' : passes packet s.encodingContext = false := hpasses
        rw [hpasses']
        simp [Forwards]
    · rename_i hsync
      have hnot : (!s.syncRequired && !shouldSwitch) = false := by simpa using hsync
      rw [hnot, Bool.false_and]
      obtain ⟨⟨synced, u⟩, -, hsend⟩ := bind_eq_ok.mp hrest
      dsimp only at hsend
      refine ⟨?_, nofun⟩
      rintro ⟨seq, sentPacket, sent, rfl⟩
      cases synced with
      | false => cases hsend
      | true =>
        cases shouldSwitch with
        | false =>
          rcases output_sendCurrent hsend with ⟨-, seq, sentPacket, sent, heq⟩ | ⟨-, heq⟩
          · cases heq
          · cases heq
        | true =>
          obtain ⟨seq, sentPacket, sent, heq⟩ := forwards_sendSwitched hsend
          cases heq

/-! ## Assigned numbers -/

/-- A packet that passes without a sync is not recorded as dropped. -/
def Clear (s : SimulcastConsumer codec) : ConsumerEvent codec → Prop
  | .sendRtpPacket env packet => s.passesUnsynced env packet = true →
      packet.getSequenceNumber ∉ s.rtpSeqManager.dropped
  | _ => True

instance (s : SimulcastConsumer codec) : ∀ e, Decidable (s.Clear e)
  | .sendRtpPacket env packet => inferInstanceAs (Decidable (s.passesUnsynced env packet = true →
      packet.getSequenceNumber ∉ s.rtpSeqManager.dropped))
  | .updateTargetLayers _ _ | .userOnTransportConnected | .userOnResumed | .rtpStream _ =>
    isTrue trivial

/-- The recorded drops are in order. -/
def DropsInOrder (sm : SeqManager 16) : Prop :=
  ∃ o, Ordered.Ascending (pos o) id sm.dropped ∧ ∀ d ∈ sm.dropped, pos o d < 2 ^ 15

theorem updateTargetLayers_frame (s : SimulcastConsumer codec)
    (newTargetSpatialLayer newTargetTemporalLayer : ℤ) :
    let result := s.updateTargetLayers newTargetSpatialLayer newTargetTemporalLayer
    (result.1 = .nothing ∨ result.1 = .keyFrameRequested) ∧
      result.2.rtpSeqManager = s.rtpSeqManager := by
  have href : (if newTargetSpatialLayer ≠ -1 ∧ s.tsReferenceSpatialLayer = -1 then
      { s with tsReferenceSpatialLayer := newTargetSpatialLayer } else s).rtpSeqManager =
      s.rtpSeqManager := by
    split
    · rfl
    · rfl
  unfold updateTargetLayers
  dsimp only
  generalize (if newTargetSpatialLayer ≠ -1 ∧ s.tsReferenceSpatialLayer = -1 then
    { s with tsReferenceSpatialLayer := newTargetSpatialLayer } else s) = s' at href ⊢
  split
  · exact ⟨Or.inl rfl, href⟩
  · split
    · exact ⟨Or.inl rfl, href⟩
    · exact ⟨Or.inr rfl, href⟩

/-- The events other than `SendRtpPacket` have nothing to do with numbers. -/
theorem step_cases (h : s.step e = .ok (output, t)) :
    (∃ env packet, e = .sendRtpPacket env packet ∧ s.sendRtpPacket env packet = .ok (output, t)) ∨
      (s.Clear e ∧ (output = .nothing ∨ output = .keyFrameRequested) ∧
        t.rtpSeqManager = s.rtpSeqManager) := by
  cases e with
  | sendRtpPacket env packet => exact Or.inl ⟨env, packet, rfl, h⟩
  | updateTargetLayers newTargetSpatialLayer newTargetTemporalLayer =>
    have hframe := s.updateTargetLayers_frame newTargetSpatialLayer newTargetTemporalLayer
    rw [Except.ok.inj h] at hframe
    exact Or.inr ⟨trivial, hframe⟩
  | userOnTransportConnected =>
    cases h
    exact Or.inr ⟨trivial, Or.inl rfl, rfl⟩
  | userOnResumed =>
    cases h
    exact Or.inr ⟨trivial, Or.inl rfl, rfl⟩
  | rtpStream e =>
    obtain ⟨⟨packets, rtpStream⟩, -, hout⟩ := bind_eq_ok.mp h
    cases hout
    exact Or.inr ⟨trivial, Or.inl rfl, rfl⟩

/-- **A clear packet gets a number.** -/
theorem assigned_of_clear (h : s.step e = .ok (output, t)) (hclear : s.Clear e) :
    output.Assigned := by
  rcases step_cases h with ⟨env, packet, rfl, hsend⟩ | ⟨-, rfl | rfl, -⟩
  · have hnumbers := numbers_sendRtpPacket hsend
    generalize t.rtpSeqManager = sm' at hnumbers
    cases hnumbers with
    | nothing => exact trivial
    | keyFrameRequested => exact trivial
    | dropped isSyncPacket => exact trivial
    | forwarded isSyncPacket sentPacket sent hseq =>
      have hnotMem : packet.getSequenceNumber ∉
          (entered s.rtpSeqManager isSyncPacket packet.getSequenceNumber).dropped := by
        cases isSyncPacket with
        | true => exact List.not_mem_nil
        | false => exact hclear ((forwards_iff hsend).mp ⟨_, _, _, rfl⟩)
      cases hinput : ((entered s.rtpSeqManager isSyncPacket packet.getSequenceNumber).input
          packet.getSequenceNumber).1 with
      | none => exact absurd (SeqManager.mem_of_input_eq_none hinput) hnotMem
      | some seq =>
        rw [hinput] at hseq
        change _ = some sentPacket.getSequenceNumber
        rw [hseq]
        rfl
  · exact trivial
  · exact trivial

/-- **A packet that is not clear gets none**, while the drops are in order. -/
theorem clear_of_assigned (horder : DropsInOrder s.rtpSeqManager) (h : s.step e = .ok (output, t))
    (hassigned : output.Assigned) : s.Clear e := by
  rcases step_cases h with ⟨env, packet, rfl, hsend⟩ | ⟨hclear, -⟩
  · intro hpasses hmem
    obtain ⟨o, hasc, hlt⟩ := horder
    have hnone := SeqManager.input_eq_none (by decide) hasc hlt hmem
    obtain ⟨seq, sentPacket, sent, rfl⟩ := (forwards_iff hsend).mpr hpasses
    have hnumbers := numbers_sendRtpPacket hsend
    generalize t.rtpSeqManager = sm' at hnumbers
    cases hnumbers with
    | forwarded _ _ _ hseq =>
      change (s.rtpSeqManager.input packet.getSequenceNumber).1 = some _ at hassigned
      rw [hnone] at hassigned
      cases hassigned
  · exact hclear

/-! ## Recorded drops -/

/-- A step of a run. -/
abbrev ConsumerRecord (codec : Codec) :=
  Run.Record (SimulcastConsumer codec) (ConsumerEvent codec) ConsumerOutput

/-- The codec has rejected a packet with the number, and the stream has not been synced since. -/
def RejectedSinceSync (hist : List (ConsumerRecord codec)) (seq : BitVec 16) : Prop :=
  ∃ pre r post, hist = pre ++ r :: post ∧
    (∃ env packet, r.event = .sendRtpPacket env packet ∧ packet.getSequenceNumber = seq) ∧
    (∃ isSyncPacket, r.output = .dropped isSyncPacket) ∧
    ∀ r' ∈ post, r'.output.isSyncPacket = false

theorem RejectedSinceSync.concat {hist : List (ConsumerRecord codec)} {seq : BitVec 16}
    {r : ConsumerRecord codec} (h : RejectedSinceSync hist seq)
    (hsync : r.output.isSyncPacket = false) : RejectedSinceSync (hist ++ [r]) seq := by
  obtain ⟨pre, r₀, post, rfl, hevent, houtput, hpost⟩ := h
  refine ⟨pre, r₀, post ++ [r], by simp, hevent, houtput, fun r' hr' ↦ ?_⟩
  rcases List.mem_append.mp hr' with hr' | hr'
  · exact hpost r' hr'
  · rw [List.mem_singleton.mp hr']
    exact hsync

/-- A packet that is being rejected. -/
theorem rejectedSinceSync_last (hist : List (ConsumerRecord codec))
    (before after : SimulcastConsumer codec)
    (env : ConsumerSurroundings) (packet : CodecPacket codec) (isSyncPacket : Bool) :
    RejectedSinceSync
      (hist ++ [⟨before, .sendRtpPacket env packet, .dropped isSyncPacket, after⟩])
      packet.getSequenceNumber :=
  ⟨hist, ⟨before, .sendRtpPacket env packet, .dropped isSyncPacket, after⟩, [], rfl,
    ⟨env, packet, rfl, rfl⟩, ⟨isSyncPacket, rfl⟩, fun _ h ↦ absurd h List.not_mem_nil⟩

/-- The manager's record of drops, explained by what has happened. -/
def RecordExplained (hist : List (ConsumerRecord codec)) (s : SimulcastConsumer codec) : Prop :=
  ∀ seq ∈ s.rtpSeqManager.dropped, RejectedSinceSync hist seq

theorem recordExplained_step (hist : List (ConsumerRecord codec)) (r : ConsumerRecord codec)
    (h : RecordExplained hist r.before) (hstep : r.before.step r.event = .ok (r.output, r.after)) :
    RecordExplained (hist ++ [r]) r.after := by
  obtain ⟨before, event, output, after⟩ := r
  dsimp only at h hstep ⊢
  -- a recorded number was one already, unless the stream has been synced
  have hold : ∀ {isSyncPacket : Bool} {seq d : BitVec 16}, output.isSyncPacket = isSyncPacket →
      d ∈ (entered before.rtpSeqManager isSyncPacket seq).dropped →
      RejectedSinceSync (hist ++ [⟨before, event, output, after⟩]) d := by
    intro isSyncPacket seq d hsync hd
    cases isSyncPacket with
    | true => exact absurd hd List.not_mem_nil
    | false => exact (h d hd).concat hsync
  rcases step_cases hstep with ⟨env, packet, rfl, hsend⟩ | ⟨-, hout, hsame⟩
  · have hnumbers := numbers_sendRtpPacket hsend
    intro d hd
    generalize after.rtpSeqManager = sm' at hnumbers hd
    cases hnumbers with
    | nothing => exact (h d hd).concat rfl
    | keyFrameRequested => exact (h d hd).concat rfl
    | dropped isSyncPacket =>
      rcases SeqManager.mem_dropped_of_mem_drop hd with hd | hd
      · rw [hd]
        exact rejectedSinceSync_last hist before after env packet isSyncPacket
      · exact hold rfl hd
    | forwarded isSyncPacket sentPacket sent hseq =>
      exact hold rfl ((SeqManager.dropped_input_sublist _ _).subset hd)
  · intro d hd
    rw [hsame] at hd
    refine (h d hd).concat ?_
    rcases hout with rfl | rfl
    · rfl
    · rfl

/-! ## Runs -/

/-- A packet of the first stream in H264 with frame marking. -/
def markedPacket (seq : BitVec 16) (timestamp : BitVec 32) (isKeyFrame b : Bool) (tid : Byte) :
    CodecPacket h264 where
  header := {
    version := 2
    padding := false
    extension := false
    csrcCount := 0
    marker := false
    payloadType := 96
    sequenceNumber := seq
    timestamp := timestamp
    ssrc := 1001 }
  body := [0, 0, 0, 0]
  csrcList := false
  headerExtension := none
  payload := 0
  payloadLength := 4
  payloadPadding := 0
  size := 16
  payloadDescriptorHandler := some { b, tid, hasTid := true, isKeyFrame }

/-- The stream starts with a key frame, and the next packet is of the upper temporal layer. It is
rejected, and arrives again after the target temporal layer has been changed. -/
def duplicateAcrossLayers : List (ConsumerEvent h264) :=
  [.userOnTransportConnected, .updateTargetLayers 0 0,
    .sendRtpPacket {} (markedPacket 100 5000 true true 0),
    .sendRtpPacket {} (markedPacket 101 8000 false true 1), .updateTargetLayers 0 1,
    .sendRtpPacket { uninitializedSeq := 4711 } (markedPacket 101 8000 false true 1)]

end SimulcastConsumer

end MediasoupSfu
