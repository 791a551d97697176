import MediasoupSfu.Stream.LossStats

/-!
# What a score is computed from

`RtpStreamRecv::UpdateScore` divides by the number of packets received since the last score. It
returns before that if no packet was expected, but what is expected and what is received are counted
differently: a packet that came by RTX may raise the highest sequence number, and only media packets
are received. So packets may be expected when none was received, and also before the first packet.
`RtpStreamSend::UpdateScore` returns if no packet was sent.

If a media packet came since the last score, or none was expected, the numbers of the score fit
(`run_safe_iff`). What came since the last score is kept beside the statistics (`ScoreWindow`). The
differences of the counters are taken in 32 bits, so they are what came if less than `2 ^ 32`
packets did.
-/

namespace MediasoupSfu

/-- The numbers that the ratios of a score are computed from. Nothing is divided by 0, the
assertion holds, and `received - lost` does not underflow. -/
structure ScoreInputs (received lost repaired retransmitted : BitVec 32) : Prop where
  received_ne_zero : received ≠ 0
  lost_le_received : lost ≤ received
  repaired_le_lost : repaired ≤ lost
  /-- "repaired packets cannot be more than retransmitted ones". -/
  repaired_le_retransmitted : repaired ≤ retransmitted

namespace ScoreUpdate

/-- If there are ratios, their numbers are well formed. -/
def WellFormed : ScoreUpdate → Prop
  | .ratios received lost repaired retransmitted =>
    ScoreInputs received lost repaired retransmitted
  | _ => True

/-- How the numbers are adjusted before the ratios are computed. -/
def adjusted (received lost repaired retransmitted : BitVec 32) (hasRtx : Bool) : ScoreUpdate :=
  let lost := if lost > received then received else lost
  if repaired > lost then
    if hasRtx then .ratios received lost lost (retransmitted - (lost - lost))
    else .ratios received repaired repaired retransmitted
  else .ratios received lost repaired retransmitted

/-- `lost` is cut off by `received`, but what is repaired may raise it again if there is no RTX. -/
theorem adjusted_wellFormed_iff (received lost : BitVec 32) {repaired retransmitted : BitVec 32}
    (hasRtx : Bool) (hle : repaired ≤ retransmitted) :
    (adjusted received lost repaired retransmitted hasRtx).WellFormed ↔
      received ≠ 0 ∧ (hasRtx ∨ repaired ≤ received) := by
  have hcut : (if lost > received then received else lost) ≤ received := by
    split
    · exact BitVec.le_refl _
    · exact BitVec.not_lt.mp ‹_›
  unfold adjusted
  dsimp only
  generalize (if lost > received then received else lost) = lost at hcut ⊢
  by_cases hmore : repaired > lost
  · rw [if_pos hmore]
    cases hasRtx with
    | true =>
      have hsame : retransmitted - (lost - lost) = retransmitted := by bv_omega
      rw [if_pos rfl, hsame]
      exact ⟨fun h ↦ ⟨h.received_ne_zero, Or.inl rfl⟩, fun h ↦
        ⟨h.1, hcut, BitVec.le_refl _, BitVec.le_trans (BitVec.le_of_lt hmore) hle⟩⟩
    | false =>
      rw [if_neg Bool.false_ne_true]
      exact ⟨fun h ↦ ⟨h.received_ne_zero, Or.inr h.lost_le_received⟩, fun h ↦
        ⟨h.1, h.2.resolve_left Bool.false_ne_true, BitVec.le_refl _, hle⟩⟩
  · have hless : repaired ≤ lost := BitVec.not_lt.mp hmore
    rw [if_neg hmore]
    exact ⟨fun h ↦ ⟨h.received_ne_zero, Or.inr (BitVec.le_trans hless hcut)⟩, fun h ↦
      ⟨h.1, hcut, hless, hle⟩⟩

end ScoreUpdate

/-! ## What a packet and a score do to the counters -/

namespace LossStats

variable {s : LossStats} {seq : BitVec 16} {timestamp : BitVec 32} {nowMs : BitVec 64}

theorem receivePacket_of_invalid (nacked : Bool)
    (hvalid : (s.seqState.receivePacket seq timestamp nowMs).1 = false) :
    s.receivePacket seq timestamp nacked nowMs =
      (false, { s with seqState := (s.seqState.receivePacket seq timestamp nowMs).2 }) := by
  unfold receivePacket
  simp only [hvalid]
  rfl

theorem receivePacket_of_valid (nacked : Bool)
    (hvalid : (s.seqState.receivePacket seq timestamp nowMs).1 = true) :
    s.receivePacket seq timestamp nacked nowMs = (true, { s with
      seqState := (s.seqState.receivePacket seq timestamp nowMs).2
      packetsRetransmitted := s.packetsRetransmitted + nacked.toNat
      packetsRepaired := s.packetsRepaired + nacked.toNat
      mediaPacketCount := s.mediaPacketCount + 1
      inactive := false }) := by
  unfold receivePacket
  simp only [hvalid]
  rfl

theorem receiveRtxPacket_of_invalid (nacked : Bool)
    (hvalid : (s.seqState.updateSeq seq timestamp nowMs).1 = false) :
    s.receiveRtxPacket seq timestamp nacked nowMs =
      (false, { s with seqState := (s.seqState.updateSeq seq timestamp nowMs).2 }) := by
  unfold receiveRtxPacket
  simp only [hvalid]
  rfl

theorem receiveRtxPacket_of_valid (nacked : Bool)
    (hvalid : (s.seqState.updateSeq seq timestamp nowMs).1 = true) :
    s.receiveRtxPacket seq timestamp nacked nowMs = (true, { s with
      seqState := (s.seqState.updateSeq seq timestamp nowMs).2
      packetsRetransmitted := s.packetsRetransmitted + 1
      packetsRepaired := s.packetsRepaired + nacked.toNat
      inactive := s.inactive && !nacked }) := by
  unfold receiveRtxPacket
  simp only [hvalid]
  rfl

/-- No ratios are computed if the stream is inactive or no packet was expected. -/
theorem updateScore_wellFormed_of_none (s : LossStats) (hasRtx : Bool)
    (h : s.inactive ∨ s.seqState.getExpectedPackets = s.expectedPriorScore) :
    (s.updateScore hasRtx).1.WellFormed := by
  unfold updateScore
  dsimp only
  split
  · trivial
  · rename_i hactive
    have hexpected : s.expectedForScore = 0 := by
      rw [expectedForScore, h.resolve_left hactive]
      exact BitVec.sub_self _
    rw [if_pos hexpected]
    trivial

/-- The ratios of an active stream that expected packets. -/
theorem updateScore_fst (s : LossStats) (hasRtx : Bool) (hactive : ¬s.inactive)
    (hexpected : s.seqState.getExpectedPackets ≠ s.expectedPriorScore) :
    ∃ lost, (s.updateScore hasRtx).1 = .adjusted
      (BitVec.ofNat 32 s.mediaPacketCount - s.receivedPriorScore) lost
      (BitVec.ofNat 32 s.packetsRepaired - BitVec.ofNat 32 s.repairedPriorScore)
      (BitVec.ofNat 32 s.packetsRetransmitted - BitVec.ofNat 32 s.retransmittedPriorScore)
      hasRtx := by
  have hne : ¬s.expectedForScore = 0 := fun hzero ↦ hexpected <| by
    rw [expectedForScore] at hzero
    bv_omega
  let received := BitVec.ofNat 32 s.mediaPacketCount - s.receivedPriorScore
  refine ⟨if s.expectedForScore < received then 0 else s.expectedForScore - received, ?_⟩
  unfold updateScore
  dsimp only
  rw [if_neg hactive, if_neg hne]
  simp only [apply_ite Prod.fst]
  rfl

/-- A score remembers the counters and does not change them. -/
theorem updateScore_counters (s : LossStats) (hasRtx : Bool) :
    (s.updateScore hasRtx).2.mediaPacketCount = s.mediaPacketCount ∧
      (s.updateScore hasRtx).2.receivedPriorScore = BitVec.ofNat 32 s.mediaPacketCount ∧
      (s.updateScore hasRtx).2.packetsRetransmitted = s.packetsRetransmitted ∧
      (s.updateScore hasRtx).2.retransmittedPriorScore = s.packetsRetransmitted ∧
      (s.updateScore hasRtx).2.packetsRepaired = s.packetsRepaired ∧
      (s.updateScore hasRtx).2.repairedPriorScore = s.packetsRepaired := by
  unfold updateScore
  dsimp only
  repeat' split
  all_goals exact ⟨rfl, rfl, rfl, rfl, rfl, rfl⟩

end LossStats

/-- What came since the last score. -/
structure ScoreWindow where
  /-- The media packets that were accepted. -/
  media : ℕ := 0
  /-- The packets that were marked as retransmitted. -/
  retransmitted : ℕ := 0
  /-- The packets that were marked as repaired. -/
  repaired : ℕ := 0

namespace ScoreWindow

/-- One event, given whether it is a packet that is accepted. -/
def step (w : ScoreWindow) (accepted : Bool) : LossStats.Event → ScoreWindow
  | .receivePacket _ _ nacked _ =>
    if accepted then
      { media := w.media + 1
        retransmitted := w.retransmitted + nacked.toNat
        repaired := w.repaired + nacked.toNat }
    else w
  | .receiveRtxPacket _ _ nacked _ =>
    if accepted then
      { w with
        retransmitted := w.retransmitted + 1
        repaired := w.repaired + nacked.toNat }
    else w
  | .receiveRtcpSenderReport .. => {}
  | _ => w

end ScoreWindow

/-- The statistics, and what came since the last score. -/
structure ScoreRun where
  stats : LossStats := {}
  window : ScoreWindow := {}

namespace ScoreRun

/-- One event. -/
def step (x : ScoreRun) (e : LossStats.Event) : ScoreRun where
  stats := x.stats.step e
  window := x.window.step (x.stats.received e).isSome e

/-- **What a score is computed from** is well formed. -/
def Safe (x : ScoreRun) : LossStats.Event → Prop
  | .receiveRtcpSenderReport ntpSec ntpFrac hasRtx nowMs =>
    (x.stats.receiveRtcpSenderReport ntpSec ntpFrac hasRtx nowMs).1.WellFormed
  | _ => True

/-- At a score, the differences of the counters fit in 32 bits. -/
def Small (x : ScoreRun) : LossStats.Event → Prop
  | .receiveRtcpSenderReport .. => x.window.media < 2 ^ 32 ∧ x.window.retransmitted < 2 ^ 32
  | _ => True

/-- At a score, the stream is inactive, or the total of expected packets is what it was at the last
score, or a media packet came since then. If the stream has no RTX, all repaired packets are among
the media packets. -/
def Fed (x : ScoreRun) : LossStats.Event → Prop
  | .receiveRtcpSenderReport _ _ hasRtx _ =>
    x.stats.inactive ∨ x.stats.seqState.getExpectedPackets = x.stats.expectedPriorScore ∨
      0 < x.window.media ∧ (hasRtx ∨ x.window.repaired ≤ x.window.media)
  | _ => True

instance (x : ScoreRun) : (e : LossStats.Event) → Decidable (x.Small e)
  | .receiveRtcpSenderReport .. =>
    inferInstanceAs (Decidable (x.window.media < 2 ^ 32 ∧ x.window.retransmitted < 2 ^ 32))
  | .receivePacket .. | .receiveRtxPacket .. | .getRtcpReceiverReport .. | .timer => .isTrue trivial

instance (x : ScoreRun) : (e : LossStats.Event) → Decidable (x.Fed e)
  | .receiveRtcpSenderReport _ _ hasRtx _ =>
    inferInstanceAs (Decidable (x.stats.inactive ∨
      x.stats.seqState.getExpectedPackets = x.stats.expectedPriorScore ∨
      0 < x.window.media ∧ (hasRtx ∨ x.window.repaired ≤ x.window.media)))
  | .receivePacket .. | .receiveRtxPacket .. | .getRtcpReceiverReport .. | .timer => .isTrue trivial

/-! ## The invariant -/

/-- The counters have grown by what came since the last score. -/
structure Counted (x : ScoreRun) : Prop where
  media_eq : BitVec.ofNat 32 x.stats.mediaPacketCount =
    x.stats.receivedPriorScore + BitVec.ofNat 32 x.window.media
  retransmitted_eq : x.stats.packetsRetransmitted =
    x.stats.retransmittedPriorScore + x.window.retransmitted
  repaired_eq : x.stats.packetsRepaired = x.stats.repairedPriorScore + x.window.repaired
  repaired_le : x.window.repaired ≤ x.window.retransmitted

variable {x : ScoreRun}

/-- The counters and what came since the last score grow by the same. -/
theorem Counted.add (h : x.Counted) {y : ScoreRun} (media retransmitted repaired : ℕ)
    (hle : repaired ≤ retransmitted)
    (hmedia : y.stats.mediaPacketCount = x.stats.mediaPacketCount + media)
    (hretransmitted : y.stats.packetsRetransmitted = x.stats.packetsRetransmitted + retransmitted)
    (hrepaired : y.stats.packetsRepaired = x.stats.packetsRepaired + repaired)
    (hprior : y.stats.receivedPriorScore = x.stats.receivedPriorScore ∧
      y.stats.retransmittedPriorScore = x.stats.retransmittedPriorScore ∧
      y.stats.repairedPriorScore = x.stats.repairedPriorScore)
    (hwindow : y.window = ⟨x.window.media + media, x.window.retransmitted + retransmitted,
      x.window.repaired + repaired⟩) : y.Counted := by
  obtain ⟨hreceivedPrior, hretransmittedPrior, hrepairedPrior⟩ := hprior
  constructor
  · rw [hmedia, hreceivedPrior, hwindow, BitVec.ofNat_add, BitVec.ofNat_add, h.media_eq,
      BitVec.add_assoc]
  · rw [hretransmitted, hretransmittedPrior, hwindow, h.retransmitted_eq, Nat.add_assoc]
  · rw [hrepaired, hrepairedPrior, hwindow, h.repaired_eq, Nat.add_assoc]
  · rw [hwindow]
    exact Nat.add_le_add h.repaired_le hle

theorem Counted.receivePacket (h : x.Counted) (seq : BitVec 16) (timestamp : BitVec 32)
    (nacked : Bool) (nowMs : BitVec 64) :
    (x.step (.receivePacket seq timestamp nacked nowMs)).Counted := by
  unfold step LossStats.step LossStats.received
  cases hvalid : (x.stats.seqState.receivePacket seq timestamp nowMs).1 with
  | false =>
    dsimp only
    rw [LossStats.receivePacket_of_invalid nacked hvalid]
    exact h.add 0 0 0 le_rfl rfl rfl rfl ⟨rfl, rfl, rfl⟩ rfl
  | true =>
    dsimp only
    rw [LossStats.receivePacket_of_valid nacked hvalid]
    exact h.add 1 nacked.toNat nacked.toNat le_rfl rfl rfl rfl ⟨rfl, rfl, rfl⟩ rfl

theorem Counted.receiveRtxPacket (h : x.Counted) (seq : BitVec 16) (timestamp : BitVec 32)
    (nacked : Bool) (nowMs : BitVec 64) :
    (x.step (.receiveRtxPacket seq timestamp nacked nowMs)).Counted := by
  unfold step LossStats.step LossStats.received
  cases hvalid : (x.stats.seqState.updateSeq seq timestamp nowMs).1 with
  | false =>
    dsimp only
    rw [LossStats.receiveRtxPacket_of_invalid nacked hvalid]
    exact h.add 0 0 0 le_rfl rfl rfl rfl ⟨rfl, rfl, rfl⟩ rfl
  | true =>
    dsimp only
    rw [LossStats.receiveRtxPacket_of_valid nacked hvalid]
    exact h.add 0 1 nacked.toNat nacked.toNat_le rfl rfl rfl ⟨rfl, rfl, rfl⟩ rfl

/-- **One event** keeps the counters. -/
theorem Counted.step (h : x.Counted) (e : LossStats.Event) : (x.step e).Counted := by
  cases e with
  | receivePacket seq timestamp nacked nowMs => exact h.receivePacket seq timestamp nacked nowMs
  | receiveRtxPacket seq timestamp nacked nowMs =>
    exact h.receiveRtxPacket seq timestamp nacked nowMs
  | getRtcpReceiverReport | timer =>
    exact ⟨h.media_eq, h.retransmitted_eq, h.repaired_eq, h.repaired_le⟩
  | receiveRtcpSenderReport ntpSec ntpFrac hasRtx nowMs =>
    obtain ⟨hmedia, hreceived, hretransmitted, hretransmittedPrior, hrepaired, hrepairedPrior⟩ :=
      LossStats.updateScore_counters { x.stats with
        lastSrReceived := nowMs
        lastSrTimestamp := (ntpSec <<< 16) + (ntpFrac >>> 16) } hasRtx
    refine ⟨?_, ?_, ?_, le_rfl⟩
    · exact (congrArg (BitVec.ofNat 32) hmedia).trans
        (hreceived.symm.trans (BitVec.add_zero _).symm)
    · exact hretransmitted.trans hretransmittedPrior.symm
    · exact hrepaired.trans hrepairedPrior.symm

/-! ## The differences -/

/-- The differences of the counters are what came since the last score. -/
theorem Counted.differences (h : x.Counted) :
    BitVec.ofNat 32 x.stats.mediaPacketCount - x.stats.receivedPriorScore =
        BitVec.ofNat 32 x.window.media ∧
      BitVec.ofNat 32 x.stats.packetsRepaired - BitVec.ofNat 32 x.stats.repairedPriorScore =
        BitVec.ofNat 32 x.window.repaired ∧
      BitVec.ofNat 32 x.stats.packetsRetransmitted -
        BitVec.ofNat 32 x.stats.retransmittedPriorScore =
          BitVec.ofNat 32 x.window.retransmitted := by
  have hcancel (a b : BitVec 32) : a + b - a = b := by
    rw [BitVec.add_comm, BitVec.add_sub_cancel]
  rw [h.media_eq, h.repaired_eq, h.retransmitted_eq, BitVec.ofNat_add, BitVec.ofNat_add]
  exact ⟨hcancel _ _, hcancel _ _, hcancel _ _⟩

/-! ## Runs -/

/-- The numbers of the ratios, by what came since the last score. -/
theorem Counted.updateScore_wellFormed_iff (h : x.Counted)
    (hmedia : x.window.media < 2 ^ 32) (hretransmitted : x.window.retransmitted < 2 ^ 32)
    (hactive : ¬x.stats.inactive)
    (hexpected : x.stats.seqState.getExpectedPackets ≠ x.stats.expectedPriorScore)
    (hasRtx : Bool) :
    (x.stats.updateScore hasRtx).1.WellFormed ↔
      0 < x.window.media ∧ (hasRtx ∨ x.window.repaired ≤ x.window.media) := by
  obtain ⟨hreceived, hrepaired, hagain⟩ := h.differences
  have hsmall : x.window.repaired < 2 ^ 32 := h.repaired_le.trans_lt hretransmitted
  have hpos : BitVec.ofNat 32 x.window.media ≠ 0 ↔ 0 < x.window.media := by
    bv_omega
  have hrepairedMedia : BitVec.ofNat 32 x.window.repaired ≤ BitVec.ofNat 32 x.window.media ↔
      x.window.repaired ≤ x.window.media := by
    rw [BitVec.ofNat_le_ofNat, Nat.mod_eq_of_lt hsmall, Nat.mod_eq_of_lt hmedia]
  have hle : BitVec.ofNat 32 x.window.repaired ≤ BitVec.ofNat 32 x.window.retransmitted := by
    rw [BitVec.ofNat_le_ofNat, Nat.mod_eq_of_lt hsmall, Nat.mod_eq_of_lt hretransmitted]
    exact h.repaired_le
  obtain ⟨lost, hratios⟩ := x.stats.updateScore_fst hasRtx hactive hexpected
  rw [hratios, hreceived, hrepaired, hagain,
    ScoreUpdate.adjusted_wellFormed_iff _ lost hasRtx hle, hpos, hrepairedMedia]

/-- **A score** is safe exactly if the stream is fed. -/
theorem Counted.safe_iff_fed (h : x.Counted) (e : LossStats.Event) (hsmall : x.Small e) :
    x.Safe e ↔ x.Fed e := by
  cases e with
  | receivePacket | receiveRtxPacket | getRtcpReceiverReport | timer => exact Iff.rfl
  | receiveRtcpSenderReport ntpSec ntpFrac hasRtx nowMs =>
    by_cases hnone : x.stats.inactive ∨
        x.stats.seqState.getExpectedPackets = x.stats.expectedPriorScore
    · exact ⟨fun _ ↦ hnone.imp_right Or.inl,
        fun _ ↦ LossStats.updateScore_wellFormed_of_none _ hasRtx hnone⟩
    · obtain ⟨hactive, hexpected⟩ := not_or.mp hnone
      have hcounted : ScoreRun.Counted { x with stats := { x.stats with
          lastSrReceived := nowMs
          lastSrTimestamp := (ntpSec <<< 16) + (ntpFrac >>> 16) } } :=
        ⟨h.media_eq, h.retransmitted_eq, h.repaired_eq, h.repaired_le⟩
      have hiff := hcounted.updateScore_wellFormed_iff hsmall.1 hsmall.2 hactive hexpected hasRtx
      exact ⟨fun hsafe ↦ Or.inr (Or.inr (hiff.mp hsafe)),
        fun hfed ↦ hiff.mpr ((hfed.resolve_left hactive).resolve_left hexpected)⟩

theorem counted_start : ScoreRun.Counted {} := ⟨rfl, rfl, rfl, le_rfl⟩

theorem Counted.all_iff (h : x.Counted) {events : List LossStats.Event}
    (hsmall : Run.All ScoreRun.step Small x events) :
    Run.All ScoreRun.step Safe x events ↔ Run.All ScoreRun.step Fed x events := by
  induction events generalizing x with
  | nil => exact Iff.rfl
  | cons e events ih => exact and_congr (h.safe_iff_fed e hsmall.1) (ih (h.step e) hsmall.2)

/-- **The scores of a run.** If less than `2 ^ 32` packets come between two scores, all scores of a
run are safe exactly if the stream is fed at each of them. -/
theorem run_safe_iff {events : List LossStats.Event} (hsmall : Run.All step Small {} events) :
    Run.All step Safe {} events ↔ Run.All step Fed {} events :=
  counted_start.all_iff hsmall

/-- A run with a wrap, a lost packet that RTX repairs, and two scores. -/
theorem safe_repaired :
    Run.All step Safe {} [.receivePacket 65534 0 false 10, .receivePacket 1 0 false 20,
      .receiveRtcpSenderReport 7 0 true 25, .receiveRtxPacket 65535 0 true 30,
      .receivePacket 2 0 false 45, .receiveRtcpSenderReport 8 0 true 50] :=
  (run_safe_iff (by decide)).mpr (by decide)

/-- **A packet that only RTX brings.** After a score, the highest sequence number is raised by a
packet that came by RTX. One packet is expected and none is received, so the score divides by 0. -/
theorem not_safe_rtx_only :
    ¬∀ events : List LossStats.Event, Run.All step Safe {} events := by
  intro hclaim
  have hsafe := hclaim [.receivePacket 1000 0 false 10, .receiveRtcpSenderReport 7 0 true 15,
    .receiveRtxPacket 1001 0 false 20, .receiveRtcpSenderReport 8 0 true 25]
  exact absurd ((counted_start.all_iff (by decide)).mp hsafe) (by decide)

end ScoreRun

end MediasoupSfu
