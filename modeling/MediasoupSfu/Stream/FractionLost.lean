import MediasoupSfu.Stream.LossStats
import MediasoupSfu.Stream.Recv
import Mathlib.Data.Rat.Floor
import Mathlib.Algebra.Order.Round

/-!
# The fraction lost

`RtpStreamRecv` and `RtxStream` report which fraction of the packets of the last interval was lost,
in 256ths. They round the quotient and store it in eight bits. If all packets are lost, or so many
that the quotient rounds to 256, the eight bits hold 0, and the report says that nothing was lost.
For every other interval the fraction is the rounded one (`Reported.isFraction_iff`).

The statistics of `RtxStream` are those of `RtpStreamRecv`, but it counts its own packets, does not
measure jitter and has no listener that knows of a worse fraction.
-/

namespace MediasoupSfu

open Rtcp

/-! ## The code -/

namespace LossStats

/-- `lostInterval`, the number of packets lost since the last report. -/
def lostInterval (s : LossStats) : BitVec 32 :=
  s.expectedInterval - (BitVec.ofNat 32 s.mediaPacketCount - s.receivedPrior)

end LossStats

/-- The members of `RtxStream` that its reports are computed from. -/
structure RtxStats extends RtxStream where
  packetsLost : BitVec 32 := 0
  fractionLost : Byte := 0
  /-- Packets expected at last interval. -/
  expectedPrior : BitVec 32 := 0
  /-- Packets received at last interval. -/
  receivedPrior : BitVec 32 := 0
  reportedPacketLost : BitVec 32 := 0
  /-- The middle 32 bits of the NTP timestamp of the most recent sender report. -/
  lastSrTimestamp : BitVec 32 := 0
  /-- When the most recent sender report arrived. -/
  lastSrReceived : BitVec 64 := 0
  deriving DecidableEq, Repr

namespace RtxStats

/-- `expectedInterval`, the number of packets expected since the last report. -/
def expectedInterval (s : RtxStats) : BitVec 32 := s.seqState.getExpectedPackets - s.expectedPrior

/-- `lostInterval`, the number of packets lost since the last report. -/
def lostInterval (s : RtxStats) : BitVec 32 :=
  s.expectedInterval - (BitVec.ofNat 32 s.packetsCount - s.receivedPrior)

/-- The delay since the last sender report, in units of 1/65536 seconds. -/
def delaySinceLastSenderReport (s : RtxStats) (nowMs : BitVec 64) : BitVec 32 :=
  let delayMs := (nowMs - s.lastSrReceived).setWidth 32
  (delayMs / 1000) <<< 16 ||| (delayMs % 1000) * 65536 / 1000

/-- `GetRtcpReceiverReport()`. It does not calculate any jitter. -/
def getRtcpReceiverReport (s : RtxStats) (ssrc : BitVec 32) (nowMs : BitVec 64) :
    ReceiverReport × RtxStats :=
  let prevPacketsLost := s.packetsLost
  let expected := s.seqState.getExpectedPackets
  let packetsLost := if expected.toNat > s.packetsCount
    then BitVec.ofNat 32 (expected.toNat - s.packetsCount) else 0
  let fractionLost := LossStats.fractionOf s.expectedInterval s.lostInterval
  let reported := s.reportedPacketLost + (packetsLost - prevPacketsLost)
  ({ ssrc := ssrc
     fractionLost := fractionLost
     totalLost := setTotalLost reported
     lastSeq := s.seqState.maxSeq.setWidth 32 + s.seqState.cycles
     jitter := 0
     lsr := if s.lastSrReceived = 0#64 then 0 else s.lastSrTimestamp
     dlsr := if s.lastSrReceived = 0#64 then 0 else s.delaySinceLastSenderReport nowMs },
   { s with
     packetsLost := packetsLost
     expectedPrior := expected
     receivedPrior := BitVec.ofNat 32 s.packetsCount
     fractionLost := fractionLost
     reportedPacketLost := reported })

/-- `ReceivePacket(packet)`. -/
def receivePacket (s : RtxStats) (seq : BitVec 16) (timestamp : BitVec 32) (nowMs : BitVec 64) :
    Bool × RtxStats :=
  let (valid, rtxStream) := s.toRtxStream.receivePacket seq timestamp nowMs
  (valid, { s with toRtxStream := rtxStream })

/-- `ReceiveRtcpSenderReport(report)`. -/
def receiveRtcpSenderReport (s : RtxStats) (ntpSec ntpFrac : BitVec 32) (nowMs : BitVec 64) :
    RtxStats :=
  { s with
    lastSrReceived := nowMs
    lastSrTimestamp := (ntpSec <<< 16) + (ntpFrac >>> 16) }

end RtxStats

/-- A report of either class about an interval stores the fraction. -/
inductive Reported : BitVec 32 → BitVec 32 → Byte → Prop where
  | rtpStreamRecv (s : LossStats) (ssrc jitter : BitVec 32) (worst : Byte) (nowMs : BitVec 64) :
    Reported s.expectedInterval s.lostInterval
      (s.getRtcpReceiverReport ssrc jitter worst nowMs).2.fractionLost
  | rtxStream (s : RtxStats) (ssrc : BitVec 32) (nowMs : BitVec 64) :
    Reported s.expectedInterval s.lostInterval (s.getRtcpReceiverReport ssrc nowMs).2.fractionLost

/-! ## What is to be reported -/

/-- The fraction of the expected packets that was lost, in 256ths, as far as eight bits go. -/
def IsFraction (expected lost : BitVec 32) (fraction : Byte) : Prop :=
  (fraction.toNat : ℤ) = min 255 (round (256 * lost.toNat / expected.toNat : ℚ))

/-- Intervals for which no intermediate result overflows. -/
structure InRange (expected lost : BitVec 32) : Prop where
  lost_pos : 0 < lost.toNat
  lost_le : lost.toNat ≤ expected.toNat
  expected_lt : expected.toNat < 2 ^ 23

/-! ## Rounding -/

/-- `std::round` of a quotient that is not negative. -/
theorem roundQuotient_natCast (a b : ℕ) : roundQuotient a b = ((2 * a + b) / (2 * b) : ℕ) := by
  rcases Nat.eq_zero_or_pos a with rfl | ha
  · have hzero : (2 * 0 + b) / (2 * b) = 0 := by
      rcases Nat.eq_zero_or_pos b with rfl | hb
      · rfl
      · exact Nat.div_eq_of_lt (by omega)
    rw [hzero, roundQuotient, Int.natCast_zero, Int.sign_zero, zero_mul]
  · rw [roundQuotient, Int.sign_eq_one_of_pos (by omega), one_mul, Int.natAbs_natCast]

/-- It is the nearest integer. -/
theorem roundQuotient_eq_round (a : ℕ) {b : ℕ} (hb : 0 < b) :
    roundQuotient a b = round ((a : ℚ) / b) := by
  have hhalf : (a : ℚ) / b + 1 / 2 = ((2 * a + b : ℕ) : ℤ) / (2 * b : ℕ) := by
    have : (b : ℚ) ≠ 0 := by exact_mod_cast hb.ne'
    push_cast
    field_simp
  rw [roundQuotient_natCast, round_eq, hhalf, Rat.floor_intCast_div_natCast]
  rfl

namespace InRange

variable {expected lost : BitVec 32}

/-- The shifted number of packets is still a positive one. -/
theorem toInt_shiftLeft (h : InRange expected lost) :
    (lost <<< 8).toInt = (256 * lost.toNat : ℕ) := by
  obtain ⟨-, hle, hlt⟩ := h
  have hnat : (lost <<< 8).toNat = 256 * lost.toNat := by
    rw [BitVec.toNat_shiftLeft, Nat.shiftLeft_eq]
    omega
  rw [BitVec.toInt_eq_toNat_of_lt (by omega), hnat]

/-- The fraction is the low byte of the rounded quotient. -/
theorem toNat_fractionOf (h : InRange expected lost) :
    (LossStats.fractionOf expected lost).toNat =
      (512 * lost.toNat + expected.toNat) / (2 * expected.toNat) % 256 := by
  have hpos := h.lost_pos
  have hle := h.lost_le
  have hlt := h.expected_lt
  have hexpected : ¬expected = 0 := fun hzero ↦ by
    rw [hzero] at hle
    exact absurd (hpos.trans_le hle) (lt_irrefl 0)
  have hlost : ¬lost.toInt ≤ 0 := by
    rw [BitVec.toInt_eq_toNat_of_lt (by omega)]
    omega
  have hdouble : 2 * (256 * lost.toNat) = 512 * lost.toNat := by omega
  rw [LossStats.fractionOf, if_neg (not_or.mpr ⟨hexpected, hlost⟩), h.toInt_shiftLeft,
    roundQuotient_natCast, BitVec.ofInt_natCast, BitVec.toNat_ofNat, hdouble]

/-- What is to be reported is the rounded quotient, cut off. -/
theorem isFraction_iff_toNat (h : InRange expected lost) (fraction : Byte) :
    IsFraction expected lost fraction ↔
      fraction.toNat = min 255 ((512 * lost.toNat + expected.toNat) / (2 * expected.toNat)) := by
  have hpos := h.lost_pos.trans_le h.lost_le
  have hround : (round (256 * lost.toNat / expected.toNat : ℚ) : ℤ) =
      ((512 * lost.toNat + expected.toNat) / (2 * expected.toNat) : ℕ) := by
    have hquotient := roundQuotient_eq_round (256 * lost.toNat) hpos
    have hdouble : 2 * (256 * lost.toNat) = 512 * lost.toNat := by omega
    rw [roundQuotient_natCast, hdouble, Nat.cast_mul] at hquotient
    exact hquotient.symm
  rw [IsFraction, hround]
  norm_cast

/-- The quotient rounds to at most 256, and to 256 near total loss only. -/
theorem quotient_le (h : InRange expected lost) :
    (512 * lost.toNat + expected.toNat) / (2 * expected.toNat) ≤ 256 ∧
      ((512 * lost.toNat + expected.toNat) / (2 * expected.toNat) ≤ 255 ↔
        512 * lost.toNat < 511 * expected.toNat) := by
  have hpos := h.lost_pos.trans_le h.lost_le
  have hle := h.lost_le
  constructor
  · rw [← Nat.lt_succ_iff, Nat.div_lt_iff_lt_mul (by omega)]
    omega
  · rw [← Nat.lt_succ_iff, Nat.div_lt_iff_lt_mul (by omega)]
    omega

/-- The stored fraction is right unless the quotient rounds to 256. -/
theorem isFraction_fractionOf_iff (h : InRange expected lost) :
    IsFraction expected lost (LossStats.fractionOf expected lost) ↔
      512 * lost.toNat < 511 * expected.toNat := by
  obtain ⟨hmax, hlow⟩ := h.quotient_le
  rw [h.isFraction_iff_toNat, h.toNat_fractionOf, ← hlow]
  generalize (512 * lost.toNat + expected.toNat) / (2 * expected.toNat) = quotient at hmax ⊢
  omega

/-- If more than one in 256 packets was lost, the quotient does not round to 0. -/
theorem one_le_quotient (h : InRange expected lost) (hmore : expected.toNat < 256 * lost.toNat) :
    1 ≤ (512 * lost.toNat + expected.toNat) / (2 * expected.toNat) := by
  have hpos := h.lost_pos.trans_le h.lost_le
  rw [Nat.le_div_iff_mul_le (by omega)]
  omega

end InRange

/-! ## Reports -/

namespace Reported

variable {expected lost lost' : BitVec 32} {fraction fraction' : Byte}

/-- Both classes compute the fraction in the same way. -/
theorem eq_fractionOf (h : Reported expected lost fraction) :
    fraction = LossStats.fractionOf expected lost := by
  cases h with
  | rtpStreamRecv s ssrc jitter worst nowMs =>
    unfold LossStats.getRtcpReceiverReport
    dsimp only
    rfl
  | rtxStream => rfl

/-- Every interval can be reported, by either class. -/
theorem of_intervals (expected lost : BitVec 32) :
    Reported expected lost (LossStats.fractionOf expected lost) := by
  let s : RtxStats := { expectedPrior := 1 - expected, receivedPrior := lost - expected }
  have htotal : SeqState.getExpectedPackets {} = 1 := by decide
  have hexpected : s.expectedInterval = expected := by
    change SeqState.getExpectedPackets {} - (1 - expected) = expected
    rw [htotal]
    bv_omega
  have hlost : s.lostInterval = lost := by
    rw [RtxStats.lostInterval, hexpected]
    change expected - (0 - (lost - expected)) = lost
    bv_omega
  have hreport := Reported.rtxStream s 0 0
  rw [hexpected, hlost] at hreport
  rwa [← hreport.eq_fractionOf]

/-- **The reported fraction** is the rounded one exactly if the quotient does not round to 256. Then
it does not decrease with the number of lost packets, and it is not 0 if more than one packet in 256
was lost; if the quotient rounds to 256, it is 0. -/
theorem isFraction_iff (h : Reported expected lost fraction) (hrange : InRange expected lost) :
    (IsFraction expected lost fraction ↔ 512 * lost.toNat < 511 * expected.toNat) ∧
      (expected.toNat < 256 * lost.toNat →
        (fraction ≠ 0 ↔ 512 * lost.toNat < 511 * expected.toNat)) ∧
      (512 * lost.toNat < 511 * expected.toNat → ∀ {lost' : BitVec 32} {fraction' : Byte},
        Reported expected lost' fraction' → 0 < lost'.toNat → lost' ≤ lost →
          fraction' ≤ fraction) := by
  obtain ⟨hmax, hlow⟩ := hrange.quotient_le
  have hnat := hrange.toNat_fractionOf
  rw [← h.eq_fractionOf] at hnat
  refine ⟨h.eq_fractionOf ▸ hrange.isFraction_fractionOf_iff, fun hmore ↦ ?_, ?_⟩
  · have hone := hrange.one_le_quotient hmore
    have hzero : fraction = 0 ↔ fraction.toNat = 0 := BitVec.toNat_inj.symm
    rw [← hlow, Ne, hzero, hnat]
    generalize (512 * lost.toNat + expected.toNat) / (2 * expected.toNat) = quotient at *
    omega
  · intro hfew lost' fraction' h' hpos hle
    have hrange' : InRange expected lost' :=
      ⟨hpos, le_trans hle hrange.lost_le, hrange.expected_lt⟩
    have hnat' := hrange'.toNat_fractionOf
    rw [← h'.eq_fractionOf] at hnat'
    have hmono : (512 * lost'.toNat + expected.toNat) / (2 * expected.toNat) ≤
        (512 * lost.toNat + expected.toNat) / (2 * expected.toNat) :=
      Nat.div_le_div_right (Nat.add_le_add_right (Nat.mul_le_mul_left 512 hle) _)
    have hbyte := hlow.mpr hfew
    rw [BitVec.le_def, hnat, hnat', Nat.mod_eq_of_lt (by omega), Nat.mod_eq_of_lt (by omega)]
    exact hmono

end Reported

/-- A stream that receives one packet, reports it, and then receives the last one of 1000. -/
def nearTotalLoss : LossStats :=
  [.receivePacket 1 0 false 10, .getRtcpReceiverReport 1 0 0 20,
    .receivePacket 1001 0 false 30].foldl LossStats.step {}

theorem nearTotalLoss_intervals :
    nearTotalLoss.expectedInterval = 1000 ∧ nearTotalLoss.lostInterval = 999 := by decide

/-- Half of 1000 packets are lost. -/
theorem isFraction_half :
    (IsFraction 1000 500 128 ↔ 512 * 500 < 511 * 1000) ∧ ((128 : Byte) ≠ 0) := by
  have hreport : Reported 1000 500 128 := Reported.of_intervals 1000 500
  have hrange : InRange 1000 500 := ⟨by decide, by decide, by decide⟩
  obtain ⟨hiff, hzero, -⟩ := hreport.isFraction_iff hrange
  exact ⟨hiff, (hzero (by decide)).mpr (by decide)⟩

/-- **Near total loss is reported as no loss.** 999 packets of 1000 are lost. -/
theorem not_isFraction_nearTotalLoss :
    ¬∀ {expected lost : BitVec 32} {fraction : Byte}, Reported expected lost fraction →
      InRange expected lost → IsFraction expected lost fraction := by
  intro hclaim
  obtain ⟨hexpected, hlost⟩ := nearTotalLoss_intervals
  have hrange : InRange nearTotalLoss.expectedInterval nearTotalLoss.lostInterval := by
    rw [hexpected, hlost]
    exact ⟨by decide, by decide, by decide⟩
  have hreport := Reported.rtpStreamRecv nearTotalLoss 1 0 0 40
  have hfraction := hclaim hreport hrange
  rw [hreport.eq_fractionOf, hrange.isFraction_fractionOf_iff, hexpected, hlost] at hfraction
  exact absurd hfraction (by decide)

end MediasoupSfu
