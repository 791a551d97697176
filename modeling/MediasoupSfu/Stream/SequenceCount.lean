import MediasoupSfu.Library.Run
import MediasoupSfu.Library.Serial
import MediasoupSfu.Stream.SeqState

/-!
# Counting the expected packets

`GetExpectedPackets` is the extended highest sequence number, `cycles + maxSeq`, less the first one,
plus one. It is what the number of lost packets is computed from. What it should be is clear: unwrap
every sequence number next to the maximum so far, starting with the first number itself, and count.

`ReceivePacket` sets `maxSeq` one below the first packet, so that `UpdateSeq` finds the packet in
order. If the first number is 0 then `maxSeq` is the largest number there is, and `UpdateSeq` counts
a cycle at once. The extended number of such a stream is too large by a cycle for good; for every
other first number it is right (`counts_iff`). The invariant is `Tracks`, which keeps the extra
cycle as a constant.
-/

namespace MediasoupSfu

open Serial

namespace SeqState

/-! ## The code -/

/-- `GetExpectedPackets()`. -/
def getExpectedPackets (s : SeqState) : BitVec 32 :=
  s.cycles + s.maxSeq.setWidth 32 - s.baseSeq + 1

/-- The calls that validate a packet. -/
inductive Call where
  | receivePacket (seq : BitVec 16) (timestamp : BitVec 32) (nowMs : BitVec 64)
  | updateSeq (seq : BitVec 16) (timestamp : BitVec 32) (nowMs : BitVec 64)

/-- The sequence number of the packet. -/
def Call.seq : Call → BitVec 16
  | .receivePacket seq _ _ => seq
  | .updateSeq seq _ _ => seq

/-- One call. -/
def step (s : SeqState) : Call → SeqState
  | .receivePacket seq timestamp nowMs => (s.receivePacket seq timestamp nowMs).2
  | .updateSeq seq timestamp nowMs => (s.updateSeq seq timestamp nowMs).2

/-! ## The intended count -/

/-- The highest unwrapped sequence number so far. -/
def maximum (m : ℤ) (call : Call) : ℤ := max m (Serial.unwrap m call.seq)

/-- A sequence number in the window around the maximum that is taken as in order or as
misordered. -/
def Near (m : ℤ) (call : Call) : Prop :=
  Serial.unwrap m call.seq < m + maxDropout ∧ m - maxMisorder < Serial.unwrap m call.seq

instance (m : ℤ) (call : Call) : Decidable (Near m call) := by
  unfold Near
  infer_instance

/-- The counters agree with the unwrapped maximum, for a stream that started with `seq`. -/
structure Counts (s : SeqState) (seq : BitVec 16) (m : ℤ) : Prop where
  extended_eq : s.cycles + s.maxSeq.setWidth 32 = BitVec.ofInt 32 m
  expected_eq : s.getExpectedPackets = BitVec.ofInt 32 (m - seq.toNat + 1)

/-! ## The invariant -/

variable {s : SeqState} {seq first : BitVec 16} {extra : BitVec 32} {m : ℤ}

/-- The counters follow the unwrapped maximum, with a constant number of extra cycles. -/
structure Tracks (s : SeqState) (first : BitVec 16) (extra : BitVec 32) (m : ℤ) : Prop where
  started : s.started = true
  maxSeq_eq : s.maxSeq = BitVec.ofInt 16 m
  extended_eq : s.cycles + s.maxSeq.setWidth 32 = BitVec.ofInt 32 m + extra
  baseSeq_eq : s.baseSeq = first.setWidth 32

/-- A number that is smaller than one it is ahead of has wrapped. -/
theorem extended_add (cycles : BitVec 32) (seq maxSeq : BitVec 16) :
    (if seq < maxSeq then cycles + BitVec.ofNat 32 rtpSeqMod else cycles) + seq.setWidth 32 =
      cycles + maxSeq.setWidth 32 + BitVec.ofNat 32 (pos maxSeq seq) := by
  have hwidth (x : BitVec 16) : x.setWidth 32 = BitVec.ofNat 32 x.toNat :=
    (BitVec.ofNat_toNat 32 x).symm
  have hpos : pos maxSeq seq = (seq - maxSeq).toNat := rfl
  have hmax := maxSeq.isLt
  rw [hwidth, hwidth, hpos, BitVec.add_assoc, ← BitVec.ofNat_add]
  rcases toNat_sub_cases seq maxSeq with ⟨hle, hsub⟩ | ⟨hlt, hsub⟩
  · have hnot : ¬seq < maxSeq := Nat.not_lt.mpr hle
    have hahead : maxSeq.toNat + (seq - maxSeq).toNat = seq.toNat := by omega
    rw [if_neg hnot, hahead]
  · have hwrapped : seq < maxSeq := hlt
    have hahead : maxSeq.toNat + (seq - maxSeq).toNat = rtpSeqMod + seq.toNat := by
      rw [rtpSeqMod]
      omega
    rw [if_pos hwrapped, hahead, BitVec.ofNat_add, BitVec.add_assoc]

/-- In order, with permissible gap. -/
theorem updateSeq_ahead (h : pos s.maxSeq seq < maxDropout) (timestamp : BitVec 32)
    (nowMs : BitVec 64) :
    s.updateSeq seq timestamp nowMs = (true, { s with
      cycles := if seq < s.maxSeq then s.cycles + BitVec.ofNat 32 rtpSeqMod else s.cycles
      maxSeq := seq }) := if_pos h

/-- Acceptable misorder. -/
theorem updateSeq_behind (h : rtpSeqMod - maxMisorder < pos s.maxSeq seq) (timestamp : BitVec 32)
    (nowMs : BitVec 64) : s.updateSeq seq timestamp nowMs = (true, s) := by
  have hdropout : ¬pos s.maxSeq seq < maxDropout := by
    unfold rtpSeqMod maxMisorder at h
    unfold maxDropout
    omega
  exact (if_neg hdropout).trans (if_neg (Nat.not_le.mpr h))

/-- **One packet** in the window is valid and keeps the counters in step. -/
theorem Tracks.updateSeq (h : s.Tracks first extra m) (timestamp : BitVec 32) (nowMs : BitVec 64)
    (hahead : Serial.unwrap m seq < m + maxDropout)
    (hbehind : m - maxMisorder < Serial.unwrap m seq) :
    (s.updateSeq seq timestamp nowMs).1 = true ∧
      (s.updateSeq seq timestamp nowMs).2.Tracks first extra (max m (Serial.unwrap m seq)) := by
  have hpos := pos_lt s.maxSeq seq
  have hdropout : maxDropout = 3000 := rfl
  have hmisorder : maxMisorder = 1500 := rfl
  rcases Nat.lt_or_ge (2 * pos (BitVec.ofInt 16 m) seq) (2 ^ 16) with hlt | hge
  · have hunwrap := unwrap_of_lt hlt
    rw [← h.maxSeq_eq] at hunwrap
    have hnear : pos s.maxSeq seq < maxDropout := by omega
    have hmax : max m (Serial.unwrap m seq) = Serial.unwrap m seq := max_eq_right (by omega)
    rw [updateSeq_ahead hnear, hmax]
    refine ⟨rfl, h.started, (ofInt_unwrap m seq).symm, ?_, h.baseSeq_eq⟩
    calc (if seq < s.maxSeq then s.cycles + BitVec.ofNat 32 rtpSeqMod else s.cycles) +
      seq.setWidth 32
        = s.cycles + s.maxSeq.setWidth 32 + BitVec.ofNat 32 (pos s.maxSeq seq) := extended_add _ _ _
      _ = BitVec.ofInt 32 m + extra + BitVec.ofNat 32 (pos s.maxSeq seq) := by rw [h.extended_eq]
      _ = BitVec.ofInt 32 (Serial.unwrap m seq) + extra := by
        rw [hunwrap, BitVec.ofInt_add, BitVec.ofInt_natCast, BitVec.add_assoc, BitVec.add_assoc,
          BitVec.add_comm extra]
  · have hunwrap := unwrap_of_le hge
    rw [← h.maxSeq_eq] at hunwrap
    have hmod : rtpSeqMod = 2 ^ 16 := rfl
    have hmax : max m (Serial.unwrap m seq) = m := max_eq_left (by omega)
    rw [updateSeq_behind (by omega), hmax]
    exact ⟨rfl, h⟩

/-- The highest timestamp is not a counter. -/
theorem Tracks.receivePacket (h : s.Tracks first extra m) (seq : BitVec 16) (timestamp : BitVec 32)
    (nowMs : BitVec 64)
    (hahead : Serial.unwrap m seq < m + maxDropout)
    (hbehind : m - maxMisorder < Serial.unwrap m seq) :
    (s.receivePacket seq timestamp nowMs).2.Tracks first extra (max m (Serial.unwrap m seq)) := by
  obtain ⟨-, hupdated⟩ := h.updateSeq timestamp nowMs hahead hbehind
  unfold SeqState.receivePacket
  rw [if_pos h.started]
  dsimp only
  split
  · exact ⟨hupdated.started, hupdated.maxSeq_eq, hupdated.extended_eq, hupdated.baseSeq_eq⟩
  · exact hupdated

theorem Tracks.step (h : s.Tracks first extra m) {call : Call} (hnear : Near m call) :
    (s.step call).Tracks first extra (maximum m call) := by
  obtain ⟨hahead, hbehind⟩ := hnear
  cases call with
  | receivePacket seq timestamp nowMs => exact h.receivePacket seq timestamp nowMs hahead hbehind
  | updateSeq seq timestamp nowMs => exact (h.updateSeq timestamp nowMs hahead hbehind).2

/-- **A run** of packets in the window. -/
theorem Tracks.run {calls : List Call} (h : s.Tracks first extra m)
    (hnear : Run.All maximum Near m calls) :
    (calls.foldl SeqState.step s).Tracks first extra (calls.foldl maximum m) := by
  induction calls generalizing s m with
  | nil => exact h
  | cons call calls ih => exact ih (h.step hnear.1) hnear.2

/-! ## The first packet -/

/-- The members before the first packet is validated. -/
def beforeFirst (seq : BitVec 16) (timestamp : BitVec 32) (nowMs : BitVec 64) : SeqState :=
  { initSeq {} seq with
    started := true
    maxSeq := seq - 1
    maxPacketTs := timestamp
    maxPacketMs := nowMs }

/-- One below 0 is the largest number there is. -/
theorem tracks_beforeFirst (seq : BitVec 16) (timestamp : BitVec 32) (nowMs : BitVec 64) :
    (beforeFirst seq timestamp nowMs).Tracks seq (if seq = 0 then BitVec.ofNat 32 rtpSeqMod else 0)
      (seq.toNat - 1) := by
  have hbelow : ∀ w, BitVec.ofInt w ((seq.toNat : ℤ) - 1) = BitVec.ofNat w seq.toNat - 1 :=
    fun w ↦ by
    rw [ofInt_sub, BitVec.ofInt_natCast]
    rfl
  refine ⟨rfl, ?_, ?_, rfl⟩
  · rw [hbelow, BitVec.ofNat_toNat, BitVec.setWidth_eq]
    rfl
  · rw [hbelow]
    change 0 + (seq - 1).setWidth 32 = _
    by_cases hzero : seq = 0
    · subst hzero
      decide
    · rw [if_neg hzero]
      have hne : seq.toNat ≠ 0 := fun h ↦ hzero (BitVec.eq_of_toNat_eq h)
      bv_omega

/-- A first packet with the number 0 counts as the first one of a new cycle. -/
theorem tracks_first (seq : BitVec 16) (timestamp : BitVec 32) (nowMs : BitVec 64) :
    (receivePacket {} seq timestamp nowMs).2.Tracks seq
      (if seq = 0 then BitVec.ofNat 32 rtpSeqMod else 0) seq.toNat := by
  have hbefore := tracks_beforeFirst seq timestamp nowMs
  have hone : pos (BitVec.ofInt 16 ((seq.toNat : ℤ) - 1)) seq = 1 := by
    rw [← hbefore.maxSeq_eq]
    change (seq - (seq - 1)).toNat = 1
    have hsub : seq - (seq - 1) = 1 := by bv_omega
    rw [hsub]
    rfl
  have hunwrap : Serial.unwrap ((seq.toNat : ℤ) - 1) seq = seq.toNat := by
    rw [unwrap_of_lt (by rw [hone]; decide), hone]
    omega
  have hdropout : maxDropout = 3000 := rfl
  have hmisorder : maxMisorder = 1500 := rfl
  have hreceived := hbefore.receivePacket seq timestamp nowMs (by omega) (by omega)
  rw [hunwrap, max_eq_right (by omega)] at hreceived
  exact hreceived

/-! ## The counts -/

/-- What the counters of a stream are that follows the maximum. -/
theorem Tracks.counts_iff_extra (h : s.Tracks first extra m) : s.Counts first m ↔ extra = 0 := by
  have hadd : BitVec.ofInt 32 m + 0 = BitVec.ofInt 32 m := BitVec.add_zero _
  constructor
  · rintro ⟨hextended, -⟩
    rw [h.extended_eq] at hextended
    exact (BitVec.add_right_inj _).mp (hextended.trans hadd.symm)
  · rintro rfl
    have hextended := h.extended_eq.trans hadd
    refine ⟨hextended, ?_⟩
    rw [getExpectedPackets, hextended, h.baseSeq_eq, BitVec.ofInt_add, ofInt_sub,
      BitVec.ofInt_natCast, BitVec.ofNat_toNat]
    rfl

/-- **The extended sequence count.** On a stream whose packets stay in the window, the counters are
those of the unwrapped numbers if and only if the first number is not 0. -/
theorem counts_iff (seq : BitVec 16) (timestamp : BitVec 32) (nowMs : BitVec 64) (calls : List Call)
    (hnear : Run.All maximum Near (seq.toNat : ℤ) calls) :
    (calls.foldl step (receivePacket {} seq timestamp nowMs).2).Counts seq
        (calls.foldl maximum (seq.toNat : ℤ)) ↔ seq ≠ 0 := by
  rw [((tracks_first seq timestamp nowMs).run hnear).counts_iff_extra]
  split
  · rename_i hzero
    exact ⟨fun h ↦ absurd h (by decide), fun hne ↦ absurd hzero hne⟩
  · rename_i hne
    exact ⟨fun _ ↦ hne, fun _ ↦ rfl⟩

/-- A stream that wraps, with a misordered packet. -/
theorem counts_wrapping :
    ([.receivePacket 1 3000 20, .updateSeq 65534 0 25, .receivePacket 0 3000 30].foldl step
        (receivePacket {} 65535 0 10).2).Counts 65535 65537 :=
  (counts_iff 65535 0 10 [.receivePacket 1 3000 20, .updateSeq 65534 0 25, .receivePacket 0 3000 30]
    (by decide)).mpr (by decide)

/-- **A first packet with the number 0** is expected as one of 65537 packets. -/
theorem not_counts_zero :
    (receivePacket {} 0 0 10).2.getExpectedPackets = 65537 ∧
    ¬(receivePacket {} 0 0 10).2.Counts 0 0 := by
  refine ⟨by decide, fun hcounts ↦ ?_⟩
  exact absurd hcounts.extended_eq (by decide)

end SeqState

end MediasoupSfu
