import MediasoupSfu.SeqManager.Compare
import MediasoupSfu.Utils.Byte

/-!
# Sequence number tracking of a stream

`RtpStream` and `RtxStream` validate the sequence numbers of their packets as in RFC 3550: a packet
may be up to `MaxDropout` ahead of the highest sequence number seen and up to `MaxMisorder` behind
it, and any other packet is discarded unless it directly follows the last discarded one. The members
and the three methods involved are the same in both classes, so they are modelled once; what the
classes do around them is theirs.
-/

namespace MediasoupSfu

/-- `MaxDropout`. -/
def maxDropout : ℕ := 3000

/-- `MaxMisorder`. -/
def maxMisorder : ℕ := 1500

/-- `RtpSeqMod`. -/
def rtpSeqMod : ℕ := 2 ^ 16

/-- The members of `RtpStream` and `RtxStream` that track sequence numbers and timestamps. -/
structure SeqState where
  /-- Whether at least a RTP packet has been received. -/
  started : Bool := false
  /-- Highest seq. number seen. -/
  maxSeq : BitVec 16 := 0
  /-- Shifted count of seq. number cycles. -/
  cycles : BitVec 32 := 0
  /-- Base seq number. -/
  baseSeq : BitVec 32 := 0
  /-- Last 'bad' seq number + 1. -/
  badSeq : BitVec 32 := 0
  /-- Highest timestamp seen. -/
  maxPacketTs : BitVec 32 := 0
  /-- When the packet with highest timestamp was seen. -/
  maxPacketMs : BitVec 64 := 0
  packetsDiscarded : ℕ := 0
  deriving DecidableEq, Repr

namespace SeqState

/-- `InitSeq(seq)`. -/
def initSeq (s : SeqState) (seq : BitVec 16) : SeqState :=
  { s with
    baseSeq := seq.setWidth 32
    maxSeq := seq
    -- So seq == badSeq is false.
    badSeq := BitVec.ofNat 32 (rtpSeqMod + 1) }

/-- `UpdateSeq(packet)`: whether the packet is valid, and the members afterwards. -/
def updateSeq (s : SeqState) (seq : BitVec 16) (timestamp : BitVec 32) (nowMs : BitVec 64) :
    Bool × SeqState :=
  let udelta := seq - s.maxSeq
  if udelta.toNat < maxDropout then
    -- In order, with permissible gap. A smaller number has wrapped: count another 64K cycle.
    let cycles := if seq < s.maxSeq then s.cycles + BitVec.ofNat 32 rtpSeqMod else s.cycles
    (true, { s with cycles := cycles, maxSeq := seq })
  else if udelta.toNat ≤ rtpSeqMod - maxMisorder then
    if seq.setWidth 32 = s.badSeq then
      -- Two sequential packets. Assume that the other side restarted.
      (true, { s.initSeq seq with maxPacketTs := timestamp, maxPacketMs := nowMs })
    else
      (false, { s with
        badSeq := (seq + 1).setWidth 32
        packetsDiscarded := s.packetsDiscarded + 1 })
  -- Acceptable misorder.
  else (true, s)

/-- `ReceivePacket(packet)` of `RtpStream`, which is also the first part of that of `RtxStream`. -/
def receivePacket (s : SeqState) (seq : BitVec 16) (timestamp : BitVec 32) (nowMs : BitVec 64) :
    Bool × SeqState :=
  -- If this is the first packet seen, initialize stuff.
  let s := if s.started then s else { s.initSeq seq with
    started := true
    maxSeq := seq - 1
    maxPacketTs := timestamp
    maxPacketMs := nowMs }
  let (valid, s) := s.updateSeq seq timestamp nowMs
  -- Update highest seen RTP timestamp.
  if valid && isSeqHigherThan timestamp s.maxPacketTs then
    (true, { s with maxPacketTs := timestamp, maxPacketMs := nowMs })
  else (valid, s)

end SeqState

end MediasoupSfu
