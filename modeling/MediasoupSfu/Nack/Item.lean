import MediasoupSfu.Utils.Byte

/-!
# Items of a NACK packet

A generic NACK names a first sequence number, the packet id, and with sixteen bits which of the
sixteen that follow are requested too. The header of an item holds both numbers in network order.
-/

namespace MediasoupSfu

/-- `htons` and `ntohs` on a little-endian machine. -/
def htons (v : BitVec 16) : BitVec 16 := v.setWidth 8 ++ (v >>> 8).setWidth 8

theorem htons_htons (v : BitVec 16) : htons (htons v) = v := by
  apply BitVec.eq_of_getLsbD_eq
  intro i hi
  simp only [htons, BitVec.getLsbD_append, BitVec.getLsbD_setWidth, BitVec.getLsbD_ushiftRight]
  by_cases h : i < 8
  · simp [h]
  · have h' : i - 8 < 8 := by omega
    simp [h, h', show 8 + (i - 8) = i by omega]

/-- `FeedbackRtpNackItem`, with the members of its header. -/
structure FeedbackRtpNackItem where
  packetId : BitVec 16
  lostPacketBitmask : BitVec 16
  deriving DecidableEq, Repr

namespace FeedbackRtpNackItem

/-- `FeedbackRtpNackItem(packetId, lostPacketBitmask)`. -/
def make (packetId lostPacketBitmask : BitVec 16) : FeedbackRtpNackItem :=
  ⟨htons packetId, htons lostPacketBitmask⟩

/-- `GetPacketId()`. -/
def getPacketId (item : FeedbackRtpNackItem) : BitVec 16 := htons item.packetId

/-- `GetLostPacketBitmask()`. -/
def getLostPacketBitmask (item : FeedbackRtpNackItem) : BitVec 16 := htons item.lostPacketBitmask

/-- `CountRequestedPackets()`: the bits are counted in network order. -/
def countRequestedPackets (item : FeedbackRtpNackItem) : ℕ := item.lostPacketBitmask.cpop.toNat + 1

@[simp] theorem getPacketId_make (seq bitmask : BitVec 16) : (make seq bitmask).getPacketId = seq :=
  htons_htons seq

@[simp] theorem getLostPacketBitmask_make (seq bitmask : BitVec 16) :
    (make seq bitmask).getLostPacketBitmask = bitmask :=
  htons_htons bitmask

end FeedbackRtpNackItem

end MediasoupSfu
