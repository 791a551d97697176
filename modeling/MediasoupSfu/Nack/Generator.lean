import MediasoupSfu.Library.Run
import MediasoupSfu.SeqManager.Compare
import MediasoupSfu.Utils.Byte

/-!
# The NACK generator

`NackGenerator` watches the sequence numbers of a received stream. Every sequence number that is
skipped when a newer packet arrives enters the NACK list and is requested at once; the entries are
requested again by a timer until they arrive, are too old, or have been requested often enough.

The three containers `nackList`, `keyFrameList` and `recoveredList` are ordered by the wrapping
comparison, which is an order only on half of the sequence numbers. The NACK list stays within a
short window below the last sequence number, so its operations have their usual meaning; the two
sets can hold packets recovered far ahead of it, and there a search may end anywhere. Each received
packet therefore comes with the `Search` that the trees of that moment perform.

The clock is an input: every event that reads `DepLibUV::GetTimeMs()` carries the time it read. The
`uv_timer_t` behind `Timer` is one bit: `Start` arms it, expiry disarms it before `OnTimer` runs.
-/

namespace MediasoupSfu



/-- `MaxPacketAge`. -/
def maxPacketAge : ℕ := 10000

/-- `MaxNackPackets`. -/
def maxNackPackets : ℕ := 1000

/-- `MaxNackRetries`. -/
def maxNackRetries : BitVec 8 := 10

/-- `NackGenerator::NackInfo`. -/
structure NackInfo where
  seq : BitVec 16
  sendAtSeq : BitVec 16
  sentAtMs : BitVec 64 := 0
  retries : BitVec 8 := 0
  deriving DecidableEq, Repr

/-- `NackGenerator::NackFilter`. -/
inductive NackFilter where
  | seq
  | time
  deriving DecidableEq, Repr

/-- The calls of `NackGenerator::Listener`. -/
inductive NackNotice where
  /-- `OnNackGeneratorNackRequired(seqNumbers)`. -/
  | nackRequired (seqNumbers : List (BitVec 16))
  /-- `OnNackGeneratorKeyFrameRequired()`. -/
  | keyFrameRequired
  deriving DecidableEq, Repr

/-- An element of the `std::map` from sequence numbers to `NackInfo`. -/
abbrev NackEntry := BitVec 16 × NackInfo

/-- The members of `NackGenerator`. -/
structure NackGenerator where
  nackList : List NackEntry := []
  keyFrameList : List (BitVec 16) := []
  recoveredList : List (BitVec 16) := []
  started : Bool := false
  /-- Sequence number of the last valid packet. -/
  lastSeq : BitVec 16 := 0
  /-- Round trip time in milliseconds; `DefaultRtt` at first. -/
  rtt : BitVec 32 := 100
  /-- `timer->IsActive()`. -/
  timerActive : Bool := false
  deriving DecidableEq, Repr

namespace NackGenerator

/-! ## Removing old entries -/

/-- `RemoveNackItemsUntilKeyFrame()` on the key frame list and the NACK list: whether entries were
removed, and the two lists afterwards. -/
def removeNackItemsUntilKeyFrame (search : SeqSearch) :
    List (BitVec 16) → List NackEntry → Bool × List (BitVec 16) × List NackEntry
  | [], nackList => (false, [], nackList)
  | keyFrame :: keyFrameList, nackList =>
    let rest := Ordered.lowerBound search Prod.fst keyFrame nackList
    -- `it != nackList.begin()`
    if rest.length < nackList.length then (true, keyFrame :: keyFrameList, rest)
    else removeNackItemsUntilKeyFrame search keyFrameList nackList

theorem removeNackItemsUntilKeyFrame_suffix (search : SeqSearch) (ks : List (BitVec 16))
    (nackList : List NackEntry) :
    (removeNackItemsUntilKeyFrame search ks nackList).2.2 <:+ nackList := by
  induction ks with
  | nil => exact List.suffix_refl nackList
  | cons k ks ih =>
    unfold removeNackItemsUntilKeyFrame
    dsimp only
    split
    · exact Ordered.lowerBound_suffix k nackList
    · exact ih

theorem removeNackItemsUntilKeyFrame_length (search : SeqSearch) (ks : List (BitVec 16))
    (nackList : List NackEntry)
    (h : (removeNackItemsUntilKeyFrame search ks nackList).1 = true) :
    (removeNackItemsUntilKeyFrame search ks nackList).2.2.length < nackList.length := by
  induction ks with
  | nil => cases h
  | cons k ks ih =>
    unfold removeNackItemsUntilKeyFrame at h ⊢
    dsimp only at h ⊢
    split at h
    · rename_i hlt
      rw [if_pos hlt]
      exact hlt
    · rename_i hge
      rw [if_neg hge]
      exact ih h

/-- The `while` loop of `AddPacketsToNackList`: remove up to key frame after key frame as long as
the list is too large and something was removed. -/
def makeRoom (search : SeqSearch) (numNewNacks : ℕ) (keyFrameList : List (BitVec 16))
    (nackList : List NackEntry) : List (BitVec 16) × List NackEntry :=
  let removed := removeNackItemsUntilKeyFrame search keyFrameList nackList
  if _h : removed.1 = true then
    if maxNackPackets < removed.2.2.length + numNewNacks then
      makeRoom search numNewNacks removed.2.1 removed.2.2
    else removed.2
  else removed.2
termination_by nackList.length
decreasing_by exact removeNackItemsUntilKeyFrame_length search keyFrameList nackList _h

/-! ## Adding entries -/

/-- The `for` loop of `AddPacketsToNackList`, `n` sequence numbers from `seq` on. -/
def insertNacks (search : SeqSearch) (recoveredList : List (BitVec 16)) :
    ℕ → BitVec 16 → List NackEntry → Except Fault (List NackEntry)
  | 0, _, nackList => .ok nackList
  | n + 1, seq, nackList => do
    msAssert (Ordered.find? search Prod.fst seq nackList).isNone
      "packet already in the NACK list"
    -- Do not send NACK for packets that are already recovered by RTX.
    if (Ordered.find? search id seq recoveredList).isSome then
      insertNacks search recoveredList n (seq + 1) nackList
    else
      insertNacks search recoveredList n (seq + 1) (Ordered.insert search Prod.fst
        (seq, { seq := seq, sendAtSeq := seq }) nackList)

/-- `AddPacketsToNackList(seqStart, seqEnd)`. -/
def addPacketsToNackList (search : SeqSearch) (g : NackGenerator) (seqStart seqEnd : BitVec 16) :
    Except Fault (List NackNotice × NackGenerator) := do
  -- Remove old packets.
  let nackList := Ordered.lowerBound search Prod.fst
    (seqEnd - BitVec.ofNat 16 maxPacketAge) g.nackList
  let numNewNacks := (seqEnd - seqStart).toNat
  let (keyFrameList, nackList) :=
    if maxNackPackets < nackList.length + numNewNacks then
      makeRoom search numNewNacks g.keyFrameList nackList
    else (g.keyFrameList, nackList)
  if maxNackPackets < nackList.length + numNewNacks then
    return ([.keyFrameRequired], { g with keyFrameList := keyFrameList, nackList := [] })
  let nackList ← insertNacks search g.recoveredList numNewNacks seqStart nackList
  return ([], { g with keyFrameList := keyFrameList, nackList := nackList })

/-! ## Requesting -/

/-- The entry is to be requested now. -/
def isDue (g : NackGenerator) (filter : NackFilter) (nowMs : BitVec 64) (entry : NackEntry) :
    Bool :=
  match filter with
  | .seq => decide (entry.2.sentAtMs = 0) && (decide (entry.2.sendAtSeq = g.lastSeq) ||
      isSeqHigherThan g.lastSeq entry.2.sendAtSeq)
  | .time => decide (g.rtt.setWidth 64 ≤ nowMs - entry.2.sentAtMs)

/-- The entry after a request, or `none` if it was the last one. -/
def requested (nowMs : BitVec 64) (entry : NackEntry) : Option NackEntry :=
  let info := { entry.2 with retries := entry.2.retries + 1, sentAtMs := nowMs }
  if maxNackRetries ≤ info.retries then none else some (entry.1, info)

/-- `GetNackBatch(filter)`: the batch and the generator afterwards. -/
def getNackBatch (g : NackGenerator) (filter : NackFilter) (nowMs : BitVec 64) :
    List (BitVec 16) × NackGenerator :=
  ((g.nackList.filter (g.isDue filter nowMs)).map fun entry ↦ entry.2.seq,
    { g with
      nackList := g.nackList.filterMap fun entry ↦
        if g.isDue filter nowMs entry then requested nowMs entry else some entry })

/-- The listener is called with a batch that is not empty. -/
def batchNotice (nackBatch : List (BitVec 16)) : List NackNotice :=
  if nackBatch = [] then [] else [.nackRequired nackBatch]

/-- `MayRunTimer()`. -/
def mayRunTimer (g : NackGenerator) : NackGenerator :=
  if g.nackList = [] then g else { g with timerActive := true }

/-! ## The public methods -/

/-- The part of `ReceivePacket` for a packet newer than the last one: what the listener is told and
the generator afterwards. -/
def receiveNewer (search : SeqSearch) (g : NackGenerator) (seq : BitVec 16)
    (isKeyFrame isRecovered : Bool) (nowMs : BitVec 64) :
    Except Fault (List NackNotice × NackGenerator) := do
  let keyFrameList :=
    if isKeyFrame then Ordered.insert search id seq g.keyFrameList
    else g.keyFrameList
  -- Remove old keyframes.
  let keyFrameList := Ordered.lowerBound search id
    (seq - BitVec.ofNat 16 maxPacketAge) keyFrameList
  let g := { g with keyFrameList := keyFrameList }
  if isRecovered then
    let recoveredList := Ordered.insert search id seq g.recoveredList
    -- Remove old ones so we don't accumulate recovered packets.
    let recoveredList := Ordered.lowerBound search id
      (seq - BitVec.ofNat 16 maxPacketAge) recoveredList
    return ([], { g with recoveredList := recoveredList })
  let (notices, g) ← g.addPacketsToNackList search (g.lastSeq + 1) seq
  let (nackBatch, g) := { g with lastSeq := seq }.getNackBatch .seq nowMs
  let g := if g.timerActive then g else g.mayRunTimer
  return (notices ++ batchNotice nackBatch, g)

/-- `ReceivePacket(packet, isRecovered)`: whether this is a found nacked packet, what the listener
is told, and the generator afterwards. -/
def receivePacket (search : SeqSearch) (g : NackGenerator) (seq : BitVec 16)
    (isKeyFrame isRecovered : Bool) (nowMs : BitVec 64) :
    Except Fault (Bool × List NackNotice × NackGenerator) :=
  if ¬g.started then
    let keyFrameList :=
      if isKeyFrame then Ordered.insert search id seq g.keyFrameList
      else g.keyFrameList
    .ok (false, [], { g with started := true, lastSeq := seq, keyFrameList := keyFrameList })
  else if seq = g.lastSeq then .ok (false, [], g)
  else if isSeqLowerThan seq g.lastSeq then
    match Ordered.find? search Prod.fst seq g.nackList with
    | some _ =>
      let nackList := Ordered.erase search Prod.fst seq g.nackList
      .ok (true, [], { g with nackList := nackList })
    | none => .ok (false, [], g)
  else do
    let (notices, g) ← g.receiveNewer search seq isKeyFrame isRecovered nowMs
    return (false, notices, g)

/-- `UpdateRtt(rtt)`. -/
def updateRtt (g : NackGenerator) (rtt : BitVec 32) : NackGenerator := { g with rtt := rtt }

/-- `Reset()`. The timer keeps running. -/
def reset (g : NackGenerator) : NackGenerator :=
  { g with nackList := [], keyFrameList := [], recoveredList := [], started := false, lastSeq := 0 }

/-- `OnTimer(timer)`, called with the timer disarmed. -/
def onTimer (g : NackGenerator) (nowMs : BitVec 64) : List NackNotice × NackGenerator :=
  let (nackBatch, g) := g.getNackBatch .time nowMs
  (batchNotice nackBatch, g.mayRunTimer)

end NackGenerator

/-! ## Runs -/

/-- What can happen to a NACK generator. -/
inductive NackEvent where
  /-- A call of `ReceivePacket`. -/
  | receivePacket (search : SeqSearch) (seq : BitVec 16) (isKeyFrame isRecovered : Bool)
      (nowMs : BitVec 64)
  /-- The timer expires. -/
  | timer (nowMs : BitVec 64)
  /-- A call of `UpdateRtt`. -/
  | updateRtt (rtt : BitVec 32)
  /-- A call of `Reset`. -/
  | reset

namespace NackGenerator

/-- One event. A timer that is not armed does not expire. -/
def step (g : NackGenerator) : NackEvent → Except Fault (List NackNotice × NackGenerator)
  | .receivePacket search seq isKeyFrame isRecovered nowMs => do
    let (_, notices, g) ← g.receivePacket search seq isKeyFrame isRecovered nowMs
    return (notices, g)
  | .timer nowMs =>
    if g.timerActive then .ok ({ g with timerActive := false }.onTimer nowMs) else .ok ([], g)
  | .updateRtt rtt => .ok ([], g.updateRtt rtt)
  | .reset => .ok ([], g.reset)

end NackGenerator

end MediasoupSfu
