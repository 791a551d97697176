import Mathlib.Data.List.Basic
import MediasoupSfu.Utils.Byte

/-!
# Key frames of H265

`H265::Parse` looks for key frames: for the parameter sets (VPS, SPS) that come before one. A
payload starts with a header of two bytes, with the type in the first one. It is a NAL unit, or
aggregates several with the size of each before it, or is a fragment of one, with the type in a
third byte.

The code is that of H264, whose header has one byte. So it looks for the first size, and for the
type of a fragment, one byte too early: in the second byte of the header.

## Main results

* `aggregationLoop_eq` : the loop over aggregated units ends, and reads inside the payload.
* `aggregatedUnits_flatMap` : the units that are aggregated are found in the payload again.
* `parse_keyFrame_iff` : exactly when a key frame is recognised as one, and nothing else is.
-/

namespace MediasoupSfu

namespace H265

/-- `RtpPacket::FrameMarking`. -/
structure FrameMarking where
  tid : BitVec 3
  base : Bool
  discardable : Bool
  independent : Bool
  end_ : Bool
  start : Bool
  lid : Byte
  tl0picidx : Byte
  deriving DecidableEq, Repr

/-- `H265::PayloadDescriptor`. -/
structure PayloadDescriptor where
  /-- Start of Frame. -/
  s : Bool := false
  /-- End of Frame. -/
  e : Bool := false
  /-- Independent Frame. -/
  i : Bool := false
  /-- Discardable Frame. -/
  d : Bool := false
  /-- Base Layer Sync. -/
  b : Bool := false
  /-- Temporal layer id. -/
  tid : Byte := 0
  /-- Spatial layer id. -/
  lid : Byte := 0
  /-- TL0PICIDX. -/
  tl0picidx : Byte := 0
  hasLid : Bool := false
  hasTid : Bool := false
  hasTl0picidx : Bool := false
  isKeyFrame : Bool := false
  deriving DecidableEq, Repr

/-- The type of a NAL unit in the first byte of its header. -/
def nalType (header : Byte) : Byte := (header &&& 0x7E) >>> 1

/-- Whether a type is taken for that of a key frame: VPS or SPS. -/
def isKeyFrameType (nal : Byte) : Bool := nal = 32 || nal = 33

/-- Whether a fragment with this header is the first one of a key frame. -/
def startsKeyFrame (header : Byte) : Bool :=
  isKeyFrameType (header &&& 0x3F) && header &&& 0x80 = 128

/-- The loop over the NAL units of an aggregation packet of which `len` bytes are left. -/
def aggregationLoop (data : List Byte) (offset len : ℕ) : Except Fault Bool :=
  if 3 ≤ len then do
    let naluSize ← Byte.get2Bytes data offset
    let header ← Byte.get1Byte data (offset + 2)
    if isKeyFrameType (nalType header) then return true
    -- Check if there is room for the indicated NAL unit size.
    else if len < naluSize.toNat + 2 then return false
    else aggregationLoop data (offset + (naluSize.toNat + 2)) (len - (naluSize.toNat + 2))
  else .ok false
termination_by len
decreasing_by
  exact Nat.sub_lt (Nat.lt_of_lt_of_le (Nat.succ_pos 2) ‹3 ≤ len›) (Nat.succ_pos _)

/-- Whether a payload looks like a key frame. -/
def payloadIsKeyFrame (data : List Byte) : Except Fault Bool := do
  let nal := nalType (← Byte.get1Byte data 0)
  if isKeyFrameType nal then return true
  -- Aggregation packet.
  else if nal = 48 then aggregationLoop data 1 (data.length - 1)
  -- Fragmentation unit.
  else if nal = 49 then return startsKeyFrame (← Byte.get1Byte data 1)
  else return false

/-- What a frame marking says of a packet. -/
def descriptorOf (frameMarking : FrameMarking) (frameMarkingLen : ℕ) : PayloadDescriptor where
  s := frameMarking.start
  e := frameMarking.end_
  i := frameMarking.independent
  d := frameMarking.discardable
  b := frameMarking.base
  tid := frameMarking.tid.setWidth 8
  hasTid := true
  hasLid := 2 ≤ frameMarkingLen
  lid := if 2 ≤ frameMarkingLen then frameMarking.lid else 0
  hasTl0picidx := frameMarkingLen = 3
  tl0picidx := if frameMarkingLen = 3 then frameMarking.tl0picidx else 0
  isKeyFrame := frameMarking.start && frameMarking.independent

/-- `H265::Parse`. -/
def parse (data : List Byte) (frameMarking : Option FrameMarking) (frameMarkingLen : ℕ) :
    Except Fault (Option PayloadDescriptor) :=
  if data.length < 2 then .ok none
  else
    let payloadDescriptor :=
      match frameMarking with
      | some frameMarking => descriptorOf frameMarking frameMarkingLen
      | none => {}
    -- Do payload parsing if there is no frame marking, or if no key frame was detected above.
    if payloadDescriptor.isKeyFrame then .ok (some payloadDescriptor)
    else do
      let isKeyFrame ← payloadIsKeyFrame data
      return some { payloadDescriptor with isKeyFrame := isKeyFrame }

/-! ## The format -/

/-- The NAL units of an aggregation packet that are complete. -/
def aggregatedUnits : List Byte → List (List Byte)
  | size₀ :: size₁ :: rest =>
    let size := (Byte.join2 size₀ size₁).toNat
    if size ≤ rest.length then rest.take size :: aggregatedUnits (rest.drop size) else []
  | _ => []
termination_by data => data.length
decreasing_by rw [List.length_drop, List.length_cons, List.length_cons]; omega

/-- A NAL unit that belongs to a key frame. -/
def IsKeyFrameUnit (unit : List Byte) : Prop :=
  ∃ header ∈ unit.head?, isKeyFrameType (nalType header) = true

/-- An aggregation packet, after its header, with a NAL unit of a key frame. -/
def AggregatesKeyFrame (data : List Byte) : Prop :=
  ∃ unit ∈ aggregatedUnits (data.drop 2), IsKeyFrameUnit unit

/-- A fragmentation unit that starts a NAL unit of a key frame. -/
def FragmentStartsKeyFrame (data : List Byte) : Prop :=
  ∃ header ∈ data[2]?, startsKeyFrame header = true

/-- **A payload of a key frame**: a NAL unit, an aggregation packet or a fragmentation unit. -/
def IsKeyFrame (data : List Byte) : Prop :=
  IsKeyFrameUnit data ∨
    (data.head?.map nalType = some 48 ∧ AggregatesKeyFrame data) ∨
    (data.head?.map nalType = some 49 ∧ FragmentStartsKeyFrame data)

/-- **The units that are aggregated are found again**, with their sizes. -/
theorem aggregatedUnits_flatMap {units : List (List Byte)}
    (hsize : ∀ unit ∈ units, unit.length < 2 ^ 16) :
    aggregatedUnits (units.flatMap fun unit ↦
      Byte.set2Bytes (BitVec.ofNat 16 unit.length) ++ unit) = units := by
  induction units with
  | nil => simp [aggregatedUnits]
  | cons unit rest ih =>
    obtain ⟨hunit, hrest⟩ := List.forall_mem_cons.mp hsize
    rw [List.flatMap_cons, Byte.set2Bytes]
    simp only [List.cons_append, List.nil_append]
    rw [aggregatedUnits, Byte.join2_set2Bytes, BitVec.toNat_ofNat, Nat.mod_eq_of_lt hunit,
      if_pos (by simp), List.take_left, List.drop_left, ih hrest]

/-! ## The sizes that are read -/

/-- The 16-bit number at an offset. -/
def sizeAt (data : List Byte) (offset : ℕ) : ℕ :=
  (data.getD offset 0).toNat * 256 + (data.getD (offset + 1) 0).toNat

/-- The offsets of the sizes in a sequence of units that starts at an offset: after each of them
there is a byte at least, and as many as it says before the next one. -/
def sizeOffsets (data : List Byte) (offset : ℕ) : List ℕ :=
  if offset + 3 ≤ data.length then
    offset :: sizeOffsets data (offset + (sizeAt data offset + 2))
  else []
termination_by data.length - offset

/-- A sequence of sizes from an offset on that comes by the type of a key frame. -/
def ComesByKeyFrame (data : List Byte) (offset : ℕ) : Prop :=
  ∃ o ∈ sizeOffsets data offset, isKeyFrameType (nalType (data.getD (o + 2) 0)) = true

theorem comesByKeyFrame_iff {data : List Byte} {offset : ℕ} (h : offset + 3 ≤ data.length) :
    ComesByKeyFrame data offset ↔ isKeyFrameType (nalType (data.getD (offset + 2) 0)) = true ∨
      ComesByKeyFrame data (offset + (sizeAt data offset + 2)) := by
  rw [ComesByKeyFrame, sizeOffsets, if_pos h, List.exists_mem_cons_iff, ComesByKeyFrame]

theorem not_comesByKeyFrame {data : List Byte} {offset : ℕ} (h : data.length < offset + 3) :
    ¬ComesByKeyFrame data offset := by
  rw [ComesByKeyFrame, sizeOffsets, if_neg (by omega)]
  exact fun ⟨_, ho, _⟩ ↦ absurd ho List.not_mem_nil

theorem get2Bytes_eq_sizeAt {data : List Byte} {offset : ℕ} (h : offset + 1 < data.length) :
    ∃ size, Byte.get2Bytes data offset = .ok size ∧ size.toNat = sizeAt data offset := by
  rw [Byte.get2Bytes, get1Byte_of_lt (by omega), get1Byte_of_lt h]
  exact ⟨_, rfl, Byte.join2_toNat _ _⟩

/-- **The loop over the units** reads inside the payload, and finds what the sizes come by. -/
theorem aggregationLoop_eq {data : List Byte} {offset len : ℕ} (h : offset + len = data.length) :
    ∃ found, aggregationLoop data offset len = .ok found ∧
      (found = true ↔ ComesByKeyFrame data offset) := by
  induction len using Nat.strongRecOn generalizing offset with
  | ind len ih =>
    rw [aggregationLoop]
    by_cases hlen : 3 ≤ len
    case neg =>
      rw [if_neg hlen]
      exact ⟨false, rfl, iff_of_false Bool.false_ne_true (not_comesByKeyFrame (by omega))⟩
    have hoffset : offset + 1 < data.length := by omega
    obtain ⟨size, hsize, hsizeAt⟩ := get2Bytes_eq_sizeAt hoffset
    rw [if_pos hlen, hsize, get1Byte_of_lt (by omega), comesByKeyFrame_iff (by omega)]
    simp only [bind, Except.bind, pure, Except.pure]
    by_cases hkey : isKeyFrameType (nalType (data.getD (offset + 2) 0)) = true
    · rw [if_pos hkey]
      exact ⟨true, rfl, iff_of_true rfl (Or.inl hkey)⟩
    rw [if_neg hkey, hsizeAt, or_iff_right hkey]
    by_cases hroom : len < sizeAt data offset + 2
    · rw [if_pos hroom]
      exact ⟨false, rfl, iff_of_false Bool.false_ne_true (not_comesByKeyFrame (by omega))⟩
    · rw [if_neg hroom]
      exact ih _ (by omega) (by omega)

/-! ## When a key frame is recognised -/

/-- **What is looked at one byte too early** is as good as what should be looked at: the sizes that
start in the second byte of the header come by the type of a key frame exactly if such a unit is
aggregated, and the second byte of the header of a fragment says that it starts a key frame exactly
if the third one does. -/
def ReadAlike (data : List Byte) : Prop :=
  (data.head?.map nalType = some 48 → (ComesByKeyFrame data 1 ↔ AggregatesKeyFrame data)) ∧
    (data.head?.map nalType = some 49 →
      (startsKeyFrame (data.getD 1 0) = true ↔ FragmentStartsKeyFrame data))

/-- In the base layer no fragment says that it starts a key frame in the second byte of its header,
so every fragment that starts one is missed. -/
theorem readAlike_fragment_iff {data : List Byte} (hfragment : data.head?.map nalType = some 49)
    (hlayer : (data.getD 1 0).toNat < 128) : ReadAlike data ↔ ¬FragmentStartsKeyFrame data := by
  have hmissed : startsKeyFrame (data.getD 1 0) = false := by
    rw [startsKeyFrame, Bool.and_eq_false_iff]
    refine Or.inr (decide_eq_false fun hstart ↦ ?_)
    generalize data.getD 1 0 = header at hlayer hstart
    have hbit := congrArg (BitVec.getLsbD · 7) hstart
    rw [BitVec.getLsbD_and, BitVec.getLsbD, Nat.testBit_lt_two_pow hlayer] at hbit
    exact absurd hbit (by decide)
  rw [ReadAlike, hmissed, hfragment]
  simp

/-- A short aggregation packet is taken for a key frame by the low byte of its first size. -/
theorem comesByKeyFrame_short {data : List Byte} (hlayer : 1 ≤ (data.getD 1 0).toNat)
    (hlen : data.length < 262) :
    ComesByKeyFrame data 1 ↔
      4 ≤ data.length ∧ isKeyFrameType (nalType (data.getD 3 0)) = true := by
  by_cases hroom : 4 ≤ data.length
  · have hsize : 256 ≤ sizeAt data 1 := by
      unfold sizeAt
      omega
    rw [comesByKeyFrame_iff hroom, or_iff_left (not_comesByKeyFrame (by omega)),
      and_iff_right hroom]
  · exact iff_of_false (not_comesByKeyFrame (by omega)) fun h ↦ hroom h.1

/-- Payload parsing returns, and finds a key frame exactly if it looks like one. -/
theorem payloadIsKeyFrame_iff {data : List Byte} (hlen : 2 ≤ data.length) :
    ∃ found, payloadIsKeyFrame data = .ok found ∧
      ((found = true ↔ IsKeyFrame data) ↔ ReadAlike data) := by
  obtain ⟨header, rest, rfl⟩ := List.exists_cons_of_length_pos (show 0 < data.length by omega)
  have hunit : IsKeyFrameUnit (header :: rest) ↔ isKeyFrameType (nalType header) = true := by
    simp [IsKeyFrameUnit]
  rw [payloadIsKeyFrame, get1Byte_of_lt (by omega), List.getD_cons_zero]
  simp only [IsKeyFrame, ReadAlike, hunit, List.head?_cons, Option.map_some, Option.some.injEq,
    bind, Except.bind, pure, Except.pure]
  generalize nalType header = nal
  by_cases hkey : isKeyFrameType nal = true
  · -- A NAL unit of a key frame is neither aggregated nor a fragment.
    have h48 : nal ≠ 48 := fun h ↦ by simp [h, isKeyFrameType] at hkey
    have h49 : nal ≠ 49 := fun h ↦ by simp [h, isKeyFrameType] at hkey
    rw [if_pos hkey]
    exact ⟨true, rfl, iff_of_true (iff_of_true rfl (Or.inl hkey))
      ⟨fun h ↦ absurd h h48, fun h ↦ absurd h h49⟩⟩
  rw [if_neg hkey]
  by_cases h48 : nal = 48
  · have hwhole : 1 + ((header :: rest).length - 1) = (header :: rest).length := by omega
    obtain ⟨found, hfound, hiff⟩ := aggregationLoop_eq hwhole
    rw [if_pos h48]
    refine ⟨found, hfound, ?_⟩
    rw [hiff]
    simp [h48, isKeyFrameType]
  rw [if_neg h48]
  by_cases h49 : nal = 49
  · rw [if_pos h49, get1Byte_of_lt (by omega)]
    refine ⟨_, rfl, ?_⟩
    simp [h49, isKeyFrameType]
  · rw [if_neg h49]
    refine ⟨false, rfl, iff_of_true (iff_of_false Bool.false_ne_true ?_)
      ⟨fun h ↦ absurd h h48, fun h ↦ absurd h h49⟩⟩
    rintro (h | ⟨h, -⟩ | ⟨h, -⟩)
    · exact hkey h
    · exact h48 h
    · exact h49 h

/-- A frame marking that says that a key frame starts. -/
def MarksKeyFrame (frameMarking : Option FrameMarking) : Prop :=
  ∃ marking ∈ frameMarking, marking.start = true ∧ marking.independent = true

/-- The descriptor before payload parsing. -/
theorem isKeyFrame_ofMarking (frameMarking : Option FrameMarking) (frameMarkingLen : ℕ) :
    (match frameMarking with
      | some marking => descriptorOf marking frameMarkingLen
      | none => {}).isKeyFrame = true ↔ MarksKeyFrame frameMarking := by
  cases frameMarking with
  | none => simp [MarksKeyFrame]
  | some marking => simp [MarksKeyFrame, descriptorOf]

/-- **Key frames are recognised exactly if** the frame marking says so, or if what is looked at one
byte too early is as good as what should be looked at. In any case parsing ends and reads inside the
payload. -/
theorem parse_keyFrame_iff {data : List Byte} (hlen : 2 ≤ data.length)
    (frameMarking : Option FrameMarking) (frameMarkingLen : ℕ) :
    ∃ descriptor, parse data frameMarking frameMarkingLen = .ok (some descriptor) ∧
      ((descriptor.isKeyFrame = true ↔ MarksKeyFrame frameMarking ∨ IsKeyFrame data) ↔
        MarksKeyFrame frameMarking ∨ ReadAlike data) := by
  obtain ⟨found, hfound, hiff⟩ := payloadIsKeyFrame_iff hlen
  have hmarks := isKeyFrame_ofMarking frameMarking frameMarkingLen
  unfold parse
  rw [if_neg (by omega)]
  dsimp only
  by_cases hmarked : MarksKeyFrame frameMarking
  · rw [if_pos (hmarks.mpr hmarked)]
    exact ⟨_, rfl, iff_of_true (iff_of_true (hmarks.mpr hmarked) (Or.inl hmarked))
      (Or.inl hmarked)⟩
  · rw [if_neg (mt hmarks.mp hmarked), hfound]
    exact ⟨_, rfl, by simpa only [or_iff_right hmarked] using hiff⟩

theorem parse_keyFrame_sps : ∃ descriptor,
    parse [0x42, 0x01, 0x01] none 0 = .ok (some descriptor) ∧
      (descriptor.isKeyFrame = true ↔ MarksKeyFrame none ∨ IsKeyFrame [0x42, 0x01, 0x01]) := by
  obtain ⟨descriptor, hdescriptor, hiff⟩ :=
    parse_keyFrame_iff (show 2 ≤ [0x42, 0x01, (0x01 : Byte)].length by decide) none 0
  have halike : ReadAlike [0x42, 0x01, 0x01] :=
    ⟨fun h ↦ absurd h (by decide), fun h ↦ absurd h (by decide)⟩
  exact ⟨descriptor, hdescriptor, hiff.mpr (Or.inr halike)⟩

/-- An SPS and a PPS in one payload. -/
def aggregatedSps : List Byte := [0x60, 0x01, 0x00, 0x02, 0x42, 0x01, 0x00, 0x02, 0x44, 0x01]

/-- **The first fragment of an SPS is not recognised**, nor is an SPS that is aggregated. -/
theorem not_parse_keyFrame :
    (parse [0x62, 0x01, 0xA1, 0x01] none 0 = .ok (some {}) ∧ IsKeyFrame [0x62, 0x01, 0xA1, 0x01]) ∧
      parse aggregatedSps none 0 = .ok (some {}) ∧ IsKeyFrame aggregatedSps := by
  refine ⟨⟨rfl, Or.inr (Or.inr ⟨rfl, 0xA1, rfl, rfl⟩)⟩, ?_, Or.inr (Or.inl ⟨rfl, ?_⟩)⟩
  · obtain ⟨found, hfound, hiff⟩ := aggregationLoop_eq (show 1 + 9 = aggregatedSps.length from rfl)
    have hshort := comesByKeyFrame_short (show 1 ≤ (aggregatedSps.getD 1 0).toNat by decide)
      (show aggregatedSps.length < 262 by decide)
    obtain rfl : found = false :=
      eq_false_of_ne_true fun h ↦ absurd (hshort.mp (hiff.mp h)).2 (by decide)
    have hpayload : payloadIsKeyFrame aggregatedSps = .ok false := hfound
    rw [parse, if_neg (by decide), hpayload]
    rfl
  · refine ⟨[0x42, 0x01], ?_, 0x42, rfl, rfl⟩
    rw [aggregatedSps, List.drop_succ_cons, List.drop_succ_cons, List.drop_zero, aggregatedUnits]
    exact List.mem_cons_self

end H265

end MediasoupSfu
