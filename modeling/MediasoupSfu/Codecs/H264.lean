import MediasoupSfu.Codecs.H265

/-!
# Key frames of H264

`H264::Parse` looks for key frames: for the parameter set (SPS) that comes before one. The header of
a payload has one byte. A STAP-A aggregates NAL units, with the size of each before it. The sizes
come from the sender, so the loop over the units goes on only while there is room for another size
and one byte, which is taken for the header of the unit.

The frame marking and the descriptor are those of H265.

## Main results

* `stapALoop_eq` : the loop over aggregated units ends, and reads inside the payload.
* `reachedHeaders_flatMap` : of units that are aggregated the headers are reached.
* `parse_isKeyFrame_iff` : which payloads are recognised as key frames.
-/

namespace MediasoupSfu

namespace H264

open H265 (FrameMarking MarksKeyFrame descriptorOf)

/-- The type of a NAL unit in its header. -/
def nalType (header : Byte) : Byte := header &&& 0x1F

/-- Whether a type is taken for that of a key frame: SPS. -/
def isKeyFrameType (nal : Byte) : Bool := nal = 7

/-- Whether a fragment with this header is the first one of a key frame. -/
def startsKeyFrame (header : Byte) : Bool :=
  isKeyFrameType (nalType header) && header &&& 0x80 = 128

/-- The loop over the NAL units of a STAP-A of which `len` bytes are left. -/
def stapALoop (data : List Byte) (offset len : ℕ) : Except Fault Bool :=
  if 3 ≤ len then do
    let naluSize ← Byte.get2Bytes data offset
    let header ← Byte.get1Byte data (offset + 2)
    if isKeyFrameType (nalType header) then return true
    -- Check if there is room for the indicated NAL unit size.
    else if len < naluSize.toNat + 2 then return false
    else stapALoop data (offset + (naluSize.toNat + 2)) (len - (naluSize.toNat + 2))
  else .ok false
termination_by len
decreasing_by
  exact Nat.sub_lt (Nat.lt_of_lt_of_le (Nat.succ_pos 2) ‹3 ≤ len›) (Nat.succ_pos _)

/-- Whether a payload looks like a key frame. -/
def payloadIsKeyFrame (data : List Byte) : Except Fault Bool := do
  let nal := nalType (← Byte.get1Byte data 0)
  -- Single NAL unit packet.
  if isKeyFrameType nal then return true
  -- Aggregation packet. STAP-A.
  else if nal = 24 then stapALoop data 1 (data.length - 1)
  -- FU-A, FU-B.
  else if nal = 28 ∨ nal = 29 then return startsKeyFrame (← Byte.get1Byte data 1)
  else return false

/-- `H264::Parse`. -/
def parse (data : List Byte) (frameMarking : Option FrameMarking) (frameMarkingLen : ℕ) :
    Except Fault (Option H265.PayloadDescriptor) :=
  if data.length < 2 then .ok none
  else
    let payloadDescriptor :=
      match frameMarking with
      | some frameMarking => descriptorOf frameMarking frameMarkingLen
      | none => {}
    -- Do payload parsing if there is no frame marking, or if no key frame was detected above.
    if payloadDescriptor.isKeyFrame then .ok (some payloadDescriptor)
    else do
      let isKeyFrame ← payloadIsKeyFrame data
      return some { payloadDescriptor with isKeyFrame := isKeyFrame }

/-! ## The units that are reached -/

/-- The headers of the NAL units of a STAP-A that are reached: those whose size and at least one
byte are there. The byte behind the size is the header, whatever the size is, and the next unit
comes after as many bytes as the size says. -/
def reachedHeaders : List Byte → List Byte
  | size₀ :: size₁ :: header :: rest =>
    header :: reachedHeaders ((header :: rest).drop (Byte.join2 size₀ size₁).toNat)
  | _ => []
termination_by data => data.length
decreasing_by
  rw [List.length_drop]
  simp only [List.length_cons]
  omega

/-- A STAP-A, after its header, that reaches a NAL unit of a key frame. -/
def ReachesKeyFrame (data : List Byte) : Prop :=
  ∃ header ∈ reachedHeaders data, isKeyFrameType (nalType header) = true

/-- **Of units that are aggregated** the headers are reached. -/
theorem reachedHeaders_flatMap {units : List (List Byte)}
    (hunits : ∀ unit ∈ units, unit ≠ [] ∧ unit.length < 2 ^ 16) :
    reachedHeaders (units.flatMap fun unit ↦
      Byte.set2Bytes (BitVec.ofNat 16 unit.length) ++ unit) = units.flatMap (List.take 1) := by
  induction units with
  | nil => simp [reachedHeaders]
  | cons unit units ih =>
    obtain ⟨⟨hne, hsize⟩, hrest⟩ := List.forall_mem_cons.mp hunits
    obtain ⟨header, body, rfl⟩ := List.exists_cons_of_ne_nil hne
    rw [List.flatMap_cons, Byte.set2Bytes]
    simp only [List.cons_append, List.nil_append]
    rw [reachedHeaders, Byte.join2_set2Bytes, BitVec.toNat_ofNat, Nat.mod_eq_of_lt hsize,
      ← List.cons_append, List.drop_left, ih hrest]
    rfl

theorem reachesKeyFrame_cons {size₀ size₁ header : Byte} {rest : List Byte} :
    ReachesKeyFrame (size₀ :: size₁ :: header :: rest) ↔
      isKeyFrameType (nalType header) = true ∨
        ReachesKeyFrame ((header :: rest).drop (Byte.join2 size₀ size₁).toNat) := by
  rw [ReachesKeyFrame, reachedHeaders, List.exists_mem_cons_iff, ReachesKeyFrame]

theorem not_reachesKeyFrame {data : List Byte} (h : data.length < 3) : ¬ReachesKeyFrame data := by
  have hnone : reachedHeaders data = [] := by
    match data with
    | [] | [_] | [_, _] => simp [reachedHeaders]
    | _ :: _ :: _ :: _ =>
      simp only [List.length_cons] at h
      omega
  rw [ReachesKeyFrame, hnone]
  exact fun ⟨_, hheader, _⟩ ↦ absurd hheader List.not_mem_nil

/-- Reading behind an offset. -/
theorem get1Byte_add (data : List Byte) (offset i : ℕ) :
    Byte.get1Byte data (offset + i) = Byte.get1Byte (data.drop offset) i := by
  rw [Byte.get1Byte, Byte.get1Byte, List.getElem?_drop]

/-- **The loop over the units** ends, reads inside the payload, and finds what is reached. -/
theorem stapALoop_eq {data : List Byte} {offset len : ℕ} (h : offset + len = data.length) :
    ∃ found, stapALoop data offset len = .ok found ∧
      (found = true ↔ ReachesKeyFrame (data.drop offset)) := by
  induction len using Nat.strongRecOn generalizing offset with
  | ind len ih =>
    have hlength : (data.drop offset).length = len := by
      rw [List.length_drop]
      omega
    rw [stapALoop]
    by_cases hlen : 3 ≤ len
    case neg =>
      rw [if_neg hlen]
      exact ⟨false, rfl, iff_of_false Bool.false_ne_true (not_reachesKeyFrame (by omega))⟩
    obtain ⟨size₀, size₁, header, rest, hdrop⟩ :
        ∃ size₀ size₁ header rest, data.drop offset = size₀ :: size₁ :: header :: rest := by
      match hdata : data.drop offset with
      | [] | [_] | [_, _] =>
        rw [hdata] at hlength
        simp only [List.length_cons, List.length_nil] at hlength
        omega
      | size₀ :: size₁ :: header :: rest => exact ⟨size₀, size₁, header, rest, rfl⟩
    have hsize : Byte.get2Bytes data offset = .ok (Byte.join2 size₀ size₁) := by
      rw [Byte.get2Bytes, ← Nat.add_zero offset, get1Byte_add, Nat.add_assoc, get1Byte_add, hdrop]
      rfl
    have hheader : Byte.get1Byte data (offset + 2) = .ok header := by
      rw [get1Byte_add, hdrop]
      rfl
    have hnext (size : ℕ) : (header :: rest).drop size = data.drop (offset + (size + 2)) := by
      rw [← List.drop_drop, hdrop]
      rfl
    rw [if_pos hlen, hsize, hheader, hdrop, reachesKeyFrame_cons, hnext]
    simp only [bind, Except.bind, pure, Except.pure]
    by_cases hkey : isKeyFrameType (nalType header) = true
    · rw [if_pos hkey]
      exact ⟨true, rfl, iff_of_true rfl (Or.inl hkey)⟩
    rw [if_neg hkey, or_iff_right hkey]
    generalize (Byte.join2 size₀ size₁).toNat = size
    by_cases hroom : len < size + 2
    · rw [if_pos hroom]
      refine ⟨false, rfl, iff_of_false Bool.false_ne_true (not_reachesKeyFrame ?_)⟩
      rw [List.length_drop]
      omega
    · rw [if_neg hroom]
      exact ih _ (by omega) (by omega)

/-! ## When a key frame is recognised -/

/-- **A payload of a key frame**, by its header and what follows: a NAL unit, a STAP-A or the first
fragment of a unit. -/
def IsKeyFrame (header : Byte) (rest : List Byte) : Prop :=
  isKeyFrameType (nalType header) = true ∨
    (nalType header = 24 ∧ ReachesKeyFrame rest) ∨
    ((nalType header = 28 ∨ nalType header = 29) ∧
      ∃ fragment ∈ rest.head?, startsKeyFrame fragment = true)

/-- Payload parsing returns, and finds a key frame if it is one. -/
theorem payloadIsKeyFrame_iff (header : Byte) {rest : List Byte} (hrest : rest ≠ []) :
    ∃ found, payloadIsKeyFrame (header :: rest) = .ok found ∧
      (found = true ↔ IsKeyFrame header rest) := by
  obtain ⟨fragment, tail, rfl⟩ := List.exists_cons_of_ne_nil hrest
  have hheader : Byte.get1Byte (header :: fragment :: tail) 0 = .ok header := rfl
  have hfragment : Byte.get1Byte (header :: fragment :: tail) 1 = .ok fragment := rfl
  rw [payloadIsKeyFrame, hheader, IsKeyFrame]
  simp only [bind, Except.bind, pure, Except.pure]
  generalize nalType header = nal
  by_cases hkey : isKeyFrameType nal = true
  · rw [if_pos hkey]
    exact ⟨true, rfl, iff_of_true rfl (Or.inl hkey)⟩
  rw [if_neg hkey, or_iff_right hkey]
  by_cases h24 : nal = 24
  · obtain ⟨found, hfound, hiff⟩ :=
      stapALoop_eq (show 1 + (fragment :: tail).length = (header :: fragment :: tail).length by
        rw [List.length_cons, List.length_cons, List.length_cons, Nat.add_comm])
    rw [if_pos h24]
    refine ⟨found, hfound, hiff.trans ?_⟩
    simp [h24]
  rw [if_neg h24]
  by_cases hfu : nal = 28 ∨ nal = 29
  · rw [if_pos hfu, hfragment]
    refine ⟨_, rfl, ?_⟩
    rw [or_iff_right (fun h ↦ h24 h.1), and_iff_right hfu]
    simp
  · rw [if_neg hfu]
    exact ⟨false, rfl, iff_of_false Bool.false_ne_true fun h ↦
      h.elim (fun h ↦ h24 h.1) fun h ↦ hfu h.1⟩

/-- **Key frames are recognised** if the frame marking says so, or if the payload is one. -/
theorem parse_isKeyFrame_iff (header : Byte) {rest : List Byte} (hrest : rest ≠ [])
    (frameMarking : Option FrameMarking) (frameMarkingLen : ℕ) :
    ∃ descriptor, parse (header :: rest) frameMarking frameMarkingLen = .ok (some descriptor) ∧
      (descriptor.isKeyFrame = true ↔ MarksKeyFrame frameMarking ∨ IsKeyFrame header rest) := by
  obtain ⟨found, hfound, hiff⟩ := payloadIsKeyFrame_iff header hrest
  have hmarks : (match frameMarking with
      | some marking => descriptorOf marking frameMarkingLen
      | none => {}).isKeyFrame = true ↔ MarksKeyFrame frameMarking :=
    H265.isKeyFrame_ofMarking frameMarking frameMarkingLen
  have hpos := List.length_pos_iff.mpr hrest
  unfold parse
  rw [if_neg (by rw [List.length_cons]; omega)]
  dsimp only
  by_cases hmarked : MarksKeyFrame frameMarking
  · rw [if_pos (hmarks.mpr hmarked)]
    exact ⟨_, rfl, iff_of_true (hmarks.mpr hmarked) (Or.inl hmarked)⟩
  · rw [if_neg (mt hmarks.mp hmarked), hfound]
    exact ⟨_, rfl, hiff.trans (or_iff_right hmarked).symm⟩

/-- **The scan of a STAP-A.** Of every payload of at least one byte, and whatever the sizes are, the
loop over the units ends and reads inside the payload, and finds a key frame exactly if a unit that
it reaches has the type of one. So a STAP-A of more than its header is a key frame exactly if the
frame marking says so or such a unit is reached. -/
theorem stapA_scan (header : Byte) (rest : List Byte) :
    (∃ found, stapALoop (header :: rest) 1 ((header :: rest).length - 1) = .ok found ∧
      (found = true ↔ ReachesKeyFrame rest)) ∧
    ∀ (frameMarking : Option FrameMarking) (frameMarkingLen : ℕ),
      ∃ result, parse (header :: rest) frameMarking frameMarkingLen = .ok result ∧
        (nalType header = 24 → ((∃ descriptor ∈ result, descriptor.isKeyFrame = true) ↔
          rest ≠ [] ∧ (MarksKeyFrame frameMarking ∨ ReachesKeyFrame rest))) := by
  constructor
  · exact stapALoop_eq (show 1 + ((header :: rest).length - 1) = (header :: rest).length by
      rw [List.length_cons]; omega)
  · intro frameMarking frameMarkingLen
    by_cases hrest : rest = []
    · rw [hrest]
      exact ⟨none, rfl, fun _ ↦ iff_of_false (fun ⟨_, h, _⟩ ↦ absurd h (Option.not_mem_none _))
        fun h ↦ h.1 rfl⟩
    · obtain ⟨descriptor, hparse, hiff⟩ :=
        parse_isKeyFrame_iff header hrest frameMarking frameMarkingLen
      refine ⟨some descriptor, hparse, fun h24 ↦ ?_⟩
      have hkeyFrame : IsKeyFrame header rest ↔ ReachesKeyFrame rest := by
        simp [IsKeyFrame, h24, isKeyFrameType]
      rw [and_iff_right hrest, ← hkeyFrame, ← hiff]
      simp

/-- A PPS, and a SPS whose size is too large. -/
theorem stapA_scan_oversized :
    ∃ result, parse [24, 0, 1, 0x68, 0xFF, 0xFF, 0x67] none 0 = .ok result ∧
      ∃ descriptor ∈ result, descriptor.isKeyFrame = true := by
  obtain ⟨result, hparse, hiff⟩ := (stapA_scan 24 [0, 1, 0x68, 0xFF, 0xFF, 0x67]).2 none 0
  refine ⟨result, hparse, (hiff rfl).mpr ⟨List.cons_ne_nil _ _, Or.inr ?_⟩⟩
  refine ⟨0x67, ?_, rfl⟩
  have hfirst : reachedHeaders [0, 1, 0x68, 0xFF, 0xFF, 0x67] =
      0x68 :: reachedHeaders [0xFF, 0xFF, 0x67] := by
    rw [reachedHeaders]
    rfl
  rw [hfirst, reachedHeaders]
  exact List.mem_cons_of_mem _ List.mem_cons_self

end H264

end MediasoupSfu
