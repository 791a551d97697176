import MediasoupSfu.Consumer.LayerFilter
import MediasoupSfu.SeqManager.InOrder

/-!
# The base layer of VP8

A base-layer frame (temporal layer 0) is what all others depend on, so it should never be held back.
`Process` refuses a packet whose pictureId or tl0PictureIndex it has dropped before, and it drops
both numbers of a packet that it filters by its layer.

The tl0PictureIndex is not the number of that packet's frame, but of the base-layer frame it
follows. If that frame has not come yet then it is refused when it does. Dropped picture ids, having
15 bits, are never old enough to be forgotten; the frame that gets the same picture id one turn
later is refused too. If neither happens then the base layer passes (`baseLayer_passes`): nothing is
ever recorded as a dropped tl0PictureIndex, and what is recorded as a dropped pictureId was
filtered.
-/

namespace MediasoupSfu

namespace VP8

open Byte

/-! ## Parsing -/

/-- The pictureId of a descriptor, if there is room for it: its value, whether it has two bytes, and
the offset of its last byte. -/
def parsePictureId (data : List Byte) : Except Fault (Option (BitVec 16 × Bool × ℕ)) :=
  if data.length < 3 then .ok none
  else do
    let byte ← get1Byte data 2
    if byte.getLsbD 7 then
      if data.length < 4 then return none
      else
        let low ← get1Byte data 3
        return some ((byte &&& 0x7f).setWidth 16 <<< 8 + low.setWidth 16, true, 3)
    else return some ((byte &&& 0x7f).setWidth 16, false, 2)

/-- One more byte of the descriptor. -/
def parseNext (data : List Byte) (present : Bool) (offset : ℕ) :
    Except Fault (Option (Byte × ℕ)) :=
  if ¬present then .ok (some (0, offset))
  else if data.length < offset + 2 then .ok none
  else do
    let byte ← get1Byte data (offset + 1)
    return some (byte, offset + 1)

/-- The pictureId of a descriptor that has one, else an offset that is that of the flags. -/
def parseOptionalPictureId (data : List Byte) (present : Bool) :
    Except Fault (Option (BitVec 16 × Bool × ℕ)) :=
  if present then parsePictureId data else .ok (some (0, false, 1))

/-- Whether the first byte after the descriptor, if there is one, is that of a key frame. -/
def parseKeyFrame (data : List Byte) (first : Byte) (offset : ℕ) : Except Fault Bool :=
  if offset + 2 ≤ data.length ∧ first.getLsbD 4 ∧ first &&& 0x07 = 0 then do
    let byte ← get1Byte data (offset + 1)
    return !byte.getLsbD 0
  else .ok false

/-- `VP8::Parse(data, len)`; `none` where the source returns `nullptr`. -/
def parse (data : List Byte) : Except Fault (Option PayloadDescriptor) :=
  if data.length < 1 then .ok none
  else do
    let first ← get1Byte data 0
    if ¬first.getLsbD 7 then return none
    else if data.length < 2 then return none
    else
      let flags ← get1Byte data 1
      let i := flags.getLsbD 7
      let l := flags.getLsbD 6
      let hasTlIndex := flags.getLsbD 5 || flags.getLsbD 4
      match ← parseOptionalPictureId data i with
      | none => return none
      | some (pictureId, twoBytes, offset) =>
        match ← parseNext data l offset with
        | none => return none
        | some (tl0PictureIndex, offset) =>
          match ← parseNext data hasTlIndex offset with
          | none => return none
          | some (layers, offset) =>
            let isKeyFrame ← parseKeyFrame data first offset
            return some
              { extended := true
                i := i
                l := l
                pictureId := pictureId
                tl0PictureIndex := tl0PictureIndex
                tlIndex := (layers >>> 6).setWidth 2
                y := layers.getLsbD 5
                isKeyFrame := isKeyFrame
                hasPictureId := i
                hasOneBytePictureId := i && !twoBytes
                hasTwoBytesPictureId := twoBytes
                hasTl0PictureIndex := l
                hasTlIndex := hasTlIndex }

/-! ## Encoding -/

/-- The bytes up to the TL0PICIDX. -/
def encodedLength (d : PayloadDescriptor) : ℕ :=
  2 + (if d.i ∧ d.hasTwoBytesPictureId then 2 else if d.i ∧ d.hasOneBytePictureId then 1 else 0) +
    (if d.l then 1 else 0)

theorem length_of_parseNext {data : List Byte} {present : Bool} {offset offset' : ℕ} {byte : Byte}
    (h : parseNext data present offset = .ok (some (byte, offset')))
    (hoffset : offset < data.length) :
    offset' = offset + (if present then 1 else 0) ∧ offset' < data.length := by
  unfold parseNext at h
  split at h
  · rename_i hpresent
    cases h
    rw [if_neg hpresent]
    exact ⟨rfl, hoffset⟩
  split at h
  · cases h
  · rename_i hpresent hlength
    obtain ⟨b, -, h⟩ := bind_eq_ok.mp h
    cases h
    rw [if_pos (not_not.mp hpresent)]
    exact ⟨rfl, by omega⟩

theorem length_of_parseOptionalPictureId {data : List Byte} {present twoBytes : Bool}
    {pictureId : BitVec 16} {offset : ℕ} (hlength : ¬data.length < 2)
    (h : parseOptionalPictureId data present = .ok (some (pictureId, twoBytes, offset))) :
    offset = 1 + (if present ∧ twoBytes then 2 else if present then 1 else 0) ∧
      offset < data.length := by
  unfold parseOptionalPictureId parsePictureId at h
  split at h
  · rename_i hpresent
    subst hpresent
    split at h
    · cases h
    obtain ⟨b, -, h⟩ := bind_eq_ok.mp h
    split at h
    · split at h
      · cases h
      · obtain ⟨low, -, h⟩ := bind_eq_ok.mp h
        cases h
        exact ⟨rfl, by omega⟩
    · cases h
      exact ⟨rfl, by omega⟩
  · rename_i hpresent
    cases h
    rw [if_neg fun hall ↦ hpresent hall.1, if_neg hpresent]
    exact ⟨rfl, by omega⟩

/-- `Parse` has read the numbers of the descriptor, so the payload holds them. -/
theorem encodedLength_le_of_parse {data : List Byte} {d : PayloadDescriptor}
    (h : parse data = .ok (some d)) : encodedLength d ≤ data.length := by
  unfold parse at h
  split at h
  · cases h
  obtain ⟨first, -, h⟩ := bind_eq_ok.mp h
  split at h
  · cases h
  split at h
  · cases h
  rename_i hlength
  obtain ⟨flags, -, h⟩ := bind_eq_ok.mp h
  obtain ⟨picture, hpicture, h⟩ := bind_eq_ok.mp h
  split at h
  · cases h
  rename_i pictureId twoBytes offset
  obtain ⟨hoffset, hlt⟩ := length_of_parseOptionalPictureId hlength hpicture
  obtain ⟨tl0, htl0, h⟩ := bind_eq_ok.mp h
  split at h
  · cases h
  obtain ⟨htl0Offset, htl0Lt⟩ := length_of_parseNext htl0 hlt
  obtain ⟨layers, hlayers, h⟩ := bind_eq_ok.mp h
  split at h
  · cases h
  obtain ⟨isKeyFrame, -, h⟩ := bind_eq_ok.mp h
  cases h
  have hsame : ∀ i two : Bool, (if i ∧ two then 2 else if i ∧ (i && !two) then 1 else 0) =
      (if i ∧ two then 2 else if i then 1 else 0) := by decide
  unfold encodedLength
  rw [hsame]
  dsimp only
  omega

/-- A payload that holds the numbers can be rewritten. -/
theorem encode_returns {d : PayloadDescriptor} {body : List Byte} {data : ℕ}
    (h : data + encodedLength d ≤ body.length) (pictureId : BitVec 16) (tl0PictureIndex : Byte) :
    ∃ body', encode d body data pictureId tl0PictureIndex = .ok body' := by
  have hlast : ∀ (body' : List Byte) (offset : ℕ), body'.length = body.length →
      offset + (if d.l then 1 else 0) ≤ body.length →
      ∃ body'', (if d.l then writeBytes body' offset [tl0PictureIndex] else .ok body') =
        .ok body'' := by
    intro body' offset hlength hfits
    split
    · rename_i hl
      rw [if_pos hl] at hfits
      exact ⟨_, writeBytes_eq_ok (by rw [hlength]; exact hfits)⟩
    · exact ⟨_, rfl⟩
  unfold encodedLength at h
  unfold encode
  split
  · exact ⟨_, rfl⟩
  by_cases htwo : d.i ∧ d.hasTwoBytesPictureId
  · rw [if_pos htwo] at h ⊢
    have hroom : data + 2 + (Byte.set2Bytes (pictureId ||| 0x8000)).length ≤ body.length := by
      change data + 2 + 2 ≤ _
      omega
    rw [writeBytes_eq_ok hroom]
    exact hlast _ _ (Memory.length_splice hroom) (by omega)
  rw [if_neg htwo] at h ⊢
  by_cases hone : d.i ∧ d.hasOneBytePictureId
  · rw [if_pos hone] at h ⊢
    have hroom : data + 2 + [pictureId.setWidth 8].length ≤ body.length := by
      change data + 2 + 1 ≤ _
      omega
    rw [writeBytes_eq_ok hroom]
    exact hlast _ _ (Memory.length_splice hroom) (by omega)
  · rw [if_neg hone] at h ⊢
    exact hlast _ _ rfl (by omega)

/-! ## Runs -/

/-- A packet whose payload holds the numbers of its descriptor. -/
structure FramePacket where
  d : PayloadDescriptor
  body : List Byte
  data : ℕ
  fits : data + encodedLength d ≤ body.length

/-- A packet with the descriptor that `Parse` makes of its payload. -/
def FramePacket.ofPayload (payload : List Byte) (d : PayloadDescriptor)
    (h : parse payload = .ok (some d)) : FramePacket where
  d := d
  body := payload
  data := 0
  fits := (Nat.zero_add _).trans_le (encodedLength_le_of_parse h)

/-- What happens to the packets of a stream and to the layers of its consumer. -/
inductive FrameEvent where
  | setTargetTemporalLayer (temporalLayer : ℤ)
  | setCurrentTemporalLayer (temporalLayer : ℤ)
  | syncRequired
  | process (packet : FramePacket)

/-- As an event of the encoding context. -/
def FrameEvent.toContextEvent : FrameEvent → ContextEvent
  | .setTargetTemporalLayer temporalLayer => .setTargetTemporalLayer temporalLayer
  | .setCurrentTemporalLayer temporalLayer => .setCurrentTemporalLayer temporalLayer
  | .syncRequired => .syncRequired
  | .process packet => .process packet.d packet.body packet.data

/-- An encoding context, and the picture ids that were filtered since the last sync. -/
structure FrameRun where
  context : EncodingContext ContextMembers := { members := {} }
  filtered : List (BitVec 16) := []

namespace FrameRun

/-- The context of the packet, once the sync is done. -/
def synced (x : FrameRun) (d : PayloadDescriptor) : EncodingContext ContextMembers :=
  { x.context with members := syncPicture d x.context.members }

/-- What has been filtered, once the sync is done. -/
def filteredBefore (x : FrameRun) (d : PayloadDescriptor) : List (BitVec 16) :=
  if x.context.members.syncRequired ∧ d.hasPictureId ∧ d.hasTl0PictureIndex then [] else x.filtered

/-- One event. -/
def step (x : FrameRun) (e : FrameEvent) : FrameRun where
  context := VP8.step x.context e.toContextEvent
  filtered := match e with
    | .process packet =>
      if exceedsLayers packet.d (x.synced packet.d) then
        packet.d.pictureId :: x.filteredBefore packet.d
      else x.filteredBefore packet.d
    | _ => x.filtered

/-- A packet of the base layer is let through. -/
def BaseLayerPasses (x : FrameRun) : FrameEvent → Prop
  | .process packet => vp8.getTemporalLayer packet.d = 0 →
      letsThrough x.context packet.d packet.body packet.data = true
  | _ => True

/-- The target layer is set, and
- a packet is filtered only if the base-layer frame it follows has come before,
- no packet of the base layer has the pictureId of a filtered one,
- a packet of the base layer comes with a current layer, or has the sync flag. -/
def Regular (x : FrameRun) : FrameEvent → Prop
  | .process packet =>
    0 ≤ x.context.targetTemporalLayer ∧
      (exceedsLayers packet.d (x.synced packet.d) = true →
        isSeqHigherThan packet.d.tl0PictureIndex
          (x.synced packet.d).members.tl0PictureIndexManager.maxInput = false) ∧
      (vp8.getTemporalLayer packet.d = 0 →
        packet.d.pictureId ∉ x.filteredBefore packet.d ∧
          (0 ≤ x.context.currentTemporalLayer ∨ packet.d.y = true))
  | _ => True

instance (x : FrameRun) (e : FrameEvent) : Decidable (x.BaseLayerPasses e) := by
  unfold BaseLayerPasses
  split <;> infer_instance

instance (x : FrameRun) (e : FrameEvent) : Decidable (x.Regular e) := by
  unfold Regular
  split <;> infer_instance

/-! ## The invariant -/

/-- No tl0PictureIndex is recorded as dropped, and the recorded picture ids were filtered. -/
structure Inv (members : ContextMembers) (filtered : List (BitVec 16)) : Prop where
  tl0_eq : members.tl0PictureIndexManager.dropped = []
  mem_filtered : ∀ p ∈ members.pictureIdManager.dropped, p ∈ filtered

variable {x : FrameRun} {packet : FramePacket} {e : FrameEvent}

theorem Inv.sync (h : Inv x.context.members x.filtered) (d : PayloadDescriptor) :
    Inv (syncPicture d x.context.members) (x.filteredBefore d) := by
  unfold syncPicture filteredBefore
  split
  · exact ⟨rfl, nofun⟩
  · exact h

theorem Inv.drop {d : PayloadDescriptor} {members : ContextMembers} {filtered : List (BitVec 16)}
    (h : Inv members filtered)
    (hahead : isSeqHigherThan d.tl0PictureIndex members.tl0PictureIndexManager.maxInput = false) :
    Inv (dropPicture d members) (d.pictureId :: filtered) where
  tl0_eq := by
    change (members.tl0PictureIndexManager.drop d.tl0PictureIndex).dropped = []
    rw [SeqManager.drop, hahead]
    exact h.tl0_eq
  mem_filtered p hp := by
    rcases SeqManager.mem_dropped_of_mem_drop hp with rfl | hp
    · exact List.mem_cons_self
    · exact List.mem_cons_of_mem _ (h.mem_filtered p hp)

theorem inputIf_sublist {w : ℕ} (present : Bool) (manager : SeqManager w) (number : BitVec w) :
    (inputIf present manager number).2.dropped.Sublist manager.dropped := by
  cases present
  · exact List.Sublist.refl _
  · exact SeqManager.dropped_input_sublist _ _

/-- A number that is not recorded as dropped is not refused. -/
theorem inputIf_isSome {w : ℕ} {present : Bool} {manager : SeqManager w} {number : BitVec w}
    (h : number ∉ manager.dropped) (hpresent : present = true) :
    (inputIf present manager number).1.isNone = false := by
  subst hpresent
  cases hinput : (manager.input number).1 with
  | none => exact absurd (SeqManager.mem_of_input_eq_none hinput) h
  | some output => simp [inputIf, hinput]

/-- Deleting dropped numbers keeps the invariant. -/
theorem Inv.sublist {members members' : ContextMembers} {filtered : List (BitVec 16)}
    (h : Inv members filtered)
    (hpicture : members'.pictureIdManager.dropped.Sublist members.pictureIdManager.dropped)
    (htl0 : members'.tl0PictureIndexManager.dropped.Sublist
      members.tl0PictureIndexManager.dropped) : Inv members' filtered where
  tl0_eq := List.sublist_nil.mp (h.tl0_eq ▸ htl0)
  mem_filtered p hp := h.mem_filtered p (hpicture.subset hp)

/-- What becomes of a packet: it is filtered and its numbers are dropped, or they are put into the
managers and only a dropped one makes it be refused. -/
theorem process_cases {context : EncodingContext ContextMembers} {d : PayloadDescriptor}
    {body : List Byte} {data : ℕ} (htarget : 0 ≤ context.targetTemporalLayer)
    (hfits : data + encodedLength d ≤ body.length) :
    ∃ passed body' context', process d context body data = .ok (passed, body', context') ∧
      (exceedsLayers d { context with members := syncPicture d context.members } = true →
        context'.members = dropPicture d (syncPicture d context.members)) ∧
      (exceedsLayers d { context with members := syncPicture d context.members } = false →
        context'.members.pictureIdManager.dropped.Sublist
            (syncPicture d context.members).pictureIdManager.dropped ∧
          context'.members.tl0PictureIndexManager.dropped.Sublist
            (syncPicture d context.members).tl0PictureIndexManager.dropped ∧
          (d.pictureId ∉ (syncPicture d context.members).pictureIdManager.dropped →
            d.tl0PictureIndex ∉ (syncPicture d context.members).tl0PictureIndexManager.dropped →
            passed = true)) := by
  have hpicture := inputIf_sublist d.hasPictureId
    (syncPicture d context.members).pictureIdManager d.pictureId
  have htl0 := inputIf_sublist d.hasTl0PictureIndex
    (syncPicture d context.members).tl0PictureIndexManager d.tl0PictureIndex
  unfold process
  rw [decide_eq_true htarget]
  simp only [msAssert_true, bind, Except.bind]
  split
  · rename_i hexceeds
    exact ⟨_, _, _, rfl, fun _ ↦ rfl, fun hnot ↦ absurd hexceeds (by rw [hnot]; decide)⟩
  rename_i hexceeds
  split
  · rename_i hrefused
    refine ⟨_, _, _, rfl, fun h ↦ absurd h hexceeds, fun _ ↦ ⟨hpicture, List.Sublist.refl _, ?_⟩⟩
    intro hnot
    exact absurd hrefused.2 (by rw [inputIf_isSome hnot hrefused.1]; decide)
  split
  · rename_i hrefused
    refine ⟨_, _, _, rfl, fun h ↦ absurd h hexceeds, fun _ ↦ ⟨hpicture, htl0, ?_⟩⟩
    intro _ hnot
    exact absurd hrefused.2 (by rw [inputIf_isSome hnot hrefused.1]; decide)
  split
  · obtain ⟨body', hencode⟩ := encode_returns hfits _ _
    rw [hencode]
    exact ⟨_, _, _, rfl, fun h ↦ absurd h hexceeds, fun _ ↦ ⟨hpicture, htl0, fun _ _ ↦ rfl⟩⟩
  · exact ⟨_, _, _, rfl, fun h ↦ absurd h hexceeds, fun _ ↦ ⟨hpicture, htl0, fun _ _ ↦ rfl⟩⟩

/-- The base layer does not exceed the layers. -/
theorem exceedsLayers_base {context : EncodingContext ContextMembers} {d : PayloadDescriptor}
    (htarget : 0 ≤ context.targetTemporalLayer) (hlayer : vp8.getTemporalLayer d = 0)
    (hcurrent : 0 ≤ context.currentTemporalLayer ∨ d.y = true) :
    exceedsLayers d context = false := by
  by_cases hhas : d.hasTlIndex = true
  · have hindex : vp8.getTemporalLayer d = d.tlIndex.toNat := if_pos hhas
    have hzero : d.tlIndex.toNat = 0 := hindex.symm.trans hlayer
    have htargetNot : ¬context.targetTemporalLayer < (d.tlIndex.toNat : ℤ) := by omega
    unfold exceedsLayers
    rw [decide_eq_false htargetNot]
    rcases hcurrent with hcurrent | hy
    · have hcurrentNot : ¬context.currentTemporalLayer < (d.tlIndex.toNat : ℤ) := by omega
      rw [decide_eq_false hcurrentNot]
      simp
    · rw [hy]
      simp
  · simp [exceedsLayers, Bool.eq_false_of_not_eq_true hhas]

/-- **One packet** of a regular run. -/
theorem Inv.process (h : Inv x.context.members x.filtered)
    (hregular : x.Regular (.process packet)) :
    Inv (x.step (.process packet)).context.members (x.step (.process packet)).filtered ∧
      x.BaseLayerPasses (.process packet) := by
  obtain ⟨htarget, hahead, hbase⟩ := hregular
  have hsynced := h.sync packet.d
  obtain ⟨passed, body', context', hprocess, hdropped, hkept⟩ :=
    process_cases htarget packet.fits
  have hstep : (x.step (.process packet)).context = context' := by
    change VP8.step x.context (.process packet.d packet.body packet.data) = context'
    unfold VP8.step
    dsimp only
    rw [hprocess]
  rw [hstep]
  cases hexceeds : exceedsLayers packet.d (x.synced packet.d) with
  | true =>
    have hfiltered : (x.step (.process packet)).filtered =
        packet.d.pictureId :: x.filteredBefore packet.d := if_pos hexceeds
    rw [hfiltered, hdropped hexceeds]
    refine ⟨hsynced.drop (hahead hexceeds), fun hlayer ↦ ?_⟩
    have hnot : exceedsLayers packet.d (x.synced packet.d) = false :=
      exceedsLayers_base htarget hlayer (hbase hlayer).2
    rw [hexceeds] at hnot
    cases hnot
  | false =>
    have hfiltered : (x.step (.process packet)).filtered = x.filteredBefore packet.d :=
      if_neg (by rw [hexceeds]; decide)
    obtain ⟨hpicture, htl0, hpassed⟩ := hkept hexceeds
    rw [hfiltered]
    refine ⟨hsynced.sublist hpicture htl0, fun hlayer ↦ ?_⟩
    unfold letsThrough
    rw [hprocess]
    refine hpassed (fun hmem ↦ (hbase hlayer).1 (hsynced.mem_filtered _ hmem)) ?_
    rw [hsynced.tl0_eq]
    exact List.not_mem_nil

/-- **The base layer passes** in every regular run. -/
theorem baseLayer_passes (events : List FrameEvent) (hregular : Run.All step Regular {} events) :
    Run.All step BaseLayerPasses {} events := by
  have hinv : ∀ (x : FrameRun) (e : FrameEvent), Inv x.context.members x.filtered → x.Regular e →
      Inv (x.step e).context.members (x.step e).filtered ∧ x.BaseLayerPasses e := by
    intro x e h he
    cases e with
    | process packet => exact h.process he
    | setTargetTemporalLayer | setCurrentTemporalLayer | syncRequired =>
      exact ⟨⟨h.tl0_eq, h.mem_filtered⟩, trivial⟩
  exact Run.All.of_invariant (fun x ↦ Inv x.context.members x.filtered)
    (fun x e h he ↦ (hinv x e h he).1) (fun x e h he ↦ (hinv x e h he).2) ⟨rfl, nofun⟩ hregular

/-- A frame of one packet. -/
def frame (pictureId : BitVec 16) (tl0PictureIndex : Byte) (tlIndex : BitVec 2) : FrameEvent :=
  .process
    { d := vp8Descriptor pictureId tl0PictureIndex tlIndex
      body := [0x90, 0xe0, 0, 0, 0, 0, 0]
      data := 0
      fits := Nat.le_add_right 5 2 }

/-- Two frames of the base layer and one of layer 1, which is filtered. -/
theorem baseLayer_passes_inOrder :
    Run.All step BaseLayerPasses {} [.syncRequired, .setTargetTemporalLayer 0,
      .setCurrentTemporalLayer 0, frame 10 7 0, frame 11 8 0, frame 12 8 1] :=
  baseLayer_passes _ (by decide)

/-- **A reordered base-layer frame.** Frame 12 is filtered first, and with it the tl0PictureIndex of
frame 11. -/
theorem not_baseLayer_passes_reordered :
    ¬Run.All step BaseLayerPasses {} [.syncRequired, .setTargetTemporalLayer 0,
      .setCurrentTemporalLayer 0, frame 10 7 0, frame 12 8 1, frame 11 8 0] := by decide

end FrameRun

end VP8

end MediasoupSfu
