import MediasoupSfu.Consumer.Vp9

/-!
# Filtering layers across the wrap of the picture id

VP8 and VP9 packets whose picture id is lower than the highest one are taken as old, and old packets
are not filtered by their layers. Picture ids have 15 bits, but are compared as numbers of 16 bits.
From 32767 on the next picture id is 0, which is lower, and so is every one up to 32766 that
follows.

As long as the picture ids do not wrap, a run in order has no old packet (`checked_of_inOrder`,
`new_of_inOrder`): the highest input is never ahead of the last picture id. A packet that is checked
is filtered as it should be (`filtersLayers`). VP8 also checks only packets with a TL0PICIDX.
-/

namespace MediasoupSfu

/-! ## The highest input -/

namespace SeqManager

variable {sm : SeqManager 16} {last : ℕ} {p : BitVec 16}

/-- No 15-bit number from `last` on is lower than the highest input. -/
def Behind (last : ℕ) (sm : SeqManager 16) : Prop :=
  ∀ x : BitVec 16, last ≤ x.toNat → x.toNat < 2 ^ 15 → isSeqLowerThan x sm.maxInput = false

/-- Among 15-bit numbers the comparison is that of numbers. -/
theorem not_isSeqLowerThan_of_le {x y : BitVec 16} (hle : y.toNat ≤ x.toNat)
    (hx : x.toNat < 2 ^ 15) : isSeqLowerThan x y = false := by
  simp only [isSeqLowerThan, BitVec.lt_def, Bool.or_eq_false_iff, Bool.and_eq_false_iff,
    decide_eq_false_iff_not]
  unfold maxValue
  have hsub : (x - y).toNat = x.toNat - y.toNat := BitVec.toNat_sub_of_le hle
  omega

theorem Behind.mono {last' : ℕ} (h : sm.Behind last) (hle : last ≤ last') : sm.Behind last' :=
  fun x hx ↦ h x (hle.trans hx)

/-- A sync leaves the highest input one below the picture id, also where that is 0. -/
theorem behind_sync (sm : SeqManager 16) (hp : p.toNat < 2 ^ 15) :
    (sm.sync (p - 1)).Behind p.toNat := by
  intro x hx hlt
  change isSeqLowerThan x (p - 1) = false
  by_cases hzero : p.toNat = 0
  · have hlast : (p - 1).toNat = 2 ^ 16 - 1 := by bv_omega
    simp only [isSeqLowerThan, BitVec.lt_def, Bool.or_eq_false_iff, Bool.and_eq_false_iff,
      decide_eq_false_iff_not]
    unfold maxValue
    have hsub : (p - 1 - x).toNat = (p - 1).toNat - x.toNat :=
      BitVec.toNat_sub_of_le (BitVec.le_def.mpr (by omega))
    omega
  · have hlast : (p - 1).toNat = p.toNat - 1 := by bv_omega
    exact not_isSeqLowerThan_of_le (by omega) hlt

/-- After the sync that is due, no picture id from that of the packet on is old. -/
theorem behind_syncIf {required : Bool} (h : required = true ∨ sm.Behind last)
    (hle : last ≤ p.toNat)
    (hp : p.toNat < 2 ^ 15) : (if required then sm.sync (p - 1) else sm).Behind p.toNat := by
  cases required with
  | true => exact behind_sync sm hp
  | false => exact (h.resolve_left Bool.false_ne_true).mono hle

theorem maxInput_drop (sm : SeqManager 16) (x : BitVec 16) :
    (sm.drop x).maxInput = sm.maxInput := by
  unfold drop
  split <;> rfl

theorem maxInput_input (sm : SeqManager 16) (x : BitVec 16) :
    (sm.input x).2.maxInput = x ∨ (sm.input x).2.maxInput = sm.maxInput := by
  have hemit : ∀ (sm' : SeqManager 16) (base : BitVec 16), sm'.maxInput = sm.maxInput →
      (sm'.emit x base).2.maxInput = x ∨ (sm'.emit x base).2.maxInput = sm.maxInput := by
    intro sm' base hmax
    unfold emit
    dsimp only
    split
    · exact Or.inl rfl
    · exact Or.inr hmax
  unfold input
  dsimp only
  split
  · exact hemit _ _ rfl
  · split
    · exact hemit _ _ rfl
    · split
      · exact Or.inr rfl
      · exact hemit _ _ rfl

theorem Behind.input (h : sm.Behind last) (hle : last ≤ p.toNat) :
    (sm.input p).2.Behind p.toNat := by
  intro x hx hlt
  rcases maxInput_input sm p with hmax | hmax
  · rw [hmax]
    exact not_isSeqLowerThan_of_le hx hlt
  · rw [hmax]
    exact h x (hle.trans hx) hlt

theorem Behind.inputIf {present : Bool} (h : sm.Behind last) (hle : last ≤ p.toNat) :
    (VP8.inputIf present sm p).2.Behind p.toNat := by
  cases present
  · exact h.mono hle
  · exact h.input hle

theorem Behind.drop (h : sm.Behind last) (x : BitVec 16) : (sm.drop x).Behind last := by
  intro y hy hlt
  rw [maxInput_drop]
  exact h y hy hlt

end SeqManager

/-! ## VP8 -/

namespace VP8

/-- What happens to an encoding context. -/
inductive ContextEvent where
  | setTargetTemporalLayer (temporalLayer : ℤ)
  | setCurrentTemporalLayer (temporalLayer : ℤ)
  | syncRequired
  /-- A packet, with its payload descriptor and its payload at `data`. -/
  | process (d : PayloadDescriptor) (body : List Byte) (data : ℕ)

/-- Whether the packet is let through. -/
def letsThrough (context : EncodingContext ContextMembers) (d : PayloadDescriptor)
    (body : List Byte) (data : ℕ) : Bool :=
  match process d context body data with
  | .ok (passed, _) => passed
  | .error _ => false

/-- One event. -/
def step (context : EncodingContext ContextMembers) :
    ContextEvent → EncodingContext ContextMembers
  | .setTargetTemporalLayer temporalLayer => { context with targetTemporalLayer := temporalLayer }
  | .setCurrentTemporalLayer temporalLayer => { context with currentTemporalLayer := temporalLayer }
  | .syncRequired => { context with members := vp8.syncRequired context.members }
  | .process d body data =>
    match process d context body data with
    | .ok (_, _, context) => context
    | .error _ => context

/-- A packet that is let through is of a layer up to the target. -/
def FiltersLayers (context : EncodingContext ContextMembers) : ContextEvent → Prop
  | .process d body data => letsThrough context d body data = true →
      (vp8.getTemporalLayer d : ℤ) ≤ context.targetTemporalLayer
  | _ => True

/-- A packet of a layer above the target is checked: it has a pictureId that is not old, and a
tl0PictureIndex. -/
def Checked (context : EncodingContext ContextMembers) : ContextEvent → Prop
  | .process d _ _ => context.targetTemporalLayer < vp8.getTemporalLayer d →
      d.hasPictureId = true ∧ d.hasTl0PictureIndex = true ∧
        isSeqLowerThan d.pictureId (syncPicture d context.members).pictureIdManager.maxInput = false
  | _ => True

instance (context : EncodingContext ContextMembers) (e : ContextEvent) :
    Decidable (FiltersLayers context e) := by
  unfold FiltersLayers
  split <;> infer_instance

instance (context : EncodingContext ContextMembers) (e : ContextEvent) :
    Decidable (Checked context e) := by
  unfold Checked
  split <;> infer_instance

variable {context : EncodingContext ContextMembers} {d : PayloadDescriptor} {e : ContextEvent}

/-- A packet that exceeds the layers is not let through. -/
theorem letsThrough_of_exceedsLayers
    (h : exceedsLayers d { context with members := syncPicture d context.members } = true)
    (body : List Byte) (data : ℕ) : letsThrough context d body data = false := by
  unfold letsThrough process
  by_cases htarget : 0 ≤ context.targetTemporalLayer
  · rw [decide_eq_true htarget]
    simp only [msAssert_true, bind, Except.bind, h, if_true]
    rfl
  · rw [decide_eq_false htarget]
    rfl

theorem exceedsLayers_of_checked (hchecked : d.hasPictureId = true ∧ d.hasTl0PictureIndex = true ∧
      isSeqLowerThan d.pictureId (syncPicture d context.members).pictureIdManager.maxInput = false)
    (hlayer : context.targetTemporalLayer < vp8.getTemporalLayer d)
    (htarget : 0 ≤ context.targetTemporalLayer) :
    exceedsLayers d { context with members := syncPicture d context.members } = true := by
  obtain ⟨hpicture, htl0, hold⟩ := hchecked
  have hhas : d.hasTlIndex = true := by
    by_contra hnone
    have hzero : vp8.getTemporalLayer d = 0 := if_neg hnone
    omega
  have hindex : vp8.getTemporalLayer d = d.tlIndex.toNat := if_pos hhas
  rw [hindex] at hlayer
  simp [exceedsLayers, hpicture, hhas, htl0, hold, hlayer]

theorem filtersLayers_of_checked (h : Checked context e) : FiltersLayers context e := by
  cases e with
  | process d body data =>
    intro hpassed
    by_contra hlayer
    have hlt : context.targetTemporalLayer < vp8.getTemporalLayer d := not_le.mp hlayer
    by_cases htarget : 0 ≤ context.targetTemporalLayer
    · rw [letsThrough_of_exceedsLayers (exceedsLayers_of_checked (h hlt) hlt htarget)] at hpassed
      cases hpassed
    · unfold letsThrough process at hpassed
      rw [decide_eq_false htarget] at hpassed
      cases hpassed
  | _ => trivial

/-- What `Process` does to the manager of picture ids. -/
theorem pictureIdManager_process {body body' : List Byte} {data : ℕ} {passed : Bool}
    {context' : EncodingContext ContextMembers}
    (h : process d context body data = .ok (passed, body', context')) :
    context'.members.pictureIdManager =
        (syncPicture d context.members).pictureIdManager.drop d.pictureId ∨
      context'.members.pictureIdManager =
        (inputIf d.hasPictureId (syncPicture d context.members).pictureIdManager
          d.pictureId).2 := by
  unfold process at h
  obtain ⟨-, -, h⟩ := bind_eq_ok.mp h
  dsimp only at h
  split at h
  · cases h
    exact Or.inl rfl
  split at h
  · cases h
    exact Or.inr rfl
  split at h
  · cases h
    exact Or.inr rfl
  split at h
  · obtain ⟨body'', -, h⟩ := bind_eq_ok.mp h
    cases h
    exact Or.inr rfl
  · cases h
    exact Or.inr rfl

/-- The packets come in order, with a pictureId of 15 bits that has not wrapped and a
tl0PictureIndex. -/
def InOrder : ℕ → List ContextEvent → Prop
  | _, [] => True
  | last, .process d _ _ :: es =>
    d.hasPictureId = true ∧ d.hasTl0PictureIndex = true ∧ last ≤ d.pictureId.toNat ∧
      d.pictureId.toNat < 2 ^ 15 ∧ InOrder d.pictureId.toNat es
  | last, _ :: es => InOrder last es

/-- Either a sync is due or no packet to come is old. -/
def Fresh (last : ℕ) (context : EncodingContext ContextMembers) : Prop :=
  context.members.syncRequired = true ∨ context.members.pictureIdManager.Behind last

theorem Fresh.sync {last : ℕ} (h : Fresh last context) (hpicture : d.hasPictureId = true)
    (htl0 : d.hasTl0PictureIndex = true) (hle : last ≤ d.pictureId.toNat)
    (hlt : d.pictureId.toNat < 2 ^ 15) :
    (syncPicture d context.members).pictureIdManager.Behind d.pictureId.toNat := by
  have hsynced : (syncPicture d context.members).pictureIdManager =
      if context.members.syncRequired then
        context.members.pictureIdManager.sync (d.pictureId - 1)
      else context.members.pictureIdManager := by
    cases hsync : context.members.syncRequired <;> simp [syncPicture, hsync, hpicture, htl0]
  exact hsynced ▸ SeqManager.behind_syncIf h hle hlt

/-- **In order, nothing is old** before the picture id wraps. -/
theorem checked_of_inOrder {last : ℕ} {es : List ContextEvent} (hes : InOrder last es)
    (hcontext : Fresh last context) : Run.All step Checked context es := by
  induction es generalizing last context with
  | nil => trivial
  | cons e es ih =>
    cases e with
    | process d body data =>
      obtain ⟨hpicture, htl0, hle, hlt, hes⟩ := hes
      have hsynced := hcontext.sync hpicture htl0 hle hlt
      refine ⟨fun _ ↦ ⟨hpicture, htl0, hsynced _ le_rfl hlt⟩, ih hes ?_⟩
      unfold step
      dsimp only
      split
      · rename_i hprocess
        obtain hdrop | hinput := pictureIdManager_process hprocess
        · exact Or.inr (hdrop ▸ hsynced.drop _)
        · exact Or.inr (hinput ▸ hsynced.inputIf le_rfl)
      · exact hcontext.imp id fun hbehind ↦ hbehind.mono hle
    | setTargetTemporalLayer | setCurrentTemporalLayer => exact ⟨trivial, ih hes hcontext⟩
    | syncRequired => exact ⟨trivial, ih hes (Or.inl rfl)⟩

end VP8

/-! ## VP9 -/

namespace VP9

/-- What happens to an encoding context. -/
inductive ContextEvent where
  | setTargetSpatialLayer (spatialLayer : ℤ)
  | setTargetTemporalLayer (temporalLayer : ℤ)
  | setCurrentSpatialLayer (spatialLayer : ℤ)
  | setCurrentTemporalLayer (temporalLayer : ℤ)
  | syncRequired
  /-- A packet, with its payload descriptor and its marker. -/
  | process (d : PayloadDescriptor) (marker : Bool)

/-- One event. -/
def step (context : EncodingContext) : ContextEvent → EncodingContext
  | .setTargetSpatialLayer spatialLayer => { context with targetSpatialLayer := spatialLayer }
  | .setTargetTemporalLayer temporalLayer => { context with targetTemporalLayer := temporalLayer }
  | .setCurrentSpatialLayer spatialLayer => { context with currentSpatialLayer := spatialLayer }
  | .setCurrentTemporalLayer temporalLayer => { context with currentTemporalLayer := temporalLayer }
  | .syncRequired => { context with syncRequired := true }
  | .process d marker =>
    match process d context marker with
    | .ok (_, _, context) => context
    | .error _ => context

/-- Whether the packet is let through. -/
def letsThrough (context : EncodingContext) (d : PayloadDescriptor) (marker : Bool) : Bool :=
  match process d context marker with
  | .ok (passed, _) => passed
  | .error _ => false

/-- A packet that is let through is of layers up to the current ones afterwards. -/
def FiltersLayers (context : EncodingContext) : ContextEvent → Prop
  | .process d marker => letsThrough context d marker = true →
      (getSpatialLayer d : ℤ) ≤ (step context (.process d marker)).currentSpatialLayer ∧
        (getTemporalLayer d : ℤ) ≤ (step context (.process d marker)).currentTemporalLayer
  | _ => True

/-- The packet is not old. -/
def Checked (context : EncodingContext) : ContextEvent → Prop
  | .process d _ => isOldPacket d (syncPicture d context) = false
  | _ => True

instance (context : EncodingContext) (e : ContextEvent) : Decidable (FiltersLayers context e) := by
  unfold FiltersLayers
  split <;> infer_instance

instance (context : EncodingContext) (e : ContextEvent) : Decidable (Checked context e) := by
  unfold Checked
  split <;> infer_instance

variable {context context' : EncodingContext} {d : PayloadDescriptor} {e : ContextEvent}
  {marker marker' passed : Bool}

/-- What `Process` does to the manager of picture ids, and to the layers of a packet that is not
old. -/
theorem process_cases (h : process d context marker = .ok (passed, marker', context')) :
    (context' = context ∨
      context'.pictureIdManager = (syncPicture d context).pictureIdManager ∨
      context'.pictureIdManager =
        (VP8.inputIf d.hasPictureId (syncPicture d context).pictureIdManager d.pictureId).2) ∧
      (passed = true → isOldPacket d (syncPicture d context) = false →
        (getSpatialLayer d : ℤ) ≤ context'.currentSpatialLayer ∧
          (getTemporalLayer d : ℤ) ≤ context'.currentTemporalLayer) := by
  unfold process at h
  obtain ⟨-, -, h⟩ := bind_eq_ok.mp h
  obtain ⟨-, -, h⟩ := bind_eq_ok.mp h
  dsimp only at h
  split at h
  · cases h
    exact ⟨Or.inl rfl, nofun⟩
  split at h
  · cases h
    exact ⟨Or.inr (Or.inl rfl), nofun⟩
  rename_i hspatial
  generalize (if isOldPacket d (syncPicture d context) = true then
    (switchSpatialLayer d (syncPicture d context)).2 else
    switchTemporalLayer d (syncPicture d context)
      (switchSpatialLayer d (syncPicture d context)).2) = tmpTemporalLayer at h
  split at h
  · cases h
    exact ⟨Or.inr (Or.inl rfl), nofun⟩
  rename_i htemporal
  cases h
  refine ⟨Or.inr (Or.inr rfl), fun _ hnew ↦ ⟨?_, ?_⟩⟩
  · by_contra hlayer
    exact hspatial ⟨not_le.mp hlayer, by rw [hnew]; decide⟩
  · by_contra hlayer
    exact htemporal ⟨not_le.mp hlayer, by rw [hnew]; decide⟩

theorem filtersLayers_of_checked (h : Checked context e) : FiltersLayers context e := by
  cases e with
  | process d marker =>
    intro hpassed
    unfold letsThrough at hpassed
    unfold step
    dsimp only
    split at hpassed
    · rename_i hprocess
      rw [hprocess]
      exact (process_cases hprocess).2 hpassed h
    · cases hpassed
  | _ => trivial

/-- The packets come in order, with a pictureId of 15 bits that has not wrapped. -/
def InOrder : ℕ → List ContextEvent → Prop
  | _, [] => True
  | last, .process d _ :: es =>
    d.hasPictureId = true ∧ last ≤ d.pictureId.toNat ∧ d.pictureId.toNat < 2 ^ 15 ∧
      InOrder d.pictureId.toNat es
  | last, _ :: es => InOrder last es

/-- Either a sync is due or no packet to come is old. -/
def Fresh (last : ℕ) (context : EncodingContext) : Prop :=
  context.syncRequired = true ∨ context.pictureIdManager.Behind last

theorem Fresh.sync {last : ℕ} (h : Fresh last context) (hpicture : d.hasPictureId = true)
    (hle : last ≤ d.pictureId.toNat) (hlt : d.pictureId.toNat < 2 ^ 15) :
    (syncPicture d context).pictureIdManager.Behind d.pictureId.toNat := by
  have hsynced : (syncPicture d context).pictureIdManager =
      if context.syncRequired then context.pictureIdManager.sync (d.pictureId - 1)
      else context.pictureIdManager := by
    cases hsync : context.syncRequired <;> simp [syncPicture, hsync, hpicture]
  exact hsynced ▸ SeqManager.behind_syncIf h hle hlt

/-- **In order, nothing is old** before the picture id wraps. -/
theorem checked_of_inOrder {last : ℕ} {es : List ContextEvent} (hes : InOrder last es)
    (hcontext : Fresh last context) : Run.All step Checked context es := by
  induction es generalizing last context with
  | nil => trivial
  | cons e es ih =>
    cases e with
    | process d marker =>
      obtain ⟨hpicture, hle, hlt, hes⟩ := hes
      have hsynced := hcontext.sync hpicture hle hlt
      have hnew : isOldPacket d (syncPicture d context) = false := by
        rw [isOldPacket, hsynced _ le_rfl hlt, Bool.and_false]
      refine ⟨hnew, ih hes ?_⟩
      unfold step
      dsimp only
      split
      · rename_i hprocess
        obtain ⟨hsame | hkept | hinput, -⟩ := process_cases hprocess
        · rw [hsame]
          exact hcontext.imp id fun hbehind ↦ hbehind.mono hle
        · exact Or.inr (hkept ▸ hsynced)
        · exact Or.inr (hinput ▸ hsynced.inputIf le_rfl)
      · exact hcontext.imp id fun hbehind ↦ hbehind.mono hle
    | syncRequired => exact ⟨trivial, ih hes (Or.inl rfl)⟩
    | setTargetSpatialLayer | setTargetTemporalLayer | setCurrentSpatialLayer
      | setCurrentTemporalLayer => exact ⟨trivial, ih hes hcontext⟩

end VP9

/-! ## Both codecs -/

/-- **Layers are filtered** in every run whose packets are checked. -/
theorem filtersLayers (vp8Context : EncodingContext VP8.ContextMembers)
    (vp8Events : List VP8.ContextEvent) (vp9Context : VP9.EncodingContext)
    (vp9Events : List VP9.ContextEvent)
    (hvp8 : Run.All VP8.step VP8.Checked vp8Context vp8Events)
    (hvp9 : Run.All VP9.step VP9.Checked vp9Context vp9Events) :
    Run.All VP8.step VP8.FiltersLayers vp8Context vp8Events ∧
      Run.All VP9.step VP9.FiltersLayers vp9Context vp9Events :=
  ⟨hvp8.imp fun _ _ ↦ VP8.filtersLayers_of_checked, hvp9.imp fun _ _ ↦ VP9.filtersLayers_of_checked⟩

/-- A VP8 packet with all numbers. -/
def vp8Descriptor (pictureId : BitVec 16) (tl0PictureIndex : Byte) (tlIndex : BitVec 2) :
    VP8.PayloadDescriptor where
  extended := true
  i := true
  l := true
  pictureId := pictureId
  tl0PictureIndex := tl0PictureIndex
  tlIndex := tlIndex
  y := false
  hasPictureId := true
  hasTwoBytesPictureId := true
  hasTl0PictureIndex := true
  hasTlIndex := true

/-- A VP9 packet of the spatial layer 0. -/
def vp9Descriptor (pictureId : BitVec 16) (tlIndex : Byte) (isKeyFrame : Bool) :
    VP9.PayloadDescriptor where
  b := true
  e := true
  pictureId := pictureId
  tlIndex := tlIndex
  isKeyFrame := isKeyFrame
  hasPictureId := true
  hasSlIndex := true
  hasTlIndex := true

/-- A VP8 run: layer 0 is the target, and a frame of layer 1 follows on one of layer 0. -/
def vp8Run (pictureId : BitVec 16) : List VP8.ContextEvent :=
  [.syncRequired, .setTargetTemporalLayer 0, .setCurrentTemporalLayer 0,
    .process (vp8Descriptor pictureId 7 0) [0x90, 0xe0, 0, 0, 0, 0, 0] 0,
    .process (vp8Descriptor ((pictureId + 1) &&& 0x7fff) 7 1) [0x90, 0xe0, 0, 0, 0, 0, 0] 0]

/-- The same for VP9. -/
def vp9Run (pictureId : BitVec 16) : List VP9.ContextEvent :=
  [.syncRequired, .setTargetSpatialLayer 0, .setTargetTemporalLayer 0,
    .process (vp9Descriptor pictureId 0 true) false,
    .process (vp9Descriptor ((pictureId + 1) &&& 0x7fff) 1 false) false]

/-- Two runs that do not wrap. -/
theorem filtersLayers_below :
    Run.All VP8.step VP8.FiltersLayers { members := {} } (vp8Run 32766) ∧
      Run.All VP9.step VP9.FiltersLayers { temporalLayers := 2 } (vp9Run 32766) :=
  filtersLayers _ _ _ _ (by decide) (by decide)

/-- **The wrap.** The frame after 32767 has the picture id 0, counts as old, and is not filtered. -/
theorem not_filtersLayers_wrapped :
    ¬Run.All VP8.step VP8.FiltersLayers { members := {} } (vp8Run 32767) ∧
      ¬Run.All VP9.step VP9.FiltersLayers { temporalLayers := 2 } (vp9Run 32767) := by
  decide

end MediasoupSfu
