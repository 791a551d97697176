import Mathlib.Algebra.Order.Field.Rat
import Mathlib.Data.List.Range
import MediasoupSfu.Utils.Byte

/-!
# Increasing the layers of a consumer

When the bitrate of a transport is distributed, `IncreaseLayer(bitrate, considerLoss)` asks a
consumer to take the next higher layers if it can, and returns how much of the bitrate it uses. The
layers are provisional until the distribution is over. What a consumer with simulcast or SVC does is
the same up to what it looks at for one spatial layer:

* the spatial layers are tried upwards from the provisional one (`searchLayers`), and of each only
  the first temporal layer that is higher than the provisional layers (`nextTemporalLayer`);
* the first layers with a bitrate are taken if the virtual bitrate is enough (`settle`).

So a call either changes nothing and returns zero, or it moves the provisional layers up in the
lexicographic order, within the layers of the producer, and returns a positive part of the bitrate
(`SimulcastConsumer.increaseLayer_spec`, `SvcConsumer.increaseLayer_spec`).

The virtual bitrate is a product of floating-point numbers if losses are considered. These products
are a parameter, of which only that zero times a number is zero is used. The clock and the bitrates
of the producer are those at the time of the distribution.
-/

namespace MediasoupSfu

namespace Bwe

/-! ## What is read of the producer -/

/-- A spatial and a temporal layer, both -1 for none. -/
structure Layers where
  spatial : ℤ := -1
  temporal : ℤ := -1
  deriving DecidableEq, Repr

/-- The lexicographic order. -/
def Layers.Below (a b : Layers) : Prop :=
  a.spatial < b.spatial ∨ a.spatial = b.spatial ∧ a.temporal < b.temporal

/-- What is read of a stream of the producer. -/
structure ProducerStream where
  /-- `GetScore()`. -/
  score : ℕ
  spatialLayers : ℕ := 1
  temporalLayers : ℕ := 1
  /-- `GetActiveMs()`. -/
  activeMs : ℕ := 0
  senderReportNtpMs : BitVec 64 := 0
  /-- `GetBitrate(nowMs)`. -/
  bitrate : ℕ := 0
  /-- The counters of the layers at `nowMs`. -/
  layerBitrate : ℕ → ℕ → ℕ := fun _ _ ↦ 0

/-- `GetLayerBitrate(nowMs, spatialLayer, temporalLayer)`. -/
def ProducerStream.getLayerBitrate (stream : ProducerStream) (spatialLayer temporalLayer : ℕ) :
    Except Fault ℕ := do
  msAssert (spatialLayer < stream.spatialLayers) "spatialLayer too high"
  msAssert (temporalLayer < stream.temporalLayers) "temporalLayer too high"
  return stream.layerBitrate spatialLayer temporalLayer

/-- A pointer is dereferenced. -/
def deref (stream : Option ProducerStream) : Except Fault ProducerStream :=
  match stream with
  | none => .error .nullPointer
  | some stream => .ok stream

/-! ## What is common -/

/-- Products of floating-point numbers, converted to integers. -/
structure FloatProducts where
  /-- `1.08 * bitrate`. -/
  more : ℕ → ℕ
  /-- `(1 - 0.5 * (lossPercentage / 100)) * bitrate`. -/
  less : ℚ → ℕ → ℕ
  more_zero : more 0 = 0
  less_zero : ∀ lossPercentage, less lossPercentage 0 = 0

/-- The virtual available bitrate, based on the given bitrate and our packet lost. -/
def virtualBitrate (products : FloatProducts) (lossPercentage : ℚ) (bitrate : ℕ)
    (considerLoss : Bool) : ℕ :=
  if considerLoss then
    if lossPercentage < 2 then products.more bitrate
    else if 10 < lossPercentage then products.less lossPercentage bitrate
    else bitrate
  else bitrate

/-- What comes of trying a spatial layer. -/
inductive LayerTest
  /-- Go on with the next spatial layer. -/
  | skipped
  /-- The temporal layers have been looked at, and there is no active one. -/
  | inactive
  | active (temporalLayer requiredBitrate : ℕ)

/-- The first temporal layer that is not ignored: those that we already have are, taking into
account the spatial layer too. -/
def nextTemporalLayer (provisional : Layers) (spatialLayer : ℤ) (temporalLayers : ℕ) : Option ℕ :=
  (List.range temporalLayers).find? fun temporalLayer ↦
    !(spatialLayer = provisional.spatial && (temporalLayer : ℤ) ≤ provisional.temporal)

/-- Check the bitrate of the next temporal layer. If it is not active there is no other one. -/
def testTemporalLayers (provisional : Layers) (stream : ProducerStream) (spatialLayer : ℤ)
    (required : ℕ → Except Fault ℕ) : Except Fault LayerTest :=
  match nextTemporalLayer provisional spatialLayer stream.temporalLayers with
  | none => .ok .inactive
  | some temporalLayer => do
    let requiredBitrate ← required temporalLayer
    return if requiredBitrate ≠ 0 then .active temporalLayer requiredBitrate else .inactive

/-- The loop over the spatial layers, of which some are left: the layers to take and the bitrate
that they require. -/
def searchLayers (avoided : ℤ → Bool) (provisional preferred : Layers)
    (test : ℤ → Except Fault LayerTest) : ℕ → ℤ → Except Fault (Option (Layers × ℕ))
  | 0, _ => .ok none
  | left + 1, spatialLayer =>
    -- Avoid upgrading due to recent BWE downgrade.
    if avoided spatialLayer then .ok none
    -- Ignore spatial layers lower than the one we already have.
    else if spatialLayer < provisional.spatial then
      searchLayers avoided provisional preferred test left (spatialLayer + 1)
    else do
      match ← test spatialLayer with
      | .skipped => searchLayers avoided provisional preferred test left (spatialLayer + 1)
      | .active temporalLayer requiredBitrate =>
        return some (⟨spatialLayer, temporalLayer⟩, requiredBitrate)
      | .inactive =>
        -- If this is the preferred or higher spatial layer, take it and exit.
        if preferred.spatial ≤ spatialLayer then return none
        else searchLayers avoided provisional preferred test left (spatialLayer + 1)

/-- What follows the search: the bitrate that is returned, and the provisional layers. -/
def settle (bitrate virtualBitrate : ℕ) (provisional : Layers) :
    Option (Layers × ℕ) → ℕ × Layers
  -- No higher active layers found.
  | none => (0, provisional)
  | some (layers, requiredBitrate) =>
    -- No luck.
    if virtualBitrate < requiredBitrate then (0, provisional)
    else if requiredBitrate ≤ bitrate then (requiredBitrate, layers)
    else if requiredBitrate ≤ virtualBitrate then (bitrate, layers)
    else (requiredBitrate, layers)

/-- The members of `RTC::Consumer`. -/
structure ConsumerBase where
  /-- `RTC::Consumer::IsActive()`. -/
  baseActive : Bool := true
  priority : BitVec 8 := 1
  externallyManagedBitrate : Bool := true

/-! ## The consumer with simulcast -/

/-- The members of `SimulcastConsumer` that `IncreaseLayer` works on, and what it reads of its
stream. -/
structure SimulcastConsumer extends ConsumerBase where
  producerRtpStreams : List (Option ProducerStream)
  preferred : Layers
  provisional : Layers := {}
  currentSpatialLayer : ℤ := -1
  tsReferenceSpatialLayer : ℤ := -1
  lastBweDowngradeAtMs : BitVec 64 := 0
  nowMs : BitVec 64 := 0
  lossPercentage : ℚ := 0

def streamGoodScore : ℕ := 5

def streamMinActiveMs : ℕ := 2000

def bweDowngradeConservativeMs : BitVec 64 := 10000

namespace SimulcastConsumer

/-- `IsActive()`. -/
def isActive (s : SimulcastConsumer) : Bool :=
  s.baseActive && s.producerRtpStreams.any fun stream ↦ stream.any fun stream ↦ 0 < stream.score

/-- `this->producerRtpStreams.at(spatialLayer)`. -/
def streamAt (s : SimulcastConsumer) (spatialLayer : ℤ) : Except Fault (Option ProducerStream) :=
  if spatialLayer < 0 then .error .outOfRange
  else match s.producerRtpStreams[spatialLayer.toNat]? with
    | none => .error .outOfRange
    | some stream => .ok stream

/-- `CanSwitchToSpatialLayer(spatialLayer)`. -/
def canSwitchToSpatialLayer (s : SimulcastConsumer) (spatialLayer : ℤ) : Except Fault Bool := do
  let stream ← s.streamAt spatialLayer
  msAssert stream.isSome "no Producer RtpStream for the given spatialLayer"
  if s.tsReferenceSpatialLayer = -1 ∨ spatialLayer = s.tsReferenceSpatialLayer then return true
  else
    let reference ← deref (← s.streamAt s.tsReferenceSpatialLayer)
    let stream ← deref stream
    return reference.senderReportNtpMs ≠ 0 && stream.senderReportNtpMs ≠ 0

/-- This is higher than the current spatial layer, and we moved to it due to BWE limitations not
long ago. -/
def avoided (s : SimulcastConsumer) (spatialLayer : ℤ) : Bool :=
  s.nowMs - s.lastBweDowngradeAtMs < bweDowngradeConservativeMs &&
    (-1 < s.provisional.spatial && s.currentSpatialLayer < spatialLayer)

/-- The stream has not been active time enough, and the one for the provisional spatial layer
has. -/
def tooNew (s : SimulcastConsumer) (stream : ProducerStream) (spatialLayer : ℤ) :
    Except Fault Bool :=
  if spatialLayer ≠ s.provisional.spatial ∧ s.provisional.spatial ≠ -1 ∧
      stream.activeMs < streamMinActiveMs then do
    let provisionalStream ← deref (← s.streamAt s.provisional.spatial)
    return streamMinActiveMs ≤ provisionalStream.activeMs
  else .ok false

/-- This is simulcast so we must substract the bitrate of the provisional layers if this is the
temporal layer 0 of a higher spatial layer. -/
def requiredBitrate (s : SimulcastConsumer) (stream : ProducerStream) (spatialLayer : ℤ)
    (temporalLayer : ℕ) : Except Fault ℕ := do
  let required ← stream.getLayerBitrate 0 temporalLayer
  if required ≠ 0 ∧ temporalLayer = 0 ∧ -1 < s.provisional.spatial ∧
      s.provisional.spatial < spatialLayer then
    let provisionalStream ← deref (← s.streamAt s.provisional.spatial)
    let provisionalRequired ← provisionalStream.getLayerBitrate 0 s.provisional.temporal.toNat
    -- Don't set 0 since it would be ignored.
    return if provisionalRequired < required then required - provisionalRequired else 1
  else return required

/-- What the loop does with a spatial layer that is not lower than the provisional one. -/
def testSpatialLayer (s : SimulcastConsumer) (spatialLayer : ℤ) : Except Fault LayerTest := do
  match ← s.streamAt spatialLayer with
  | none => return .skipped
  | some stream =>
    if stream.score < streamGoodScore then return .skipped
    else if ← s.tooNew stream spatialLayer then return .skipped
    else if !(← s.canSwitchToSpatialLayer spatialLayer) then return .skipped
    else
      testTemporalLayers s.provisional stream spatialLayer (s.requiredBitrate stream spatialLayer)

/-- `IncreaseLayer(bitrate, considerLoss)`. -/
def increaseLayer (products : FloatProducts) (s : SimulcastConsumer) (bitrate : ℕ)
    (considerLoss : Bool) : Except Fault (ℕ × SimulcastConsumer) := do
  msAssert s.externallyManagedBitrate "bitrate is not externally managed"
  msAssert s.isActive "should be active"
  -- If already in the preferred layers, do nothing.
  if s.provisional = s.preferred then return (0, s)
  else
    let found ← searchLayers s.avoided s.provisional s.preferred s.testSpatialLayer
      s.producerRtpStreams.length 0
    let (used, provisional) :=
      settle bitrate (virtualBitrate products s.lossPercentage bitrate considerLoss) s.provisional
        found
    return (used, { s with provisional := provisional })

end SimulcastConsumer

/-! ## The consumer with SVC -/

/-- The members of `SvcConsumer` that `IncreaseLayer` works on, and what it reads of its stream. -/
structure SvcConsumer extends ConsumerBase where
  producerRtpStream : Option ProducerStream
  preferred : Layers
  provisional : Layers := {}
  /-- `encodingContext->GetCurrentSpatialLayer()`. -/
  currentSpatialLayer : ℤ := -1
  lastBweDowngradeAtMs : BitVec 64 := 0
  nowMs : BitVec 64 := 0
  lossPercentage : ℚ := 0

namespace SvcConsumer

/-- `IsActive()`. -/
def isActive (s : SvcConsumer) : Bool :=
  s.baseActive && s.producerRtpStream.any fun stream ↦ 0 < stream.score

/-- As for simulcast. -/
def avoided (s : SvcConsumer) (spatialLayer : ℤ) : Bool :=
  s.nowMs - s.lastBweDowngradeAtMs < bweDowngradeConservativeMs &&
    (-1 < s.provisional.spatial && s.currentSpatialLayer < spatialLayer)

/-- What the loop does with a spatial layer that is not lower than the provisional one. -/
def testSpatialLayer (s : SvcConsumer) (stream : ProducerStream) (spatialLayer : ℤ) :
    Except Fault LayerTest :=
  testTemporalLayers s.provisional stream spatialLayer
    (stream.getLayerBitrate spatialLayer.toNat)

/-- `IncreaseLayer(bitrate, considerLoss)`. -/
def increaseLayer (products : FloatProducts) (s : SvcConsumer) (bitrate : ℕ)
    (considerLoss : Bool) : Except Fault (ℕ × SvcConsumer) := do
  msAssert s.externallyManagedBitrate "bitrate is not externally managed"
  msAssert s.isActive "should be active"
  let stream ← deref s.producerRtpStream
  if stream.score = 0 then return (0, s)
  -- If already in the preferred layers, do nothing.
  else if s.provisional = s.preferred then return (0, s)
  else
    let found ← searchLayers s.avoided s.provisional s.preferred (s.testSpatialLayer stream)
      stream.spatialLayers 0
    let (used, provisional) :=
      settle bitrate (virtualBitrate products s.lossPercentage bitrate considerLoss) s.provisional
        found
    return (used, { s with provisional := provisional })

end SvcConsumer

/-! ## The other consumers -/

/-- The members of `SimpleConsumer` that `IncreaseLayer` works on. -/
structure SimpleConsumer extends ConsumerBase where
  /-- `kind` is `RTC::Media::Kind::VIDEO`. -/
  video : Bool
  producerRtpStream : Option ProducerStream
  managingBitrate : Bool := false

namespace SimpleConsumer

/-- `IsActive()`. -/
def isActive (s : SimpleConsumer) : Bool :=
  s.baseActive && s.producerRtpStream.any fun stream ↦ 0 < stream.score

/-- `IncreaseLayer(bitrate, considerLoss)`. -/
def increaseLayer (s : SimpleConsumer) (bitrate : ℕ) : Except Fault (ℕ × SimpleConsumer) := do
  msAssert s.externallyManagedBitrate "bitrate is not externally managed"
  msAssert s.video "should be video"
  msAssert s.isActive "should be active"
  -- This is not the first time the method is called within the same iteration.
  if s.managingBitrate then return (0, s)
  else
    let stream ← deref s.producerRtpStream
    return (if stream.bitrate < bitrate then stream.bitrate else bitrate,
      { s with managingBitrate := true })

end SimpleConsumer

/-- The consumers of a transport. A `PipeConsumer` does not play the BWE game. -/
inductive Consumer
  | simple (s : SimpleConsumer)
  | simulcast (s : SimulcastConsumer)
  | svc (s : SvcConsumer)
  | pipe (s : ConsumerBase)

namespace Consumer

/-- `GetBitratePriority()`. -/
def getBitratePriority : Consumer → Except Fault (BitVec 8)
  | simple s => do
    msAssert s.externallyManagedBitrate "bitrate is not externally managed"
    -- Audio SimpleConsumer does not play the BWE game.
    return if !s.video then 0 else if !s.isActive then 0 else s.priority
  | simulcast s => do
    msAssert s.externallyManagedBitrate "bitrate is not externally managed"
    return if !s.isActive then 0 else s.priority
  | svc s => do
    msAssert s.externallyManagedBitrate "bitrate is not externally managed"
    return if !s.isActive then 0 else s.priority
  | pipe _ => .ok 0

/-- `IncreaseLayer(bitrate, considerLoss)`. -/
def increaseLayer (products : FloatProducts) (considerLoss : Bool) (c : Consumer) (bitrate : ℕ) :
    Except Fault (ℕ × Consumer) :=
  match c with
  | simple s => do
    let (used, t) ← s.increaseLayer bitrate
    return (used, simple t)
  | simulcast s => do
    let (used, t) ← s.increaseLayer products bitrate considerLoss
    return (used, simulcast t)
  | svc s => do
    let (used, t) ← s.increaseLayer products bitrate considerLoss
    return (used, svc t)
  | pipe s => .ok (0, pipe s)

end Consumer

/-! ## The search -/

variable {provisional preferred layers : Layers} {bitrate virtual : ℕ}

theorem Layers.not_below_self (a : Layers) : ¬a.Below a := by
  unfold Layers.Below
  omega

/-- The virtual bitrate of nothing. -/
theorem virtualBitrate_zero_of (products : FloatProducts) (lossPercentage : ℚ) (considerLoss : Bool)
    (h : bitrate = 0) : virtualBitrate products lossPercentage bitrate considerLoss = 0 := by
  subst h
  unfold virtualBitrate
  split
  · split
    · exact products.more_zero
    · split
      · exact products.less_zero _
      · rfl
  · rfl

theorem ProducerStream.getLayerBitrate_eq (stream : ProducerStream) {spatialLayer t : ℕ}
    (hspatial : spatialLayer < stream.spatialLayers) (ht : t < stream.temporalLayers) :
    stream.getLayerBitrate spatialLayer t = .ok (stream.layerBitrate spatialLayer t) := by
  rw [getLayerBitrate, decide_eq_true hspatial, decide_eq_true ht]
  rfl

/-- The next temporal layer is one of the stream and is higher. -/
theorem of_nextTemporalLayer {spatialLayer : ℤ} {temporalLayers t : ℕ}
    (h : nextTemporalLayer provisional spatialLayer temporalLayers = some t) :
    t < temporalLayers ∧ (spatialLayer = provisional.spatial → provisional.temporal < t) := by
  have hmem := List.mem_of_find?_eq_some h
  have hhigher := List.find?_some h
  refine ⟨List.mem_range.mp hmem, fun heq ↦ ?_⟩
  simp only [heq, decide_true, Bool.true_and, Bool.not_eq_true', decide_eq_false_iff_not] at hhigher
  omega

/-- **The temporal layers** of a spatial layer. -/
theorem testTemporalLayers_spec (provisional : Layers) (stream : ProducerStream) (spatialLayer : ℤ)
    (required : ℕ → Except Fault ℕ)
    (hrequired : ∀ t, t < stream.temporalLayers → ∃ b, required t = .ok b) :
    ∃ test, testTemporalLayers provisional stream spatialLayer required = .ok test ∧
      ∀ t b, test = .active t b → 0 < b ∧ t < stream.temporalLayers ∧
        (spatialLayer = provisional.spatial → provisional.temporal < t) := by
  unfold testTemporalLayers
  cases hnext : nextTemporalLayer provisional spatialLayer stream.temporalLayers with
  | none => exact ⟨.inactive, rfl, nofun⟩
  | some t =>
    obtain ⟨hlt, hhigher⟩ := of_nextTemporalLayer hnext
    obtain ⟨b, hb⟩ := hrequired t hlt
    dsimp only
    rw [hb]
    refine ⟨_, rfl, fun t' b' htest ↦ ?_⟩
    split at htest
    · rename_i hne
      obtain ⟨rfl, rfl⟩ := LayerTest.active.inj htest
      exact ⟨Nat.pos_of_ne_zero hne, hlt, hhigher⟩
    · cases htest

/-- **The spatial layers.** What is found has been tried. -/
theorem searchLayers_spec (avoided : ℤ → Bool) (provisional preferred : Layers)
    (test : ℤ → Except Fault LayerTest) (P : ℤ → ℕ → ℕ → Prop) (left : ℕ) (first : ℤ)
    (htest : ∀ spatialLayer, first ≤ spatialLayer → spatialLayer < first + left →
      provisional.spatial ≤ spatialLayer → ∃ result, test spatialLayer = .ok result ∧
        ∀ t b, result = .active t b → P spatialLayer t b) :
    ∃ found, searchLayers avoided provisional preferred test left first = .ok found ∧
      ∀ layers b, found = some (layers, b) → provisional.spatial ≤ layers.spatial ∧
        ∃ t : ℕ, layers.temporal = t ∧ P layers.spatial t b := by
  induction left generalizing first with
  | zero => exact ⟨none, rfl, nofun⟩
  | succ left ih =>
    have hnext := ih (first + 1) fun spatialLayer hge hlt hprovisional ↦
      htest spatialLayer (by omega) (by omega) hprovisional
    rw [searchLayers]
    split
    · exact ⟨none, rfl, nofun⟩
    · split
      · exact hnext
      · rename_i hge
        obtain ⟨result, hresult, hactive⟩ := htest first le_rfl (by omega) (by omega)
        rw [hresult]
        cases result with
        | skipped => exact hnext
        | active t b =>
          refine ⟨_, rfl, fun layers b' hfound ↦ ?_⟩
          obtain ⟨rfl, rfl⟩ := Prod.mk.inj (Option.some.inj hfound)
          exact ⟨not_lt.mp hge, t, rfl, hactive t b rfl⟩
        | inactive =>
          change ∃ found, (if preferred.spatial ≤ first then _ else _) = _ ∧ _
          split
          · exact ⟨none, rfl, nofun⟩
          · exact hnext

/-- What `IncreaseLayer` promises: a part of the bitrate, which is positive if and only if the
provisional layers move up, and then to layers of the producer. -/
structure Increases (HasLayers : Layers → Prop) (bitrate : ℕ) (before : Layers) (used : ℕ)
    (after : Layers) : Prop where
  used_le : used ≤ bitrate
  pos_iff : 0 < used ↔ before.Below after
  unchanged : used = 0 → after = before
  hasLayers : after = before ∨ HasLayers after

/-- What the layers have before they have afterwards, be they layers of the producer or none. -/
theorem Increases.keeps {HasLayers : Layers → Prop} {before after : Layers} {used : ℕ}
    (h : Increases HasLayers bitrate before used after)
    (hbefore : before = {} ∨ HasLayers before) : after = {} ∨ HasLayers after := by
  rcases h.hasLayers with rfl | hlayers
  · exact hbefore
  · exact Or.inr hlayers

/-- Nothing is used and nothing changes. -/
theorem Increases.zero (HasLayers : Layers → Prop) (bitrate : ℕ) (layers : Layers) :
    Increases HasLayers bitrate layers 0 layers :=
  ⟨Nat.zero_le _, by simp [layers.not_below_self], fun _ ↦ rfl, Or.inl rfl⟩

/-- **The end of `IncreaseLayer`**, whatever the virtual bitrate is. -/
theorem settle_spec {HasLayers : Layers → Prop} {found : Option (Layers × ℕ)}
    (hvirtual : bitrate = 0 → virtual = 0)
    (hfound : ∀ layers b, found = some (layers, b) →
      0 < b ∧ provisional.Below layers ∧ HasLayers layers) :
    Increases HasLayers bitrate provisional (settle bitrate virtual provisional found).1
      (settle bitrate virtual provisional found).2 := by
  cases found with
  | none => exact .zero _ _ _
  | some candidate =>
    obtain ⟨layers, b⟩ := candidate
    obtain ⟨hpos, hbelow, hlayers⟩ := hfound layers b rfl
    rw [settle]
    split
    · exact .zero _ _ _
    · -- there is a bitrate, as the virtual one is not zero
      rename_i henough
      have hbitrate : 0 < bitrate := by omega
      split
      · rename_i hle
        exact ⟨hle, by simp [hpos, hbelow], by omega, Or.inr hlayers⟩
      · rw [if_pos (by omega)]
        exact ⟨le_rfl, by simp [hbitrate, hbelow], by omega, Or.inr hlayers⟩

/-- **The search and what follows it**, for layers each of which can be tried. -/
theorem search_settle_spec (avoided : ℤ → Bool) (provisional preferred : Layers)
    (test : ℤ → Except Fault LayerTest) (n : ℕ) {HasLayers : Layers → Prop}
    (hvirtual : bitrate = 0 → virtual = 0)
    (htest : ∀ spatialLayer : ℤ, 0 ≤ spatialLayer → spatialLayer < n →
      ∃ result, test spatialLayer = .ok result ∧ ∀ t b, result = .active t b →
        0 < b ∧ (spatialLayer = provisional.spatial → provisional.temporal < t) ∧
          HasLayers ⟨spatialLayer, t⟩) :
    ∃ found, searchLayers avoided provisional preferred test n 0 = .ok found ∧
      Increases HasLayers bitrate provisional (settle bitrate virtual provisional found).1
        (settle bitrate virtual provisional found).2 := by
  obtain ⟨found, hsearch, hfound⟩ := searchLayers_spec avoided provisional preferred test
    (fun spatialLayer t b ↦ 0 < b ∧
      (spatialLayer = provisional.spatial → provisional.temporal < t) ∧
        HasLayers ⟨spatialLayer, t⟩) n 0
    fun spatialLayer hge hlt _ ↦ htest spatialLayer hge (by omega)
  refine ⟨found, hsearch, settle_spec hvirtual fun layers b hsome ↦ ?_⟩
  obtain ⟨hge, t, ht, hpos, hhigher, hlayers⟩ := hfound layers b hsome
  rw [← ht] at hhigher hlayers
  refine ⟨hpos, ?_, hlayers⟩
  rcases hge.lt_or_eq with hlt | heq
  · exact Or.inl hlt
  · exact Or.inr ⟨heq, hhigher heq.symm⟩

/-! ## Simulcast -/

namespace SimulcastConsumer

variable {s : SimulcastConsumer}

/-- Layers of the producer. -/
def HasLayers (s : SimulcastConsumer) (layers : Layers) : Prop :=
  0 ≤ layers.spatial ∧ 0 ≤ layers.temporal ∧
    ∃ stream, s.producerRtpStreams[layers.spatial.toNat]? = some (some stream) ∧
      layers.temporal < stream.temporalLayers

/-- What holds of a consumer between the calls: the transport has told it that it manages the
bitrate, the provisional layers and the reference for the timestamps are of streams that exist, and
a stream has a spatial layer. -/
structure WellFormed (s : SimulcastConsumer) : Prop where
  managed : s.externallyManagedBitrate = true
  provisional : s.provisional = {} ∨ s.HasLayers s.provisional
  reference : s.tsReferenceSpatialLayer = -1 ∨
    ∃ stream, s.streamAt s.tsReferenceSpatialLayer = .ok (some stream)
  spatialLayers : ∀ stream, some stream ∈ s.producerRtpStreams → 0 < stream.spatialLayers

theorem streamAt_eq {spatialLayer : ℤ} (hge : 0 ≤ spatialLayer) {stream : Option ProducerStream}
    (h : s.producerRtpStreams[spatialLayer.toNat]? = some stream) :
    s.streamAt spatialLayer = .ok stream := by
  rw [streamAt, if_neg (by omega), h]

/-- The stream of the provisional layers. -/
theorem WellFormed.provisionalStream (h : s.WellFormed) (hspatial : s.provisional.spatial ≠ -1) :
    ∃ stream, s.streamAt s.provisional.spatial = .ok (some stream) ∧ 0 < stream.spatialLayers ∧
      s.provisional.temporal.toNat < stream.temporalLayers := by
  rcases h.provisional with hnone | ⟨hge, htemporal, stream, hstream, hlt⟩
  · exact absurd (congrArg Layers.spatial hnone) hspatial
  · exact ⟨stream, streamAt_eq hge hstream, h.spatialLayers stream (List.mem_of_getElem? hstream),
      by omega⟩

theorem WellFormed.tooNew (h : s.WellFormed) (stream : ProducerStream) (spatialLayer : ℤ) :
    ∃ answer, s.tooNew stream spatialLayer = .ok answer := by
  unfold SimulcastConsumer.tooNew
  split
  · rename_i hif
    obtain ⟨provisionalStream, hstream, -⟩ := h.provisionalStream hif.2.1
    rw [hstream]
    exact ⟨_, rfl⟩
  · exact ⟨false, rfl⟩

theorem WellFormed.canSwitchToSpatialLayer (h : s.WellFormed) {spatialLayer : ℤ}
    {stream : ProducerStream} (hstream : s.streamAt spatialLayer = .ok (some stream)) :
    ∃ answer, s.canSwitchToSpatialLayer spatialLayer = .ok answer := by
  rw [SimulcastConsumer.canSwitchToSpatialLayer, hstream]
  simp only [bind, Except.bind, Option.isSome_some, msAssert_true]
  split
  · exact ⟨true, rfl⟩
  · rename_i hreference
    rcases h.reference with hnone | ⟨reference, hsome⟩
    · exact absurd (Or.inl hnone) hreference
    · rw [hsome]
      exact ⟨_, rfl⟩

theorem WellFormed.requiredBitrate (h : s.WellFormed) {stream : ProducerStream} {spatialLayer : ℤ}
    {t : ℕ} (hspatial : 0 < stream.spatialLayers) (ht : t < stream.temporalLayers) :
    ∃ b, s.requiredBitrate stream spatialLayer t = .ok b := by
  rw [SimulcastConsumer.requiredBitrate, stream.getLayerBitrate_eq hspatial ht]
  simp only [bind, Except.bind]
  split
  · rename_i hif
    obtain ⟨provisionalStream, hstream, hfew, htemporal⟩ := h.provisionalStream (by omega)
    have hprovisional := provisionalStream.getLayerBitrate_eq hfew htemporal
    rw [hstream]
    simp only [deref, hprovisional]
    exact ⟨_, rfl⟩
  · exact ⟨_, rfl⟩

/-- **A spatial layer** of simulcast: no assertion fails, and active layers are layers of the
producer. -/
theorem WellFormed.testSpatialLayer (h : s.WellFormed) {spatialLayer : ℤ} (hge : 0 ≤ spatialLayer)
    (hlt : spatialLayer < s.producerRtpStreams.length) :
    ∃ result, s.testSpatialLayer spatialLayer = .ok result ∧ ∀ t b, result = .active t b →
      0 < b ∧ (spatialLayer = s.provisional.spatial → s.provisional.temporal < t) ∧
        s.HasLayers ⟨spatialLayer, t⟩ := by
  obtain ⟨stream, hstream⟩ : ∃ stream, s.producerRtpStreams[spatialLayer.toNat]? = some stream :=
    ⟨_, List.getElem?_eq_getElem (by omega)⟩
  have hat := streamAt_eq hge hstream
  rw [SimulcastConsumer.testSpatialLayer, hat]
  cases stream with
  | none => exact ⟨.skipped, rfl, nofun⟩
  | some stream =>
    obtain ⟨new, hnew⟩ := h.tooNew stream spatialLayer
    obtain ⟨switch, hswitch⟩ := h.canSwitchToSpatialLayer hat
    have hspatial := h.spatialLayers stream (List.mem_of_getElem? hstream)
    obtain ⟨result, hresult, hactive⟩ := testTemporalLayers_spec s.provisional stream spatialLayer
      (s.requiredBitrate stream spatialLayer) fun t ht ↦ h.requiredBitrate hspatial ht
    simp only [bind, Except.bind, hnew, hswitch]
    split
    · exact ⟨.skipped, rfl, nofun⟩
    · cases new with
      | true => exact ⟨.skipped, rfl, nofun⟩
      | false =>
        cases switch with
        | false => exact ⟨.skipped, rfl, nofun⟩
        | true =>
          refine ⟨result, hresult, fun t b htest ↦ ?_⟩
          obtain ⟨hpos, ht, hhigher⟩ := hactive t b htest
          exact ⟨hpos, hhigher, hge, Int.natCast_nonneg t, stream, hstream, Int.ofNat_lt.mpr ht⟩

/-- **`IncreaseLayer` with simulcast.** -/
theorem increaseLayer_spec (products : FloatProducts) (h : s.WellFormed)
    (hactive : s.isActive = true) (bitrate : ℕ) (considerLoss : Bool) :
    ∃ used layers, s.increaseLayer products bitrate considerLoss =
        .ok (used, { s with provisional := layers }) ∧
      Increases s.HasLayers bitrate s.provisional used layers := by
  obtain ⟨found, hsearch, hincreases⟩ := search_settle_spec s.avoided s.provisional s.preferred
    s.testSpatialLayer s.producerRtpStreams.length
    (virtualBitrate_zero_of products s.lossPercentage considerLoss)
    fun spatialLayer hge hlt ↦ h.testSpatialLayer hge hlt
  rw [increaseLayer, h.managed, hactive]
  simp only [bind, Except.bind, msAssert_true, hsearch]
  split
  · exact ⟨0, s.provisional, rfl, .zero _ _ _⟩
  · exact ⟨_, _, rfl, hincreases⟩

/-- A consumer stays well-formed. -/
theorem WellFormed.increase (h : s.WellFormed) {used : ℕ} {layers : Layers}
    (hincrease : Increases s.HasLayers bitrate s.provisional used layers) :
    WellFormed { s with provisional := layers } where
  managed := h.managed
  provisional := hincrease.keeps h.provisional
  reference := h.reference
  spatialLayers := h.spatialLayers

end SimulcastConsumer

/-! ## SVC -/

namespace SvcConsumer

variable {s : SvcConsumer}

/-- Layers of the producer. -/
def HasLayers (s : SvcConsumer) (layers : Layers) : Prop :=
  0 ≤ layers.spatial ∧ 0 ≤ layers.temporal ∧
    ∃ stream, s.producerRtpStream = some stream ∧ layers.spatial < stream.spatialLayers ∧
      layers.temporal < stream.temporalLayers

/-- What holds of a consumer between the calls. -/
structure WellFormed (s : SvcConsumer) : Prop where
  managed : s.externallyManagedBitrate = true
  provisional : s.provisional = {} ∨ s.HasLayers s.provisional

/-- **A spatial layer** of SVC. -/
theorem testSpatialLayer_spec {stream : ProducerStream}
    (hstream : s.producerRtpStream = some stream) {spatialLayer : ℤ} (hge : 0 ≤ spatialLayer)
    (hlt : spatialLayer < stream.spatialLayers) :
    ∃ result, s.testSpatialLayer stream spatialLayer = .ok result ∧ ∀ t b, result = .active t b →
      0 < b ∧ (spatialLayer = s.provisional.spatial → s.provisional.temporal < t) ∧
        s.HasLayers ⟨spatialLayer, t⟩ := by
  obtain ⟨result, hresult, hactive⟩ := testTemporalLayers_spec s.provisional stream spatialLayer
    (stream.getLayerBitrate spatialLayer.toNat)
    fun t ht ↦ ⟨_, stream.getLayerBitrate_eq (by omega) ht⟩
  refine ⟨result, hresult, fun t b htest ↦ ?_⟩
  obtain ⟨hpos, ht, hhigher⟩ := hactive t b htest
  exact ⟨hpos, hhigher, hge, Int.natCast_nonneg t, stream, hstream, hlt, Int.ofNat_lt.mpr ht⟩

/-- **`IncreaseLayer` with SVC.** -/
theorem increaseLayer_spec (products : FloatProducts) (h : s.WellFormed)
    (hactive : s.isActive = true) (bitrate : ℕ) (considerLoss : Bool) :
    ∃ used layers, s.increaseLayer products bitrate considerLoss =
        .ok (used, { s with provisional := layers }) ∧
      Increases s.HasLayers bitrate s.provisional used layers := by
  obtain ⟨stream, hstream⟩ : ∃ stream, s.producerRtpStream = some stream := by
    cases hnone : s.producerRtpStream with
    | none => simp [isActive, hnone] at hactive
    | some stream => exact ⟨stream, rfl⟩
  have hderef : deref s.producerRtpStream = .ok stream := by rw [hstream]; rfl
  obtain ⟨found, hsearch, hincreases⟩ := search_settle_spec s.avoided s.provisional s.preferred
    (s.testSpatialLayer stream) stream.spatialLayers
    (virtualBitrate_zero_of products s.lossPercentage considerLoss)
    fun spatialLayer hge hlt ↦ testSpatialLayer_spec hstream hge hlt
  rw [increaseLayer, h.managed, hactive]
  simp only [bind, Except.bind, msAssert_true, hderef, hsearch]
  split
  · exact ⟨0, s.provisional, rfl, .zero _ _ _⟩
  · split
    · exact ⟨0, s.provisional, rfl, .zero _ _ _⟩
    · exact ⟨_, _, rfl, hincreases⟩

/-- A consumer stays well-formed. -/
theorem WellFormed.increase (h : s.WellFormed) {used : ℕ} {layers : Layers}
    (hincrease : Increases s.HasLayers bitrate s.provisional used layers) :
    WellFormed { s with provisional := layers } where
  managed := h.managed
  provisional := hincrease.keeps h.provisional

end SvcConsumer

/-! ## Any consumer -/

namespace SimpleConsumer

variable {s : SimpleConsumer}

/-- `IncreaseLayer` may be called. -/
structure Ready (s : SimpleConsumer) : Prop where
  managed : s.externallyManagedBitrate = true
  isVideo : s.video = true
  active : s.isActive = true

/-- A further call within the same iteration. -/
theorem Ready.increaseLayer_again (h : s.Ready) (hmanaging : s.managingBitrate = true)
    (bitrate : ℕ) : s.increaseLayer bitrate = .ok (0, s) := by
  rw [increaseLayer, h.managed, h.isVideo, h.active]
  simp only [bind, Except.bind, msAssert_true, hmanaging]
  rfl

/-- **`IncreaseLayer` without layers.** -/
theorem Ready.increaseLayer (h : s.Ready) (bitrate : ℕ) :
    ∃ used, s.increaseLayer bitrate = .ok (used, { s with managingBitrate := true }) ∧
      used ≤ bitrate := by
  cases hmanaging : s.managingBitrate with
  | true =>
    refine ⟨0, ?_, Nat.zero_le _⟩
    rw [h.increaseLayer_again hmanaging, ← hmanaging]
  | false =>
    obtain ⟨stream, hstream⟩ : ∃ stream, s.producerRtpStream = some stream := by
      cases hnone : s.producerRtpStream with
      | none =>
        have hactive := h.active
        simp [isActive, hnone] at hactive
      | some stream => exact ⟨stream, rfl⟩
    have hderef : deref s.producerRtpStream = .ok stream := by rw [hstream]; rfl
    rw [SimpleConsumer.increaseLayer, h.managed, h.isVideo, h.active]
    simp only [bind, Except.bind, msAssert_true, hmanaging, hderef]
    refine ⟨_, rfl, ?_⟩
    split <;> omega

end SimpleConsumer

namespace Consumer

/-- What holds of a consumer between the calls. -/
def WellFormed : Consumer → Prop
  | simple s => s.externallyManagedBitrate = true
  | simulcast s => s.WellFormed
  | svc s => s.WellFormed
  | pipe _ => True

/-- `IncreaseLayer` may be called. -/
def Ready : Consumer → Prop
  | simple s => s.Ready
  | simulcast s => s.WellFormed ∧ s.isActive = true
  | svc s => s.WellFormed ∧ s.isActive = true
  | pipe _ => True

/-- The consumer without what `IncreaseLayer` keeps from call to call. -/
def forget : Consumer → Consumer
  | simple s => simple { s with managingBitrate := false }
  | simulcast s => simulcast { s with provisional := {} }
  | svc s => svc { s with provisional := {} }
  | pipe s => pipe s

variable {c : Consumer}

/-- A consumer with a priority is ready. -/
theorem WellFormed.getBitratePriority (h : c.WellFormed) :
    ∃ priority, c.getBitratePriority = .ok priority ∧ (0 < priority → c.Ready) := by
  cases c with
  | simple s =>
    have hmanaged : s.externallyManagedBitrate = true := h
    rw [Consumer.getBitratePriority, hmanaged]
    refine ⟨_, rfl, fun hpos ↦ ⟨hmanaged, ?_, ?_⟩⟩
    all_goals
      cases hvideo : s.video <;> cases hactive : s.isActive <;> simp [hvideo, hactive] at hpos ⊢
  | simulcast s =>
    rw [Consumer.getBitratePriority, show s.externallyManagedBitrate = true from h.managed]
    refine ⟨_, rfl, fun hpos ↦ ⟨h, ?_⟩⟩
    cases hactive : s.isActive <;> simp [hactive] at hpos ⊢
  | svc s =>
    rw [Consumer.getBitratePriority, show s.externallyManagedBitrate = true from h.managed]
    refine ⟨_, rfl, fun hpos ↦ ⟨h, ?_⟩⟩
    cases hactive : s.isActive <;> simp [hactive] at hpos ⊢
  | pipe s => exact ⟨0, rfl, fun _ ↦ trivial⟩

/-- **`IncreaseLayer` of any consumer**: a part of the bitrate is used, and after a call that uses
nothing a further call with the same bitrate does nothing. -/
theorem Ready.increaseLayer (products : FloatProducts) (considerLoss : Bool) (h : c.Ready)
    (bitrate : ℕ) :
    ∃ used t, c.increaseLayer products considerLoss bitrate = .ok (used, t) ∧ used ≤ bitrate ∧
      t.Ready ∧ t.forget = c.forget ∧
      (used = 0 → t.increaseLayer products considerLoss bitrate = .ok (0, t)) := by
  cases c with
  | simple s =>
    obtain ⟨used, hincrease, hle⟩ := SimpleConsumer.Ready.increaseLayer h bitrate
    have hready : SimpleConsumer.Ready { s with managingBitrate := true } := ⟨h.1, h.2, h.3⟩
    refine ⟨used, simple { s with managingBitrate := true }, ?_, hle, hready, rfl, fun _ ↦ ?_⟩
    · rw [Consumer.increaseLayer, hincrease]
      rfl
    · rw [Consumer.increaseLayer, hready.increaseLayer_again rfl]
      rfl
  | simulcast s =>
    obtain ⟨hwf, hactive⟩ := h
    obtain ⟨used, layers, hincrease, hspec⟩ := s.increaseLayer_spec products hwf hactive bitrate
      considerLoss
    have hall : (simulcast s).increaseLayer products considerLoss bitrate =
        .ok (used, simulcast { s with provisional := layers }) := by
      rw [Consumer.increaseLayer, hincrease]
      rfl
    refine ⟨used, _, hall, hspec.used_le, ⟨hwf.increase hspec, hactive⟩, rfl, ?_⟩
    rintro rfl
    rw [hspec.unchanged rfl] at hall ⊢
    exact hall
  | svc s =>
    obtain ⟨hwf, hactive⟩ := h
    obtain ⟨used, layers, hincrease, hspec⟩ := s.increaseLayer_spec products hwf hactive bitrate
      considerLoss
    have hall : (svc s).increaseLayer products considerLoss bitrate =
        .ok (used, svc { s with provisional := layers }) := by
      rw [Consumer.increaseLayer, hincrease]
      rfl
    refine ⟨used, _, hall, hspec.used_le, ⟨hwf.increase hspec, hactive⟩, rfl, ?_⟩
    rintro rfl
    rw [hspec.unchanged rfl] at hall ⊢
    exact hall
  | pipe s => exact ⟨0, pipe s, rfl, Nat.zero_le _, trivial, rfl, fun _ ↦ rfl⟩

end Consumer

end Bwe

end MediasoupSfu
