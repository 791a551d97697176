import MediasoupSfu.Consumer.Codecs

/-!
# VP9 payload descriptors

An SVC consumer sends one stream with several spatial and temporal layers. `Process` lets a packet
through if its layers are at most the current ones of the encoding context, which follow the target
layers: a spatial layer is left or taken up at a key frame (without K-SVC it is left at the end of a
frame of the target layer), a temporal layer is taken up where the encoder allows it.

The picture ids are renumbered only to remember the highest one. A packet whose picture id is lower
is old, and for old packets the layers are not checked.
-/

namespace MediasoupSfu

namespace VP9

/-- `VP9::PayloadDescriptor`, as far as processing reads it. -/
structure PayloadDescriptor where
  /-- Start of a layer frame. -/
  b : Bool
  /-- End of a layer frame. -/
  e : Bool
  pictureId : BitVec 16 := 0
  slIndex : Byte := 0
  tlIndex : Byte := 0
  switchingUpPoint : Bool := false
  isKeyFrame : Bool := false
  hasPictureId : Bool := false
  hasSlIndex : Bool := false
  hasTlIndex : Bool := false
  deriving DecidableEq, Repr

/-- `VP9::EncodingContext`, with what it has of `Codecs::EncodingContext`. -/
structure EncodingContext where
  spatialLayers : ℕ := 1
  temporalLayers : ℕ := 1
  ksvc : Bool := false
  targetSpatialLayer : ℤ := -1
  targetTemporalLayer : ℤ := -1
  currentSpatialLayer : ℤ := -1
  currentTemporalLayer : ℤ := -1
  pictureIdManager : SeqManager 16 := {}
  syncRequired : Bool := false
  deriving DecidableEq, Repr

/-- `GetSpatialLayer()`. -/
def getSpatialLayer (d : PayloadDescriptor) : ℕ := if d.hasSlIndex then d.slIndex.toNat else 0

/-- `GetTemporalLayer()`. -/
def getTemporalLayer (d : PayloadDescriptor) : ℕ := if d.hasTlIndex then d.tlIndex.toNat else 0

/-- The sync of pictureId in `Process`. -/
def syncPicture (d : PayloadDescriptor) (context : EncodingContext) : EncodingContext :=
  if context.syncRequired ∧ d.hasPictureId then
    { context with
      pictureIdManager := context.pictureIdManager.sync (d.pictureId - 1)
      syncRequired := false }
  else context

/-- `isOldPacket`. -/
def isOldPacket (d : PayloadDescriptor) (context : EncodingContext) : Bool :=
  d.hasPictureId && isSeqLowerThan d.pictureId context.pictureIdManager.maxInput

/-- Upgrade or downgrade the spatial layer: `tmpSpatialLayer` and `tmpTemporalLayer`. -/
def switchSpatialLayer (d : PayloadDescriptor) (context : EncodingContext) : ℤ × ℤ :=
  let keep := (context.currentSpatialLayer, context.currentTemporalLayer)
  let switch := (context.targetSpatialLayer, 0)
  if context.currentSpatialLayer < context.targetSpatialLayer then
    if d.isKeyFrame then switch else keep
  else if context.targetSpatialLayer < context.currentSpatialLayer then
    -- In K-SVC we must wait for a keyframe. In full SVC we do not need one.
    if context.ksvc then if d.isKeyFrame then switch else keep
    else if getSpatialLayer d = context.targetSpatialLayer ∧ d.e then switch else keep
  else keep

/-- Upgrade or downgrade the temporal layer: `tmpTemporalLayer`. -/
def switchTemporalLayer (d : PayloadDescriptor) (context : EncodingContext)
    (tmpTemporalLayer : ℤ) : ℤ :=
  if context.currentTemporalLayer < context.targetTemporalLayer then
    if context.currentTemporalLayer + 1 ≤ getTemporalLayer d ∧
        (context.currentTemporalLayer = -1 ∨ d.switchingUpPoint) ∧ d.b then getTemporalLayer d
    else tmpTemporalLayer
  else if context.targetTemporalLayer < context.currentTemporalLayer then
    if getTemporalLayer d = context.targetTemporalLayer ∧ d.e then context.targetTemporalLayer
    else tmpTemporalLayer
  else tmpTemporalLayer

/-- `VP9::PayloadDescriptorHandler::Process`: whether the packet is let through, its marker and the
context afterwards. -/
def process (d : PayloadDescriptor) (context : EncodingContext) (marker : Bool) :
    Except Fault (Bool × Bool × EncodingContext) := do
  msAssert (0 ≤ context.targetSpatialLayer) "target spatial layer cannot be -1"
  msAssert (0 ≤ context.targetTemporalLayer) "target temporal layer cannot be -1"
  -- Too high packet layers.
  if context.spatialLayers ≤ getSpatialLayer d ∨ context.temporalLayers ≤ getTemporalLayer d then
    return (false, marker, context)
  else
    let context := syncPicture d context
    let isOld := isOldPacket d context
    let (tmpSpatialLayer, tmpTemporalLayer) := switchSpatialLayer d context
    -- Filter spatial layers higher than current one (unless old packet).
    if tmpSpatialLayer < getSpatialLayer d ∧ ¬isOld then return (false, marker, context)
    else
      let tmpTemporalLayer :=
        if isOld then tmpTemporalLayer else switchTemporalLayer d context tmpTemporalLayer
      -- Filter temporal layers higher than current one.
      if tmpTemporalLayer < getTemporalLayer d ∧ ¬isOld then return (false, marker, context)
      else
        let (_, pictureIdManager) :=
          VP8.inputIf d.hasPictureId context.pictureIdManager d.pictureId
        return (true, marker || (decide (getSpatialLayer d = tmpSpatialLayer) && d.e),
          { context with
            pictureIdManager := pictureIdManager
            currentSpatialLayer := tmpSpatialLayer
            currentTemporalLayer := tmpTemporalLayer })

end VP9

end MediasoupSfu
