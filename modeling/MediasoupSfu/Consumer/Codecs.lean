import MediasoupSfu.Rtp.Packet
import MediasoupSfu.SeqManager.Manager

/-!
# Payload descriptors

A codec that a simulcast consumer supports says of each packet whether it is a key frame and of
which temporal layer it is, and lets the packet through, or not, according to the layers of an
encoding context. There are two such codecs, VP8 and H264. They differ in what the context
remembers: VP8 renumbers picture ids and drops the ones it has not let through, so that a second
packet with a dropped picture id is not let through either, while H264 decides anew each time.

A payload descriptor is taken as `Parse` leaves it. Layers are integers, `-1` is no layer.
-/

namespace MediasoupSfu

/-- `Codecs::EncodingContext`, with the members that the codec adds. -/
structure EncodingContext (Members : Type) where
  targetTemporalLayer : ℤ := -1
  currentTemporalLayer : ℤ := -1
  members : Members

namespace EncodingContext

variable {Members : Type}

/-- The end of `Process`: update and fix the current temporal layer. -/
def fixCurrentTemporalLayer (context : EncodingContext Members) (hasLayer : Bool) (layer : ℤ) :
    EncodingContext Members :=
  let current :=
    if hasLayer && decide (context.currentTemporalLayer < layer) then layer
    else if ¬hasLayer then 0
    else context.currentTemporalLayer
  { context with
    currentTemporalLayer :=
      if context.targetTemporalLayer < current then context.targetTemporalLayer else current }

end EncodingContext

/-- A `PayloadDescriptorHandler` with the `EncodingContext` that belongs to it. -/
structure Codec where
  Members : Type
  /-- The members of a new context. -/
  members : Members
  Handler : Type
  /-- `EncodingContext::SyncRequired()`. -/
  syncRequired : Members → Members
  /-- `IsKeyFrame()`. -/
  isKeyFrame : Handler → Bool
  /-- `GetTemporalLayer()`. -/
  getTemporalLayer : Handler → ℕ
  /-- `Process(context, data, marker)`: whether the packet is let through, and the memory and the
  context afterwards. No handler touches the marker. -/
  process : Handler → EncodingContext Members → List Byte → ℕ →
    Except Fault (Bool × List Byte × EncodingContext Members)

/-! ## H264 -/

namespace H264

/-- `H264::PayloadDescriptor`, as far as processing reads it. -/
structure PayloadDescriptor where
  /-- Base Layer Sync. -/
  b : Bool
  /-- Temporal layer id. -/
  tid : Byte := 0
  hasTid : Bool := false
  isKeyFrame : Bool := false
  deriving DecidableEq, Repr

/-- `H264::PayloadDescriptorHandler::Process`. -/
def process (d : PayloadDescriptor) (context : EncodingContext Unit) (body : List Byte)
    (_data : ℕ) :
    Except Fault (Bool × List Byte × EncodingContext Unit) := do
  msAssert (0 ≤ context.targetTemporalLayer) "target temporal layer cannot be -1"
  if d.hasTid ∧ context.targetTemporalLayer < d.tid.toNat then return (false, body, context)
  -- Upgrade required. Drop current packet if base flag is not set.
  else if d.hasTid ∧ context.currentTemporalLayer < d.tid.toNat ∧ ¬d.b then
    return (false, body, context)
  else return (true, body, context.fixCurrentTemporalLayer d.hasTid d.tid.toNat)

end H264

/-- H264 as a codec. Its context has no members of its own. -/
def h264 : Codec where
  Members := Unit
  members := ()
  Handler := H264.PayloadDescriptor
  syncRequired := id
  isKeyFrame d := d.isKeyFrame
  getTemporalLayer d := d.tid.toNat
  process := H264.process

/-! ## VP8 -/

namespace VP8

/-- `VP8::PayloadDescriptor`, as far as processing reads it. -/
structure PayloadDescriptor where
  extended : Bool
  /-- PictureID present. -/
  i : Bool
  /-- TL0PICIDX present. -/
  l : Bool
  pictureId : BitVec 16
  tl0PictureIndex : Byte
  tlIndex : BitVec 2
  y : Bool
  isKeyFrame : Bool := false
  hasPictureId : Bool := false
  hasOneBytePictureId : Bool := false
  hasTwoBytesPictureId : Bool := false
  hasTl0PictureIndex : Bool := false
  hasTlIndex : Bool := false
  deriving DecidableEq, Repr

/-- The members of `VP8::EncodingContext`. -/
structure ContextMembers where
  pictureIdManager : SeqManager 16 := {}
  tl0PictureIndexManager : SeqManager 8 := {}
  syncRequired : Bool := false
  deriving DecidableEq, Repr

/-- `PayloadDescriptor::Encode(data, pictureId, tl0PictureIndex)`, with `data` an offset of the
body. -/
def encode (d : PayloadDescriptor) (body : List Byte) (data : ℕ) (pictureId : BitVec 16)
    (tl0PictureIndex : Byte) : Except Fault (List Byte) :=
  if ¬d.extended then .ok body
  else do
    let data := data + 2
    let (body, data) ←
      if d.i ∧ d.hasTwoBytesPictureId then do
        let body ← writeBytes body data (Byte.set2Bytes (pictureId ||| 0x8000))
        pure (body, data + 2)
      else if d.i ∧ d.hasOneBytePictureId then do
        let body ← writeBytes body data [pictureId.setWidth 8]
        pure (body, data + 1)
      else pure (body, data)
    if d.l then writeBytes body data [tl0PictureIndex] else return body

/-- The sync of pictureId and tl0PictureIndex in `Process`. -/
def syncPicture (d : PayloadDescriptor) (members : ContextMembers) : ContextMembers :=
  if members.syncRequired ∧ d.hasPictureId ∧ d.hasTl0PictureIndex then
    { pictureIdManager := members.pictureIdManager.sync (d.pictureId - 1)
      tl0PictureIndexManager := members.tl0PictureIndexManager.sync (d.tl0PictureIndex - 1)
      syncRequired := false }
  else members

/-- Drop the pictureId and the tl0PictureIndex of a packet. -/
def dropPicture (d : PayloadDescriptor) (members : ContextMembers) : ContextMembers :=
  { members with
    pictureIdManager := members.pictureIdManager.drop d.pictureId
    tl0PictureIndexManager := members.tl0PictureIndexManager.drop d.tl0PictureIndex }

/-- The condition on the temporal layer under which `Process` drops an incremental pictureId. -/
def exceedsLayers (d : PayloadDescriptor) (context : EncodingContext ContextMembers) : Bool :=
  (d.hasPictureId && d.hasTlIndex && d.hasTl0PictureIndex &&
      !isSeqLowerThan d.pictureId context.members.pictureIdManager.maxInput) &&
    (decide (context.targetTemporalLayer < d.tlIndex.toNat) ||
      -- Upgrade required. Drop current packet if sync flag is not set.
      (decide (context.currentTemporalLayer < d.tlIndex.toNat) && !d.y))

/-- The input of one optional number of the descriptor: the number to send, if there is one and it
has not been dropped. -/
def inputIf {w : ℕ} (present : Bool) (manager : SeqManager w) (number : BitVec w) :
    Option (BitVec w) × SeqManager w :=
  if present then manager.input number else (none, manager)

/-- `VP8::PayloadDescriptorHandler::Process`. -/
def process (d : PayloadDescriptor) (context : EncodingContext ContextMembers) (body : List Byte)
    (data : ℕ) : Except Fault (Bool × List Byte × EncodingContext ContextMembers) := do
  msAssert (0 ≤ context.targetTemporalLayer) "target temporal layer cannot be -1"
  let context := { context with members := syncPicture d context.members }
  if exceedsLayers d context then
    return (false, body, { context with members := dropPicture d context.members })
  else
    let (pictureId, pictureIdManager) :=
      inputIf d.hasPictureId context.members.pictureIdManager d.pictureId
    let context := { context with members := { context.members with pictureIdManager } }
    -- Do not send a dropped pictureId.
    if d.hasPictureId ∧ pictureId.isNone then return (false, body, context)
    else
      let (tl0PictureIndex, tl0PictureIndexManager) :=
        inputIf d.hasTl0PictureIndex context.members.tl0PictureIndexManager d.tl0PictureIndex
      let context := { context with members := { context.members with tl0PictureIndexManager } }
      -- Do not send a dropped tl0PictureIndex.
      if d.hasTl0PictureIndex ∧ tl0PictureIndex.isNone then return (false, body, context)
      else
        let context := context.fixCurrentTemporalLayer d.hasTlIndex d.tlIndex.toNat
        match pictureId, tl0PictureIndex with
        | some pictureId, some tl0PictureIndex =>
          let body ← encode d body data pictureId tl0PictureIndex
          return (true, body, context)
        | _, _ => return (true, body, context)

end VP8

/-- VP8 as a codec. -/
def vp8 : Codec where
  Members := VP8.ContextMembers
  members := {}
  Handler := VP8.PayloadDescriptor
  syncRequired members := { members with syncRequired := true }
  isKeyFrame d := d.isKeyFrame
  getTemporalLayer d := if d.hasTlIndex then d.tlIndex.toNat else 0
  process := VP8.process

/-! ## Packets with a payload descriptor -/

/-- An `RtpPacket` with its `payloadDescriptorHandler`. -/
structure CodecPacket (codec : Codec) extends RtpPacket where
  payloadDescriptorHandler : Option codec.Handler

namespace CodecPacket

variable {codec : Codec}

/-- `IsKeyFrame()`. -/
def isKeyFrame (packet : CodecPacket codec) : Bool :=
  match packet.payloadDescriptorHandler with
  | none => false
  | some handler => codec.isKeyFrame handler

/-- `GetTemporalLayer()`. -/
def getTemporalLayer (packet : CodecPacket codec) : ℕ :=
  match packet.payloadDescriptorHandler with
  | none => 0
  | some handler => codec.getTemporalLayer handler

/-- `ProcessPayload(context)`: whether the packet is let through, with its payload and the context
rewritten. -/
def processPayload (packet : CodecPacket codec) (context : EncodingContext codec.Members) :
    Except Fault (Bool × RtpPacket × EncodingContext codec.Members) :=
  match packet.payloadDescriptorHandler with
  | none => .ok (true, packet.toRtpPacket, context)
  | some handler => do
    let (passed, body, context) ← codec.process handler context packet.body packet.payload
    return (passed, { packet.toRtpPacket with body := body }, context)

end CodecPacket

end MediasoupSfu
