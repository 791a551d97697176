import MediasoupSfu.Router.Media

/-!
# The requests of a Router

A request names what it is about by ids. The Router finds the Transport, and the Transport does the
rest. Besides requests there are callbacks: the objects of the Transports tell the Router that
something has happened to them.

## What is given with an event

The addresses of new objects, what a constructor reads from the data of the request, or the text
with which it refuses it, and whether a listener of the Transport takes a new Producer. A Transport
is any of the four kinds.
-/

namespace MediasoupSfu

namespace RouterGraph

open Index

/-- The words for data. -/
def dataNames : Names where
  producer := "DataProducer"
  consumer := "DataConsumer"
  producerId := "dataProducerId"
  consumerId := "dataConsumerId"

/-- `DataProducer::Type` and `DataConsumer::Type` -/
inductive DataType where
  | sctp
  | direct
  deriving DecidableEq, Repr

/-- `RTC::Transport`, without its maps. -/
structure Transport where
  id : String
  direct : Bool
  /-- `this->sctpAssociation` is not null. -/
  sctpAssociation : Bool

/-- `RTC::Router`, with all objects. -/
structure Router where
  transports : ℕ → Option Transport := fun _ ↦ none
  mapTransports : Directory String := ∅
  media : Media := {}
  data : Graph DataType := {}

/-- A request to the Router, or a callback of one of the objects. -/
inductive Event where
  | createTransport (transportId : Option String) (made : Except String (Bool × Bool)) (t : ℕ)
  | closeTransport (transportId : Option String)
  | createAudioLevelObserver (rtpObserverId : Option String)
      (made : Except String AudioLevelSettings) (r : ℕ)
  | closeRtpObserver (rtpObserverId : Option String)
  | pauseRtpObserver (rtpObserverId : Option String)
  | resumeRtpObserver (rtpObserverId : Option String)
  | addProducer (rtpObserverId producerId : Option String)
  | removeProducer (rtpObserverId producerId : Option String)
  | produce (transportId producerId : Option String) (made : Except String MediaInfo)
      (listen : MediaInfo → Except String Unit) (p : ℕ)
  | closeProducer (transportId producerId : Option String)
  | pauseProducer (transportId producerId : Option String)
  | resumeProducer (transportId producerId : Option String)
  | consume (transportId producerId consumerId : Option String)
      (made : Except String (List (BitVec 32))) (c : ℕ)
  | closeConsumer (transportId consumerId : Option String)
  | produceData (transportId dataProducerId : Option String) (made : Except String DataType)
      (listen : Except String Unit) (p : ℕ)
  | closeDataProducer (transportId dataProducerId : Option String)
  | consumeData (transportId dataProducerId dataConsumerId : Option String)
      (made : Except String DataType) (c : ℕ)
  | closeDataConsumer (transportId dataConsumerId : Option String)
  /-- A new stream, a score, a sender report or a question about losses. -/
  | producerNotifies (p : ℕ)
  | producerRtpPacketReceived (p : ℕ) (volume : Option Byte)
  | consumerKeyFrameRequested (c : ℕ)
  | dataProducerMessageReceived (p : ℕ)
  | observerTimer (r : ℕ)

/-- A request for a new Producer, Consumer, DataProducer or DataConsumer. -/
def Event.IsNew : Event → Prop
  | produce .. | consume .. | produceData .. | consumeData .. => True
  | _ => False

namespace Router

variable (env : Surroundings) (r : Router)

/-- A member of the Transport at this address is used. -/
def getTransport (t : ℕ) : Except Fault Transport :=
  match r.transports t with
  | none => .error .outOfBounds
  | some transport => .ok transport

/-- `Router::GetTransportFromInternal(internal)` -/
def getTransportFromInternal (transportId : Option String) : Except String ℕ :=
  Graph.getFromInternal r.mapTransports "Transport" "transportId" transportId

/-- What a request is answered, if it is one, and what there is then. -/
abbrev Result := Except Fault (Option Reply × Router)

/-- The half that deals with RTP is asked. -/
def inMedia (result : Except Fault (Reply × Media)) : Result := do
  let (reply, media) ← result
  return (some reply, { r with media })

/-- The half that deals with data is asked. -/
def inData (result : Except Fault (Reply × Graph DataType)) : Result := do
  let (reply, data) ← result
  return (some reply, { r with data })

/-- A request is delivered to its Transport. -/
def deliver (transportId : Option String) (f : ℕ → Result) : Result :=
  match r.getTransportFromInternal transportId with
  | .error text => .ok (some (.thrown text), r)
  | .ok t => f t

/-- `ROUTER_CREATE_WEBRTC_TRANSPORT` and its like. -/
def createTransport (transportId : Option String) (made : Except String (Bool × Bool)) (t : ℕ) :
    Option Reply × Router :=
  match Graph.setNewIdFromInternal r.mapTransports
    "a Transport with same transportId already exists" "transportId" transportId with
  | .error text => (some (.thrown text), r)
  | .ok id =>
    match made with
    | .error text => (some (.thrown text), r)
    | .ok (direct, sctpAssociation) => (some .accepted,
        { transports := Function.update r.transports t (some { id, direct, sctpAssociation })
          -- Insert into the map.
          mapTransports := r.mapTransports.insert id t
          media := { r.media with graph := r.media.graph.newTransport t }
          data := r.data.newTransport t })

/-- `Transport::CloseProducersAndConsumers()`. DataConsumers do not ask for key frames. -/
def closeProducersAndConsumers (t : ℕ) : Except Fault Router := do
  let media ← r.media.closeAllProducers env t
  let media ← media.closeAllConsumers env t
  let data ← r.data.closeAllProducers dataNames env.silent t
  let data ← data.closeAllConsumers dataNames env.silent t
  return { r with media, data }

/-- `delete transport` -/
def deleteTransport (t : ℕ) : Router :=
  { r with
    transports := Function.update r.transports t none
    media := { r.media with graph := r.media.graph.deleteTransport t }
    data := r.data.deleteTransport t }

/-- `TRANSPORT_CLOSE` -/
def closeTransport (transportId : Option String) : Result :=
  r.deliver transportId fun t ↦ do
    let r ← r.closeProducersAndConsumers env t
    let transport ← r.getTransport t
    -- Remove it from the map and delete it.
    let r := { r with mapTransports := r.mapTransports.erase transport.id }
    return (some .accepted, r.deleteTransport t)

/-- Whether a DataProducer or DataConsumer of this type fits the Transport. -/
def checkType (transport : Transport) (what : String) : DataType → Except String Unit
  | .sctp =>
    if !transport.sctpAssociation then
      .error ("cannot create a " ++ what ++ " of type 'sctp', SCTP not enabled in this Transport")
    else .ok ()
  | .direct =>
    if !transport.direct then
      .error ("cannot create a " ++ what ++ " of type 'direct', not a direct Transport")
    else .ok ()

/-- What both requests for data begin with. -/
def withData (t : ℕ) (f : Transport → Except Fault (Reply × Graph DataType)) : Result := do
  let transport ← r.getTransport t
  -- Early check. The Transport must support SCTP or be direct.
  if !transport.sctpAssociation && !transport.direct then
    return (some (.thrown "SCTP not enabled and not a direct Transport"), r)
  else r.inData (f transport)

/-- `TRANSPORT_PRODUCE_DATA`; a DataProducer of type SCTP has to be taken by the SCTP listener. -/
def produceData (t : ℕ) (dataProducerId : Option String) (made : Except String DataType)
    (listen : Except String Unit) (p : ℕ) : Result :=
  r.withData t fun transport ↦
    r.data.produce dataNames t dataProducerId made
      (fun type ↦ do
        checkType transport dataNames.producer type
        match type with
        | .sctp => listen
        | .direct => .ok ())
      p

/-- `TRANSPORT_CONSUME_DATA` -/
def consumeData (t : ℕ) (dataProducerId dataConsumerId : Option String)
    (made : Except String DataType) (c : ℕ) : Result :=
  r.withData t fun transport ↦
    r.data.consume dataNames env.silent t dataProducerId dataConsumerId
      (do
        let type ← made
        checkType transport dataNames.consumer type
        return [])
      c

/-- An event. -/
def step (r : Router) : Surroundings × Event → Result
  | (_, .createTransport transportId made t) => .ok (r.createTransport transportId made t)
  | (env, .closeTransport transportId) => r.closeTransport env transportId
  | (_, .createAudioLevelObserver rtpObserverId made i) =>
    let (reply, observers) := r.media.observers.createAudioLevelObserver rtpObserverId made i
    .ok (some reply, { r with media := { r.media with observers } })
  | (_, .closeRtpObserver rtpObserverId) => r.inMedia do
    let (reply, observers) ← r.media.observers.closeRtpObserver rtpObserverId
    return (reply, { r.media with observers })
  | (_, .pauseRtpObserver rtpObserverId) => r.inMedia do
    let (reply, observers) ← r.media.observers.pauseRtpObserver rtpObserverId
    return (reply, { r.media with observers })
  | (_, .resumeRtpObserver rtpObserverId) => r.inMedia do
    let (reply, observers) ← r.media.observers.resumeRtpObserver rtpObserverId
    return (reply, { r.media with observers })
  | (_, .addProducer rtpObserverId producerId) =>
    r.inMedia (r.media.addProducer rtpObserverId producerId)
  | (_, .removeProducer rtpObserverId producerId) =>
    r.inMedia (r.media.removeProducer rtpObserverId producerId)
  | (_, .produce transportId producerId made listen p) =>
    r.deliver transportId fun t ↦ r.inMedia (r.media.produce t producerId made listen p)
  | (env, .closeProducer transportId producerId) =>
    r.deliver transportId fun t ↦ r.inMedia (r.media.closeProducer env t producerId)
  | (env, .pauseProducer transportId producerId) =>
    r.deliver transportId fun t ↦ r.inMedia (r.media.pauseProducer env t producerId)
  | (env, .resumeProducer transportId producerId) =>
    r.deliver transportId fun t ↦ r.inMedia (r.media.resumeProducer env t producerId)
  | (env, .consume transportId producerId consumerId made c) =>
    r.deliver transportId fun t ↦
      r.inMedia (r.media.consume env t producerId consumerId made c)
  | (env, .closeConsumer transportId consumerId) =>
    r.deliver transportId fun t ↦ r.inMedia (r.media.closeConsumer env t consumerId)
  | (_, .produceData transportId dataProducerId made listen p) =>
    r.deliver transportId fun t ↦ r.produceData t dataProducerId made listen p
  | (env, .closeDataProducer transportId dataProducerId) =>
    r.deliver transportId fun t ↦
      r.inData (r.data.closeProducer dataNames env.silent t dataProducerId)
  | (env, .consumeData transportId dataProducerId dataConsumerId made c) =>
    r.deliver transportId fun t ↦ r.consumeData env t dataProducerId dataConsumerId made c
  | (env, .closeDataConsumer transportId dataConsumerId) =>
    r.deliver transportId fun t ↦
      r.inData (r.data.closeConsumer dataNames env.silent t dataConsumerId)
  | (env, .producerNotifies p) => do
    r.media.graph.notifyConsumers env p
    return (none, r)
  | (env, .producerRtpPacketReceived p volume) => do
    let media ← r.media.onProducerRtpPacketReceived env p volume
    return (none, { r with media })
  | (_, .consumerKeyFrameRequested c) => do
    r.media.graph.onTransportConsumerKeyFrameRequested c
    return (none, r)
  | (env, .dataProducerMessageReceived p) => do
    r.data.notifyConsumers env.silent p
    return (none, r)
  | (env, .observerTimer i) => do
    let observers ← r.media.observers.onTimer env r.media.graph i
    return (none, { r with media := { r.media with observers } })

/-- New objects are at free addresses, callbacks come from live objects, and no two Consumers of a
Transport have an SSRC in common. -/
def Legal (r : Router) : Surroundings × Event → Prop
  | (_, .createTransport _ _ t) => r.transports t = none
  | (_, .createAudioLevelObserver _ _ i) => r.media.observers.rtpObservers i = none
  | (_, .produce _ _ _ _ p) => r.media.graph.producers p = none
  | (_, .consume transportId _ _ made c) => r.media.graph.consumers c = none ∧
    ∀ t mediaSsrcs, r.getTransportFromInternal transportId = .ok t → made = .ok mediaSsrcs →
      r.media.graph.FreshSsrcs t mediaSsrcs
  | (_, .produceData _ _ _ _ p) => r.data.producers p = none
  | (_, .consumeData _ _ _ _ c) => r.data.consumers c = none
  | (_, .producerNotifies p) | (_, .producerRtpPacketReceived p _) =>
    r.media.graph.producers p ≠ none
  | (_, .consumerKeyFrameRequested c) => r.media.graph.consumers c ≠ none
  | (_, .dataProducerMessageReceived p) => r.data.producers p ≠ none
  | (_, .observerTimer i) => r.media.observers.rtpObservers i ≠ none
  | _ => True

end Router

end RouterGraph

end MediasoupSfu
