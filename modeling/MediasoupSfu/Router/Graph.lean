import MediasoupSfu.Library.Index
import MediasoupSfu.Utils.Byte
import Mathlib.Data.Finset.Sort

/-!
# The graph of Producers and Consumers

A Router knows which Consumers consume which Producer. The objects belong to Transports, which have
maps of their own. Both sides are updated by each other's callbacks: a Transport tells the Router
about a new or closed Producer or Consumer; when a Producer is closed, the Router tells its
Consumers, each of which tells its Transport, which tells the Router again and deletes the Consumer
while the Router still goes through the set that contains it.

The same is done twice, for RTP with Producers and Consumers and for data with DataProducers and
DataConsumers. This file has one of the two; `Names` has the words in which the texts differ.

Objects have addresses. An address that was deleted may be given to a new object, and a use of an
address at which there is no object is the fault `outOfBounds`. The maps of a Transport are under
its address, `ends`. A container is read before it is gone through; `Router.Linking` shows that
nothing is added to it or taken from it meanwhile.

## What is left open

The order in which an unordered container is gone through is any order. A Consumer that is told
something, and a Transport that distributes its bit rate anew, may ask for key frames; who does is
left to `Surroundings`. Whether a constructor or a listener refuses a request is part of the
request.
-/

namespace MediasoupSfu

namespace RouterGraph

open Index

/-! ## Objects and maps -/

/-- The words of a medium. -/
structure Names where
  producer : String
  consumer : String
  producerId : String
  consumerId : String

/-- What a step depends on besides the graph. -/
structure Surroundings where
  /-- The order in which a container with these elements is gone through. -/
  order : List ℕ → List ℕ
  order_perm : ∀ l, (order l).Perm l
  /-- The Consumers that may ask for a key frame when something happens in the Transport. -/
  keyFrames : ℕ → List ℕ

/-- A container is gone through as it is, and nobody asks for a key frame. -/
def Surroundings.plain : Surroundings where
  order := id
  order_perm := List.Perm.refl
  keyFrames _ := []

/-- Nobody asks for a key frame. -/
def Surroundings.silent (env : Surroundings) : Surroundings := { env with keyFrames := fun _ ↦ [] }

/-- The elements of an unordered set, one after the other. -/
def Surroundings.members (env : Surroundings) (s : Finset ℕ) : List ℕ := env.order (s.sort (· ≤ ·))

/-- The objects of an unordered map, one after the other. -/
def Surroundings.objects (env : Surroundings) (m : Directory String) : List ℕ :=
  env.order m.addresses

/-- A `Producer` or `DataProducer`. -/
structure Producer (π : Type) where
  id : String
  /-- Its listener, a Transport. -/
  transport : ℕ
  /-- The members that matter for one of the two only. -/
  info : π

/-- A `Consumer` or `DataConsumer`; the latter has no SSRCs. -/
structure Consumer where
  id : String
  /-- Its listener, a Transport. -/
  transport : ℕ
  mediaSsrcs : List (BitVec 32)

/-- The maps of a Transport. -/
structure Ends where
  mapProducers : Directory String := ∅
  mapConsumers : Directory String := ∅
  mapSsrcConsumer : BitVec 32 → Option ℕ := fun _ ↦ none

/-- Insert a Consumer into the maps. -/
def Ends.insertConsumer (ends : Ends) (c : ℕ) (consumer : Consumer) : Ends :=
  { ends with
    mapConsumers := ends.mapConsumers.insert consumer.id c
    mapSsrcConsumer := fun ssrc ↦
      if ssrc ∈ consumer.mediaSsrcs then some c else ends.mapSsrcConsumer ssrc }

/-- Remove a Consumer from the maps. -/
def Ends.eraseConsumer (ends : Ends) (consumer : Consumer) : Ends :=
  { ends with
    mapConsumers := ends.mapConsumers.erase consumer.id
    mapSsrcConsumer := fun ssrc ↦
      if ssrc ∈ consumer.mediaSsrcs then none else ends.mapSsrcConsumer ssrc }

/-- The objects, the maps of the Transports and those of the Router. -/
structure Graph (π : Type) where
  producers : ℕ → Option (Producer π) := fun _ ↦ none
  consumers : ℕ → Option Consumer := fun _ ↦ none
  ends : ℕ → Option Ends := fun _ ↦ none
  mapProducers : Directory String := ∅
  mapProducerConsumers : ℕ → Option (Finset ℕ) := fun _ ↦ none
  mapConsumerProducer : ℕ → Option ℕ := fun _ ↦ none

/-- How a request is answered. -/
inductive Reply where
  | accepted
  | thrown (text : String)
  deriving DecidableEq, Repr

/-- The request is answered with an error. -/
def refuse {σ : Type} (text : String) (s : σ) : Except Fault (Reply × σ) :=
  .ok (.thrown text, s)

namespace Graph

variable {π : Type} (n : Names) (env : Surroundings) (g : Graph π)

/-- `new Producer`, at an address that is free. -/
def newProducer (p : ℕ) (producer : Producer π) : Graph π :=
  { g with producers := Function.update g.producers p (some producer) }

/-- A member of a Producer is changed. -/
def setProducer (p : ℕ) (producer : Producer π) : Graph π :=
  { g with producers := Function.update g.producers p (some producer) }

/-- `delete producer`. -/
def deleteProducer (p : ℕ) : Graph π := { g with producers := Function.update g.producers p none }

/-- `new Consumer`, at an address that is free. -/
def newConsumer (c : ℕ) (consumer : Consumer) : Graph π :=
  { g with consumers := Function.update g.consumers c (some consumer) }

/-- `delete consumer`. -/
def deleteConsumer (c : ℕ) : Graph π := { g with consumers := Function.update g.consumers c none }

/-- `new Transport`, at an address that is free. -/
def newTransport (t : ℕ) : Graph π := { g with ends := Function.update g.ends t (some {}) }

/-- `delete transport`. -/
def deleteTransport (t : ℕ) : Graph π := { g with ends := Function.update g.ends t none }

/-- The maps of a Transport are changed. -/
def setEnds (t : ℕ) (ends : Ends) : Graph π :=
  { g with ends := Function.update g.ends t (some ends) }

/-- A member of the object at this address is used. -/
def getProducer (p : ℕ) : Except Fault (Producer π) :=
  match g.producers p with
  | none => .error .outOfBounds
  | some producer => .ok producer

/-- A member of the object at this address is used. -/
def getConsumer (c : ℕ) : Except Fault Consumer :=
  match g.consumers c with
  | none => .error .outOfBounds
  | some consumer => .ok consumer

/-- A map of the Transport at this address is used. -/
def getEnds (t : ℕ) : Except Fault Ends :=
  match g.ends t with
  | none => .error .outOfBounds
  | some ends => .ok ends

/-! ## Key frames -/

/-- `Router::OnTransportConsumerKeyFrameRequested(transport, consumer, mappedSsrc)`. -/
def onTransportConsumerKeyFrameRequested (c : ℕ) : Except Fault Unit :=
  match g.mapConsumerProducer c with
  | none => .error .outOfRange
  | some p => do
    let _ ← g.getProducer p
    return ()

/-- Of these Consumers and those of the Transport some ask for a key frame. -/
def requestKeyFrames (t : ℕ) (consumers : List ℕ) : Except Fault Unit := do
  let ends ← g.getEnds t
  ((env.keyFrames t).filter fun c ↦ c ∈ consumers ++ ends.mapConsumers.addresses).forM
    g.onTransportConsumerKeyFrameRequested

/-- A Consumer is told something by its Producer. -/
def notify (c : ℕ) : Except Fault Unit := do
  let consumer ← g.getConsumer c
  g.requestKeyFrames env consumer.transport [c]

/-- `mapProducerConsumers.at(producer)`, and a loop that tells each of the Consumers something. -/
def notifyConsumers (p : ℕ) : Except Fault Unit :=
  match g.mapProducerConsumers p with
  | none => .error .outOfRange
  | some consumers => (env.members consumers).forM (g.notify env)

/-! ## Consumers are closed -/

/-- A Transport removes a Consumer from its maps. -/
def forgetConsumer (t : ℕ) (consumer : Consumer) : Except Fault (Graph π) := do
  let ends ← g.getEnds t
  return g.setEnds t (ends.eraseConsumer consumer)

/-- `Router::OnTransportConsumerClosed(transport, consumer)`. -/
def onTransportConsumerClosed (c : ℕ) : Except Fault (Graph π) :=
  match g.mapConsumerProducer c with
  | none => .error (.assertion
      (n.consumer ++ " not present in map" ++ n.consumer ++ n.producer))
  | some p =>
    match g.mapProducerConsumers p with
    | none => .error (.assertion
        (n.producer ++ " not present in map" ++ n.producer ++ n.consumer ++ "s"))
    | some consumers => .ok
        -- Remove the Consumer from the set of Consumers of the Producer.
        { g with
          mapProducerConsumers :=
            Function.update g.mapProducerConsumers p (some (consumers.erase c))
          mapConsumerProducer := Function.update g.mapConsumerProducer c none }

/-- `Router::OnTransportConsumerProducerClosed(transport, consumer)`. -/
def onTransportConsumerProducerClosed (c : ℕ) : Except Fault (Graph π) := do
  msAssert (g.mapConsumerProducer c).isSome
    (n.consumer ++ " not present in map" ++ n.consumer ++ n.producer)
  return { g with mapConsumerProducer := Function.update g.mapConsumerProducer c none }

/-- `Consumer::ProducerClosed()` with `Transport::OnConsumerProducerClosed(consumer)`. -/
def producerClosed (c : ℕ) : Except Fault (Graph π) := do
  let consumer ← g.getConsumer c
  let g ← g.forgetConsumer consumer.transport consumer
  let g ← g.onTransportConsumerProducerClosed n c
  let g := g.deleteConsumer c
  g.requestKeyFrames env consumer.transport []
  return g

/-- The object that the Transport has under an id, which is `none` if it is missing or not a
string. -/
def getFromInternal (map : Directory String) (what idName : String) (id : Option String) :
    Except String ℕ :=
  match id with
  | none => .error ("missing internal." ++ idName)
  | some id =>
    match map.lookup id with
    | none => .error (what ++ " not found")
    | some object => .ok object

/-- An id under which there is nothing yet. -/
def setNewIdFromInternal (map : Directory String) (exists_ idName : String) (id : Option String) :
    Except String String :=
  match id with
  | none => .error ("missing internal." ++ idName)
  | some id => if (map.lookup id).isSome then .error exists_ else .ok id

/-- `CONSUMER_CLOSE`. -/
def closeConsumer (t : ℕ) (consumerId : Option String) : Except Fault (Reply × Graph π) := do
  let ends ← g.getEnds t
  match getFromInternal ends.mapConsumers n.consumer n.consumerId consumerId with
  | .error text => refuse text g
  | .ok c => do
    let consumer ← g.getConsumer c
    let g ← g.forgetConsumer t consumer
    let g ← g.onTransportConsumerClosed n c
    let g := g.deleteConsumer c
    g.requestKeyFrames env t []
    return (.accepted, g)

/-! ## Producers are closed -/

/-- What `Router::OnTransportProducerClosed(transport, producer)` looks up and asserts: the
Producer and its Consumers. -/
def findProducer (p : ℕ) : Except Fault (Producer π × Finset ℕ) := do
  let producer ← g.getProducer p
  match g.mapProducerConsumers p with
  | none => .error (.assertion
      (n.producer ++ " not present in map" ++ n.producer ++ n.consumer ++ "s"))
  | some consumers => do
    msAssert (g.mapProducers.lookup producer.id).isSome
      (n.producer ++ " not present in map" ++ n.producer ++ "s")
    return (producer, consumers)

/-- Close all Consumers associated to the closed Producer. -/
def closeConsumers (consumers : Finset ℕ) : Except Fault (Graph π) :=
  (env.members consumers).foldlM (producerClosed n env) g

/-- Remove the Producer from the maps. -/
def eraseProducer (p : ℕ) (producer : Producer π) : Graph π :=
  { g with
    mapProducers := g.mapProducers.erase producer.id
    mapProducerConsumers := Function.update g.mapProducerConsumers p none }

/-- `Router::OnTransportDataProducerClosed(transport, dataProducer)`. -/
def onTransportProducerClosed (p : ℕ) : Except Fault (Graph π) := do
  let (producer, consumers) ← g.findProducer n p
  let g ← g.closeConsumers n env consumers
  return g.eraseProducer p producer

/-- The Transport removes a Producer from its map. -/
def forgetProducer (t : ℕ) (producer : Producer π) : Except Fault (Graph π) := do
  let ends ← g.getEnds t
  return g.setEnds t { ends with mapProducers := ends.mapProducers.erase producer.id }

/-- `DATA_PRODUCER_CLOSE`. -/
def closeProducer (t : ℕ) (producerId : Option String) : Except Fault (Reply × Graph π) := do
  let ends ← g.getEnds t
  match getFromInternal ends.mapProducers n.producer n.producerId producerId with
  | .error text => refuse text g
  | .ok p => do
    let producer ← g.getProducer p
    let g ← g.forgetProducer t producer
    let g ← g.onTransportProducerClosed n env p
    return (.accepted, g.deleteProducer p)

/-! ## A Transport is closed -/

/-- The end of the loop over the Producers. -/
def clearProducers (t : ℕ) : Except Fault (Graph π) := do
  let ends ← g.getEnds t
  return g.setEnds t { ends with mapProducers := ∅ }

/-- The loop over the DataProducers in `Transport::CloseProducersAndConsumers`. -/
def closeAllProducers (t : ℕ) : Except Fault (Graph π) := do
  let ends ← g.getEnds t
  let g ← (env.objects ends.mapProducers).foldlM
    (fun g p ↦ do
      let g ← g.onTransportProducerClosed n env p
      return g.deleteProducer p) g
  g.clearProducers t

/-- The loop over the Consumers in `Transport::CloseProducersAndConsumers`. -/
def closeAllConsumers (t : ℕ) : Except Fault (Graph π) := do
  let ends ← g.getEnds t
  let g ← (env.objects ends.mapConsumers).foldlM
    (fun g c ↦ do
      let g ← g.onTransportConsumerClosed n c
      return g.deleteConsumer c) g
  return g.setEnds t { ends with mapConsumers := ∅, mapSsrcConsumer := fun _ ↦ none }

/-! ## New objects -/

/-- Insert the Producer in the maps. -/
def insertProducer (p : ℕ) (producer : Producer π) : Graph π :=
  { g with
    mapProducers := g.mapProducers.insert producer.id p
    mapProducerConsumers := Function.update g.mapProducerConsumers p (some ∅) }

/-- Insert the Consumer in the maps. -/
def insertConsumer (c p : ℕ) (consumers : Finset ℕ) : Graph π :=
  { g with
    mapProducerConsumers := Function.update g.mapProducerConsumers p (some (insert c consumers))
    mapConsumerProducer := Function.update g.mapConsumerProducer c (some p) }

/-- `Router::OnTransportNewProducer(transport, producer)`. -/
def onTransportNewProducer (p : ℕ) : Except Fault (Except String (Graph π)) := do
  msAssert (g.mapProducerConsumers p).isNone
    (n.producer ++ " already present in map" ++ n.producer ++ n.consumer ++ "s")
  let producer ← g.getProducer p
  if (g.mapProducers.lookup producer.id).isSome then
    return .error (n.producer ++ " already present in map" ++ n.producer ++ "s [" ++
      n.producerId ++ ":" ++ producer.id ++ "]")
  else
    return .ok (g.insertProducer p producer)

/-- `TRANSPORT_PRODUCE`, where the new object is at `p`. `made` is what the constructor reads from
the data, and `listen` tells whether the listener takes the Producer. -/
def produce (t : ℕ) (producerId : Option String) (made : Except String π)
    (listen : π → Except String Unit) (p : ℕ) : Except Fault (Reply × Graph π) := do
  let ends ← g.getEnds t
  match setNewIdFromInternal ends.mapProducers
    ("a " ++ n.producer ++ " with same " ++ n.producerId ++ " already exists") n.producerId
    producerId with
  | .error text => refuse text g
  | .ok id =>
    match made with
    | .error text => refuse text g
    | .ok info =>
      let g := g.newProducer p { id, transport := t, info }
      match listen info with
      | .error text => refuse text (g.deleteProducer p)
      | .ok () =>
        match ← g.onTransportNewProducer n p with
        | .error text => refuse text (g.deleteProducer p)
        | .ok g =>
          -- Insert into the map.
          return (.accepted, g.setEnds t
            { ends with mapProducers := ends.mapProducers.insert id p })

/-- `Router::OnTransportNewConsumer(transport, consumer, producerId)`. A new Consumer is not
connected, so it is not active and asks for nothing when it is told that the Producer is paused. -/
def onTransportNewConsumer (c : ℕ) (producerId : String) :
    Except Fault (Except String (Graph π)) :=
  match g.mapProducers.lookup producerId with
  | none => .ok (.error
      (n.producer ++ " not found [" ++ n.producerId ++ ":" ++ producerId ++ "]"))
  | some p =>
    match g.mapProducerConsumers p with
    | none => .error (.assertion
        (n.producer ++ " not present in map" ++ n.producer ++ n.consumer ++ "s"))
    | some consumers => do
      msAssert (g.mapConsumerProducer c).isNone
        (n.consumer ++ " already present in map" ++ n.consumer ++ n.producer)
      let _ ← g.getProducer p
      let g := g.insertConsumer c p consumers
      -- Provide the Consumer with the streams and the scores of the Producer.
      g.notify env c
      return .ok g

/-- `TRANSPORT_CONSUME`, where the new object is at `c`. `made` is what the constructor reads from
the data, here the SSRCs. -/
def consume (t : ℕ) (producerId consumerId : Option String)
    (made : Except String (List (BitVec 32))) (c : ℕ) : Except Fault (Reply × Graph π) := do
  let ends ← g.getEnds t
  match producerId with
  | none => refuse ("missing internal." ++ n.producerId) g
  | some producerId =>
    match setNewIdFromInternal ends.mapConsumers
      ("a " ++ n.consumer ++ " with same " ++ n.consumerId ++ " already exists") n.consumerId
      consumerId with
    | .error text => refuse text g
    | .ok id =>
      match made with
      | .error text => refuse text g
      | .ok mediaSsrcs =>
        let consumer : Consumer := { id, transport := t, mediaSsrcs }
        let g := g.newConsumer c consumer
        match ← g.onTransportNewConsumer n env c producerId with
        | .error text => refuse text (g.deleteConsumer c)
        | .ok g =>
          -- Insert into the maps.
          let g := g.setEnds t (ends.insertConsumer c consumer)
          g.requestKeyFrames env t []
          return (.accepted, g)

end Graph

end RouterGraph

end MediasoupSfu
