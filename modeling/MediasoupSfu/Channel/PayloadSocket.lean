import MediasoupSfu.Channel.PayloadRequest
import MediasoupSfu.Stream.Send

/-!
# Headers and payloads on the payload channel

The controller sends two netstrings for each request or notification, a JSON header and a payload.
Nothing on the wire tells them apart: the socket takes a netstring for a payload exactly when it
keeps a request or a notification of which it has read the header. So `onConsumerSocketMessage` is a
machine with two kinds of states.

A header that is rejected leaves nothing behind, and then its payload is taken for the next header.
The payload is parsed outside any `try`: if it is not JSON the exception ends the worker, and if it
is, it may even be handled as a request. `paired_iff` says that a sequence of pairs is taken as
pairs exactly when no header in it is rejected. Within a pair whose header is accepted,
`answeredOnce_iff` says when a request is answered.
-/

namespace MediasoupSfu

namespace PayloadChannel

/-! ## Notifications -/

/-- `Notification::EventId`. -/
inductive EventId where
  | transportSendRtcp
  | producerSend
  | dataProducerSend
  deriving DecidableEq, Repr

/-- `Notification::string2EventId`. -/
def string2EventId : String → Option EventId
  | "transport.sendRtcp" => some .transportSendRtcp
  | "producer.send" => some .producerSend
  | "dataProducer.send" => some .dataProducerSend
  | _ => none

/-- `PayloadChannel::Notification`. -/
structure Notification where
  event : String
  eventId : EventId
  internal : Json
  data : Json
  payload : List Byte := []

/-- `Notification::IsNotification(jsonNotification)`. -/
def isNotification (jsonNotification : Json) : Bool :=
  match jsonNotification.find? "event" with
  | some (.string event) => (string2EventId event).isSome
  | _ => false

/-- `Notification(jsonNotification)`. -/
def Notification.make (jsonNotification : Json) : Except Thrown Notification :=
  match jsonNotification.find? "event" with
  | some (.string event) =>
    match string2EventId event with
    | none => .error (.error s!"unknown event '{event}'")
    | some eventId =>
      .ok {
        event := event
        eventId := eventId
        internal := objectOf jsonNotification "internal"
        data := objectOf jsonNotification "data" }
  | _ => .error (.error "missing event")

/-- What a direct transport goes on with. -/
inductive Delivered where
  | rtcp (data : List Byte)
  | rtp (data : List Byte)
  | message (dataProducer : DataProducer) (ppid : BitVec 32) (msg : List Byte)

/-- `DirectTransport::HandleNotification(notification)`. -/
def Transport.directHandleNotification (transport : Transport) (notification : Notification) :
    Except Thrown (Option Delivered) :=
  match notification.eventId with
  | .transportSendRtcp =>
    if mtuSize + 100 < notification.payload.length then .ok none
    else .ok (some (.rtcp notification.payload))
  | .producerSend =>
    if mtuSize + 100 < notification.payload.length then .ok none
    else .ok (some (.rtp notification.payload))
  | .dataProducerSend => do
    let dataProducer ← getFromInternal transport.mapDataProducers notification.internal
      "dataProducerId" "missing internal.dataProducerId" "DataProducer not found"
    match notification.data.find? "ppid" with
    | none => .error (.typeError "invalid ppid")
    | some jsonPpid =>
      if !isPositiveInteger jsonPpid then .error (.typeError "invalid ppid")
      else if transport.maxMessageSize < notification.payload.length then .ok none
      else .ok (some (.message dataProducer (getUInt32 jsonPpid) notification.payload))

/-- `HandleNotification` of the class of the transport. All others have no event. -/
def Transport.handleNotification (transport : Transport) (notification : Notification) :
    Except Thrown (Option Delivered) :=
  if transport.isDirectTransport then transport.directHandleNotification notification
  else .ok none

/-- `Router::HandleNotification(notification)`. -/
def Router.handleNotification (router : Router) (notification : Notification) :
    Except Thrown (Option Delivered) := do
  (← router.getTransportFromInternal notification.internal).handleNotification notification

/-- `Worker::OnPayloadChannelNotification(payloadChannel, notification)`. -/
def Worker.onPayloadChannelNotification (worker : Worker) (notification : Notification) :
    Except Thrown (Option Delivered) := do
  (← worker.getRouterFromInternal notification.internal).handleNotification notification

/-! ## The socket -/

/-- `PayloadChannel::UnixStreamSocket`. -/
structure Socket where
  ongoingNotification : Option Notification := none
  ongoingRequest : Option Request := none

/-- A netstring arrives, with the worker and usrsctp as they are then. -/
structure Event where
  worker : Worker := {}
  sendv : Sendv := fun _ _ ↦ 0
  msg : List Byte

/-- What the listener is notified of. -/
inductive Message where
  | request (request : Request)
  | notification (notification : Notification)

/-- `SetPayload(payload, payloadLen)`. -/
def Message.setPayload (payload : List Byte) : Message → Message
  | .request r => .request { r with payload := payload }
  | .notification n => .notification { n with payload := payload }

/-- What the socket does with a netstring. -/
structure Taken where
  /-- It is parsed as a header. -/
  asHeader : Bool := false
  /-- The listener is notified. -/
  handled : Option Message := none
  /-- What the listener does with a notification. (A `MediaSoupError` is caught.) -/
  delivered : Option Delivered := none
  responses : List Response := []

/-- What ends the worker. -/
inductive Escaped where
  | parseError
  | fault (fault : Fault)
  deriving DecidableEq

/-- `OnConsumerSocketMessage(consumerSocket, msg, msgLen)`, where `parse` is `json::parse`. -/
def onConsumerSocketMessage (parse : List Byte → Option Json) (socket : Socket) (event : Event) :
    Except Escaped (Taken × Socket) :=
  match socket.ongoingNotification, socket.ongoingRequest with
  | none, none =>
    match parse event.msg with
    -- The first of the two calls of `json::parse` is not in a `try`.
    | none => .error .parseError
    | some jsonData =>
      if isRequest jsonData then
        match Request.make jsonData with
        | (responses, .error _) => .ok ({ asHeader := true, responses := responses }, socket)
        | (responses, .ok request) =>
          .ok ({ asHeader := true, responses := responses },
            { socket with ongoingRequest := some request })
      else if isNotification jsonData then
        match Notification.make jsonData with
        | .error _ => .ok ({ asHeader := true }, socket)
        | .ok notification =>
          .ok ({ asHeader := true }, { socket with ongoingNotification := some notification })
      else .ok ({ asHeader := true }, socket)
  | some notification, _ =>
    let notification := { notification with payload := event.msg }
    let delivered :=
      match event.worker.onPayloadChannelNotification notification with
      | .error _ => none
      | .ok delivered => delivered
    .ok ({ handled := some (.notification notification), delivered := delivered },
      { socket with ongoingNotification := none })
  | none, some request =>
    let request := { request with payload := event.msg }
    match event.worker.respond event.sendv request with
    | .error fault => .error (.fault fault)
    | .ok responses =>
      .ok ({ handled := some (.request request), responses := responses },
        { socket with ongoingRequest := none })

/-- What the socket does with netstrings that arrive one after the other. -/
def take (parse : List Byte → Option Json) : Socket → List Event → Except Escaped (List Taken) :=
  Run.outputs (onConsumerSocketMessage parse)

/-! ## Accepted headers -/

/-- The request or the notification that the socket makes of a header, if it does. -/
def acceptedHeader (parse : List Byte → Option Json) (msg : List Byte) : Option Message :=
  match parse msg with
  | none => none
  | some jsonData =>
    if isRequest jsonData then
      match (Request.make jsonData).2 with
      | .error _ => none
      | .ok request => some (.request request)
    else if isNotification jsonData then
      match Notification.make jsonData with
      | .error _ => none
      | .ok notification => some (.notification notification)
    else none

/-- The socket that has read a header and waits for its payload. -/
def Socket.waiting : Message → Socket
  | .request request => { ongoingRequest := some request }
  | .notification notification => { ongoingNotification := some notification }

/-- There was no reply yet. -/
def Message.Unreplied : Message → Prop
  | .request r => r.replied = false
  | .notification _ => True

/-- The constructor replies only when it throws, so a request that is made is not replied. -/
theorem Request.make_eq_ok {jsonRequest : Json} {responses : List Response} {request : Request}
    (h : Request.make jsonRequest = (responses, .ok request)) :
    responses = [] ∧ request.replied = false := by
  unfold Request.make at h
  split at h
  · cases h
  · split at h
    · cases h
    · split at h
      · split at h
        · cases h
        · obtain ⟨rfl, hok⟩ := Prod.mk.inj h
          cases hok
          exact ⟨rfl, rfl⟩
      · cases h

section Socket

variable {parse : List Byte → Option Json}

/-- With nothing kept, a netstring is parsed. If it is an accepted header it is kept, and if not it
ends the worker or is forgotten. -/
theorem take_header (parse : List Byte → Option Json) (event : Event) :
    (∃ message, acceptedHeader parse event.msg = some message ∧ message.Unreplied ∧
      onConsumerSocketMessage parse {} event =
        .ok ({ asHeader := true }, Socket.waiting message)) ∨
    acceptedHeader parse event.msg = none ∧
      (onConsumerSocketMessage parse {} event = .error .parseError ∨
        ∃ responses, onConsumerSocketMessage parse {} event =
          .ok ({ asHeader := true, responses := responses }, {})) := by
  unfold acceptedHeader onConsumerSocketMessage
  cases hparse : parse event.msg with
  | none => exact .inr ⟨rfl, .inl rfl⟩
  | some jsonData =>
    dsimp only
    by_cases hrequest : isRequest jsonData
    · rw [if_pos hrequest, if_pos hrequest]
      rcases hmake : Request.make jsonData with ⟨responses, made⟩
      cases made with
      | error thrown => exact .inr ⟨rfl, .inr ⟨responses, rfl⟩⟩
      | ok request =>
        obtain ⟨rfl, hreplied⟩ := Request.make_eq_ok hmake
        exact .inl ⟨.request request, rfl, hreplied, rfl⟩
    · rw [if_neg hrequest, if_neg hrequest]
      by_cases hnotification : isNotification jsonData
      · rw [if_pos hnotification, if_pos hnotification]
        cases hmake : Notification.make jsonData with
        | error thrown => exact .inr ⟨rfl, .inr ⟨[], rfl⟩⟩
        | ok notification => exact .inl ⟨.notification notification, rfl, trivial, rfl⟩
      · rw [if_neg hnotification, if_neg hnotification]
        exact .inr ⟨rfl, .inr ⟨[], rfl⟩⟩

/-- An accepted header is kept. -/
theorem take_header_of_accepted {event : Event} {message : Message}
    (h : acceptedHeader parse event.msg = some message) :
    message.Unreplied ∧
      onConsumerSocketMessage parse {} event =
        .ok ({ asHeader := true }, Socket.waiting message) := by
  rcases take_header parse event with ⟨message', h', hkept⟩ | ⟨h', -⟩
  · obtain rfl := Option.some.inj (h.symm.trans h')
    exact hkept
  · rw [h'] at h
    cases h

/-- With nothing kept, what is not an error is parsed as a header. -/
theorem asHeader_of_take {event : Event} {taken : Taken} {socket : Socket}
    (h : onConsumerSocketMessage parse {} event = .ok (taken, socket)) :
    taken.asHeader = true := by
  rcases take_header parse event with
    ⟨message, -, -, hkept⟩ | ⟨-, hfail | ⟨responses, hforgotten⟩⟩
  · rw [hkept] at h
    cases h
    rfl
  · rw [hfail] at h
    cases h
  · rw [hforgotten] at h
    cases h
    rfl

/-- The netstring after an accepted header is its payload, and then nothing is kept. -/
theorem take_payload (parse : List Byte → Option Json) {message : Message} (h : message.Unreplied)
    (event : Event) :
    ∃ taken, onConsumerSocketMessage parse (Socket.waiting message) event = .ok (taken, {}) ∧
      taken.asHeader = false ∧ taken.handled = some (message.setPayload event.msg) := by
  cases message with
  | notification notification => exact ⟨_, rfl, rfl, rfl⟩
  | request request =>
    unfold onConsumerSocketMessage
    dsimp only [Socket.waiting]
    rcases event.worker.respond_spec event.sendv
      (show ({ request with payload := event.msg } : Request).replied = false from h) with
      ⟨-, hrespond⟩ | ⟨-, response, hrespond, -⟩ <;>
    · rw [hrespond]
      exact ⟨_, rfl, rfl, rfl⟩

/-! ## Pairs -/

/-- The netstrings are taken as headers and payloads by turns, nothing escapes, and each accepted
header is handled with its own payload, in order. -/
def Paired (parse : List Byte → Option Json) (pairs : List (Event × Event)) : Prop :=
  ∃ taken, take parse {} (pairs.flatMap fun p ↦ [p.1, p.2]) = .ok taken ∧
    taken.map Taken.asHeader = pairs.flatMap (fun _ ↦ [true, false]) ∧
    taken.filterMap Taken.handled =
      pairs.filterMap fun p ↦ (acceptedHeader parse p.1.msg).map (Message.setPayload p.2.msg)

/-- A pair whose header is accepted leaves the socket as it was. -/
theorem paired_cons_of_accepted {header payload : Event} {pairs : List (Event × Event)}
    {message : Message} (h : acceptedHeader parse header.msg = some message) :
    Paired parse ((header, payload) :: pairs) ↔ Paired parse pairs := by
  obtain ⟨hunreplied, hheader⟩ := take_header_of_accepted h
  obtain ⟨taken, hpayload, hasHeader, hhandled⟩ := take_payload parse hunreplied payload
  unfold Paired take
  simp only [List.flatMap_cons, List.cons_append, List.nil_append, List.filterMap_cons, h,
    Option.map_some]
  constructor
  · rintro ⟨all, htake, hflags, hall⟩
    obtain ⟨t₁, s₁, rest₁, h₁, hrest₁, rfl⟩ := Run.outputs_cons_eq_ok.mp htake
    rw [hheader] at h₁
    cases h₁
    obtain ⟨t₂, s₂, rest, h₂, hrest, rfl⟩ := Run.outputs_cons_eq_ok.mp hrest₁
    rw [hpayload] at h₂
    cases h₂
    refine ⟨rest, hrest, ?_, ?_⟩
    · rw [List.map_cons, List.map_cons] at hflags
      exact (List.cons.inj (List.cons.inj hflags).2).2
    · rw [List.filterMap_cons_none rfl, List.filterMap_cons_some hhandled] at hall
      exact (List.cons.inj hall).2
  · rintro ⟨rest, hrest, hflags, hall⟩
    refine ⟨{ asHeader := true } :: taken :: rest, ?_, ?_, ?_⟩
    · exact Run.outputs_cons_eq_ok.mpr ⟨_, _, _, hheader,
        Run.outputs_cons_eq_ok.mpr ⟨_, _, _, hpayload, hrest, rfl⟩, rfl⟩
    · rw [List.map_cons, List.map_cons, hasHeader, hflags]
    · rw [List.filterMap_cons_none rfl, List.filterMap_cons_some hhandled, hall]

/-- After a rejected header nothing is kept, and so the payload is parsed. -/
theorem not_paired_cons_of_rejected {header payload : Event} {pairs : List (Event × Event)}
    (h : acceptedHeader parse header.msg = none) :
    ¬Paired parse ((header, payload) :: pairs) := by
  rintro ⟨all, htake, hflags, -⟩
  rw [List.flatMap_cons, List.cons_append, List.cons_append] at htake hflags
  obtain ⟨t₁, s₁, rest₁, h₁, hrest₁, rfl⟩ := Run.outputs_cons_eq_ok.mp htake
  obtain ⟨t₂, s₂, rest, h₂, -, rfl⟩ := Run.outputs_cons_eq_ok.mp hrest₁
  rcases take_header parse header with
    ⟨message, haccepted, -⟩ | ⟨-, hfail | ⟨responses, hforgotten⟩⟩
  · rw [haccepted] at h
    cases h
  · rw [hfail] at h₁
    cases h₁
  · rw [hforgotten] at h₁
    cases h₁
    rw [List.map_cons, List.map_cons, asHeader_of_take h₂] at hflags
    cases (List.cons.inj (List.cons.inj hflags).2).1

/-- Netstrings are taken as the pairs that were sent exactly when no header is rejected. -/
theorem paired_iff (parse : List Byte → Option Json) (pairs : List (Event × Event)) :
    Paired parse pairs ↔ ∀ p ∈ pairs, (acceptedHeader parse p.1.msg).isSome := by
  induction pairs with
  | nil => exact ⟨fun _ _ hp ↦ absurd hp List.not_mem_nil, fun _ ↦ ⟨[], rfl, rfl, rfl⟩⟩
  | cons p pairs ih =>
    obtain ⟨header, payload⟩ := p
    rw [List.forall_mem_cons]
    cases haccepted : acceptedHeader parse header.msg with
    | none =>
      refine iff_of_false (not_paired_cons_of_rejected haccepted) ?_
      rintro ⟨h, -⟩
      cases h
    | some message =>
      rw [paired_cons_of_accepted haccepted, ih]
      exact (and_iff_right rfl).symm

/-- `json::parse` where it is given an empty object or what is no JSON. -/
def parseEmptyObject (msg : List Byte) : Option Json :=
  if msg = [0x7B, 0x7D] then some (.object []) else none

/-- An empty object is rejected, and then its payload, the letter "a", ends the worker. -/
theorem not_paired_emptyObject :
    parseEmptyObject [0x7B, 0x7D] = some (.object []) ∧
      take parseEmptyObject {} [{ msg := [0x7B, 0x7D] }, { msg := [0x61] }] = .error .parseError ∧
      ¬Paired parseEmptyObject [({ msg := [0x7B, 0x7D] }, { msg := [0x61] })] :=
  ⟨rfl, rfl, not_paired_cons_of_rejected rfl⟩

/-! ## Requests -/

/-- Of a header and its payload comes one reply, with this id. -/
def AnsweredOnce (parse : List Byte → Option Json) (header payload : Event) (id : BitVec 32) :
    Prop :=
  ∃ taken response, take parse {} [header, payload] = .ok taken ∧
    taken.flatMap Taken.responses = [response] ∧ response.id = id

/-- What comes of an accepted request and its payload. -/
theorem take_request {header payload : Event} {request : Request}
    (h : acceptedHeader parse header.msg = some (.request request)) {responses : List Response}
    (hrespond : payload.worker.respond payload.sendv { request with payload := payload.msg } =
      .ok responses) :
    ∃ taken, take parse {} [header, payload] = .ok taken ∧
      taken.flatMap Taken.responses = responses := by
  have hheader := (take_header_of_accepted h).2
  have hpayload : onConsumerSocketMessage parse (Socket.waiting (.request request)) payload =
      .ok ({ handled := some (.request { request with payload := payload.msg })
             responses := responses }, {}) := by
    unfold onConsumerSocketMessage
    dsimp only [Socket.waiting]
    rw [hrespond]
  refine ⟨_, Run.outputs_cons_eq_ok.mpr ⟨_, _, _, hheader,
    Run.outputs_cons_eq_ok.mpr ⟨_, _, _, hpayload, rfl, rfl⟩, rfl⟩, ?_⟩
  rw [List.flatMap_cons, List.flatMap_cons, List.flatMap_nil, List.append_nil]
  rfl

/-- No assertion fails on an accepted request, whatever its payload, and it is answered once exactly
when it is not one of those that are left unanswered. -/
theorem answeredOnce_iff {header payload : Event} {request : Request}
    (h : acceptedHeader parse header.msg = some (.request request)) :
    (∃ taken, take parse {} [header, payload] = .ok taken) ∧
      (AnsweredOnce parse header payload request.id ↔
        ¬payload.worker.Unanswered { request with payload := payload.msg }) := by
  have hunreplied := (take_header_of_accepted h).1
  have hreplied : ({ request with payload := payload.msg } : Request).replied = false := hunreplied
  rcases payload.worker.respond_spec payload.sendv hreplied with
    ⟨hunanswered, hrespond⟩ | ⟨hanswered, response, hrespond, hid⟩
  · obtain ⟨taken, htake, hresponses⟩ := take_request h hrespond
    refine ⟨⟨taken, htake⟩, iff_of_false ?_ (not_not_intro hunanswered)⟩
    rintro ⟨taken', response, htake', hresponses', -⟩
    obtain rfl := Except.ok.inj (htake.symm.trans htake')
    rw [hresponses] at hresponses'
    cases hresponses'
  · obtain ⟨taken, htake, hresponses⟩ := take_request h hrespond
    exact ⟨⟨taken, htake⟩, iff_of_true ⟨taken, response, htake, hresponses, hid⟩ hanswered⟩

/-! ### A request to a `DataConsumer` of a plain transport -/

/-- The header of a request to send a message to the `DataConsumer` "c". -/
@[irreducible] def sendHeader : List Byte :=
  ("\x7b\"data\":\x7b\"ppid\":53\x7d,\"id\":7,\"internal\":\x7b\"dataConsumerId\":\"c\"," ++
    "\"routerId\":\"r\",\"transportId\":\"t\"\x7d,\"method\":\"dataConsumer.send\"\x7d").toList.map
      fun c ↦ BitVec.ofNat 8 c.toNat

/-- The value that this header is parsed to. -/
def sendJson : Json :=
  .object [
    ("data", .object [("ppid", .number 53)]),
    ("id", .number 7),
    ("internal", .object [
      ("dataConsumerId", .string "c"), ("routerId", .string "r"), ("transportId", .string "t")]),
    ("method", .string "dataConsumer.send")]

/-- `json::parse` where it is given this header or what is no JSON. -/
def parseSendHeader (msg : List Byte) : Option Json :=
  if msg = sendHeader then some sendJson else none

/-- The request. -/
def sendRequest : Request where
  id := 7
  method := "dataConsumer.send"
  internal := objectOf sendJson "internal"
  data := objectOf sendJson "data"

theorem acceptedHeader_sendHeader :
    acceptedHeader parseSendHeader ({ msg := sendHeader } : Event).msg =
      some (.request sendRequest) := by
  rw [acceptedHeader, parseSendHeader, if_pos rfl]
  rfl

/-- A worker with one `DataConsumer`, on a connected transport. -/
def workerOf (sctpAssociationConnected : Bool) : Worker where
  mapRouters _ := some {
    mapTransports := fun _ ↦ some {
      maxMessageSize := 262144
      sctpAssociation := some ⟨{ maxSctpMessageSize := 262144 }, rfl⟩
      not_direct_of_sctpAssociation := fun _ ↦ rfl
      mapDataConsumers := fun _ ↦ some {
        type := .sctp
        transportConnected := true
        sctpAssociationConnected := sctpAssociationConnected } } }

/-- With the association connected the request is answered. -/
theorem answeredOnce_sendHeader :
    AnsweredOnce parseSendHeader { msg := sendHeader }
      { worker := workerOf true, msg := [1] } 7 := by
  refine (answeredOnce_iff acceptedHeader_sendHeader).2.mpr ?_
  rintro ⟨router, hrouter, transport, htransport, dataConsumer, hdataConsumer, -, -, -, hsilent⟩
  obtain rfl := Except.ok.inj (Eq.trans (Eq.symm hrouter) rfl)
  obtain rfl := Except.ok.inj (Eq.trans (Eq.symm htransport) rfl)
  obtain rfl := Except.ok.inj (Eq.trans (Eq.symm hdataConsumer) rfl)
  rcases hsilent with hlong | hinactive
  · exact absurd hlong (by decide)
  · exact hinactive rfl

/-- Before the association is connected the request is accepted and never answered. -/
theorem not_answeredOnce_inactive :
    acceptedHeader parseSendHeader sendHeader = some (.request sendRequest) ∧
      ¬AnsweredOnce parseSendHeader { msg := sendHeader }
        { worker := workerOf false, msg := [1] } 7 := by
  refine ⟨acceptedHeader_sendHeader, ?_⟩
  rintro ⟨taken, response, htake, hresponses, -⟩
  let payload : Event := { worker := workerOf false, msg := [1] }
  have hrespond : payload.worker.respond payload.sendv
      { sendRequest with payload := payload.msg } = .ok [] := rfl
  obtain ⟨taken', htake', hresponses'⟩ := take_request acceptedHeader_sendHeader hrespond
  obtain rfl := Except.ok.inj (htake.symm.trans htake')
  rw [hresponses] at hresponses'
  cases hresponses'

end Socket

end PayloadChannel

end MediasoupSfu
