import MediasoupSfu.Library.Json
import MediasoupSfu.Sctp.Reassembly

/-!
# Requests on the payload channel, in the worker

A request to send a message goes from the worker to a router, a transport and a `DataConsumer`,
which leaves the reply to a callback that is called when usrsctp has taken the message. On its way
down a request may fail in two ways. An error that is thrown is turned into the reply by the socket,
above all others. But a `DataConsumer` that does not send, because the message is longer than
`maxMessageSize` or because it is not active, just returns, and then there is no reply: who sent the
request waits for ever. `Unanswered` says when this is so, and `respond_spec` that there is exactly
one reply in all other cases.

What is counted and notified along the way (messages, bytes, buffered amounts) is left out.
-/

namespace MediasoupSfu

namespace PayloadChannel

/-! ## Requests and replies -/

/-- `MediaSoupTypeError` or `MediaSoupError`, with its text. -/
inductive Thrown where
  | typeError (what : String)
  | error (what : String)
  deriving DecidableEq, Repr

/-- What is sent in reply to a request. -/
inductive Response where
  | accepted (id : BitVec 32)
  | typeError (id : BitVec 32) (reason : String)
  | error (id : BitVec 32) (reason : String)
  deriving DecidableEq, Repr

/-- The id that a reply carries. -/
def Response.id : Response → BitVec 32
  | .accepted id => id
  | .typeError id _ => id
  | .error id _ => id

/-- `PayloadChannel::Request`. (The only method is "dataConsumer.send".) -/
structure Request where
  id : BitVec 32
  method : String
  internal : Json
  data : Json
  payload : List Byte := []
  replied : Bool := false

/-- What comes of a function that is given a request. -/
structure Handled where
  request : Request
  responses : List Response := []
  thrown : Option Thrown := none

namespace Request

/-- Send a reply. -/
def reply (request : Request) (response : Response) : Except Fault Handled := do
  msAssert (!request.replied) "request already replied"
  return { request := { request with replied := true }, responses := [response] }

/-- `Accept()`. -/
def accept (request : Request) : Except Fault Handled := request.reply (.accepted request.id)

/-- `Error(reason)`. -/
def error (request : Request) (reason : String) : Except Fault Handled :=
  request.reply (.error request.id reason)

/-- `TypeError(reason)`. -/
def typeError (request : Request) (reason : String) : Except Fault Handled :=
  request.reply (.typeError request.id reason)

/-- The request that throws. -/
def throws (request : Request) (thrown : Thrown) : Except Fault Handled :=
  .ok { request := request, thrown := some thrown }

end Request

/-- `Utils::Json::IsPositiveInteger(value)`. -/
def isPositiveInteger : Json → Bool
  | .number n => 0 ≤ n
  | _ => false

/-- The conversion to `uint32_t` of an integer. -/
def getUInt32 : Json → BitVec 32
  | .number n => BitVec.ofInt 32 n
  | _ => 0

/-- The object with this key, or an empty one. -/
def objectOf (json : Json) (key : String) : Json :=
  match json.find? key with
  | some (.object fields) => .object fields
  | _ => .object []

/-- `Request::IsRequest(jsonRequest)`. -/
def isRequest (jsonRequest : Json) : Bool :=
  match jsonRequest.find? "id" with
  | none => false
  | some id =>
    if !isPositiveInteger id then false
    else
      match jsonRequest.find? "method" with
      | none => false
      | some method => method.isString

/-- `Request(channel, jsonRequest)`, which may reply before it throws. -/
def Request.make (jsonRequest : Json) : List Response × Except Thrown Request :=
  match jsonRequest.find? "id" with
  | none => ([], .error (.error "missing id"))
  | some id =>
    if !isPositiveInteger id then ([], .error (.error "missing id"))
    else
      match jsonRequest.find? "method" with
      | some (.string method) =>
        if method ≠ "dataConsumer.send" then
          ([.error (getUInt32 id) "unknown method"], .error (.error s!"unknown method '{method}'"))
        else
          ([], .ok {
            id := getUInt32 id
            method := method
            internal := objectOf jsonRequest "internal"
            data := objectOf jsonRequest "data" })
      | _ => ([], .error (.error "missing method"))

/-! ## The code that handles a request -/

/-- What is found under an id of `internal`. -/
def getFromInternal {α : Type} (map : String → Option α) (internal : Json)
    (key missing notFound : String) : Except Thrown α :=
  match internal.find? key with
  | some (.string id) =>
    match map id with
    | none => .error (.error notFound)
    | some value => .ok value
  | _ => .error (.error missing)

/-- `DataConsumer::Type`. -/
inductive DataConsumerType where
  | sctp
  | direct
  deriving DecidableEq, Repr

/-- `DataConsumer`, with the maximum that the transport passes to its constructor. -/
structure DataConsumer (maxMessageSize : ℕ) where
  type : DataConsumerType
  transportConnected : Bool := false
  sctpAssociationConnected : Bool := false
  dataProducerClosed : Bool := false

/-- `DataProducer`. -/
structure DataProducer where
  id : String

/-- `Transport`. Its `SctpAssociation` is made with the same maximum, and a direct transport cannot
enable SCTP. -/
structure Transport where
  /-- The class is `DirectTransport`. -/
  isDirectTransport : Bool := false
  maxMessageSize : ℕ := 262144
  sctpAssociation : Option {a : SctpAssociation // a.maxSctpMessageSize = maxMessageSize} := none
  not_direct_of_sctpAssociation : sctpAssociation.isSome → isDirectTransport = false := by simp
  mapDataConsumers : String → Option (DataConsumer maxMessageSize) := fun _ ↦ none
  mapDataProducers : String → Option DataProducer := fun _ ↦ none

structure Router where
  mapTransports : String → Option Transport := fun _ ↦ none

structure Worker where
  mapRouters : String → Option Router := fun _ ↦ none

/-- The result of `usrsctp_sendv` for a payload protocol identifier and a message. -/
abbrev Sendv := BitVec 32 → List Byte → ℤ

/-- `onQueuedCallback`. -/
abbrev OnQueuedCallback := Bool → Except Fault Handled

/-- `SctpAssociation::SendSctpMessage(dataConsumer, ppid, msg, len, cb)`. -/
def sendSctpMessage (association : SctpAssociation) (sendv : Sendv) (ppid : BitVec 32)
    (msg : List Byte) (cb : OnQueuedCallback) : Except Fault Handled := do
  -- This must be controlled by the DataConsumer.
  msAssert (msg.length ≤ association.maxSctpMessageSize)
    "given message exceeds max allowed message size"
  if sendv ppid msg < 0 then cb false else cb true

/-- `SendMessage` of the class of the transport. -/
def Transport.sendMessage (transport : Transport) (sendv : Sendv) (request : Request)
    (ppid : BitVec 32) (msg : List Byte) (cb : OnQueuedCallback) : Except Fault Handled :=
  -- `DirectTransport` gives the message to the controller and does not call back.
  if transport.isDirectTransport then .ok { request := request }
  else
    match transport.sctpAssociation with
    | none => .error .nullPointer
    | some association => sendSctpMessage association.1 sendv ppid msg cb

namespace DataConsumer

variable {maxMessageSize : ℕ}

/-- `IsActive()`. -/
def isActive (dataConsumer : DataConsumer maxMessageSize) : Bool :=
  dataConsumer.transportConnected &&
    (dataConsumer.type = .direct || dataConsumer.sctpAssociationConnected) &&
    !dataConsumer.dataProducerClosed

/-- `SendMessage(ppid, msg, len, cb)`, with what the transport does to send it. -/
def sendMessage (dataConsumer : DataConsumer maxMessageSize) (request : Request)
    (msg : List Byte) (send : List Byte → Except Fault Handled) : Except Fault Handled :=
  if !dataConsumer.isActive then .ok { request := request }
  else if maxMessageSize < msg.length then .ok { request := request }
  else send msg

end DataConsumer

namespace Transport

/-- `GetDataConsumerFromInternal(internal)`. -/
def getDataConsumerFromInternal (transport : Transport) (internal : Json) :
    Except Thrown (DataConsumer transport.maxMessageSize) :=
  getFromInternal transport.mapDataConsumers internal "dataConsumerId"
    "missing internal.dataConsumerId" "DataConsumer not found"

/-- `DataConsumer::HandleRequest(request)`. -/
def dataConsumerHandleRequest (transport : Transport)
    (dataConsumer : DataConsumer transport.maxMessageSize) (sendv : Sendv) (request : Request) :
    Except Fault Handled :=
  match request.data.find? "ppid" with
  | none => request.throws (.typeError "invalid ppid")
  | some jsonPpid =>
    if !isPositiveInteger jsonPpid then request.throws (.typeError "invalid ppid")
    -- The given message exceeds maxMessageSize value.
    else if transport.maxMessageSize < request.payload.length then .ok { request := request }
    else
      let cb : OnQueuedCallback := fun queued ↦
        if queued then request.accept else request.error "message send failed"
      dataConsumer.sendMessage request request.payload fun msg ↦
        transport.sendMessage sendv request (getUInt32 jsonPpid) msg cb

/-- `Transport::HandleRequest(request)`. -/
def handleRequest (transport : Transport) (sendv : Sendv) (request : Request) :
    Except Fault Handled :=
  match transport.getDataConsumerFromInternal request.internal with
  | .error thrown => request.throws thrown
  | .ok dataConsumer =>
    if dataConsumer.type ≠ .sctp then request.throws (.error "invalid DataConsumer type")
    else if transport.sctpAssociation.isNone then
      request.throws (.error "no SCTP association present")
    else transport.dataConsumerHandleRequest dataConsumer sendv request

end Transport

/-- `Router::GetTransportFromInternal(internal)`. -/
def Router.getTransportFromInternal (router : Router) (internal : Json) :
    Except Thrown Transport :=
  getFromInternal router.mapTransports internal "transportId" "missing internal.transportId"
    "Transport not found"

/-- `Router::HandleRequest(request)`. -/
def Router.handleRequest (router : Router) (sendv : Sendv) (request : Request) :
    Except Fault Handled :=
  match router.getTransportFromInternal request.internal with
  | .error thrown => request.throws thrown
  | .ok transport => transport.handleRequest sendv request

namespace Worker

/-- `Worker::GetRouterFromInternal(internal)`. -/
def getRouterFromInternal (worker : Worker) (internal : Json) : Except Thrown Router :=
  getFromInternal worker.mapRouters internal "routerId" "missing internal.routerId"
    "Router not found"

/-- `Worker::OnPayloadChannelRequest(payloadChannel, request)`. -/
def onPayloadChannelRequest (worker : Worker) (sendv : Sendv) (request : Request) :
    Except Fault Handled :=
  match worker.getRouterFromInternal request.internal with
  | .error thrown => request.throws thrown
  | .ok router => router.handleRequest sendv request

/-- The socket notifies its listener of a request and replies with an error if one is thrown. -/
def respond (worker : Worker) (sendv : Sendv) (request : Request) :
    Except Fault (List Response) := do
  let handled ← worker.onPayloadChannelRequest sendv request
  match handled.thrown with
  | none => return handled.responses
  | some (.typeError what) =>
    return handled.responses ++ (← handled.request.typeError what).responses
  | some (.error what) => return handled.responses ++ (← handled.request.error what).responses

end Worker

/-! ## Which requests are answered

At each level `Unanswered` says that the request is passed on to one that leaves it unanswered. -/

/-- The message would be sent, but it is too long or the `DataConsumer` is not active. -/
def DataConsumer.Unanswered {maxMessageSize : ℕ} (dataConsumer : DataConsumer maxMessageSize)
    (request : Request) : Prop :=
  (∃ ppid, request.data.find? "ppid" = some ppid ∧ isPositiveInteger ppid) ∧
    (maxMessageSize < request.payload.length ∨ ¬dataConsumer.isActive)

def Transport.Unanswered (transport : Transport) (request : Request) : Prop :=
  ∃ dataConsumer, transport.getDataConsumerFromInternal request.internal = .ok dataConsumer ∧
    dataConsumer.type = .sctp ∧ transport.sctpAssociation.isSome ∧ dataConsumer.Unanswered request

def Router.Unanswered (router : Router) (request : Request) : Prop :=
  ∃ transport, router.getTransportFromInternal request.internal = .ok transport ∧
    transport.Unanswered request

def Worker.Unanswered (worker : Worker) (request : Request) : Prop :=
  ∃ router, worker.getRouterFromInternal request.internal = .ok router ∧ router.Unanswered request

/-- What comes of a function that leaves a request unanswered when `unanswered` holds: in all other
cases it replies or throws, and not both. -/
inductive Outcome (request : Request) (unanswered : Prop) : Except Fault Handled → Prop
  | answered (response : Response) (hid : response.id = request.id) (h : ¬unanswered) :
    Outcome request unanswered
      (.ok { request := { request with replied := true }, responses := [response] })
  | thrown (thrown : Thrown) (h : ¬unanswered) :
    Outcome request unanswered (.ok { request := request, thrown := some thrown })
  | silent (h : unanswered) : Outcome request unanswered (.ok { request := request })

section Outcome

variable {request : Request} {sendv : Sendv}

theorem Outcome.congr {p q : Prop} {result : Except Fault Handled} (hpq : p ↔ q)
    (h : Outcome request p result) : Outcome request q result := by
  rwa [← propext hpq]

theorem Request.reply_eq (hreplied : request.replied = false) (response : Response) :
    request.reply response =
      .ok { request := { request with replied := true }, responses := [response] } := by
  rw [Request.reply, hreplied]
  rfl

/-- The callback answers, whatever it is told. -/
theorem outcome_callback (hreplied : request.replied = false) (queued : Bool) {p : Prop}
    (hp : ¬p) :
    Outcome request p
      (if queued then request.accept else request.error "message send failed") := by
  cases queued with
  | true =>
    rw [if_pos rfl, Request.accept, Request.reply_eq hreplied]
    exact .answered _ rfl hp
  | false =>
    rw [if_neg Bool.false_ne_true, Request.error, Request.reply_eq hreplied]
    exact .answered _ rfl hp

/-- The association accepts a message that the `DataConsumer` lets through, and calls back. -/
theorem Transport.outcome_sendMessage {transport : Transport}
    (hassociation : transport.sctpAssociation.isSome) (hreplied : request.replied = false)
    {msg : List Byte} (hmsg : msg.length ≤ transport.maxMessageSize) (ppid : BitVec 32) {p : Prop}
    (hp : ¬p) :
    Outcome request p (transport.sendMessage sendv request ppid msg fun queued ↦
      if queued then request.accept else request.error "message send failed") := by
  obtain ⟨association, hsome⟩ := Option.isSome_iff_exists.mp hassociation
  have hdirect := transport.not_direct_of_sctpAssociation hassociation
  have hlength : decide (msg.length ≤ association.1.maxSctpMessageSize) = true := by
    rw [association.2]
    exact decide_eq_true hmsg
  rw [Transport.sendMessage, if_neg (by rw [hdirect]; exact Bool.false_ne_true), hsome]
  change Outcome request p (sendSctpMessage association.1 sendv ppid msg _)
  rw [sendSctpMessage, hlength, msAssert_true]
  change Outcome request p (if sendv ppid msg < 0 then _ else _)
  split
  · exact outcome_callback hreplied false hp
  · exact outcome_callback hreplied true hp

theorem Transport.outcome_dataConsumerHandleRequest {transport : Transport}
    (hassociation : transport.sctpAssociation.isSome) (hreplied : request.replied = false)
    (dataConsumer : DataConsumer transport.maxMessageSize) :
    Outcome request (dataConsumer.Unanswered request)
      (transport.dataConsumerHandleRequest dataConsumer sendv request) := by
  unfold Transport.dataConsumerHandleRequest DataConsumer.Unanswered
  cases hfind : request.data.find? "ppid" with
  | none => exact .thrown _ (by rintro ⟨⟨ppid, hppid, -⟩, -⟩; cases hppid)
  | some ppid =>
    dsimp only
    by_cases hppid : isPositiveInteger ppid
    · rw [if_neg (by simp [hppid])]
      have hsome : ∃ ppid', some ppid = some ppid' ∧ isPositiveInteger ppid' := ⟨ppid, rfl, hppid⟩
      by_cases hlong : transport.maxMessageSize < request.payload.length
      · rw [if_pos hlong]
        exact .silent ⟨hsome, .inl hlong⟩
      · rw [if_neg hlong, DataConsumer.sendMessage]
        cases hactive : dataConsumer.isActive with
        | false => exact .silent ⟨hsome, .inr (by simp)⟩
        | true =>
          rw [if_neg (by simp), if_neg hlong]
          refine transport.outcome_sendMessage hassociation hreplied (not_lt.mp hlong) _ ?_
          rintro ⟨-, h | h⟩
          · exact hlong h
          · exact h rfl
    · rw [if_pos (by simp [hppid])]
      refine .thrown _ ?_
      rintro ⟨⟨ppid', h, hppid'⟩, -⟩
      cases h
      exact hppid hppid'

theorem Transport.outcome_handleRequest (transport : Transport)
    (hreplied : request.replied = false) :
    Outcome request (transport.Unanswered request) (transport.handleRequest sendv request) := by
  unfold Transport.handleRequest Transport.Unanswered
  cases hfind : transport.getDataConsumerFromInternal request.internal with
  | error thrown => exact .thrown _ (by rintro ⟨dataConsumer, h, -⟩; cases h)
  | ok dataConsumer =>
    dsimp only
    by_cases htype : dataConsumer.type = .sctp
    · rw [if_neg (not_not_intro htype)]
      cases hassociation : transport.sctpAssociation.isSome with
      | false =>
        rw [if_pos (by simpa using hassociation)]
        exact .thrown _ (by rintro ⟨-, -, -, h, -⟩; cases h)
      | true =>
        rw [if_neg (by simpa [Option.ne_none_iff_isSome] using hassociation)]
        refine (transport.outcome_dataConsumerHandleRequest hassociation hreplied
          dataConsumer).congr ⟨fun h ↦ ⟨dataConsumer, rfl, htype, rfl, h⟩, ?_⟩
        rintro ⟨dataConsumer', h, -, -, hunanswered⟩
        cases h
        exact hunanswered
    · rw [if_pos htype]
      refine .thrown _ ?_
      rintro ⟨dataConsumer', h, htype', -⟩
      cases h
      exact htype htype'

theorem Router.outcome_handleRequest (router : Router) (hreplied : request.replied = false) :
    Outcome request (router.Unanswered request) (router.handleRequest sendv request) := by
  unfold Router.handleRequest Router.Unanswered
  cases hfind : router.getTransportFromInternal request.internal with
  | error thrown => exact .thrown _ (by rintro ⟨transport, h, -⟩; cases h)
  | ok transport =>
    refine (transport.outcome_handleRequest hreplied).congr ⟨fun h ↦ ⟨transport, rfl, h⟩, ?_⟩
    rintro ⟨transport', h, hunanswered⟩
    cases h
    exact hunanswered

theorem Worker.outcome_onPayloadChannelRequest (worker : Worker) (sendv : Sendv)
    (hreplied : request.replied = false) :
    Outcome request (worker.Unanswered request)
      (worker.onPayloadChannelRequest sendv request) := by
  unfold Worker.onPayloadChannelRequest Worker.Unanswered
  cases hfind : worker.getRouterFromInternal request.internal with
  | error thrown => exact .thrown _ (by rintro ⟨router, h, -⟩; cases h)
  | ok router =>
    refine (router.outcome_handleRequest hreplied).congr ⟨fun h ↦ ⟨router, rfl, h⟩, ?_⟩
    rintro ⟨router', h, hunanswered⟩
    cases h
    exact hunanswered

/-- No assertion fails, and there is one reply with the id of the request unless the request is one
of those that are left unanswered. -/
theorem Worker.respond_spec (worker : Worker) (sendv : Sendv)
    (hreplied : request.replied = false) :
    (worker.Unanswered request ∧ worker.respond sendv request = .ok []) ∨
      ¬worker.Unanswered request ∧
        ∃ response : Response,
          worker.respond sendv request = .ok [response] ∧ response.id = request.id := by
  rw [Worker.respond]
  generalize hresult : worker.onPayloadChannelRequest sendv request = result
  have houtcome := worker.outcome_onPayloadChannelRequest sendv hreplied
  rw [hresult] at houtcome
  cases houtcome with
  | answered response hid h => exact .inr ⟨h, response, rfl, hid⟩
  | silent h => exact .inl ⟨h, rfl⟩
  | thrown thrown h =>
    refine .inr ⟨h, ?_⟩
    cases thrown with
    | typeError what =>
      refine ⟨.typeError request.id what, ?_, rfl⟩
      change (request.typeError what >>= fun handled ↦ Except.ok ([] ++ handled.responses)) = _
      rw [Request.typeError, Request.reply_eq hreplied]
      rfl
    | error what =>
      refine ⟨.error request.id what, ?_, rfl⟩
      change (request.error what >>= fun handled ↦ Except.ok ([] ++ handled.responses)) = _
      rw [Request.error, Request.reply_eq hreplied]
      rfl

end Outcome

end PayloadChannel

end MediasoupSfu
