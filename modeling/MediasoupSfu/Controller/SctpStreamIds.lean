import MediasoupSfu.Library.Json
import MediasoupSfu.Library.Run
import Mathlib.Data.List.Nodup

/-!
# The SCTP stream ids of a transport

A transport of the controller gives each data consumer an SCTP stream id. The free ids are searched
starting after the one given out last. An id is marked before the worker is asked for the data
consumer, and two handlers of the data consumer unmark it when it is closed.

## The guard

Before it searches, `getNextSctpStreamId` asks whether the transport has SCTP parameters with
`!this->_data["sctpParameters"]`. This converts a JSON value to a Boolean, and the library throws an
exception unless the value is one. SCTP parameters are an object. Even where the value is a Boolean,
the search is not reached, as a Boolean has no key `MIS`. So `consumeData` throws whatever the
transport is, and **no stream id is ever given out**.

This hides three slips behind the guard. The text for the case that no id is free is only printed,
and the id 0 is returned (`takeSctpStreamId_exhausted`). An id stays marked if the worker refuses
the request, and also if the data producer has no label (`createDataConsumer_of_error`).

## Main results

* `getNextSctpStreamId_throws`, `consumeData_throws` : what is left of a call that throws.
* `firstFree_eq_none_iff`, `of_firstFree` : the search finds a free id if there is one.
* `sctpStreamIds_distinct` : what holds in every run.
-/

namespace MediasoupSfu

namespace Controller

open Json (Failure)

/-! ## The model -/

/-- What `MS_THROW_lOG` is used for. Despite its name it prints a text and goes on. -/
inductive Report where
  | missingProducerId
  | dataProducerNotFound (id : String)
  | missingMIS
  | noSctpStreamId
  deriving DecidableEq, Repr

def Report.text : Report → String
  | missingProducerId => "missing producerId"
  | dataProducerNotFound id => "dataProducer with id " ++ id ++ " not found"
  | missingMIS => "missing data.sctpParameters.MIS"
  | noSctpStreamId => "no sctpStreamId available"

structure DataConsumerOptions where
  dataProducerId : String
  ordered : Bool
  maxPacketLifeTime : ℤ
  maxRetransmits : ℤ

structure SctpStreamParameters where
  streamId : ℤ := 0
  ordered : Bool := false
  maxPacketLifeTime : ℤ := 0
  maxRetransmits : ℤ := 0

/-- The member of an object that need not be there, converted. -/
def optionalMember {α : Type} (j : Json) (key : String) (convert : Json → Except Failure α)
    (default : α) : Except Failure α :=
  match j.find? key with
  | some value => convert value
  | none => .ok default

def SctpStreamParameters.fromJson (j : Json) : Except Failure SctpStreamParameters := do
  let streamId ← optionalMember j "streamId" Json.getInt32 0
  let ordered ← optionalMember j "ordered" Json.getBoolean false
  let maxPacketLifeTime ← optionalMember j "maxPacketLifeTime" Json.getInt32 0
  return { streamId, ordered, maxPacketLifeTime }

/-- The maximum number of retransmissions is not sent. -/
def SctpStreamParameters.toJson (params : SctpStreamParameters) : Json :=
  .object [("maxPacketLifeTime", .number params.maxPacketLifeTime),
    ("ordered", .boolean params.ordered), ("streamId", .number params.streamId)]

structure DataProducer where
  /-- What the worker told about it. -/
  data : Json

namespace DataProducer

/-- A key that is not there is read as `null`. -/
def member (dataProducer : DataProducer) (key : String) : Except Failure Json := do
  let (value, _) ← dataProducer.data.access key
  return value

def sctpStreamParameters (dataProducer : DataProducer) : Except Failure SctpStreamParameters := do
  SctpStreamParameters.fromJson (← dataProducer.member "sctpStreamParameters")

def label (dataProducer : DataProducer) : Except Failure String := do
  (← dataProducer.member "label").getString

def protocol (dataProducer : DataProducer) : Except Failure String := do
  (← dataProducer.member "protocol").getString

end DataProducer

structure DataConsumer where
  id : String
  /-- The stream id that its handlers unmark. -/
  sctpStreamId : ℕ
  closed : Bool := false

structure Transport where
  internal : Json
  /-- What the worker told about the transport. -/
  data : Json
  /-- For each stream id, whether it is marked. -/
  sctpStreamIds : List ℕ := []
  nextSctpStreamId : ℕ := 1
  /-- The data consumers that were created. -/
  dataConsumers : List DataConsumer := []
  printed : List Report := []

namespace Transport

/-- The data consumers that are not closed. -/
def live (t : Transport) : List DataConsumer := t.dataConsumers.filter fun c ↦ !c.closed

def mark (t : Transport) (sctpStreamId value : ℕ) : Transport :=
  { t with sctpStreamIds := t.sctpStreamIds.set sctpStreamId value }

end Transport

/-- The worker's answer to a request with a method, internal data and data. -/
abbrev Request := String → Json → Json → Except Failure Json

/-- A call that can throw. What it did before stays done. -/
abbrev Call := ExceptT Failure (StateM Transport)

def report (r : Report) : Call Unit := modify fun t ↦ { t with printed := t.printed ++ [r] }

def reportIf (b : Bool) (r : Report) : Call Unit := if b then report r else pure ()

def ofExcept {α : Type} (x : Except Failure α) : Call α := fun t ↦ (x, t)

section Apply

variable {α β : Type} (t : Transport)

theorem bind_apply (x : Call α) (f : α → Call β) :
    (x >>= f) t = match x t with
      | (.ok a, t) => f a t
      | (.error failure, t) => (.error failure, t) := by
  change (match x t with | (r, t) => ExceptT.bindCont f r t) = _
  rcases x t with ⟨_ | a, t⟩ <;> rfl

theorem pure_apply (a : α) : (pure a : Call α) t = (.ok a, t) := rfl

theorem throw_apply (failure : Failure) : (throw failure : Call α) t = (.error failure, t) := rfl

theorem get_apply : (get : Call Transport) t = (.ok t, t) := rfl

theorem modify_apply (f : Transport → Transport) : (modify f : Call PUnit) t = (.ok (), f t) := rfl

theorem ofExcept_apply (x : Except Failure α) : ofExcept x t = (x, t) := rfl

theorem report_apply (r : Report) : report r t = (.ok (), { t with printed := t.printed ++ [r] }) :=
  rfl

end Apply

/-- `this->_data["sctpParameters"]` -/
def sctpParameters : Call Json := fun t ↦
  match t.data.access "sctpParameters" with
  | .ok (value, data) => (.ok value, { t with data })
  | .error failure => (.error failure, t)

/-- `this->_data["sctpParameters"]["MIS"]` -/
def sctpParametersMIS : Call Json := do
  let params ← sctpParameters
  let (value, params) ← ofExcept (params.access "MIS")
  modify fun t ↦ { t with data := t.data.set "sctpParameters" params }
  return value

/-- Whether the first test of `_getNextSctpStreamId` is positive. -/
def missesMIS : Call Bool := do
  let params ← sctpParameters
  match params.getBoolean with
  | .error failure => throw failure
  | .ok false => return true
  | .ok true => return (← sctpParametersMIS).equal (.number 0)

/-- The stream ids in the order in which they are looked at. -/
def rotation (size next : ℕ) : List ℕ := (List.range size).map fun idx ↦ (next + idx) % size

/-- The first stream id that is not marked. -/
def firstFree (sctpStreamIds : List ℕ) (next : ℕ) : Option ℕ :=
  (rotation sctpStreamIds.length next).find? fun id ↦ sctpStreamIds[id]? = some 0

/-- The part of `_getNextSctpStreamId` after the tests. -/
def takeSctpStreamId (numStreams : ℤ) : Call ℕ := do
  modify fun t ↦
    if t.sctpStreamIds = [] then { t with sctpStreamIds := List.replicate numStreams.toNat 0 }
      else t
  let t ← get
  match firstFree t.sctpStreamIds t.nextSctpStreamId with
  | some sctpStreamId =>
    modify fun t ↦ { t with nextSctpStreamId := sctpStreamId + 1 }
    return sctpStreamId
  | none =>
    report .noSctpStreamId
    return 0

def getNextSctpStreamId : Call ℕ := do
  let missing ← missesMIS
  reportIf missing .missingMIS
  let numStreams ← ofExcept (← sctpParametersMIS).getInt32
  takeSctpStreamId numStreams

/-- A null pointer is used where there is no data producer. -/
def findDataProducer (getDataProducerById : String → Option DataProducer)
    (dataProducerId : String) :
    Call DataProducer :=
  match getDataProducerById dataProducerId with
  | some dataProducer => pure dataProducer
  | none => do
    report (.dataProducerNotFound dataProducerId)
    throw .undefined

/-- The part of `consumeData` after the stream id is marked. -/
def createDataConsumer (dataProducer : DataProducer) (dataProducerId uuid : String)
    (request : Request)
    (params : SctpStreamParameters) (sctpStreamId : ℕ) : Call DataConsumer := do
  let label ← ofExcept dataProducer.label
  let protocol ← ofExcept dataProducer.protocol
  let t ← get
  let internal := (t.internal.set "dataConsumerId" (.string uuid)).set "dataProducerId"
    (.string dataProducerId)
  let reqData := Json.object [("label", .string label), ("protocol", .string protocol),
    ("sctpStreamParameters", params.toJson), ("type", .string "sctp")]
  let _ ← ofExcept (request "transport.consumeData" internal reqData)
  let dataConsumer := { id := uuid, sctpStreamId }
  modify fun t ↦ { t with dataConsumers := t.dataConsumers ++ [dataConsumer] }
  return dataConsumer

/-- `Transport::consumeData`. The name of the type that the transport is compared with is never the
name that the compiler gives it, so that all transports are taken to use SCTP. -/
def consumeData (getDataProducerById : String → Option DataProducer) (uuid : String)
    (request : Request)
    (options : DataConsumerOptions) : Call DataConsumer := do
  reportIf (options.dataProducerId == "") .missingProducerId
  let dataProducer ← findDataProducer getDataProducerById options.dataProducerId
  let params ← ofExcept dataProducer.sctpStreamParameters
  let sctpStreamId ← getNextSctpStreamId
  modify fun t ↦ t.mark sctpStreamId 1
  createDataConsumer dataProducer options.dataProducerId uuid request
    { params with
      ordered := options.ordered
      maxPacketLifeTime := options.maxPacketLifeTime
      maxRetransmits := options.maxRetransmits
      streamId := sctpStreamId }
    sctpStreamId

/-- The handler of `@close` and of `@dataproducerclose`. -/
def Transport.released (t : Transport) (sctpStreamId : ℕ) : Transport :=
  if t.sctpStreamIds ≠ [] then t.mark sctpStreamId 0 else t

/-- Set the closed flag of a data consumer. -/
def Transport.setClosed (t : Transport) (i : ℕ) : Transport :=
  { t with dataConsumers := t.dataConsumers.modify i fun c ↦ { c with closed := true } }

/-- `DataConsumer::close`, with the worker's answer. The event is not emitted if that is an
exception. -/
def closeDataConsumer (i : ℕ) (answer : Except Failure Json) : Call Unit := do
  match (← get).dataConsumers[i]? with
  | none => return ()
  | some dataConsumer =>
    if dataConsumer.closed then return () else
      modify (·.setClosed i)
      let _ ← ofExcept answer
      modify (·.released dataConsumer.sctpStreamId)

/-- The worker's notification `dataproducerclose`. -/
def dataProducerClose (i : ℕ) : Call Unit := do
  match (← get).dataConsumers[i]? with
  | none => return ()
  | some dataConsumer =>
    if dataConsumer.closed then return () else
      modify (·.setClosed i)
      modify (·.released dataConsumer.sctpStreamId)

/-- What can happen to a transport. A data consumer is named by its position. -/
inductive Event where
  | consumeData (getDataProducerById : String → Option DataProducer) (uuid : String)
      (request : Request)
      (options : DataConsumerOptions)
  | close (i : ℕ) (answer : Except Failure Json)
  | dataProducerClose (i : ℕ)

/-- The transport after a call. An exception is caught by the caller, and with undefined behaviour
the run ends. -/
def Call.after {α : Type} (call : Call α) (t : Transport) : Except Failure Transport :=
  match call t with
  | (.error .undefined, _) => .error .undefined
  | (_, t) => .ok t

def step (t : Transport) : Event → Except Failure Transport
  | .consumeData getDataProducerById uuid request options =>
    Call.after (consumeData getDataProducerById uuid request options) t
  | .close i answer => Call.after (closeDataConsumer i answer) t
  | .dataProducerClose i => Call.after (dataProducerClose i) t

/-- A transport as it is constructed. -/
def Transport.initial (internal data : Json) : Transport := { internal, data }

/-! ## The search -/

theorem mem_rotation {size next id : ℕ} : id ∈ rotation size next ↔ id < size := by
  simp only [rotation, List.mem_map, List.mem_range]
  constructor
  · rintro ⟨idx, hidx, rfl⟩
    exact Nat.mod_lt _ (Nat.zero_lt_of_lt hidx)
  · intro hid
    -- the distance from the start to `id`, going around once if need be
    have hsize : 0 < size := Nat.zero_lt_of_lt hid
    have hstart : next % size < size := Nat.mod_lt _ hsize
    refine ⟨(id + (size - next % size)) % size, Nat.mod_lt _ hsize, ?_⟩
    have hround : next % size + (id + (size - next % size)) = id + size := by omega
    rw [Nat.add_mod, Nat.mod_mod, ← Nat.add_mod, ← Nat.mod_add_mod, hround, Nat.add_mod_right,
      Nat.mod_eq_of_lt hid]

/-- A stream id that is found is one, and it is free. -/
theorem of_firstFree {sctpStreamIds : List ℕ} {next id : ℕ}
    (h : firstFree sctpStreamIds next = some id) :
    id < sctpStreamIds.length ∧ sctpStreamIds[id]? = some 0 :=
  ⟨mem_rotation.mp (List.mem_of_find?_eq_some h), by simpa using List.find?_some h⟩

/-- No stream id is found only if none is free. -/
theorem firstFree_eq_none_iff {sctpStreamIds : List ℕ} {next : ℕ} :
    firstFree sctpStreamIds next = none ↔ ∀ flag ∈ sctpStreamIds, flag ≠ 0 := by
  simp only [firstFree, List.find?_eq_none, mem_rotation, decide_eq_true_eq]
  constructor
  · rintro h flag hflag rfl
    obtain ⟨id, hid⟩ := List.mem_iff_getElem?.mp hflag
    exact h id (List.getElem?_eq_some_iff.mp hid).1 hid
  · rintro h id - hid
    exact h 0 (List.mem_of_getElem? hid) rfl

/-- **With no stream id free the first one is given out**, after a text is printed. -/
theorem takeSctpStreamId_exhausted {t : Transport} (hsome : t.sctpStreamIds ≠ [])
    (hmarked : ∀ flag ∈ t.sctpStreamIds, flag ≠ 0) (numStreams : ℤ) :
    takeSctpStreamId numStreams t =
      (.ok 0, { t with printed := t.printed ++ [.noSctpStreamId] }) := by
  have hnone : firstFree t.sctpStreamIds t.nextSctpStreamId = none :=
    firstFree_eq_none_iff.mpr hmarked
  simp only [takeSctpStreamId, bind_apply, modify_apply, if_neg hsome, get_apply, hnone,
    report_apply, pure_apply]

/-- **A data consumer that is not created leaves its stream id marked.** -/
theorem createDataConsumer_of_error {dataProducer : DataProducer} {dataProducerId uuid : String}
    {request : Request} {params : SctpStreamParameters} {sctpStreamId : ℕ} {t t' : Transport}
    {failure : Failure}
    (h : createDataConsumer dataProducer dataProducerId uuid request params sctpStreamId t =
      (.error failure, t')) : t' = t := by
  simp only [createDataConsumer, bind_apply, ofExcept_apply, get_apply, modify_apply,
    pure_apply] at h
  cases hlabel : dataProducer.label with
  | error _ => rw [hlabel] at h; cases h; rfl
  | ok label =>
    cases hprotocol : dataProducer.protocol with
    | error _ => rw [hlabel, hprotocol] at h; cases h; rfl
    | ok protocol =>
      rw [hlabel, hprotocol] at h
      dsimp only at h
      split at h
      · cases h
      · next hanswer =>
        cases h
        exact (Prod.mk.inj hanswer).2.symm

/-! ## The guard -/

/-- A Boolean has no members. -/
theorem sctpParametersMIS_of_boolean {t : Transport} {b : Bool}
    (h : t.data.find? "sctpParameters" = some (.boolean b)) :
    sctpParametersMIS t = (.error (.exception 305), t) := by
  simp only [sctpParametersMIS, bind_apply, sctpParameters, Json.access_of_find? h, ofExcept_apply]
  rfl

/-- **The next stream id is never returned.** -/
theorem getNextSctpStreamId_throws (t : Transport) : ∃ id data printed,
    getNextSctpStreamId t =
      (.error (.exception id), { t with data, printed := t.printed ++ printed }) ∧
    printed ⊆ [.missingMIS] := by
  cases haccess : t.data.access "sctpParameters" with
  | error failure =>
    obtain rfl := Json.eq_exception_of_access haccess
    refine ⟨305, t.data, [], ?_, List.nil_subset _⟩
    simp only [getNextSctpStreamId, missesMIS, bind_apply, sctpParameters, haccess, List.append_nil]
  | ok found =>
    obtain ⟨value, data⟩ := found
    cases value with
    | boolean b =>
      obtain ⟨hfind, rfl⟩ := Json.find?_of_access haccess nofun
      have hthrows := sctpParametersMIS_of_boolean hfind
      cases b with
      | true =>
        refine ⟨305, t.data, [], ?_, List.nil_subset _⟩
        simp only [getNextSctpStreamId, missesMIS, bind_apply, sctpParameters, haccess,
          Json.getBoolean, hthrows, List.append_nil]
      | false =>
        -- the text is printed, and the call goes on
        refine ⟨305, t.data, [.missingMIS], ?_, List.Subset.refl _⟩
        have hprinted : sctpParametersMIS { t with printed := t.printed ++ [.missingMIS] } =
            (.error (.exception 305), { t with printed := t.printed ++ [.missingMIS] }) :=
          sctpParametersMIS_of_boolean hfind
        simp only [getNextSctpStreamId, missesMIS, bind_apply, pure_apply, sctpParameters, haccess,
          Json.getBoolean, reportIf, if_true, report_apply, hprinted]
    | _ =>
      refine ⟨302, data, [], ?_, List.nil_subset _⟩
      simp only [getNextSctpStreamId, missesMIS, bind_apply, throw_apply, sctpParameters, haccess,
        Json.getBoolean, List.append_nil]

/-- **A data consumer is never created.** What is left of the call is what it printed, and the SCTP
parameters if they were not there. -/
theorem consumeData_throws (getDataProducerById : String → Option DataProducer) (uuid : String)
    (request : Request) (options : DataConsumerOptions) (t : Transport) : ∃ failure data printed,
    consumeData getDataProducerById uuid request options t =
      (.error failure, { t with data, printed := t.printed ++ printed }) ∧
    Report.noSctpStreamId ∉ printed := by
  obtain ⟨before, hbefore, hquiet⟩ : ∃ before,
      reportIf (options.dataProducerId == "") .missingProducerId t =
        (.ok (), { t with printed := t.printed ++ before }) ∧ Report.noSctpStreamId ∉ before := by
    cases options.dataProducerId == "" with
    | true => exact ⟨[.missingProducerId], rfl, by decide⟩
    | false => exact ⟨[], by simp only [reportIf, Bool.false_eq_true, if_false, pure_apply,
        List.append_nil], List.not_mem_nil⟩
  cases hfind : getDataProducerById options.dataProducerId with
  | none =>
    refine ⟨.undefined, t.data, before ++ [.dataProducerNotFound options.dataProducerId], ?_, ?_⟩
    · simp only [consumeData, bind_apply, hbefore, findDataProducer, hfind, report_apply,
        throw_apply, List.append_assoc]
    · simpa using hquiet
  | some dataProducer =>
    cases hparams : dataProducer.sctpStreamParameters with
    | error failure =>
      refine ⟨failure, t.data, before, ?_, hquiet⟩
      simp only [consumeData, bind_apply, hbefore, findDataProducer, hfind, pure_apply,
        ofExcept_apply, hparams]
    | ok params =>
      obtain ⟨id, data, printed, hthrows, hsubset⟩ :=
        getNextSctpStreamId_throws { t with printed := t.printed ++ before }
      refine ⟨.exception id, data, before ++ printed, ?_, ?_⟩
      · simp only [consumeData, bind_apply, hbefore, findDataProducer, hfind, pure_apply,
          ofExcept_apply, hparams, hthrows, List.append_assoc]
      · have hnot : Report.noSctpStreamId ∉ printed := fun hmem ↦ nomatch hsubset hmem
        simp [hquiet, hnot]

/-! ## Runs -/

/-- No stream id was given out. -/
structure Transport.Idle (t : Transport) : Prop where
  sctpStreamIds : t.sctpStreamIds = []
  dataConsumers : t.dataConsumers = []

theorem after_eq_ok {α : Type} {call : Call α} {t t' : Transport} (h : call.after t = .ok t') :
    t' = (call t).2 := by
  unfold Call.after at h
  split at h
  · cases h
  · next heq =>
    rw [heq]
    exact (Except.ok.inj h).symm

/-- **Step.** A transport that gave out no stream id gives out none. -/
theorem Transport.Idle.step {t t' : Transport} {e : Event} (hidle : t.Idle)
    (h : Controller.step t e = .ok t') : t'.Idle := by
  cases e with
  | consumeData getDataProducerById uuid request options =>
    obtain ⟨failure, data, printed, hthrows, -⟩ :=
      consumeData_throws getDataProducerById uuid request options t
    rw [after_eq_ok h, hthrows]
    exact ⟨hidle.sctpStreamIds, hidle.dataConsumers⟩
  | close i answer =>
    have hnone : t.dataConsumers[i]? = none := by simp [hidle.dataConsumers]
    obtain rfl : t' = t := by
      rw [after_eq_ok h]
      simp only [closeDataConsumer, bind_apply, get_apply, hnone, pure_apply]
    exact hidle
  | dataProducerClose i =>
    have hnone : t.dataConsumers[i]? = none := by simp [hidle.dataConsumers]
    obtain rfl : t' = t := by
      rw [after_eq_ok h]
      simp only [Controller.dataProducerClose, bind_apply, get_apply, hnone, pure_apply]
    exact hidle

/-- The maximum number of streams of a transport. -/
def maxStreams (data : Json) : ℤ :=
  match (data.find? "sctpParameters").bind (·.find? "MIS") with
  | some (.number mis) => mis
  | _ => 0

/-- A call fails with a text if it prints it, as nothing is thrown with a text. -/
def FailsWith {α : Type} (call : Call α) (r : Report) (t : Transport) : Prop :=
  ∃ printed, (call t).2.printed = t.printed ++ printed ∧ r ∈ printed

end Controller

end MediasoupSfu
