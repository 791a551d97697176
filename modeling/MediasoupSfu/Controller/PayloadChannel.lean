import MediasoupSfu.Library.Json
import MediasoupSfu.Library.Run

/-!
# Requests on the payload channel

Several threads call `PayloadChannelAgent::request`. A call sends a request with a new id to the
worker and waits for the future of a promise; the thread that reads from the worker finds the
request of a response by its id and fulfils the promise. The requests are kept in a map by their
ids, but there is only one promise, `m_pPromise`, and each call replaces it.
`ChannelAgent::request`, whose code is otherwise the same, holds a mutex until the response is
there; this one does not.

So a call gets what belongs to another one when the calls overlap: in `not_matches_responses` the
second call returns the data of the first response. The first call has lost its promise then and
returns `nullptr`. As a call also returns `nullptr` for an error, nothing is left of an error that
the worker reports.

A call replaces the promise in one step of several, and only this step matters. If at each of them
no other call needs the promise that is replaced (`Undisturbed`), the calls may overlap otherwise,
and each of them returns the data of its own response (`matches_responses`).

## The model

The threads take steps in any order: a call between two accesses to what is shared, the reader
within `processMessage`, and a timer when its time is out. What one access does is not divided, so
races on the memory of the map and of the pointer are not part of the model. A response is a message
of the worker to a request that it has and has not answered yet, and carries its id.
-/

namespace MediasoupSfu

/-! ## The code -/

/-- The exceptions that a future can hold. -/
inductive FutureException
  | brokenPromise
  /-- `PeerError`. -/
  | peer (text : String)
  deriving DecidableEq, Repr

/-- The state that a promise and its future share. -/
structure SharedState where
  retrieved : Bool := false
  content : Option (Except FutureException Json) := none

/-- The destructor of a promise. -/
def SharedState.abandon (shared : SharedState) : SharedState :=
  match shared.content with
  | none => { shared with content := some (.error .brokenPromise) }
  | some _ => shared

/-- What leaves a thread, and so ends the program. -/
inductive ChannelFault
  | nullPointer
  | promiseAlreadySatisfied
  | json (failure : Json.Failure)
  deriving DecidableEq, Repr

/-- What a response says. -/
inductive Answer
  | accepted (data : Option Json)
  | error (reason : Json)
  | neither

/-- The data of a response, or an empty object. -/
def dataOf (data : Option Json) : Json := data.getD (.object [])

/-- What a call of `request` has done last. -/
inductive RequestPhase
  /-- `_nextId` is increased. -/
  | counted
  /-- The id is read. -/
  | numbered
  /-- The promise is replaced. -/
  | promised
  /-- The timer is started. -/
  | timed
  /-- The request is in `m_sents`. -/
  | inserted
  /-- The request is written. -/
  | written
  /-- The call has got a future, that of the promise with this number. -/
  | waiting (future : ℕ)
  | returned (result : Json)

/-- A call of `request`. -/
structure RequestCall where
  phase : RequestPhase
  id : ℕ := 0
  /-- The number of the promise that it has made. -/
  promise : ℕ := 0

/-- What the reader has done last with a response. -/
inductive ReaderPhase
  | idle
  /-- The request has been found in `m_sents`. -/
  | found (id : ℕ) (answer : Answer)
  /-- The request has been erased. -/
  | erased (outcome : Except FutureException Json)
  /-- The timer has been stopped. -/
  | stopped (outcome : Except FutureException Json)

/-- The members of `PayloadChannelAgent`, and where the threads are. -/
structure PayloadChannelAgent where
  nextId : ℕ := 0
  /-- The keys of `m_sents`. -/
  sents : List ℕ := []
  /-- The flag of `mTimer`, and the requests of its threads. -/
  clear : Bool := false
  timers : List ℕ := []
  /-- All promises, and which of them is `m_pPromise`. -/
  promises : List SharedState := []
  current : Option ℕ := none
  calls : List RequestCall := []
  /-- The calls whose requests are with the worker. -/
  inFlight : List ℕ := []
  reader : ReaderPhase := .idle

/-- What a thread does next. -/
inductive ChannelEvent
  /-- `request` is called. -/
  | request
  /-- A call goes on. -/
  | proceed (k : ℕ)
  /-- The reader gets the response to the request of a call. -/
  | respond (k : ℕ) (answer : Answer)
  /-- The reader goes on. -/
  | process
  /-- The time of a timer is out. -/
  | expire (i : ℕ)

namespace PayloadChannelAgent

/-- What is in a promise. -/
def content (s : PayloadChannelAgent) (p : ℕ) : Option (Except FutureException Json) :=
  s.promises[p]?.bind SharedState.content

/-- `m_pPromise.reset(new std::promise<json>())`. -/
def reset (s : PayloadChannelAgent) : PayloadChannelAgent :=
  { s with
    promises := (match s.current with
      | none => s.promises
      | some p => s.promises.modify p SharedState.abandon) ++ [{}]
    current := some s.promises.length }

/-- `m_pPromise->set_value` and `m_pPromise->set_exception`. -/
def fulfil (s : PayloadChannelAgent) (outcome : Except FutureException Json) :
    Except ChannelFault PayloadChannelAgent :=
  match s.current with
  | none => .error .nullPointer
  | some p =>
    if (s.content p).isSome then .error .promiseAlreadySatisfied
    else .ok { s with promises := s.promises.modify p fun shared ↦
      { shared with content := some outcome } }

/-- A call is in another phase. -/
def setPhase (s : PayloadChannelAgent) (k : ℕ) (call : RequestCall) (phase : RequestPhase) :
    PayloadChannelAgent :=
  { s with calls := s.calls.set k { call with phase := phase } }

/-- `m_pPromise->get_future()`. A future that has been retrieved before is an exception, which is
caught. -/
def getFuture (s : PayloadChannelAgent) (k : ℕ) (call : RequestCall) :
    Except ChannelFault PayloadChannelAgent :=
  match s.current with
  | none => .error .nullPointer
  | some p =>
    if s.promises[p]?.any SharedState.retrieved then .ok (s.setPhase k call (.returned .null))
    else .ok { s.setPhase k call (.waiting p) with
      promises := s.promises.modify p fun shared ↦ { shared with retrieved := true } }

/-- A call of `request` goes on. -/
def proceed (s : PayloadChannelAgent) (k : ℕ) : Except ChannelFault PayloadChannelAgent :=
  match s.calls[k]? with
  | none => .ok s
  | some call =>
    match call.phase with
    | .counted => .ok (s.setPhase k { call with id := s.nextId } .numbered)
    | .numbered =>
      .ok (s.reset.setPhase k { call with promise := s.promises.length } .promised)
    | .promised =>
      .ok { s.setPhase k call .timed with clear := false, timers := s.timers ++ [call.id] }
    | .timed => .ok { s.setPhase k call .inserted with sents := s.sents.insert call.id }
    | .inserted => .ok { s.setPhase k call .written with inFlight := s.inFlight ++ [k] }
    | .written => s.getFuture k call
    | .waiting p =>
      match s.content p with
      -- `get()` blocks.
      | none => .ok s
      | some (.ok data) => .ok (s.setPhase k call (.returned data))
      -- All exceptions are caught, and `nullptr` is returned.
      | some (.error _) => .ok (s.setPhase k call (.returned .null))
    | .returned _ => .ok s

/-- The beginning of `processMessage`: look for the request of a response. -/
def respond (s : PayloadChannelAgent) (k : ℕ) (answer : Answer) : PayloadChannelAgent :=
  match s.calls[k]? with
  | none => s
  | some call =>
    if call.id ∈ s.sents then
      { s with inFlight := s.inFlight.erase k, reader := .found call.id answer }
    else { s with inFlight := s.inFlight.erase k }

/-- The beginning of `resolve` and `reject`: erase the request, if it is still there. -/
def eraseSent (s : PayloadChannelAgent) (id : ℕ) (outcome : Except FutureException Json) :
    PayloadChannelAgent :=
  if id ∈ s.sents then { s with sents := s.sents.erase id, reader := .erased outcome }
  else { s with reader := .idle }

/-- The rest of `processMessage`. -/
def process (s : PayloadChannelAgent) : Except ChannelFault PayloadChannelAgent :=
  match s.reader with
  | .idle => .ok s
  | .found id answer =>
    match answer with
    | .accepted data => .ok (s.eraseSent id (.ok (dataOf data)))
    | .error reason =>
      -- The reason is converted to a string.
      match reason.getString with
      | .error failure => .error (.json failure)
      | .ok text => .ok (s.eraseSent id (.error (.peer text)))
    | .neither => .ok { s with reader := .idle }
  | .erased outcome => .ok { s with clear := true, reader := .stopped outcome }
  | .stopped outcome => do
    let s ← s.fulfil outcome
    return { s with reader := .idle }

/-- What the thread of a timer does after its delay. -/
def expire (s : PayloadChannelAgent) (i : ℕ) : Except ChannelFault PayloadChannelAgent :=
  match s.timers[i]? with
  | none => .ok s
  | some id =>
    if s.clear ∨ id ∉ s.sents then .ok { s with timers := s.timers.eraseIdx i }
    else fulfil { s with timers := s.timers.eraseIdx i, sents := s.sents.erase id }
      (.error (.peer "peer request Time out error"))

/-- A step of one of the threads. -/
def step (s : PayloadChannelAgent) (event : ChannelEvent) :
    Except ChannelFault (Unit × PayloadChannelAgent) :=
  match event with
  | .request => .ok ((), { s with
      nextId := if s.nextId < 4294967295 then s.nextId + 1 else 1
      calls := s.calls ++ [{ phase := .counted }] })
  | .proceed k => do return ((), ← s.proceed k)
  | .respond k answer => .ok ((), s.respond k answer)
  | .process => do return ((), ← s.process)
  | .expire i => do return ((), ← s.expire i)

/-! ## What is promised -/

end PayloadChannelAgent

/-- What a response stands for: the data, or the error. -/
def Answer.outcome : Answer → Option (Except FutureException Json)
  | .accepted data => some (.ok (dataOf data))
  | .error reason => reason.getString.toOption.map fun text ↦ .error (.peer text)
  | .neither => none

/-- The response that an event brings. -/
def ChannelEvent.response : ChannelEvent → Option (ℕ × Answer)
  | .respond k answer => some (k, answer)
  | _ => none

namespace PayloadChannelAgent

/-- The responses of a run, with the calls that they are for. -/
def responses (records : List (Run.Record PayloadChannelAgent ChannelEvent Unit)) :
    List (ℕ × Answer) :=
  records.filterMap fun r ↦ r.event.response

/-- Requests and responses match. -/
structure Matches (answers : List (ℕ × Answer)) (s : PayloadChannelAgent) : Prop where
  /-- What a call has returned is in the response to its request. -/
  returned : ∀ k call result, s.calls[k]? = some call → call.phase = .returned result →
    ∃ answer, (k, answer) ∈ answers ∧ answer.outcome = some (.ok result)
  /-- The promise of a call is resolved with its response when this is processed. -/
  resolved : ∀ k answer, (k, answer) ∈ answers → s.reader = .idle →
    ∃ call outcome, s.calls[k]? = some call ∧ s.content call.promise = some outcome ∧
      answer.outcome = some outcome
  /-- When its response is processed a call has only to go on to return. -/
  returns : ∀ k answer, (k, answer) ∈ answers → s.reader = .idle →
    ∃ t u call result, s.proceed k = .ok t ∧ t.proceed k = .ok u ∧ u.calls[k]? = some call ∧
      call.phase = .returned result ∧ answer.outcome = some (.ok result)

/-- A response is the answer to a request that the worker has, and the reader gets one message at a
time. -/
def FromWorker (s : PayloadChannelAgent) : ChannelEvent → Prop
  | .respond k _ => k ∈ s.inFlight ∧ s.reader = .idle
  | _ => True

/-- A call does not need the promise any more, or not yet. -/
def NeedsNoPromise (s : PayloadChannelAgent) (call : RequestCall) : Prop :=
  match call.phase with
  | .counted | .numbered | .returned _ => True
  | .waiting p => (s.content p).isSome
  | _ => False

/-- The promise is replaced only when no other call needs it, no request fails and none is out of
time. -/
def Undisturbed (s : PayloadChannelAgent) : ChannelEvent → Prop
  | .proceed k => ∀ call ∈ s.calls[k]?, call.phase = .numbered →
    ∀ k' call', k' ≠ k → s.calls[k']? = some call' → s.NeedsNoPromise call'
  | .respond _ answer => ∃ data, answer = .accepted data
  | .expire i => ∀ id ∈ s.timers[i]?, s.clear = true ∨ id ∉ s.sents
  | _ => True

/-! ## The invariant -/

/-- There is no response for a call. -/
def Unanswered (answers : List (ℕ × Answer)) (k : ℕ) : Prop := ∀ answer, (k, answer) ∉ answers

/-- There is one response for a call, with this data. -/
def AnsweredBy (answers : List (ℕ × Answer)) (k : ℕ) (data : Option Json) : Prop :=
  ∀ answer, (k, answer) ∈ answers ↔ answer = .accepted data

/-- A call that does not share anything with the others: it has not replaced the promise yet, or its
own promise is resolved and it has the future of it. -/
def Settled (answers : List (ℕ × Answer)) (s : PayloadChannelAgent) (k : ℕ) (call : RequestCall) :
    Prop :=
  match call.phase with
  | .counted | .numbered => Unanswered answers k
  | .waiting p => p = call.promise ∧
    ∃ data, AnsweredBy answers k data ∧ s.content call.promise = some (.ok (dataOf data))
  | .returned result => ∃ data, AnsweredBy answers k data ∧
    s.content call.promise = some (.ok (dataOf data)) ∧ result = dataOf data
  | _ => False

/-- How far the exchange with the worker is, after the request has been written. -/
inductive Exchange (answers : List (ℕ × Answer)) (k id : ℕ) (sents inFlight : List ℕ)
    (reader : ReaderPhase) (content : Option (Except FutureException Json)) : Prop
  | sent (hfree : Unanswered answers k) (hsents : sents = [id]) (hflight : inFlight = [k])
    (hreader : reader = .idle) (hcontent : content = none)
  | found (data : Option Json) (hanswer : AnsweredBy answers k data) (hsents : sents = [id])
    (hflight : inFlight = []) (hreader : reader = .found id (.accepted data))
    (hcontent : content = none)
  | erased (data : Option Json) (hanswer : AnsweredBy answers k data) (hsents : sents = [])
    (hflight : inFlight = []) (hreader : reader = .erased (.ok (dataOf data)))
    (hcontent : content = none)
  | stopped (data : Option Json) (hanswer : AnsweredBy answers k data) (hsents : sents = [])
    (hflight : inFlight = []) (hreader : reader = .stopped (.ok (dataOf data)))
    (hcontent : content = none)
  | done (data : Option Json) (hanswer : AnsweredBy answers k data) (hsents : sents = [])
    (hflight : inFlight = []) (hreader : reader = .idle)
    (hcontent : content = some (.ok (dataOf data)))

/-- The phase of the call whose promise is `m_pPromise`, and what belongs to it. -/
inductive Holds (answers : List (ℕ × Answer)) (k : ℕ) (call : RequestCall)
    (sents inFlight : List ℕ) (reader : ReaderPhase) (shared : Option SharedState) : Prop
  | preparing (hphase : call.phase = .promised ∨ call.phase = .timed) (hfree : Unanswered answers k)
    (hsents : sents = []) (hflight : inFlight = []) (hreader : reader = .idle)
    (hshared : shared = some {})
  | inserted (hphase : call.phase = .inserted) (hfree : Unanswered answers k)
    (hsents : sents = [call.id]) (hflight : inFlight = []) (hreader : reader = .idle)
    (hshared : shared = some {})
  | written (content : Option (Except FutureException Json)) (hphase : call.phase = .written)
    (hshared : shared = some ⟨false, content⟩)
    (hexchange : Exchange answers k call.id sents inFlight reader content)
  | waiting (content : Option (Except FutureException Json))
    (hphase : call.phase = .waiting call.promise) (hshared : shared = some ⟨true, content⟩)
    (hexchange : Exchange answers k call.id sents inFlight reader content)

/-- What belongs to the owner of the promise; without one, nothing is under way. -/
def Owned (answers : List (ℕ × Answer)) (s : PayloadChannelAgent) : Option ℕ → Prop
  | none => s.sents = [] ∧ s.inFlight = [] ∧ s.reader = .idle
  | some k => ∃ call, s.calls[k]? = some call ∧ s.current = some call.promise ∧
    Holds answers k call s.sents s.inFlight s.reader s.promises[call.promise]?

/-- All calls but the owner of the promise are settled. -/
def SettledExcept (answers : List (ℕ × Answer)) (s : PayloadChannelAgent) (owner : Option ℕ) :
    Prop :=
  ∀ k call, owner ≠ some k → s.calls[k]? = some call → Settled answers s k call

/-- **The invariant**: at most one call owns the promise, and the others are settled. -/
structure Invariant (answers : List (ℕ × Answer)) (s : PayloadChannelAgent) : Prop where
  inRange : ∀ k answer, (k, answer) ∈ answers → k < s.calls.length
  owned : ∃ owner, Owned answers s owner ∧ SettledExcept answers s owner

variable {answers : List (ℕ × Answer)} {s t : PayloadChannelAgent} {k : ℕ} {call : RequestCall}
  {owner owner' : Option ℕ}

/-! ## What the promises hold -/

/-- What is in the promises after a change of one of them. -/
theorem content_modify {p q : ℕ} {f : SharedState → SharedState}
    (ht : t.promises = s.promises.modify p f) :
    t.content q = if p = q then s.promises[q]?.bind fun shared ↦ (f shared).content
      else s.content q := by
  rw [content, content, ht, List.getElem?_modify]
  split <;> cases s.promises[q]? <;> rfl

/-- A promise that is resolved stays so when another one takes its place. -/
theorem content_reset {p : ℕ} {outcome : Except FutureException Json}
    (h : s.content p = some outcome) : s.reset.content p = some outcome := by
  obtain ⟨shared, hshared, hcontent⟩ := Option.bind_eq_some_iff.mp h
  have hlt : p < s.promises.length := (List.getElem?_eq_some_iff.mp hshared).1
  have habandon : shared.abandon = shared := by rw [SharedState.abandon, hcontent]
  rw [content, reset]
  cases hcurrent : s.current with
  | none =>
    dsimp only
    rw [List.getElem?_append_left hlt, hshared]
    exact hcontent
  | some q =>
    dsimp only
    rw [List.getElem?_append_left (by rwa [List.length_modify]), List.getElem?_modify, hshared]
    split
    · exact (congrArg SharedState.content habandon).trans hcontent
    · exact hcontent

/-- The new promise is empty. -/
theorem promises_reset (s : PayloadChannelAgent) :
    s.reset.promises[s.promises.length]? = some {} := by
  rw [reset]
  cases s.current <;> simp

/-- **Fulfilling** the promise, which is not resolved yet. -/
theorem fulfil_eq {p : ℕ} {retrieved : Bool} (outcome : Except FutureException Json)
    (hcurrent : s.current = some p) (hshared : s.promises[p]? = some ⟨retrieved, none⟩) :
    ∃ promises, s.fulfil outcome = .ok { s with promises := promises } ∧
      promises[p]? = some ⟨retrieved, some outcome⟩ ∧
      ∀ q c, s.content q = some c → (promises[q]?.bind SharedState.content) = some c := by
  have hcontent : s.content p = none := by rw [content, hshared]; rfl
  refine ⟨s.promises.modify p fun shared ↦ { shared with content := some outcome }, ?_, ?_,
    fun q c hq ↦ ?_⟩
  · rw [fulfil, hcurrent]
    dsimp only
    rw [hcontent]
    rfl
  · rw [List.getElem?_modify_eq, hshared]
    rfl
  · have hne : p ≠ q := by
      rintro rfl
      rw [hcontent] at hq
      cases hq
    rw [List.getElem?_modify_ne _ _ hne]
    exact hq

/-! ## What does not change -/

/-- A settled call stays settled as long as what is resolved does. -/
theorem Settled.frame (h : Settled answers s k call)
    (hcontent : ∀ p c, s.content p = some c → t.content p = some c) :
    Settled answers t k call := by
  unfold Settled at h ⊢
  split at h
  · exact h
  · exact h
  · obtain ⟨hfuture, data, hanswer, hdata⟩ := h
    exact ⟨hfuture, data, hanswer, hcontent _ _ hdata⟩
  · obtain ⟨data, hanswer, hdata, hresult⟩ := h
    exact ⟨data, hanswer, hcontent _ _ hdata, hresult⟩
  · exact h

/-- A response for one call does not concern the others. -/
theorem Settled.respond {k' : ℕ} {answer : Answer} (h : Settled answers s k call) (hne : k ≠ k') :
    Settled (answers ++ [(k', answer)]) s k call := by
  have hmem : ∀ a, (k, a) ∈ answers ++ [(k', answer)] ↔ (k, a) ∈ answers := by
    intro a
    simp [hne]
  simpa only [Settled, Unanswered, AnsweredBy, hmem] using h

/-- All calls but one are as they were. -/
theorem SettledExcept.set (h : SettledExcept answers s owner)
    (hcontent : ∀ p c, s.content p = some c → t.content p = some c)
    (hcalls : t.calls = s.calls.set k call)
    (howner : ∀ k', k' ≠ k → owner = some k' → owner' = some k')
    (hk : owner' ≠ some k → Settled answers t k call) : SettledExcept answers t owner' := by
  intro k' call' hne hcall'
  rw [hcalls, List.getElem?_set] at hcall'
  split at hcall'
  · rename_i heq
    subst heq
    split at hcall'
    · cases hcall'
      exact hk hne
    · cases hcall'
  · rename_i hk'
    exact (h k' call' (fun hold ↦ hne (howner k' (Ne.symm hk') hold)) hcall').frame hcontent

/-- A call that is settled does not own the promise. -/
theorem Owned.ne_of_settled_phase (h : Owned answers s owner) (hcall : s.calls[k]? = some call)
    (hphase : call.phase = .counted ∨ call.phase = .numbered ∨ ∃ r, call.phase = .returned r) :
    owner ≠ some k := by
  rintro rfl
  obtain ⟨call', hcall', -, hholds⟩ := h
  obtain rfl := Option.some.inj (hcall.symm.trans hcall')
  cases hholds with
  | preparing hp => rcases hphase with h | h | ⟨r, h⟩ <;> rw [h] at hp <;> simp at hp
  | inserted hp => rcases hphase with h | h | ⟨r, h⟩ <;> rw [h] at hp <;> cases hp
  | written _ hp => rcases hphase with h | h | ⟨r, h⟩ <;> rw [h] at hp <;> cases hp
  | waiting _ hp => rcases hphase with h | h | ⟨r, h⟩ <;> rw [h] at hp <;> cases hp

/-- A call in a phase in which it shares something owns the promise. -/
theorem SettledExcept.owner_eq (h : SettledExcept answers s owner) (hcall : s.calls[k]? = some call)
    (hphase : ¬Settled answers s k call) : owner = some k := by
  by_contra hne
  exact hphase (h k call hne hcall)

/-- The owner of the promise does not notice another call. -/
theorem Owned.set (h : Owned answers s owner) (hne : owner ≠ some k) (call : RequestCall) :
    Owned answers { s with calls := s.calls.set k call } owner := by
  cases owner with
  | none => exact h
  | some k' =>
    obtain ⟨call', hcall', hrest⟩ := h
    refine ⟨call', ?_, hrest⟩
    change (s.calls.set k call)[k']? = _
    rw [List.getElem?_set_ne (fun heq ↦ hne (congrArg some heq.symm))]
    exact hcall'

/-- A call that does not own the promise takes a step. -/
theorem Invariant.setOther (h : Invariant answers s) (howned : Owned answers s owner)
    (hsettled : SettledExcept answers s owner) (hne : owner ≠ some k)
    (hcall : Settled answers s k call) :
    Invariant answers { s with calls := s.calls.set k call } := by
  refine ⟨fun k' answer hmem ↦ ?_, owner, howned.set hne call,
    hsettled.set (fun _ _ hc ↦ hc) rfl (fun _ _ ho ↦ ho) fun _ ↦ hcall⟩
  change k' < (s.calls.set k call).length
  rw [List.length_set]
  exact h.inRange k' answer hmem

/-- A call owns the promise after its step. -/
theorem Invariant.setOwner (h : Invariant answers s) (hsettled : SettledExcept answers s owner)
    (howner : ∀ k', owner = some k' → k' = k) (hlt : k < s.calls.length)
    (hcalls : t.calls = s.calls.set k call)
    (hcontent : ∀ p c, s.content p = some c → t.content p = some c)
    (hcurrent : t.current = some call.promise)
    (hholds : Holds answers k call t.sents t.inFlight t.reader t.promises[call.promise]?) :
    Invariant answers t := by
  refine ⟨fun k' answer hmem ↦ ?_, some k, ⟨call, ?_, hcurrent, hholds⟩,
    hsettled.set hcontent hcalls (fun k' hne ho ↦ absurd (howner k' ho) hne)
      fun hne ↦ absurd rfl hne⟩
  · rw [hcalls, List.length_set]
    exact h.inRange k' answer hmem
  · rw [hcalls, List.getElem?_set_self hlt]

/-- A call that was or was not the owner of the promise has its response, and nobody is the
owner. -/
theorem Invariant.setReturned (h : Invariant answers s) (hsettled : SettledExcept answers s owner)
    (howner : ∀ k', owner = some k' → k' = k) (hquiet : Owned answers s none)
    (hcall : Settled answers s k call) :
    Invariant answers { s with calls := s.calls.set k call } := by
  refine ⟨fun k' answer hmem ↦ ?_, none, hquiet,
    hsettled.set (fun _ _ hc ↦ hc) rfl (fun k' hne ho ↦ absurd (howner k' ho) hne) fun _ ↦ hcall⟩
  change k' < (s.calls.set k call).length
  rw [List.length_set]
  exact h.inRange k' answer hmem

/-! ## The steps -/

/-- A new call. -/
theorem Invariant.request (h : Invariant answers s) :
    ∃ t, s.step .request = .ok ((), t) ∧ Invariant answers t := by
  obtain ⟨owner, howned, hsettled⟩ := h.owned
  refine ⟨_, rfl, fun k answer hmem ↦ ?_, owner, ?_, fun k call hne hcall ↦ ?_⟩
  · rw [List.length_append]
    exact Nat.lt_add_right _ (h.inRange k answer hmem)
  · cases owner with
    | none => exact howned
    | some k =>
      obtain ⟨call, hcall, hrest⟩ := howned
      exact ⟨call, (List.getElem?_append_left (List.getElem?_eq_some_iff.mp hcall).1).trans hcall,
        hrest⟩
  · rw [List.getElem?_append] at hcall
    split at hcall
    · exact (hsettled k call hne hcall).frame fun _ _ hc ↦ hc
    · -- there is no response yet for a number that has not been given out
      rename_i hge
      obtain ⟨hlt, rfl⟩ := List.getElem?_eq_some_iff.mp hcall
      rw [List.length_singleton] at hlt
      rw [List.getElem_singleton]
      exact fun answer hmem ↦ hge (h.inRange k answer hmem)

/-- A call that owns the promise shares something. -/
theorem not_settled (hphase : call.phase = .promised ∨ call.phase = .timed ∨
    call.phase = .inserted ∨ call.phase = .written) : ¬Settled answers s k call := by
  unfold Settled
  rcases hphase with h | h | h | h <;> rw [h] <;> exact id

/-- **Replacing the promise** when no other call needs it: nobody owns it. -/
theorem owned_none (howned : Owned answers s owner) (hsettled : SettledExcept answers s owner)
    (hne : owner ≠ some k)
    (hneeds : ∀ k' call', k' ≠ k → s.calls[k']? = some call' → s.NeedsNoPromise call') :
    Owned answers s none ∧ SettledExcept answers s none := by
  cases owner with
  | none => exact ⟨howned, hsettled⟩
  | some k' =>
    obtain ⟨call', hcall', -, hholds⟩ := howned
    have hneed := hneeds k' call' (fun heq ↦ hne (congrArg some heq)) hcall'
    unfold NeedsNoPromise at hneed
    cases hholds with
    | preparing hp => rcases hp with hp | hp <;> rw [hp] at hneed <;> exact hneed.elim
    | inserted hp =>
      rw [hp] at hneed
      exact hneed.elim
    | written c hp =>
      rw [hp] at hneed
      exact hneed.elim
    | waiting c hp hshared hexchange =>
      rw [hp] at hneed
      dsimp only at hneed
      have hcontent : s.content call'.promise = c := by rw [content, hshared]; rfl
      rw [hcontent] at hneed
      cases hexchange with
      | sent _ _ _ _ hc | found _ _ _ _ _ hc | erased _ _ _ _ _ hc | stopped _ _ _ _ _ hc =>
        rw [hc] at hneed
        cases hneed
      | done data hanswer hsents hflight hreader hc =>
        refine ⟨⟨hsents, hflight, hreader⟩, fun k'' call'' _ hcall'' ↦ ?_⟩
        by_cases hk : k'' = k'
        · -- the owner has its response, and is like the others
          subst hk
          obtain rfl := Option.some.inj (hcall''.symm.trans hcall')
          unfold Settled
          rw [hp]
          exact ⟨rfl, data, hanswer, hcontent.trans hc⟩
        · exact hsettled k'' call'' (fun heq ↦ hk (Option.some.inj heq).symm) hcall''

/-- A call that has replaced the promise and not written its request. -/
theorem Invariant.preparing (h : Invariant answers s) (hcall : s.calls[k]? = some call)
    (hphase : call.phase = .promised ∨ call.phase = .timed ∨ call.phase = .inserted) :
    SettledExcept answers s (some k) ∧ s.current = some call.promise ∧ Unanswered answers k ∧
      (call.phase ≠ .inserted → s.sents = []) ∧ (call.phase = .inserted → s.sents = [call.id]) ∧
      s.inFlight = [] ∧ s.reader = .idle ∧ s.promises[call.promise]? = some {} := by
  obtain ⟨owner, howned, hsettled⟩ := h.owned
  obtain rfl := hsettled.owner_eq hcall (not_settled (by tauto))
  obtain ⟨call', hcall', hcurrent, hholds⟩ := howned
  obtain rfl := Option.some.inj (hcall.symm.trans hcall')
  cases hholds with
  | preparing hp hfree hsents hflight hreader hshared =>
    refine ⟨hsettled, hcurrent, hfree, fun _ ↦ hsents, fun hins ↦ ?_, hflight, hreader, hshared⟩
    rw [hins] at hp
    simp at hp
  | inserted hp hfree hsents hflight hreader hshared =>
    exact ⟨hsettled, hcurrent, hfree, fun hne ↦ absurd hp hne, fun _ ↦ hsents, hflight, hreader,
      hshared⟩
  | written c hp =>
    rw [hp] at hphase
    simp at hphase
  | waiting c hp =>
    rw [hp] at hphase
    simp at hphase

/-- **Taking the future**: the promise is the call's own, and its future is not taken yet. -/
theorem Invariant.getFuture (h : Invariant answers s) (hcall : s.calls[k]? = some call)
    (hphase : call.phase = .written) :
    ∃ t, s.getFuture k call = .ok t ∧ Invariant answers t := by
  obtain ⟨owner, howned, hsettled⟩ := h.owned
  obtain rfl := hsettled.owner_eq hcall (not_settled (Or.inr (Or.inr (Or.inr hphase))))
  obtain ⟨call', hcall', hcurrent, hholds⟩ := howned
  obtain rfl := Option.some.inj (hcall.symm.trans hcall')
  cases hholds with
  | preparing hp => simp [hphase] at hp
  | inserted hp => simp [hphase] at hp
  | waiting c hp => simp [hphase] at hp
  | written c hp hshared hexchange =>
    rw [PayloadChannelAgent.getFuture, hcurrent]
    dsimp only
    rw [hshared]
    refine ⟨_, rfl, h.setOwner hsettled (fun k' hk ↦ (Option.some.inj hk).symm)
      (List.getElem?_eq_some_iff.mp hcall).1 rfl (fun p c' hc ↦ ?_) hcurrent ?_⟩
    · rw [content_modify (s := s) rfl]
      split
      · exact hc
      · exact hc
    · refine .waiting c rfl ?_ hexchange
      change (s.promises.modify call.promise _)[call.promise]? = _
      rw [List.getElem?_modify_eq, hshared]
      rfl

/-- **Waiting** for the future. -/
theorem Invariant.get (h : Invariant answers s) (hcall : s.calls[k]? = some call) {p : ℕ}
    (hphase : call.phase = .waiting p) : ∃ t, s.proceed k = .ok t ∧ Invariant answers t := by
  obtain ⟨owner, howned, hsettled⟩ := h.owned
  rw [proceed, hcall]
  dsimp only
  rw [hphase]
  dsimp only
  by_cases howner : owner = some k
  · subst howner
    have howned' := howned
    obtain ⟨call', hcall', hcurrent, hholds⟩ := howned'
    obtain rfl := Option.some.inj (hcall.symm.trans hcall')
    cases hholds with
    | preparing hp => simp [hphase] at hp
    | inserted hp => simp [hphase] at hp
    | written c hp => simp [hphase] at hp
    | waiting c hp hshared hexchange =>
      obtain rfl : call.promise = p := by simpa [hphase, eq_comm] using hp
      have hcontent : s.content call.promise = c := by rw [content, hshared]; rfl
      rw [hcontent]
      cases hexchange with
      | sent _ _ _ _ hc | found _ _ _ _ _ hc | erased _ _ _ _ _ hc | stopped _ _ _ _ _ hc =>
        -- the call blocks
        rw [hc]
        exact ⟨s, rfl, h⟩
      | done data hanswer hsents hflight hreader hc =>
        rw [hc] at hcontent ⊢
        exact ⟨_, rfl, h.setReturned hsettled (fun k' hk ↦ (Option.some.inj hk).symm)
          ⟨hsents, hflight, hreader⟩ ⟨data, hanswer, hcontent, rfl⟩⟩
  · have hcall' := hsettled k call howner hcall
    unfold Settled at hcall'
    rw [hphase] at hcall'
    obtain ⟨rfl, data, hanswer, hcontent⟩ := hcall'
    rw [hcontent]
    exact ⟨_, rfl, h.setOther howned hsettled howner ⟨data, hanswer, hcontent, rfl⟩⟩

/-- **A call goes on.** -/
theorem Invariant.proceed (h : Invariant answers s) (hlegal : s.Undisturbed (.proceed k)) :
    ∃ t, s.proceed k = .ok t ∧ Invariant answers t := by
  cases hcall : s.calls[k]? with
  | none =>
    rw [PayloadChannelAgent.proceed, hcall]
    exact ⟨s, rfl, h⟩
  | some call =>
    obtain ⟨owner, howned, hsettled⟩ := h.owned
    have hlt := (List.getElem?_eq_some_iff.mp hcall).1
    cases hphase : call.phase with
    | counted =>
      have hne := howned.ne_of_settled_phase hcall (Or.inl hphase)
      have hfree := hsettled k call hne hcall
      unfold Settled at hfree
      rw [hphase] at hfree
      rw [PayloadChannelAgent.proceed, hcall]
      dsimp only
      rw [hphase]
      exact ⟨_, rfl, h.setOther howned hsettled hne hfree⟩
    | numbered =>
      have hne := howned.ne_of_settled_phase hcall (Or.inr (Or.inl hphase))
      have hfree := hsettled k call hne hcall
      unfold Settled at hfree
      rw [hphase] at hfree
      obtain ⟨⟨hsents, hflight, hreader⟩, hothers⟩ :=
        owned_none howned hsettled hne (hlegal call hcall hphase)
      rw [PayloadChannelAgent.proceed, hcall]
      dsimp only
      rw [hphase]
      exact ⟨_, rfl, h.setOwner hothers nofun hlt rfl (fun p c hc ↦ content_reset hc) rfl
        (.preparing (Or.inl rfl) hfree hsents hflight hreader (promises_reset s))⟩
    | promised =>
      obtain ⟨hothers, hcurrent, hfree, hsents, -, hflight, hreader, hshared⟩ :=
        h.preparing hcall (Or.inl hphase)
      replace hsents := hsents (by simp [hphase])
      rw [PayloadChannelAgent.proceed, hcall]
      dsimp only
      rw [hphase]
      exact ⟨_, rfl, h.setOwner hothers (fun k' hk ↦ (Option.some.inj hk).symm) hlt rfl
        (fun _ _ hc ↦ hc) hcurrent (.preparing (Or.inr rfl) hfree hsents hflight hreader hshared)⟩
    | timed =>
      obtain ⟨hothers, hcurrent, hfree, hsents, -, hflight, hreader, hshared⟩ :=
        h.preparing hcall (Or.inr (Or.inl hphase))
      replace hsents := hsents (by simp [hphase])
      rw [PayloadChannelAgent.proceed, hcall]
      dsimp only
      rw [hphase]
      exact ⟨_, rfl, h.setOwner hothers (fun k' hk ↦ (Option.some.inj hk).symm) hlt rfl
        (fun _ _ hc ↦ hc) hcurrent (.inserted rfl hfree
          (congrArg (List.insert call.id) hsents) hflight hreader hshared)⟩
    | inserted =>
      obtain ⟨hothers, hcurrent, hfree, -, hsents, hflight, hreader, hshared⟩ :=
        h.preparing hcall (Or.inr (Or.inr hphase))
      replace hsents := hsents hphase
      rw [PayloadChannelAgent.proceed, hcall]
      dsimp only
      rw [hphase]
      exact ⟨_, rfl, h.setOwner hothers (fun k' hk ↦ (Option.some.inj hk).symm) hlt rfl
        (fun _ _ hc ↦ hc) hcurrent (.written none rfl hshared
          (.sent hfree hsents (congrArg (· ++ [k]) hflight) hreader rfl))⟩
    | written =>
      rw [PayloadChannelAgent.proceed, hcall]
      dsimp only
      rw [hphase]
      exact h.getFuture hcall hphase
    | waiting p => exact h.get hcall hphase
    | returned result =>
      rw [PayloadChannelAgent.proceed, hcall]
      dsimp only
      rw [hphase]
      exact ⟨s, rfl, h⟩

/-- When something is with the worker, or the reader is not idle, the owner of the promise has
written its request. -/
theorem Invariant.exchange (h : Invariant answers s) (hbusy : s.inFlight ≠ [] ∨ s.reader ≠ .idle) :
    ∃ k call retrieved content, SettledExcept answers s (some k) ∧ s.calls[k]? = some call ∧
      s.current = some call.promise ∧ s.promises[call.promise]? = some ⟨retrieved, content⟩ ∧
      Exchange answers k call.id s.sents s.inFlight s.reader content ∧
      ((call.phase = .written ∧ retrieved = false) ∨
        call.phase = .waiting call.promise ∧ retrieved = true) := by
  obtain ⟨owner, howned, hsettled⟩ := h.owned
  have hcontra : s.inFlight = [] → s.reader = .idle → False := by
    intro hflight hreader
    rcases hbusy with hne | hne
    · exact hne hflight
    · exact hne hreader
  cases owner with
  | none => exact (hcontra howned.2.1 howned.2.2).elim
  | some k =>
    obtain ⟨call, hcall, hcurrent, hholds⟩ := howned
    cases hholds with
    | preparing _ _ _ hflight hreader => exact (hcontra hflight hreader).elim
    | inserted _ _ _ hflight hreader => exact (hcontra hflight hreader).elim
    | written c hp hshared hexchange =>
      exact ⟨k, call, false, c, hsettled, hcall, hcurrent, hshared, hexchange, Or.inl ⟨hp, rfl⟩⟩
    | waiting c hp hshared hexchange =>
      exact ⟨k, call, true, c, hsettled, hcall, hcurrent, hshared, hexchange, Or.inr ⟨hp, rfl⟩⟩

/-- The exchange has come further. -/
theorem Invariant.setExchange {answers' : List (ℕ × Answer)} {retrieved : Bool}
    {c : Option (Except FutureException Json)}
    (hrange : ∀ k answer, (k, answer) ∈ answers' → k < t.calls.length)
    (hsettled : SettledExcept answers' t (some k)) (hcall : t.calls[k]? = some call)
    (hcurrent : t.current = some call.promise)
    (hshared : t.promises[call.promise]? = some ⟨retrieved, c⟩)
    (hexchange : Exchange answers' k call.id t.sents t.inFlight t.reader c)
    (hphase : (call.phase = .written ∧ retrieved = false) ∨
      call.phase = .waiting call.promise ∧ retrieved = true) : Invariant answers' t := by
  refine ⟨hrange, some k, ⟨call, hcall, hcurrent, ?_⟩, hsettled⟩
  rcases hphase with ⟨hp, rfl⟩ | ⟨hp, rfl⟩
  · exact .written c hp hshared hexchange
  · exact .waiting c hp hshared hexchange

/-- **A response** for the owner of the promise, which is the only call that waits for one. -/
theorem Invariant.respond (h : Invariant answers s) {answer : Answer}
    (hworker : s.FromWorker (.respond k answer)) (hlegal : s.Undisturbed (.respond k answer)) :
    Invariant (answers ++ [(k, answer)]) (s.respond k answer) := by
  obtain ⟨hmem, hidle⟩ := hworker
  obtain ⟨data, rfl⟩ := hlegal
  obtain ⟨k', call, retrieved, c, hsettled, hcall, hcurrent, hshared, hexchange, hphase⟩ :=
    h.exchange (Or.inl (List.ne_nil_of_mem hmem))
  cases hexchange with
  | found _ _ _ hflight | erased _ _ _ hflight | stopped _ _ _ hflight | done _ _ _ hflight =>
    rw [hflight] at hmem
    cases hmem
  | sent hfree hsents hflight hreader hcontent =>
    rw [hflight, List.mem_singleton] at hmem
    subst hmem
    have hrespond : s.respond k (.accepted data) =
        { s with inFlight := [], reader := .found call.id (.accepted data) } := by
      rw [PayloadChannelAgent.respond, hcall]
      dsimp only
      rw [if_pos (by rw [hsents]; exact List.mem_singleton_self _), hflight, List.erase_cons_head]
    have honly : AnsweredBy (answers ++ [(k, .accepted data)]) k data := by
      intro answer
      simp [hfree answer]
    rw [hrespond]
    refine .setExchange (fun k' answer hmem ↦ ?_) (fun k' call' hne hcall' ↦ ?_) hcall hcurrent
      hshared (.found data honly hsents rfl rfl hcontent) hphase
    · rcases List.mem_append.mp hmem with hmem | hmem
      · exact h.inRange k' answer hmem
      · cases List.mem_singleton.mp hmem
        exact (List.getElem?_eq_some_iff.mp hcall).1
    · exact ((hsettled k' call' hne hcall').respond fun heq ↦ hne (congrArg some heq.symm)).frame
        fun _ _ hc ↦ hc

/-- **The reader goes on.** -/
theorem Invariant.process (h : Invariant answers s) :
    ∃ t, s.process = .ok t ∧ Invariant answers t := by
  by_cases hidle : s.reader = .idle
  · rw [PayloadChannelAgent.process, hidle]
    exact ⟨s, rfl, h⟩
  · obtain ⟨k, call, retrieved, c, hsettled, hcall, hcurrent, hshared, hexchange, hphase⟩ :=
      h.exchange (Or.inr hidle)
    cases hexchange with
    | sent _ _ _ hreader => exact absurd hreader hidle
    | done _ _ _ _ hreader => exact absurd hreader hidle
    | found data hanswer hsents hflight hreader hcontent =>
      have hprocess : s.process =
          .ok { s with sents := [], reader := .erased (.ok (dataOf data)) } := by
        rw [PayloadChannelAgent.process, hreader]
        dsimp only
        rw [eraseSent, if_pos (by rw [hsents]; exact List.mem_singleton_self _), hsents,
          List.erase_cons_head]
      exact ⟨_, hprocess, .setExchange h.inRange
        (fun k' call' hne hcall' ↦ (hsettled k' call' hne hcall').frame fun _ _ hc ↦ hc) hcall
        hcurrent hshared (.erased data hanswer rfl hflight rfl hcontent) hphase⟩
    | erased data hanswer hsents hflight hreader hcontent =>
      have hprocess : s.process =
          .ok { s with clear := true, reader := .stopped (.ok (dataOf data)) } := by
        rw [PayloadChannelAgent.process, hreader]
      exact ⟨_, hprocess, .setExchange h.inRange
        (fun k' call' hne hcall' ↦ (hsettled k' call' hne hcall').frame fun _ _ hc ↦ hc) hcall
        hcurrent hshared (.stopped data hanswer hsents hflight rfl hcontent) hphase⟩
    | stopped data hanswer hsents hflight hreader hcontent =>
      rw [hcontent] at hshared
      obtain ⟨promises, hfulfil, hnew, hkept⟩ :=
        fulfil_eq (.ok (dataOf data)) hcurrent hshared
      have hprocess : s.process = .ok { s with promises := promises, reader := .idle } := by
        rw [PayloadChannelAgent.process, hreader]
        dsimp only
        rw [hfulfil]
        rfl
      exact ⟨_, hprocess, .setExchange h.inRange
        (fun k' call' hne hcall' ↦ (hsettled k' call' hne hcall').frame hkept) hcall hcurrent hnew
        (.done data hanswer hsents hflight rfl rfl) hphase⟩

/-- **A timer** whose request is not there any more. -/
theorem Invariant.expire (h : Invariant answers s) {i : ℕ}
    (hlegal : s.Undisturbed (.expire i)) : ∃ t, s.expire i = .ok t ∧ Invariant answers t := by
  rw [PayloadChannelAgent.expire]
  cases htimer : s.timers[i]? with
  | none => exact ⟨s, rfl, h⟩
  | some id =>
    dsimp only
    rw [if_pos (hlegal id htimer)]
    obtain ⟨owner, howned, hsettled⟩ := h.owned
    refine ⟨_, rfl, h.inRange, owner, ?_, fun k call hne hcall ↦
      (hsettled k call hne hcall).frame fun _ _ hc ↦ hc⟩
    cases owner with
    | none => exact howned
    | some k => exact howned

/-- **One step** of any thread. -/
theorem Invariant.step (h : Invariant answers s) {event : ChannelEvent}
    (hworker : s.FromWorker event) (hlegal : s.Undisturbed event) :
    ∃ t, s.step event = .ok ((), t) ∧ Invariant (answers ++ event.response.toList) t := by
  cases event with
  | request =>
    rw [show answers ++ ChannelEvent.request.response.toList = answers from List.append_nil _]
    exact h.request
  | proceed k =>
    obtain ⟨t, ht, hinv⟩ := h.proceed hlegal
    rw [show answers ++ (ChannelEvent.proceed k).response.toList = answers from List.append_nil _]
    exact ⟨t, by rw [PayloadChannelAgent.step, ht]; rfl, hinv⟩
  | respond k answer => exact ⟨_, rfl, h.respond hworker hlegal⟩
  | process =>
    obtain ⟨t, ht, hinv⟩ := h.process
    rw [show answers ++ ChannelEvent.process.response.toList = answers from List.append_nil _]
    exact ⟨t, by rw [PayloadChannelAgent.step, ht]; rfl, hinv⟩
  | expire i =>
    obtain ⟨t, ht, hinv⟩ := h.expire hlegal
    rw [show answers ++ (ChannelEvent.expire i).response.toList = answers from List.append_nil _]
    exact ⟨t, by rw [PayloadChannelAgent.step, ht]; rfl, hinv⟩

/-! ## Requests and responses -/

/-- A call whose response has been processed. -/
theorem Invariant.answered (h : Invariant answers s) {answer : Answer}
    (hmem : (k, answer) ∈ answers) (hidle : s.reader = .idle) :
    ∃ call data, s.calls[k]? = some call ∧ answer = .accepted data ∧
      s.content call.promise = some (.ok (dataOf data)) ∧
      ((call.phase = .written ∧ s.current = some call.promise ∧
          s.promises[call.promise]?.any SharedState.retrieved = false) ∨
        call.phase = .waiting call.promise ∨ call.phase = .returned (dataOf data)) := by
  obtain ⟨owner, howned, hsettled⟩ := h.owned
  by_cases howner : owner = some k
  · subst howner
    obtain ⟨call, hcall, hcurrent, hholds⟩ := howned
    cases hholds with
    | preparing _ hfree | inserted _ hfree => exact absurd hmem (hfree answer)
    | written c hp hshared hexchange | waiting c hp hshared hexchange =>
      cases hexchange with
      | sent hfree => exact absurd hmem (hfree answer)
      | found _ _ _ _ hreader | erased _ _ _ _ hreader | stopped _ _ _ _ hreader =>
        rw [hreader] at hidle
        cases hidle
      | done data hanswer _ _ _ hc =>
        refine ⟨call, data, hcall, (hanswer answer).mp hmem, ?_, ?_⟩
        · rw [content, hshared]
          exact hc
        · simp [hp, hcurrent, hshared]
  · have hlt := h.inRange k answer hmem
    have hcall := hsettled k s.calls[k] howner (List.getElem?_eq_getElem hlt)
    refine ⟨s.calls[k], ?_⟩
    unfold Settled at hcall
    split at hcall
    · exact absurd hmem (hcall answer)
    · exact absurd hmem (hcall answer)
    · rename_i p hp
      obtain ⟨rfl, data, hanswer, hcontent⟩ := hcall
      exact ⟨data, List.getElem?_eq_getElem hlt, (hanswer answer).mp hmem, hcontent,
        Or.inr (Or.inl hp)⟩
    · rename_i result hp
      obtain ⟨data, hanswer, hcontent, rfl⟩ := hcall
      exact ⟨data, List.getElem?_eq_getElem hlt, (hanswer answer).mp hmem, hcontent,
        Or.inr (Or.inr hp)⟩
    · exact hcall.elim

/-- A call returns when it goes on and the promise of its future is resolved. -/
theorem proceed_returns {result : Json} (hcall : s.calls[k]? = some call)
    (hphase : (∃ p, call.phase = .waiting p ∧ s.content p = some (.ok result)) ∨
      call.phase = .returned result) :
    ∃ t call', s.proceed k = .ok t ∧ t.calls[k]? = some call' ∧ call'.phase = .returned result := by
  rw [proceed, hcall]
  rcases hphase with ⟨p, hp, hcontent⟩ | hp
  · dsimp only
    rw [hp]
    dsimp only
    rw [hcontent]
    exact ⟨_, _, rfl, List.getElem?_set_self (List.getElem?_eq_some_iff.mp hcall).1, rfl⟩
  · dsimp only
    rw [hp]
    exact ⟨s, call, rfl, hcall, hp⟩

/-- **What the invariant is for.** -/
theorem Invariant.matches (h : Invariant answers s) : Matches answers s where
  returned k call result hcall hphase := by
    obtain ⟨owner, howned, hsettled⟩ := h.owned
    have hne := howned.ne_of_settled_phase hcall (Or.inr (Or.inr ⟨result, hphase⟩))
    have hreturned := hsettled k call hne hcall
    unfold Settled at hreturned
    rw [hphase] at hreturned
    obtain ⟨data, hanswer, -, rfl⟩ := hreturned
    exact ⟨.accepted data, (hanswer _).mpr rfl, rfl⟩
  resolved k answer hmem hidle := by
    obtain ⟨call, data, hcall, rfl, hcontent, -⟩ := h.answered hmem hidle
    exact ⟨call, _, hcall, hcontent, rfl⟩
  returns k answer hmem hidle := by
    obtain ⟨call, data, hcall, rfl, hcontent, hphase⟩ := h.answered hmem hidle
    rcases hphase with ⟨hp, hcurrent, hretrieved⟩ | hphase
    · -- the call takes the future first
      let t : PayloadChannelAgent := { s.setPhase k call (.waiting call.promise) with
        promises := s.promises.modify call.promise fun shared ↦ { shared with retrieved := true } }
      have ht : s.proceed k = .ok t := by
        rw [PayloadChannelAgent.proceed, hcall]
        dsimp only
        rw [hp]
        dsimp only
        rw [PayloadChannelAgent.getFuture, hcurrent]
        dsimp only
        rw [hretrieved]
        rfl
      have hwaiting : t.calls[k]? = some { call with phase := .waiting call.promise } :=
        List.getElem?_set_self (List.getElem?_eq_some_iff.mp hcall).1
      have hresolved : t.content call.promise = some (.ok (dataOf data)) := by
        rw [content_modify (s := s) (t := t) rfl]
        split
        · exact hcontent
        · exact hcontent
      obtain ⟨u, call', hu, hcall', hp'⟩ :=
        proceed_returns hwaiting (Or.inl ⟨call.promise, rfl, hresolved⟩)
      exact ⟨t, u, call', _, ht, hu, hcall', hp', rfl⟩
    · obtain ⟨t, call', ht, hcall', hp'⟩ := proceed_returns hcall
        (hphase.imp (fun hp ↦ ⟨_, hp, hcontent⟩) id)
      obtain ⟨u, call'', hu, hcall'', hp''⟩ := proceed_returns hcall' (Or.inr hp')
      exact ⟨t, u, call'', _, ht, hu, hcall'', hp'', rfl⟩

/-- The responses of a longer run. -/
theorem responses_concat (records : List (Run.Record PayloadChannelAgent ChannelEvent Unit))
    (r : Run.Record PayloadChannelAgent ChannelEvent Unit) :
    responses (records ++ [r]) = responses records ++ r.event.response.toList := by
  rw [responses, responses, List.filterMap_append]
  cases hresponse : r.event.response <;> simp [hresponse]

/-- **Requests and responses match.** In every run in which the promise is replaced only when no
other call needs it, no request fails and none is out of time, no thread ends with an exception;
after every step each call that has returned has returned the data of the response to its own
request, and each response that has been processed has resolved the promise of its call, which has
only to go on to return. -/
theorem matches_responses (events : List ChannelEvent)
    (hrun : Run.Obeys step (fun s event ↦ s.FromWorker event ∧ s.Undisturbed event) {} events) :
    ∃ records, Run.trace step {} events = .ok records ∧
      ∀ pre r post, records = pre ++ r :: post → Matches (responses (pre ++ [r])) r.after := by
  have hstart : Invariant (responses []) {} :=
    ⟨nofun, none, ⟨rfl, rfl, rfl⟩, fun k call _ hcall ↦ by simp at hcall⟩
  obtain ⟨records, htrace, -, hafter⟩ := Run.Obeys.trace (fun _ ↦ True)
    (fun records s ↦ Invariant (responses records) s)
    (fun records s event hinv _ hlegal ↦ by
      obtain ⟨t, ht, hinv'⟩ := hinv.step hlegal.1 hlegal.2
      exact ⟨(), t, ht, by rwa [responses_concat]⟩)
    events [] {} hstart (fun _ _ ↦ trivial) hrun
  exact ⟨records, htrace, fun pre r post hsplit ↦ (hafter pre r post hsplit).matches⟩

/-- Any other step of a call. -/
theorem undisturbed_of_ne (hcall : s.calls[k]? = some call) (hphase : call.phase ≠ .numbered) :
    s.Undisturbed (.proceed k) := by
  intro call' hcall' hphase'
  obtain rfl := Option.some.inj (hcall.symm.trans hcall')
  exact absurd hphase' hphase

/-- The second of two calls starts when the first one has got its future, and replaces the promise
when the first response is there. Its own response is in the promise before it takes the future. -/
theorem matches_responses_two :
    ∃ records, Run.trace step {} [.request, .proceed 0, .proceed 0, .proceed 0, .proceed 0,
        .proceed 0, .proceed 0, .request, .proceed 1, .respond 0 (.accepted (some (.number 7))),
        .process, .process, .process, .proceed 1, .proceed 1, .proceed 1, .proceed 1, .proceed 0,
        .respond 1 (.accepted none), .process, .process, .process, .proceed 1, .proceed 1] =
      .ok records ∧
      ∀ pre r post, records = pre ++ r :: post → Matches (responses (pre ++ [r])) r.after := by
  refine matches_responses _ ?_
  have hfirst : ∀ {s : PayloadChannelAgent} {call : RequestCall}, s.calls = [call] →
      s.Undisturbed (.proceed 0) := by
    intro s call hcalls call' hcall hphase k' call'' hne hcall''
    rw [hcalls] at hcall''
    cases k' with
    | zero => exact absurd rfl hne
    | succ k' => cases hcall''
  refine .cons ⟨trivial, trivial⟩ rfl <| .cons ⟨trivial, hfirst rfl⟩ rfl <|
    .cons ⟨trivial, hfirst rfl⟩ rfl <| .cons ⟨trivial, hfirst rfl⟩ rfl <|
    .cons ⟨trivial, hfirst rfl⟩ rfl <| .cons ⟨trivial, hfirst rfl⟩ rfl <|
    .cons ⟨trivial, hfirst rfl⟩ rfl <| .cons ⟨trivial, trivial⟩ rfl <|
    .cons ⟨trivial, undisturbed_of_ne rfl nofun⟩ rfl <|
    .cons ⟨⟨List.mem_singleton_self 0, rfl⟩, _, rfl⟩ rfl <| .cons ⟨trivial, trivial⟩ rfl <|
    .cons ⟨trivial, trivial⟩ rfl <| .cons ⟨trivial, trivial⟩ rfl <| .cons ⟨trivial, ?_⟩ rfl <|
    .cons ⟨trivial, undisturbed_of_ne rfl nofun⟩ rfl <|
    .cons ⟨trivial, undisturbed_of_ne rfl nofun⟩ rfl <|
    .cons ⟨trivial, undisturbed_of_ne rfl nofun⟩ rfl <|
    .cons ⟨trivial, undisturbed_of_ne rfl nofun⟩ rfl <|
    .cons ⟨⟨List.mem_singleton_self 1, rfl⟩, _, rfl⟩ rfl <| .cons ⟨trivial, trivial⟩ rfl <|
    .cons ⟨trivial, trivial⟩ rfl <| .cons ⟨trivial, trivial⟩ rfl <|
    .cons ⟨trivial, undisturbed_of_ne rfl nofun⟩ rfl <|
    .cons ⟨trivial, undisturbed_of_ne rfl nofun⟩ rfl trivial
  -- the promise of the first call is resolved
  intro call hcall hphase k' call' hne hcall'
  cases k' with
  | zero =>
    cases hcall'
    rfl
  | succ k' =>
    cases k' with
    | zero => exact absurd rfl hne
    | succ k' => cases hcall'

/-- Two calls send their requests before the worker answers the first of them. -/
def overlapping : List ChannelEvent :=
  [.request, .proceed 0, .proceed 0, .proceed 0, .proceed 0, .proceed 0, .proceed 0, .proceed 0,
    .request, .proceed 1, .proceed 1, .proceed 1, .proceed 1, .proceed 1, .proceed 1,
    .respond 0 (.accepted (some (.number 7))), .process, .process, .process, .proceed 1]

/-- **One promise for all calls.** The second call replaces the promise while the first one waits,
and then returns the data of the first response. -/
theorem not_matches_responses :
    ¬∀ events : List ChannelEvent, Run.Obeys step FromWorker {} events →
      ∃ records, Run.trace step {} events = .ok records ∧
        ∀ pre r post, records = pre ++ r :: post → Matches (responses (pre ++ [r])) r.after := by
  intro h
  have hobeys : Run.Obeys step FromWorker {} overlapping := by
    refine .cons trivial rfl <| .cons trivial rfl <| .cons trivial rfl <| .cons trivial rfl <|
      .cons trivial rfl <| .cons trivial rfl <| .cons trivial rfl <| .cons trivial rfl <|
      .cons trivial rfl <| .cons trivial rfl <| .cons trivial rfl <| .cons trivial rfl <|
      .cons trivial rfl <| .cons trivial rfl <| .cons trivial rfl <|
      .cons ⟨List.mem_cons_self, rfl⟩ rfl <| .cons trivial rfl <| .cons trivial rfl <|
      .cons trivial rfl <| .cons trivial rfl trivial
  obtain ⟨records, htrace, hmatches⟩ := h overlapping hobeys
  have hanswers : (Run.trace step {} overlapping).toOption.map responses =
      some [(0, .accepted (some (.number 7)))] := rfl
  have hlast : ((Run.trace step {} overlapping).toOption.bind List.getLast?).bind
      (fun r ↦ r.after.calls[1]?) =
      some { phase := .returned (.number 7), id := 2, promise := 1 } := rfl
  rw [htrace] at hanswers hlast
  obtain ⟨r, hr, hcall⟩ := Option.bind_eq_some_iff.mp hlast
  obtain ⟨pre, rfl⟩ := List.getLast?_eq_some_iff.mp hr
  -- the second call has returned and has no response
  obtain ⟨answer, hmem, -⟩ := (hmatches pre r [] rfl).returned 1 _ _ hcall rfl
  rw [Option.some.inj hanswers] at hmem
  simp at hmem

end PayloadChannelAgent

end MediasoupSfu
