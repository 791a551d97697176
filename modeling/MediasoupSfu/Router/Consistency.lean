import MediasoupSfu.Library.Run
import MediasoupSfu.Router.Requests

/-!
# The Router's maps in every reachable state

Whatever the requests and the callbacks are, and in whatever order they come, every map of the
Router and of its Transports is exact when an event is over, and no assertion, no checked lookup
and no use of a deleted object fails on the way.

A step is taken apart as the code takes it: the Router finds the Transport (`Taken.deliver`), which
does its part in one of the two halves (`Taken.inMedia`, `Taken.inData`).
-/

namespace MediasoupSfu

namespace RouterGraph

open Index

namespace Router

/-- Every map is exact. -/
structure Consistent (r : Router) : Prop where
  mapTransports : Indexes r.mapTransports.lookup
    (Held r.transports fun transport id ↦ transport.id = id)
  media : r.media.Consistent
  data : r.data.Consistent
  mediaTransports : ∀ t, r.media.graph.ends t = none ↔ r.transports t = none
  dataTransports : ∀ t, r.data.ends t = none ↔ r.transports t = none

/-- An event is taken without a fault, every map is exact afterwards, and if it was a request for a
new object that is refused, nothing has changed. -/
def Taken (r : Router) (new : Prop) (result : Result) : Prop :=
  ∃ reply r', result = .ok (reply, r') ∧ r'.Consistent ∧
    (new → ∀ text, reply = some (.thrown text) → r' = r)

variable {env : Surroundings} {r : Router} {t : ℕ}

/-- An event that only looks at things. -/
theorem Consistent.taken {new : Prop} (h : r.Consistent) (reply : Option Reply) :
    r.Taken new (.ok (reply, r)) :=
  ⟨reply, r, rfl, h, fun _ _ _ ↦ rfl⟩

theorem Consistent.withMedia (h : r.Consistent) {media : Media} (hmedia : media.Consistent)
    (htransports : r.media.graph.SameTransports media.graph) :
    Consistent { r with media } where
  mapTransports := h.mapTransports
  media := hmedia
  data := h.data
  mediaTransports t := (htransports t).trans (h.mediaTransports t)
  dataTransports := h.dataTransports

theorem Consistent.withData (h : r.Consistent) {data : Graph DataType} (hdata : data.Consistent)
    (htransports : r.data.SameTransports data) : Consistent { r with data } where
  mapTransports := h.mapTransports
  media := h.media
  data := hdata
  mediaTransports := h.mediaTransports
  dataTransports t := (htransports t).trans (h.dataTransports t)

/-- A request that changes the half that deals with RTP. -/
theorem Taken.inMedia (h : r.Consistent) {result : Except Fault (Reply × Media)}
    (hresult : ∃ reply media, result = .ok (reply, media) ∧ media.Consistent ∧
      r.media.graph.SameTransports media.graph) : r.Taken False (r.inMedia result) := by
  obtain ⟨reply, media, hok, hmedia, htransports⟩ := hresult
  exact ⟨some reply, { r with media }, bind_eq_ok.mpr ⟨_, hok, rfl⟩, h.withMedia hmedia htransports,
    False.elim⟩

/-- A request for a new Producer or Consumer. -/
theorem Taken.inMedia_new (h : r.Consistent) {result : Except Fault (Reply × Media)}
    (hresult : ∃ answer, result = .ok answer ∧
      r.media.Unless (fun media ↦ media.Consistent ∧ r.media.graph.SameTransports media.graph)
        answer) : r.Taken True (r.inMedia result) := by
  obtain ⟨⟨reply, media⟩, hok, hanswer⟩ := hresult
  have hrun : r.inMedia result = .ok (some reply, { r with media }) := bind_eq_ok.mpr ⟨_, hok, rfl⟩
  cases reply with
  | accepted =>
    exact ⟨_, _, hrun, h.withMedia hanswer.1 hanswer.2, fun _ text htext ↦ by cases htext⟩
  | thrown text =>
    obtain rfl : media = r.media := hanswer
    exact ⟨_, _, hrun, h, fun _ _ _ ↦ rfl⟩

/-- A request that changes the half that deals with data. -/
theorem Taken.inData (h : r.Consistent) {result : Except Fault (Reply × Graph DataType)}
    (hresult : ∃ reply data, result = .ok (reply, data) ∧ data.Consistent ∧
      r.data.SameTransports data) : r.Taken False (r.inData result) := by
  obtain ⟨reply, data, hok, hdata, htransports⟩ := hresult
  exact ⟨some reply, { r with data }, bind_eq_ok.mpr ⟨_, hok, rfl⟩, h.withData hdata htransports,
    False.elim⟩

/-- A request for a new DataProducer or DataConsumer. -/
theorem Taken.inData_new (h : r.Consistent) {result : Except Fault (Reply × Graph DataType)}
    {Q : Graph DataType → Prop}
    (hresult : ∃ answer, result = .ok answer ∧
      r.data.Unless (fun data ↦ data.Consistent ∧ r.data.SameTransports data ∧ Q data) answer) :
    r.Taken True (r.inData result) := by
  obtain ⟨⟨reply, data⟩, hok, hanswer⟩ := hresult
  have hrun : r.inData result = .ok (some reply, { r with data }) := bind_eq_ok.mpr ⟨_, hok, rfl⟩
  cases reply with
  | accepted =>
    exact ⟨_, _, hrun, h.withData hanswer.1 hanswer.2.1, fun _ text htext ↦ by cases htext⟩
  | thrown text =>
    obtain rfl : data = r.data := hanswer
    exact ⟨_, _, hrun, h, fun _ _ _ ↦ rfl⟩

/-- The Transport that the Router finds by an id is live. -/
theorem Consistent.getTransport (h : r.Consistent) {transportId : Option String}
    (hget : r.getTransportFromInternal transportId = .ok t) :
    ∃ transport, r.transports t = some transport := by
  obtain ⟨id, -, hmap⟩ := Graph.getFromInternal_eq_ok hget
  obtain ⟨transport, htransport, -⟩ := (h.mapTransports id t).mp hmap
  exact ⟨transport, htransport⟩

/-- A request is delivered to a live Transport. -/
theorem Taken.deliver {new : Prop} (h : r.Consistent) {transportId : Option String}
    {f : ℕ → Result}
    (hf : ∀ t, r.getTransportFromInternal transportId = .ok t → r.media.graph.ends t ≠ none →
      r.data.ends t ≠ none → r.Taken new (f t)) : r.Taken new (r.deliver transportId f) := by
  rw [Router.deliver]
  cases hget : r.getTransportFromInternal transportId with
  | error text => exact h.taken _
  | ok t =>
    obtain ⟨transport, htransport⟩ := h.getTransport hget
    have hlive : r.transports t ≠ none := by
      rw [htransport]
      exact Option.some_ne_none transport
    exact hf t hget (mt (h.mediaTransports t).mp hlive) (mt (h.dataTransports t).mp hlive)

/-! ## Transports -/

/-- A new Transport. -/
theorem Consistent.createTransport (h : r.Consistent) (ht : r.transports t = none)
    (transportId : Option String) (made : Except String (Bool × Bool)) :
    (r.createTransport transportId made t).2.Consistent := by
  rw [Router.createTransport]
  cases hid : Graph.setNewIdFromInternal r.mapTransports
    "a Transport with same transportId already exists" "transportId" transportId with
  | error text => exact h
  | ok id =>
    cases made with
    | error text => exact h
    | ok kind =>
      have hmedia := h.media.graph.newTransport ((h.mediaTransports t).mpr ht)
      have hdata := h.data.newTransport ((h.dataTransports t).mpr ht)
      exact
        { mapTransports := Directory.indexes_insert h.mapTransports ht
            (Graph.setNewIdFromInternal_eq_ok hid) fun _ ↦ eq_comm
          media := ⟨hmedia, h.media.observers⟩
          data := hdata
          mediaTransports := update_eq_none_iff h.mediaTransports (some_eq_none_iff _ _) t
          dataTransports := update_eq_none_iff h.dataTransports (some_eq_none_iff _ _) t }

/-- What is left of a Transport whose Producers and Consumers are closed can be deleted. -/
theorem Consistent.deleteTransport {transport : Transport} (h : r.Consistent)
    (ht : r.transports t = some transport) (hmedia : r.media.graph.ends t = some {})
    (hdata : r.data.ends t = some {}) :
    Consistent (({ r with
      mapTransports := r.mapTransports.erase transport.id } : Router).deleteTransport t) where
  mapTransports := Directory.indexes_erase h.mapTransports ht fun _ ↦ eq_comm
  media := ⟨h.media.graph.deleteTransport hmedia, h.media.observers⟩
  data := h.data.deleteTransport hdata
  mediaTransports := update_eq_none_iff h.mediaTransports (iff_of_true rfl rfl) t
  dataTransports := update_eq_none_iff h.dataTransports (iff_of_true rfl rfl) t

/-- Everything that belongs to a Transport is closed. -/
theorem Consistent.closeProducersAndConsumers (h : r.Consistent) (env : Surroundings)
    (ht : r.media.graph.ends t ≠ none) :
    ∃ r', r.closeProducersAndConsumers env t = .ok r' ∧ r'.Consistent ∧
      r'.transports = r.transports ∧ r'.media.graph.ends t = some {} ∧
      r'.data.ends t = some {} := by
  obtain ⟨ends, hends⟩ := Option.ne_none_iff_exists'.mp ht
  obtain ⟨dataEnds, hdataEnds⟩ := Option.ne_none_iff_exists'.mp
    (mt (h.dataTransports t).mp (mt (h.mediaTransports t).mpr ht))
  obtain ⟨media₁, hok₁, hmedia₁, hmap₁, hsame₁⟩ := h.media.closeAllProducers env hends
  obtain ⟨ends₁, hends₁⟩ := Option.ne_none_iff_exists'.mp (mt (hsame₁ t).mp ht)
  rw [Graph.endsAt_of hends₁] at hmap₁
  obtain ⟨media₂, hok₂, hmedia₂, hempty₂, hsame₂⟩ := hmedia₁.closeAllConsumers env hends₁ hmap₁
  obtain ⟨data₁, hok₃, hdata₁, hmap₃, hsame₃⟩ :=
    h.data.closeAllProducers dataNames env.silent hdataEnds
  have hlive₃ : data₁.ends t ≠ none := by
    rw [Ne, hsame₃ t, hdataEnds]
    exact Option.some_ne_none dataEnds
  obtain ⟨ends₃, hends₃⟩ := Option.ne_none_iff_exists'.mp hlive₃
  rw [Graph.endsAt_of hends₃] at hmap₃
  obtain ⟨data₂, hok₄, hdata₂, -, hempty₄, hsame₄⟩ :=
    hdata₁.closeAllConsumers dataNames env.silent hends₃ hmap₃
  refine ⟨{ r with media := media₂, data := data₂ }, bind_eq_ok.mpr ⟨media₁, hok₁,
    bind_eq_ok.mpr ⟨media₂, hok₂, bind_eq_ok.mpr ⟨data₁, hok₃, bind_eq_ok.mpr ⟨data₂, hok₄,
      rfl⟩⟩⟩⟩, ?_, rfl, hempty₂, hempty₄⟩
  exact
    { mapTransports := h.mapTransports
      media := hmedia₂
      data := hdata₂
      mediaTransports := fun t' ↦ (hsame₂ t').trans ((hsame₁ t').trans (h.mediaTransports t'))
      dataTransports := fun t' ↦ (hsame₄ t').trans ((hsame₃ t').trans (h.dataTransports t')) }

/-- `TRANSPORT_CLOSE` -/
theorem Consistent.closeTransport (h : r.Consistent) (env : Surroundings)
    (transportId : Option String) : r.Taken False (r.closeTransport env transportId) := by
  refine Taken.deliver h fun t hget hmedia _ ↦ ?_
  obtain ⟨transport, ht⟩ := h.getTransport hget
  obtain ⟨r₁, hok, h₁, htransports, hempty, hdata⟩ := h.closeProducersAndConsumers env hmedia
  have ht₁ : r₁.transports t = some transport := by rw [htransports, ht]
  have hget₁ : r₁.getTransport t = .ok transport := by rw [Router.getTransport, ht₁]
  exact ⟨some .accepted, _, bind_eq_ok.mpr ⟨r₁, hok, bind_eq_ok.mpr ⟨transport, hget₁, rfl⟩⟩,
    h₁.deleteTransport ht₁ hempty hdata, False.elim⟩

/-! ## Data -/

/-- A request for a new DataProducer or DataConsumer. -/
theorem Taken.withData (h : r.Consistent) (ht : r.data.ends t ≠ none)
    {f : Transport → Except Fault (Reply × Graph DataType)} {Q : Graph DataType → Prop}
    (hf : ∀ transport, ∃ answer, f transport = .ok answer ∧
      r.data.Unless (fun data ↦ data.Consistent ∧ r.data.SameTransports data ∧ Q data) answer) :
    r.Taken True (r.withData t f) := by
  obtain ⟨transport, htransport⟩ := Option.ne_none_iff_exists'.mp (mt (h.dataTransports t).mpr ht)
  have hget : r.getTransport t = .ok transport := by rw [Router.getTransport, htransport]
  have hrun : r.withData t f =
      if !transport.sctpAssociation && !transport.direct then
        .ok (some (.thrown "SCTP not enabled and not a direct Transport"), r)
      else r.inData (f transport) := by
    rw [Router.withData, hget]
    rfl
  rw [hrun]
  split_ifs
  · exact h.taken _
  · exact Taken.inData_new h (hf transport)

/-- A DataConsumer has no SSRCs. -/
theorem freshSsrcs_of_made (transport : Transport) {made : Except String DataType}
    {mediaSsrcs : List (BitVec 32)}
    (h : (do
      let type ← made
      checkType transport dataNames.consumer type
      return [] : Except String (List (BitVec 32))) = .ok mediaSsrcs) :
    r.data.FreshSsrcs t mediaSsrcs := by
  obtain ⟨type, -, h⟩ := bind_eq_ok.mp h
  obtain ⟨_, -, h⟩ := bind_eq_ok.mp h
  obtain rfl : [] = mediaSsrcs := Except.ok.inj h
  exact fun _ _ _ _ _ hssrc ↦ absurd hssrc List.not_mem_nil

/-! ## Observers -/

/-- A request to the observers alone. -/
theorem Taken.observers (h : r.Consistent) {result : Except Fault (Reply × Observers)}
    (hresult : ∃ reply observers, result = .ok (reply, observers) ∧
      Observers.Sound r.media.graph.producers observers) :
    r.Taken False (r.inMedia do
      let (reply, observers) ← result
      return (reply, { r.media with observers })) := by
  obtain ⟨reply, observers, hok, hsound⟩ := hresult
  exact Taken.inMedia h ⟨reply, { r.media with observers }, bind_eq_ok.mpr ⟨_, hok, rfl⟩,
    ⟨h.media.graph, hsound⟩, fun _ ↦ Iff.rfl⟩

/-! ## Every event -/

/-- Every legal event is taken. -/
theorem Consistent.step (h : r.Consistent) {e : Surroundings × Event} (hlegal : r.Legal e) :
    r.Taken e.2.IsNew (step r e) := by
  obtain ⟨env, e⟩ := e
  cases e with
  | createTransport transportId made t =>
    exact ⟨_, _, rfl, h.createTransport hlegal transportId made, False.elim⟩
  | closeTransport transportId => exact h.closeTransport env transportId
  | createAudioLevelObserver rtpObserverId made i =>
    exact ⟨_, _, rfl, h.withMedia ⟨h.media.graph,
      h.media.observers.createAudioLevelObserver hlegal rtpObserverId made⟩ fun _ ↦ Iff.rfl,
      False.elim⟩
  | closeRtpObserver rtpObserverId =>
    exact Taken.observers h (h.media.observers.closeRtpObserver rtpObserverId)
  | pauseRtpObserver rtpObserverId =>
    exact Taken.observers h (h.media.observers.pauseRtpObserver rtpObserverId)
  | resumeRtpObserver rtpObserverId =>
    exact Taken.observers h (h.media.observers.resumeRtpObserver rtpObserverId)
  | addProducer rtpObserverId producerId =>
    obtain ⟨reply, media, hok, hmedia, hgraph⟩ := h.media.withObserver rtpObserverId producerId
      fun r p producer hr hp ↦ h.media.observers.addProducer hr hp producer.info.audio
    exact Taken.inMedia h ⟨reply, media, hok, hmedia, fun t ↦ by rw [hgraph]⟩
  | removeProducer rtpObserverId producerId =>
    obtain ⟨reply, media, hok, hmedia, hgraph⟩ := h.media.withObserver rtpObserverId producerId
      fun r p _ hr hp ↦ h.media.observers.removeProducer hr hp
    exact Taken.inMedia h ⟨reply, media, hok, hmedia, fun t ↦ by rw [hgraph]⟩
  | produce transportId producerId made listen p =>
    exact Taken.deliver h fun t _ ht _ ↦
      Taken.inMedia_new h (h.media.produce ht hlegal producerId made listen)
  | closeProducer transportId producerId =>
    exact Taken.deliver h fun t _ ht _ ↦ Taken.inMedia h (h.media.closeProducer env ht producerId)
  | pauseProducer transportId producerId =>
    exact Taken.deliver h fun t _ ht _ ↦ Taken.inMedia h (h.media.pauseProducer env ht producerId)
  | resumeProducer transportId producerId =>
    exact Taken.deliver h fun t _ ht _ ↦ Taken.inMedia h (h.media.resumeProducer env ht producerId)
  | consume transportId producerId consumerId made c =>
    exact Taken.deliver h fun t hget ht _ ↦
      Taken.inMedia_new h (h.media.consume env ht hlegal.1 producerId consumerId made
        fun mediaSsrcs hmade ↦ hlegal.2 t mediaSsrcs hget hmade)
  | closeConsumer transportId consumerId =>
    exact Taken.deliver h fun t _ ht _ ↦ Taken.inMedia h (h.media.closeConsumer env ht consumerId)
  | produceData transportId dataProducerId made listen p =>
    exact Taken.deliver h fun t _ _ ht ↦ Taken.withData h ht fun transport ↦
      h.data.produce dataNames ht hlegal dataProducerId made _
  | closeDataProducer transportId dataProducerId =>
    exact Taken.deliver h fun t _ _ ht ↦ Taken.inData h (h.data.closeProducer ht dataProducerId)
  | consumeData transportId dataProducerId dataConsumerId made c =>
    exact Taken.deliver h fun t _ _ ht ↦ Taken.withData h ht fun transport ↦
      h.data.consume dataNames env.silent ht hlegal dataProducerId dataConsumerId _
        fun _ hmade ↦ freshSsrcs_of_made transport hmade
  | closeDataConsumer transportId dataConsumerId =>
    exact Taken.deliver h fun t _ _ ht ↦ by
      obtain ⟨reply, data, hok, hdata, -, hsame⟩ := h.data.closeConsumer ht dataConsumerId
      exact Taken.inData h ⟨reply, data, hok, hdata, hsame⟩
  | producerNotifies p =>
    exact ⟨none, r, bind_eq_ok.mpr ⟨(), h.media.graph.notifyConsumers env hlegal, rfl⟩, h,
      False.elim⟩
  | producerRtpPacketReceived p volume =>
    obtain ⟨media, hok, hmedia, hgraph⟩ :=
      h.media.onProducerRtpPacketReceived env hlegal volume
    exact ⟨none, { r with media }, bind_eq_ok.mpr ⟨media, hok, rfl⟩,
      h.withMedia hmedia fun t ↦ by rw [hgraph], False.elim⟩
  | consumerKeyFrameRequested c =>
    exact ⟨none, r, bind_eq_ok.mpr ⟨(),
      Graph.onTransportConsumerKeyFrameRequested_of h.media.graph.linked.sourced hlegal, rfl⟩, h,
      False.elim⟩
  | dataProducerMessageReceived p =>
    exact ⟨none, r, bind_eq_ok.mpr ⟨(), h.data.notifyConsumers env.silent hlegal, rfl⟩, h,
      False.elim⟩
  | observerTimer i =>
    obtain ⟨observers, hok, hsound⟩ := h.media.observers.onTimer env rfl hlegal
    exact ⟨none, { r with media := { r.media with observers } },
      bind_eq_ok.mpr ⟨observers, hok, rfl⟩, h.withMedia ⟨h.media.graph, hsound⟩ fun _ ↦ Iff.rfl,
      False.elim⟩

/-! ## Every reachable state -/

theorem consistent_empty : ({} : Router).Consistent where
  mapTransports := indexes_none fun _ _ _ h ↦ absurd h.symm (Option.some_ne_none _)
  media :=
    { graph := Graph.consistent_empty
      observers :=
        { mapRtpObservers := indexes_none fun _ _ _ h ↦ absurd h.symm (Option.some_ne_none _)
          entry := fun _ ↦ iff_of_true rfl rfl
          live := fun _ _ h ↦ absurd h.symm (Option.some_ne_none _)
          table := fun _ _ _ _ _ h ↦ absurd h.symm (Option.some_ne_none _)
          observed := fun _ _ _ h ↦ absurd h.symm (Option.some_ne_none _) } }
  data := Graph.consistent_empty
  mediaTransports _ := iff_of_true rfl rfl
  dataTransports _ := iff_of_true rfl rfl

/-- What the maps of a Router should be. -/
structure Coherent (r : Router) : Prop where
  /-- `mapConsumerProducer` and `mapProducerConsumers` are the converse of each other … -/
  converse : ∀ c p, r.media.graph.mapConsumerProducer c = some p ↔
    ∃ consumers, r.media.graph.mapProducerConsumers p = some consumers ∧ c ∈ consumers
  /-- … the one about the live Consumers … -/
  consumers : ∀ c, r.media.graph.mapConsumerProducer c ≠ none ↔ r.media.graph.consumers c ≠ none
  /-- … and the other about the live Producers. -/
  producers : ∀ p, r.media.graph.mapProducerConsumers p ≠ none ↔ r.media.graph.producers p ≠ none
  /-- So are the maps for data. -/
  dataConverse : ∀ c p, r.data.mapConsumerProducer c = some p ↔
    ∃ dataConsumers, r.data.mapProducerConsumers p = some dataConsumers ∧ c ∈ dataConsumers
  dataConsumers : ∀ c, r.data.mapConsumerProducer c ≠ none ↔ r.data.consumers c ≠ none
  dataProducers : ∀ p, r.data.mapProducerConsumers p ≠ none ↔ r.data.producers p ≠ none
  /-- `mapProducerRtpObservers` relates live Producers … -/
  observed : ∀ p, r.media.observers.mapProducerRtpObservers p ≠ none ↔
    r.media.graph.producers p ≠ none
  /-- … and live observers. -/
  observers : ∀ p rtpObservers, r.media.observers.mapProducerRtpObservers p = some rtpObservers →
    ∀ i ∈ rtpObservers, r.media.observers.rtpObservers i ≠ none
  /-- The table of an observer has every Producer that it observes and that is not paused. -/
  table : ∀ p producer rtpObservers i observer, r.media.graph.producers p = some producer →
    producer.info.paused = false →
    r.media.observers.mapProducerRtpObservers p = some rtpObservers → i ∈ rtpObservers →
    r.media.observers.rtpObservers i = some observer → p ∈ observer.mapProducerDBovs
  /-- The `mapSsrcConsumer` of a Transport has the SSRCs of its live Consumers. -/
  mapSsrcConsumer : ∀ t ends, r.media.graph.ends t = some ends → ∀ ssrc c,
    ends.mapSsrcConsumer ssrc = some c ↔ ∃ consumer, r.media.graph.consumers c = some consumer ∧
      consumer.transport = t ∧ ssrc ∈ consumer.mediaSsrcs

theorem Consistent.coherent (h : r.Consistent) : r.Coherent where
  converse c p := h.media.graph.linked.converse c p
  consumers c := not_congr (h.media.graph.linked.consumers c)
  producers p := not_congr (h.media.graph.linked.producers p)
  dataConverse c p := h.data.linked.converse c p
  dataConsumers c := not_congr (h.data.linked.consumers c)
  dataProducers p := not_congr (h.data.linked.producers p)
  observed p := not_congr (h.media.observers.entry p)
  observers := h.media.observers.live
  table := h.media.observers.table
  mapSsrcConsumer t ends hends ssrc c := by
    have hmap := (h.media.graph.consumersOf t).mapSsrcConsumer
    rw [Graph.endsAt_of hends] at hmap
    exact hmap ssrc c

/-- **The graph is consistent.** In every state that a Router reaches every map is as it should be,
and every event returns: no assertion, no checked lookup and no use of an object that is gone
fails. A request for a new object that is answered with an error changes nothing. -/
theorem graph_consistent (h : Run.Reachable step Legal {} r) :
    r.Coherent ∧ ∀ e, r.Legal e → ∃ reply r', step r e = .ok (reply, r') ∧
      (e.2.IsNew → ∀ text, reply = some (.thrown text) → r' = r) := by
  have hconsistent : r.Consistent := by
    refine h.invariant consistent_empty fun s e reply s' hs hlegal hok ↦ ?_
    obtain ⟨reply', s'', hok', hs'', -⟩ := hs.step hlegal
    obtain ⟨-, rfl⟩ := Prod.mk.inj (Except.ok.inj (hok.symm.trans hok'))
    exact hs''
  refine ⟨hconsistent.coherent, fun e hlegal ↦ ?_⟩
  obtain ⟨reply, r', hok, -, hnew⟩ := hconsistent.step hlegal
  exact ⟨reply, r', hok, hnew⟩

/-- A Consumer in another Transport than its Producer is known to both sides, and the Transport of
the Producer can be closed. -/
theorem graph_consistent_consumed :
    ∃ r : Router, r.media.graph.mapConsumerProducer 4 = some 3 ∧ r.Coherent ∧
      ∃ reply r', step r (Surroundings.plain, .closeTransport (some "t1")) = .ok (reply, r') := by
  have hrun : ∃ r, Run.Reachable step Legal {} r ∧
      r.media.graph.mapConsumerProducer 4 = some 3 := by
    refine ⟨_, .step (e := (Surroundings.plain, .consume (some "t2") (some "p") (some "c")
        (.ok [1111]) 4))
      (.step (e := (Surroundings.plain, .produce (some "t1") (some "p")
        (.ok { audio := true, paused := false }) (fun _ ↦ .ok ()) 3))
      (.step (e := (Surroundings.plain, .createTransport (some "t2") (.ok (false, false)) 2))
      (.step (e := (Surroundings.plain, .createTransport (some "t1") (.ok (false, false)) 1))
        .start ?_ rfl) ?_ rfl) ?_ rfl) ?_ rfl, ?_⟩
    · rfl
    · rfl
    · rfl
    · exact ⟨rfl, fun _ _ _ _ _ _ hc ↦ absurd hc.symm (Option.some_ne_none _)⟩
    · rfl
  obtain ⟨r, hreachable, hmap⟩ := hrun
  obtain ⟨hcoherent, hsafe⟩ := graph_consistent hreachable
  obtain ⟨reply, r', hok, -⟩ := hsafe (Surroundings.plain, .closeTransport (some "t1")) trivial
  exact ⟨r, hmap, hcoherent, reply, r', hok⟩

end Router

end RouterGraph

end MediasoupSfu
