import MediasoupSfu.Router.GraphSteps
import MediasoupSfu.Router.Observers

/-!
# Producers, Consumers and observers

The half of a Router that deals with RTP: a graph of Producers and Consumers, and the observers.
What is said of the graph alone holds here too; what is new is that the observers are told when a
Producer is closed, paused or resumed, and when a packet comes.
-/

namespace MediasoupSfu

namespace RouterGraph

/-- The words for RTP. -/
def mediaNames : Names where
  producer := "Producer"
  consumer := "Consumer"
  producerId := "producerId"
  consumerId := "consumerId"

/-- The half of the Router that deals with RTP. -/
structure Media where
  graph : Graph MediaInfo := {}
  observers : Observers := {}

namespace Media

variable (env : Surroundings) (m : Media)

/-- `Router::OnTransportProducerClosed(transport, producer)` -/
def onTransportProducerClosed (p : ℕ) : Except Fault Media := do
  let (producer, consumers) ← m.graph.findProducer mediaNames p
  match m.observers.mapProducerRtpObservers p with
  | none => .error (.assertion "Producer not present in mapProducerRtpObservers")
  | some rtpObservers => do
    let graph ← m.graph.closeConsumers mediaNames env consumers
    -- Tell all RtpObservers that the Producer has been closed.
    let observers ← m.observers.tellAll (fun observer ↦ .ok (observer.removeProducer p))
      (env.members rtpObservers)
    return { graph := graph.eraseProducer p producer, observers := observers.eraseProducer p }

/-- `delete producer` -/
def deleteProducer (p : ℕ) : Media := { m with graph := m.graph.deleteProducer p }

/-- One turn of the loop over the Producers in `Transport::CloseProducersAndConsumers`. -/
def closeOne (p : ℕ) : Except Fault Media := do
  let m ← m.onTransportProducerClosed env p
  return m.deleteProducer p

/-- `PRODUCER_CLOSE` -/
def closeProducer (t : ℕ) (producerId : Option String) : Except Fault (Reply × Media) := do
  let ends ← m.graph.getEnds t
  match Graph.getFromInternal ends.mapProducers mediaNames.producer mediaNames.producerId
    producerId with
  | .error text => refuse text m
  | .ok p => do
    let producer ← m.graph.getProducer p
    let graph ← m.graph.forgetProducer t producer
    let m ← ({ m with graph } : Media).closeOne env p
    return (.accepted, m)

/-- The loop over the Producers in `Transport::CloseProducersAndConsumers`. -/
def closeAllProducers (t : ℕ) : Except Fault Media := do
  let ends ← m.graph.getEnds t
  let m ← (env.objects ends.mapProducers).foldlM (closeOne env) m
  let graph ← m.graph.clearProducers t
  return { m with graph }

/-- The loop over the Consumers. -/
def closeAllConsumers (t : ℕ) : Except Fault Media := do
  let graph ← m.graph.closeAllConsumers mediaNames env t
  return { m with graph }

/-- `TRANSPORT_PRODUCE` -/
def produce (t : ℕ) (producerId : Option String) (made : Except String MediaInfo)
    (listen : MediaInfo → Except String Unit) (p : ℕ) : Except Fault (Reply × Media) := do
  match ← m.graph.produce mediaNames t producerId made listen p with
  | (.accepted, graph) =>
    return (.accepted, { graph, observers := m.observers.insertProducer p })
  | (.thrown text, graph) => return (.thrown text, { m with graph })

/-- `TRANSPORT_CONSUME` -/
def consume (t : ℕ) (producerId consumerId : Option String)
    (made : Except String (List (BitVec 32))) (c : ℕ) : Except Fault (Reply × Media) := do
  let (reply, graph) ← m.graph.consume mediaNames env t producerId consumerId made c
  return (reply, { m with graph })

/-- `CONSUMER_CLOSE` -/
def closeConsumer (t : ℕ) (consumerId : Option String) : Except Fault (Reply × Media) := do
  let (reply, graph) ← m.graph.closeConsumer mediaNames env t consumerId
  return (reply, { m with graph })

/-- `PRODUCER_PAUSE` and `PRODUCER_RESUME`, with what the observers are told. -/
def setPaused (t : ℕ) (producerId : Option String) (paused : Bool)
    (f : AudioLevelObserver → ℕ → AudioLevelObserver) : Except Fault (Reply × Media) := do
  let ends ← m.graph.getEnds t
  match Graph.getFromInternal ends.mapProducers mediaNames.producer mediaNames.producerId
    producerId with
  | .error text => refuse text m
  | .ok p => do
    let producer ← m.graph.getProducer p
    if producer.info.paused = paused then
      return (.accepted, m)
    else
      let graph := m.graph.setProducer p (Observers.withPaused producer paused)
      graph.notifyConsumers env p
      let observers ← m.observers.tellObservers env p fun observer ↦ .ok (f observer p)
      return (.accepted, { graph, observers })

/-- `PRODUCER_PAUSE` with `Router::OnTransportProducerPaused(transport, producer)` -/
def pauseProducer (t : ℕ) (producerId : Option String) : Except Fault (Reply × Media) :=
  m.setPaused env t producerId true AudioLevelObserver.producerPaused

/-- `PRODUCER_RESUME` with `Router::OnTransportProducerResumed(transport, producer)` -/
def resumeProducer (t : ℕ) (producerId : Option String) : Except Fault (Reply × Media) :=
  m.setPaused env t producerId false AudioLevelObserver.producerResumed

/-- A packet for a Producer, with its volume if it has one. A paused Producer stops before it
tells its listener; otherwise this is
`Router::OnTransportProducerRtpPacketReceived(transport, producer, packet)`. -/
def onProducerRtpPacketReceived (p : ℕ) (volume : Option Byte) : Except Fault Media := do
  let producer ← m.graph.getProducer p
  if producer.info.paused then return m
  else
    m.graph.notifyConsumers env p
    let observers ← m.observers.tellObservers env p (·.receiveRtpPacket p volume)
    return { m with observers }

/-- `RTP_OBSERVER_ADD_PRODUCER` and `RTP_OBSERVER_REMOVE_PRODUCER`: an observer and a Producer are
found, and something is done with them. -/
def withObserver (rtpObserverId producerId : Option String)
    (f : ℕ → ℕ → Producer MediaInfo → Except Fault (Reply × Observers)) :
    Except Fault (Reply × Media) :=
  match m.observers.getRtpObserverFromInternal rtpObserverId with
  | .error text => refuse text m
  | .ok r =>
    match Graph.getFromInternal m.graph.mapProducers mediaNames.producer mediaNames.producerId
      producerId with
    | .error text => refuse text m
    | .ok p => do
      let producer ← m.graph.getProducer p
      let (reply, observers) ← f r p producer
      return (reply, { m with observers })

/-- `RTP_OBSERVER_ADD_PRODUCER` -/
def addProducer (rtpObserverId producerId : Option String) : Except Fault (Reply × Media) :=
  m.withObserver rtpObserverId producerId fun r p producer ↦
    m.observers.addProducer r p producer.info.audio

/-- `RTP_OBSERVER_REMOVE_PRODUCER` -/
def removeProducer (rtpObserverId producerId : Option String) : Except Fault (Reply × Media) :=
  m.withObserver rtpObserverId producerId fun r p _ ↦ m.observers.removeProducer r p

/-! ## Every map stays exact -/

/-- Every map is exact, and the observers are sound. -/
structure Consistent (m : Media) : Prop where
  graph : m.graph.Consistent
  observers : Observers.Sound m.graph.producers m.observers

variable {env m} {t p r c : ℕ}

open Graph

/-- A turn of the loop that closes Producers. -/
theorem closeOne_spec (env : Surroundings) (h : m.graph.Linked)
    (hconsumersOf : ∀ t, m.graph.ConsumersOf t)
    (hobservers : Observers.Sound m.graph.producers m.observers)
    (hp : m.graph.producers p ≠ none) :
    ∃ m', m.closeOne env p = .ok m' ∧ m.graph.Closed [p] m'.graph ∧
      Observers.Sound m'.graph.producers m'.observers := by
  obtain ⟨s, hs⟩ := hobservers.exists_entry hp
  obtain ⟨producer, hp⟩ := Option.ne_none_iff_exists'.mp hp
  obtain ⟨consumers, hconsumers, hfind⟩ := findProducer_of mediaNames h hp
  obtain ⟨g, hclose, hwithout⟩ := closeConsumers_spec mediaNames env h hconsumersOf hconsumers
  have hclosed := hwithout.closed h hp hconsumers fun _ ↦ Surroundings.mem_members
  have htell : m.observers.tellAll (fun observer ↦ .ok (observer.removeProducer p))
      (env.members s) = .ok (m.observers.told (env.members s) (·.removeProducer p)) := by
    refine Observers.tellAll_eq (Surroundings.nodup_members s) fun r hr ↦ ?_
    obtain ⟨observer, hobserver⟩ := Option.ne_none_iff_exists'.mp
      (hobservers.live p s hs r (Surroundings.mem_members.mp hr))
    exact ⟨observer, hobserver, rfl⟩
  let m₁ : Media :=
    { graph := g.eraseProducer p producer
      observers := (m.observers.told (env.members s) (·.removeProducer p)).eraseProducer p }
  have hok : m.onTransportProducerClosed env p = .ok m₁ := by
    refine bind_eq_ok.mpr ⟨_, hfind, ?_⟩
    dsimp only
    rw [hs]
    exact bind_eq_ok.mpr ⟨g, hclose, bind_eq_ok.mpr ⟨_, htell, rfl⟩⟩
  have hproducers : (m₁.deleteProducer p).graph.producers =
      Function.update m.graph.producers p none :=
    funext fun q ↦ (hclosed.producers q).trans (update_none_apply m.graph.producers p q).symm
  refine ⟨m₁.deleteProducer p, bind_eq_ok.mpr ⟨m₁, hok, rfl⟩, hclosed, ?_⟩
  rw [hproducers]
  exact hobservers.closed producer env hs

/-- `PRODUCER_CLOSE` -/
theorem Consistent.closeProducer (h : m.Consistent) (env : Surroundings)
    (ht : m.graph.ends t ≠ none) (producerId : Option String) :
    ∃ reply m', m.closeProducer env t producerId = .ok (reply, m') ∧ m'.Consistent ∧
      m.graph.SameTransports m'.graph := by
  obtain ⟨ends, hends⟩ := Option.ne_none_iff_exists'.mp ht
  cases hget : getFromInternal ends.mapProducers mediaNames.producer mediaNames.producerId
    producerId with
  | error text =>
    refine ⟨.thrown text, m, bind_eq_ok.mpr ⟨ends, getEnds_of hends, ?_⟩, h, fun _ ↦ Iff.rfl⟩
    rw [hget]
    rfl
  | ok p =>
    obtain ⟨producer, hp, rfl⟩ := h.graph.find_producer hends hget
    let g := m.graph.setEnds producer.transport
      { ends with mapProducers := ends.mapProducers.erase producer.id }
    have hforget : m.graph.forgetProducer producer.transport producer = .ok g :=
      bind_eq_ok.mpr ⟨ends, getEnds_of hends, rfl⟩
    have hlive : g.producers p ≠ none := by
      change m.graph.producers p ≠ none
      rw [hp]
      exact Option.some_ne_none producer
    obtain ⟨m', hok, hclosed, hobservers⟩ := closeOne_spec (m := { m with graph := g })
      env h.graph.linked.setEnds (fun t ↦ (h.graph.consumersOf t).setMapProducers hends _)
      h.observers hlive
    refine ⟨.accepted, m', bind_eq_ok.mpr ⟨ends, getEnds_of hends, ?_⟩,
      ⟨h.graph.close hp hends hclosed, hobservers⟩, fun t ↦ ?_⟩
    · rw [hget]
      exact bind_eq_ok.mpr ⟨producer, getProducer_of hp, bind_eq_ok.mpr ⟨g, hforget,
        bind_eq_ok.mpr ⟨m', hok, rfl⟩⟩⟩
    · rw [hclosed.transports, setEnds_ends_eq_none_iff hends]

/-- The Producers of a Transport are closed. -/
theorem Consistent.closeAllProducers (h : m.Consistent) (env : Surroundings) {ends : Ends}
    (hends : m.graph.ends t = some ends) :
    ∃ m', m.closeAllProducers env t = .ok m' ∧ m'.Consistent ∧
      (m'.graph.endsAt t).mapProducers = ∅ ∧ m.graph.SameTransports m'.graph := by
  obtain ⟨hnodup, hlive⟩ := h.graph.objects_mapProducers env hends
  obtain ⟨m₁, hloop, hclosed, hobservers⟩ := foldlM_closed Media.graph
    (fun m p hobservers hlinked hconsumersOf hp ↦
      closeOne_spec env hlinked hconsumersOf hobservers hp)
    h.observers h.graph.linked h.graph.consumersOf hnodup hlive
  obtain ⟨g, hclear, hconsistent, hproducers, hmap, htransports⟩ :=
    h.graph.clearProducers hends (fun p ↦ (env.order_perm _).mem_iff) hclosed
  refine ⟨{ m₁ with graph := g }, bind_eq_ok.mpr ⟨ends, getEnds_of hends,
    bind_eq_ok.mpr ⟨m₁, hloop, bind_eq_ok.mpr ⟨g, hclear, rfl⟩⟩⟩, ⟨hconsistent, ?_⟩, hmap,
    htransports⟩
  change Observers.Sound g.producers m₁.observers
  rwa [hproducers]

/-- The Consumers of a Transport are deleted. -/
theorem Consistent.closeAllConsumers (h : m.Consistent) (env : Surroundings) {ends : Ends}
    (hends : m.graph.ends t = some ends) (hmap : ends.mapProducers = ∅) :
    ∃ m', m.closeAllConsumers env t = .ok m' ∧ m'.Consistent ∧ m'.graph.ends t = some {} ∧
      m.graph.SameTransports m'.graph := by
  obtain ⟨g, hok, hconsistent, hproducers, hempty, htransports⟩ :=
    h.graph.closeAllConsumers mediaNames env hends hmap
  refine ⟨{ m with graph := g }, bind_eq_ok.mpr ⟨g, hok, rfl⟩, ⟨hconsistent, ?_⟩, hempty,
    htransports⟩
  change Observers.Sound g.producers m.observers
  rw [hproducers]
  exact h.observers

/-- The answer to a request for a new object: if it is refused, everything is as it was. -/
def Unless (m : Media) (Q : Media → Prop) : Reply × Media → Prop
  | (.accepted, m') => Q m'
  | (.thrown _, m') => m' = m

/-- `TRANSPORT_PRODUCE` -/
theorem Consistent.produce (h : m.Consistent) (ht : m.graph.ends t ≠ none)
    (hp : m.graph.producers p = none) (producerId : Option String)
    (made : Except String MediaInfo) (listen : MediaInfo → Except String Unit) :
    ∃ result, m.produce t producerId made listen p = .ok result ∧
      m.Unless (fun m' ↦ m'.Consistent ∧ m.graph.SameTransports m'.graph) result := by
  obtain ⟨⟨reply, g⟩, hok, hresult⟩ := h.graph.produce mediaNames ht hp producerId made listen
  cases reply with
  | accepted =>
    obtain ⟨hconsistent, htransports, producer, hproducers⟩ := hresult
    refine ⟨(.accepted, { graph := g, observers := m.observers.insertProducer p }),
      bind_eq_ok.mpr ⟨_, hok, rfl⟩, ⟨hconsistent, ?_⟩, htransports⟩
    change Observers.Sound g.producers (m.observers.insertProducer p)
    rw [hproducers]
    exact h.observers.insertProducer hp producer
  | thrown text =>
    obtain rfl : g = m.graph := hresult
    exact ⟨(.thrown text, m), bind_eq_ok.mpr ⟨_, hok, rfl⟩, rfl⟩

/-- `TRANSPORT_CONSUME` -/
theorem Consistent.consume (h : m.Consistent) (env : Surroundings) (ht : m.graph.ends t ≠ none)
    (hc : m.graph.consumers c = none) (producerId consumerId : Option String)
    (made : Except String (List (BitVec 32)))
    (hfresh : ∀ mediaSsrcs, made = .ok mediaSsrcs → m.graph.FreshSsrcs t mediaSsrcs) :
    ∃ result, m.consume env t producerId consumerId made c = .ok result ∧
      m.Unless (fun m' ↦ m'.Consistent ∧ m.graph.SameTransports m'.graph) result := by
  obtain ⟨⟨reply, g⟩, hok, hresult⟩ :=
    h.graph.consume mediaNames env ht hc producerId consumerId made hfresh
  cases reply with
  | accepted =>
    obtain ⟨hconsistent, htransports, hproducers⟩ := hresult
    refine ⟨(.accepted, { m with graph := g }), bind_eq_ok.mpr ⟨_, hok, rfl⟩, ⟨hconsistent, ?_⟩,
      htransports⟩
    change Observers.Sound g.producers m.observers
    rw [hproducers]
    exact h.observers
  | thrown text =>
    obtain rfl : g = m.graph := hresult
    exact ⟨(.thrown text, m), bind_eq_ok.mpr ⟨_, hok, rfl⟩, rfl⟩

/-- `CONSUMER_CLOSE` -/
theorem Consistent.closeConsumer (h : m.Consistent) (env : Surroundings)
    (ht : m.graph.ends t ≠ none) (consumerId : Option String) :
    ∃ reply m', m.closeConsumer env t consumerId = .ok (reply, m') ∧ m'.Consistent ∧
      m.graph.SameTransports m'.graph := by
  obtain ⟨reply, g, hok, hconsistent, hproducers, htransports⟩ :=
    h.graph.closeConsumer (n := mediaNames) ht consumerId
  refine ⟨reply, { m with graph := g }, bind_eq_ok.mpr ⟨_, hok, rfl⟩, ⟨hconsistent, ?_⟩,
    htransports⟩
  change Observers.Sound g.producers m.observers
  rw [hproducers]
  exact h.observers

/-- A Producer with another value of `paused` has the same keys. -/
theorem Consistent.setPaused_graph (h : m.graph.Consistent) {producer : Producer MediaInfo}
    (hp : m.graph.producers p = some producer) (paused : Bool) :
    (m.graph.setProducer p (Observers.withPaused producer paused)).Consistent where
  linked :=
    { mapProducers := h.linked.mapProducers.replace hp fun _ ↦ Iff.rfl
      producers := fun q ↦
        (h.linked.producers q).trans (Index.update_some_eq_none_iff hp _ q).symm
      consumers := h.linked.consumers
      converse := h.linked.converse }
  producersOf t := Index.Indexes.replace (h.producersOf t) hp fun _ ↦ Iff.rfl
  consumersOf t := (h.consumersOf t).congr rfl rfl rfl

/-- `PRODUCER_PAUSE` and `PRODUCER_RESUME` -/
theorem Consistent.setPaused (h : m.Consistent) (ht : m.graph.ends t ≠ none)
    (producerId : Option String) (paused : Bool)
    {f : AudioLevelObserver → ℕ → AudioLevelObserver}
    (hf : ∀ p s producer, m.observers.mapProducerRtpObservers p = some s →
      Observers.Sound
        (Function.update m.graph.producers p (some (Observers.withPaused producer paused)))
        (m.observers.told (env.members s) (f · p))) :
    ∃ reply m', m.setPaused env t producerId paused f = .ok (reply, m') ∧ m'.Consistent ∧
      m.graph.SameTransports m'.graph := by
  obtain ⟨ends, hends⟩ := Option.ne_none_iff_exists'.mp ht
  cases hget : getFromInternal ends.mapProducers mediaNames.producer mediaNames.producerId
    producerId with
  | error text =>
    refine ⟨.thrown text, m, bind_eq_ok.mpr ⟨ends, getEnds_of hends, ?_⟩, h, fun _ ↦ Iff.rfl⟩
    rw [hget]
    rfl
  | ok p =>
    obtain ⟨producer, hp, -⟩ := h.graph.find_producer hends hget
    by_cases hpaused : producer.info.paused = paused
    · refine ⟨.accepted, m, bind_eq_ok.mpr ⟨ends, getEnds_of hends, ?_⟩, h, fun _ ↦ Iff.rfl⟩
      rw [hget]
      refine bind_eq_ok.mpr ⟨producer, getProducer_of hp, ?_⟩
      rw [if_pos hpaused]
      rfl
    · let g := m.graph.setProducer p (Observers.withPaused producer paused)
      have hlive : m.graph.producers p ≠ none := by
        rw [hp]
        exact Option.some_ne_none producer
      obtain ⟨s, hs⟩ := h.observers.exists_entry hlive
      have hconsistent : g.Consistent := Consistent.setPaused_graph h.graph hp paused
      have hnotify : g.notifyConsumers env p = .ok () := by
        refine hconsistent.notifyConsumers env ?_
        change Function.update m.graph.producers p _ p ≠ none
        rw [Function.update_self]
        exact Option.some_ne_none _
      have htell : m.observers.tellObservers env p (fun observer ↦ .ok (f observer p)) =
          .ok (m.observers.told (env.members s) (f · p)) :=
        h.observers.tellObservers hs fun _ _ _ _ ↦ rfl
      refine ⟨.accepted, { graph := g, observers := m.observers.told (env.members s) (f · p) },
        bind_eq_ok.mpr ⟨ends, getEnds_of hends, ?_⟩, ⟨hconsistent, hf p s producer hs⟩,
        fun _ ↦ Iff.rfl⟩
      rw [hget]
      refine bind_eq_ok.mpr ⟨producer, getProducer_of hp, ?_⟩
      rw [if_neg hpaused]
      exact bind_eq_ok.mpr ⟨(), hnotify, bind_eq_ok.mpr ⟨_, htell, rfl⟩⟩

/-- `PRODUCER_PAUSE` -/
theorem Consistent.pauseProducer (h : m.Consistent) (env : Surroundings)
    (ht : m.graph.ends t ≠ none) (producerId : Option String) :
    ∃ reply m', m.pauseProducer env t producerId = .ok (reply, m') ∧ m'.Consistent ∧
      m.graph.SameTransports m'.graph :=
  h.setPaused ht producerId true fun _ _ producer hs ↦ h.observers.paused producer env hs

/-- `PRODUCER_RESUME` -/
theorem Consistent.resumeProducer (h : m.Consistent) (env : Surroundings)
    (ht : m.graph.ends t ≠ none) (producerId : Option String) :
    ∃ reply m', m.resumeProducer env t producerId = .ok (reply, m') ∧ m'.Consistent ∧
      m.graph.SameTransports m'.graph :=
  h.setPaused ht producerId false fun _ _ producer hs ↦ h.observers.resumed producer env hs

/-- A packet of a live Producer: none of the lookups on its way fails. -/
theorem Consistent.onProducerRtpPacketReceived (h : m.Consistent) (env : Surroundings)
    (hp : m.graph.producers p ≠ none) (volume : Option Byte) :
    ∃ m', m.onProducerRtpPacketReceived env p volume = .ok m' ∧ m'.Consistent ∧
      m'.graph = m.graph := by
  obtain ⟨s, hs⟩ := h.observers.exists_entry hp
  have hnotify := h.graph.notifyConsumers env hp
  obtain ⟨producer, hproducer⟩ := Option.ne_none_iff_exists'.mp hp
  cases hpaused : producer.info.paused with
  | true =>
    refine ⟨m, bind_eq_ok.mpr ⟨producer, getProducer_of hproducer, ?_⟩, h, rfl⟩
    rw [if_pos hpaused]
    rfl
  | false =>
    have htell : m.observers.tellObservers env p (·.receiveRtpPacket p volume) =
        .ok (m.observers.told (env.members s) (·.received p volume)) :=
      h.observers.tellObservers hs fun r observer hr hobserver ↦
        AudioLevelObserver.receiveRtpPacket_of_mem
          (h.observers.table p producer s r observer hproducer hpaused hs hr hobserver) volume
    refine ⟨{ m with observers := m.observers.told (env.members s) (·.received p volume) },
      bind_eq_ok.mpr ⟨producer, getProducer_of hproducer, ?_⟩, ⟨h.graph, ?_⟩, rfl⟩
    · rw [if_neg (by rw [hpaused]; exact Bool.false_ne_true)]
      exact bind_eq_ok.mpr ⟨(), hnotify, bind_eq_ok.mpr ⟨_, htell, rfl⟩⟩
    · refine h.observers.told hs (fun _ ↦ Surroundings.mem_members)
        (fun observer ↦ (observer.received_id_mem p volume).1)
        (fun observer q _ ↦ (observer.received_id_mem p volume).2 q) (fun _ _ ↦ rfl) hp ?_
      intro producer' r observer hproducer' hpaused' hr hobserver
      exact ((observer.received_id_mem p volume).2 p).mpr
        (h.observers.table p producer' s r observer hproducer' hpaused' hs hr hobserver)

/-- A request about an observer and a Producer. -/
theorem Consistent.withObserver (h : m.Consistent) (rtpObserverId producerId : Option String)
    {f : ℕ → ℕ → Producer MediaInfo → Except Fault (Reply × Observers)}
    (hf : ∀ r p producer, m.observers.rtpObservers r ≠ none → m.graph.producers p ≠ none →
      ∃ reply o, f r p producer = .ok (reply, o) ∧ Observers.Sound m.graph.producers o) :
    ∃ reply m', m.withObserver rtpObserverId producerId f = .ok (reply, m') ∧ m'.Consistent ∧
      m'.graph = m.graph := by
  rw [Media.withObserver]
  cases hobserver : m.observers.getRtpObserverFromInternal rtpObserverId with
  | error text => exact ⟨_, _, rfl, h, rfl⟩
  | ok r =>
    cases hproducer : getFromInternal m.graph.mapProducers mediaNames.producer
      mediaNames.producerId producerId with
    | error text => exact ⟨_, _, rfl, h, rfl⟩
    | ok p =>
      obtain ⟨observer, hr⟩ := h.observers.getRtpObserverFromInternal_eq_ok hobserver
      obtain ⟨id, -, hmap⟩ := getFromInternal_eq_ok hproducer
      obtain ⟨producer, hp, -⟩ := (h.graph.linked.mapProducers id p).mp hmap
      obtain ⟨reply, o, hok, hsound⟩ := hf r p producer
        (by rw [hr]; exact Option.some_ne_none observer)
        (by rw [hp]; exact Option.some_ne_none producer)
      exact ⟨reply, { m with observers := o }, bind_eq_ok.mpr ⟨producer, getProducer_of hp,
        bind_eq_ok.mpr ⟨_, hok, rfl⟩⟩, ⟨h.graph, hsound⟩, rfl⟩

end Media

end RouterGraph

end MediasoupSfu
