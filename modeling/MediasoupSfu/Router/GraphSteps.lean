import MediasoupSfu.Router.Linking

/-!
# The requests keep the graph consistent

For each thing that is asked of the graph: it is done without a fault, every map is exact
afterwards, and a request that is refused leaves everything as it was.

A Producer that is closed, and a Transport with all that belongs to it, are taken apart by the
Transport and by the Router in turn. Each of the lemmas about them is one of the turns.
-/

namespace MediasoupSfu

namespace RouterGraph

open Index

namespace Graph

variable {π : Type} {n : Names} {env : Surroundings} {g g' : Graph π} {t c p : ℕ}
  {consumer : Consumer} {producer : Producer π} {ends : Ends} {l : List ℕ}

/-- The Transports are the same ones. -/
def SameTransports (g g' : Graph π) : Prop := ∀ t, g'.ends t = none ↔ g.ends t = none

/-- In the beginning there is nothing. -/
theorem consistent_empty : ({} : Graph π).Consistent where
  linked :=
    { mapProducers := indexes_none fun _ _ _ h ↦ absurd h.symm (Option.some_ne_none _)
      producers := fun _ ↦ iff_of_true rfl rfl
      consumers := fun _ ↦ iff_of_true rfl rfl
      converse := indexes_none fun _ _ _ h ↦ absurd h.symm (Option.some_ne_none _) }
  producersOf _ := indexes_none fun _ _ _ h ↦ absurd h.symm (Option.some_ne_none _)
  consumersOf _ :=
    ⟨indexes_none fun _ _ _ h ↦ absurd h.symm (Option.some_ne_none _),
      indexes_none fun _ _ _ h ↦ absurd h.symm (Option.some_ne_none _)⟩

/-! ## Maps of a Transport -/

/-- The Producers in the map of a Transport are its live Producers. -/
theorem ProducersOf.mem_addresses (h : g.ProducersOf t) :
    p ∈ (g.endsAt t).mapProducers.addresses ↔
      ∃ producer, g.producers p = some producer ∧ producer.transport = t := by
  rw [Directory.mem_addresses h]
  constructor
  · rintro ⟨id, producer, hp, ht, -⟩
    exact ⟨producer, hp, ht⟩
  · rintro ⟨producer, hp, ht⟩
    exact ⟨producer.id, producer, hp, ht, rfl⟩

theorem ProducersOf.nodup_addresses (h : g.ProducersOf t) :
    (g.endsAt t).mapProducers.addresses.Nodup := by
  refine Directory.nodup_addresses h ?_
  rintro p _ _ ⟨producer, hp, -, rfl⟩ ⟨producer', hp', -, rfl⟩
  rw [Option.some.inj (hp.symm.trans hp')]

/-- The Consumers in the map of a Transport are its live Consumers. -/
theorem ConsumersOf.mem_addresses (h : g.ConsumersOf t) :
    c ∈ (g.endsAt t).mapConsumers.addresses ↔
      ∃ consumer, g.consumers c = some consumer ∧ consumer.transport = t := by
  rw [Directory.mem_addresses h.mapConsumers]
  constructor
  · rintro ⟨id, consumer, hc, ht, -⟩
    exact ⟨consumer, hc, ht⟩
  · rintro ⟨consumer, hc, ht⟩
    exact ⟨consumer.id, consumer, hc, ht, rfl⟩

theorem ConsumersOf.nodup_addresses (h : g.ConsumersOf t) :
    (g.endsAt t).mapConsumers.addresses.Nodup := by
  refine Directory.nodup_addresses h.mapConsumers ?_
  rintro c _ _ ⟨consumer, hc, -, rfl⟩ ⟨consumer', hc', -, rfl⟩
  rw [Option.some.inj (hc.symm.trans hc')]

theorem Linked.setEnds (h : g.Linked) : (g.setEnds t ends).Linked :=
  ⟨h.mapProducers, h.producers, h.consumers, h.converse⟩

/-- A change of the map of Producers is nothing to the Consumers. -/
theorem ConsumersOf.setMapProducers {t' : ℕ} (h : g.ConsumersOf t') (hends : g.ends t = some ends)
    (m : Directory String) : (g.setEnds t { ends with mapProducers := m }).ConsumersOf t' := by
  by_cases ht : t' = t
  · subst ht
    refine h.congr rfl ?_ ?_
    · rw [endsAt_setEnds_self, endsAt_of hends]
    · rw [endsAt_setEnds_self, endsAt_of hends]
  · refine h.congr rfl ?_ ?_
    · rw [endsAt_setEnds_of_ne ht]
    · rw [endsAt_setEnds_of_ne ht]

/-- A change of the maps of Consumers is nothing to the Producers. -/
theorem ProducersOf.setMapConsumers {t' : ℕ} (h : g.ProducersOf t') (hends : g.ends t = some ends)
    {ends' : Ends} (hmap : ends'.mapProducers = ends.mapProducers) :
    (g.setEnds t ends').ProducersOf t' := by
  by_cases ht : t' = t
  · subst ht
    refine h.congr rfl ?_
    rw [endsAt_setEnds_self, endsAt_of hends, hmap]
  · refine h.congr rfl ?_
    rw [endsAt_setEnds_of_ne ht]

theorem getFromInternal_eq_ok {map : Directory String} {what idName : String} {id : Option String}
    (h : getFromInternal map what idName id = .ok p) :
    ∃ key, id = some key ∧ map.lookup key = some p := by
  cases id with
  | none => cases h
  | some key =>
    refine ⟨key, rfl, ?_⟩
    rw [getFromInternal] at h
    cases hmap : map.lookup key with
    | none =>
      rw [hmap] at h
      cases h
    | some object =>
      rw [hmap] at h
      rw [Except.ok.inj h]

/-! ## A Producer is closed -/

/-- The Producer that a Transport finds by an id is live and its own. -/
theorem Consistent.find_producer (h : g.Consistent) (hends : g.ends t = some ends)
    {what idName : String} {producerId : Option String}
    (hget : getFromInternal ends.mapProducers what idName producerId = .ok p) :
    ∃ producer, g.producers p = some producer ∧ producer.transport = t := by
  obtain ⟨id, -, hmap⟩ := getFromInternal_eq_ok hget
  have hid := h.producersOf t
  rw [ProducersOf, endsAt_of hends] at hid
  obtain ⟨producer, hproducer, ht, -⟩ := (hid id p).mp hmap
  exact ⟨producer, hproducer, ht⟩

/-- A Transport that forgets a deleted Producer knows those that remain. -/
theorem ProducersOf.erase (h : g.ProducersOf t) (hp : g.producers p = some producer)
    (hproducers : g'.producers = Function.update g.producers p none)
    (hself : producer.transport = t →
      (g'.endsAt t).mapProducers = (g.endsAt t).mapProducers.erase producer.id)
    (hother : producer.transport ≠ t → (g'.endsAt t).mapProducers = (g.endsAt t).mapProducers) :
    g'.ProducersOf t := by
  rw [ProducersOf, hproducers]
  by_cases ht : producer.transport = t
  · rw [hself ht]
    refine h.delete hp ?_ ?_
    · rintro id ⟨-, rfl⟩
      exact AList.lookup_erase _ _
    · intro id hid
      exact AList.lookup_erase_ne fun heq ↦ hid ⟨ht, heq.symm⟩
  · rw [hother ht]
    exact h.delete hp (fun _ hid ↦ absurd hid.1 ht) fun _ _ ↦ rfl

/-- `PRODUCER_CLOSE`: the Transport forgets the Producer, and the Router closes it. -/
theorem Consistent.close (h : g.Consistent) (hp : g.producers p = some producer)
    (hends : g.ends producer.transport = some ends)
    (hclosed : (g.setEnds producer.transport
      { ends with mapProducers := ends.mapProducers.erase producer.id }).Closed [p] g') :
    g'.Consistent where
  linked := hclosed.linked
  consumersOf := hclosed.consumersOf
  producersOf t := by
    have hproducers : g'.producers = Function.update g.producers p none :=
      funext fun q ↦ (hclosed.producers q).trans (update_none_apply g.producers p q).symm
    refine (h.producersOf t).erase hp hproducers (fun ht ↦ ?_) fun ht ↦ ?_
    · subst ht
      rw [hclosed.mapProducersOf, endsAt_setEnds_self, endsAt_of hends]
    · rw [hclosed.mapProducersOf, endsAt_setEnds_of_ne (Ne.symm ht)]

/-- `DATA_PRODUCER_CLOSE`. -/
theorem Consistent.closeProducer (h : g.Consistent) (ht : g.ends t ≠ none)
    (producerId : Option String) :
    ∃ reply g', g.closeProducer n env t producerId = .ok (reply, g') ∧ g'.Consistent ∧
      g.SameTransports g' := by
  obtain ⟨ends, hends⟩ := Option.ne_none_iff_exists'.mp ht
  cases hget : getFromInternal ends.mapProducers n.producer n.producerId producerId with
  | error text =>
    refine ⟨.thrown text, g, bind_eq_ok.mpr ⟨ends, getEnds_of hends, ?_⟩, h, fun _ ↦ Iff.rfl⟩
    rw [hget]
    rfl
  | ok p =>
    obtain ⟨producer, hp, rfl⟩ := h.find_producer hends hget
    let g₁ := g.setEnds producer.transport
      { ends with mapProducers := ends.mapProducers.erase producer.id }
    have hforget : g.forgetProducer producer.transport producer = .ok g₁ :=
      bind_eq_ok.mpr ⟨ends, getEnds_of hends, rfl⟩
    have hp₁ : g₁.producers p = some producer := hp
    obtain ⟨g₂, hok, hclosed⟩ := onTransportProducerClosed_spec h.linked.setEnds
      (fun t ↦ (h.consumersOf t).setMapProducers hends _) hp₁
    refine ⟨.accepted, g₂.deleteProducer p, bind_eq_ok.mpr ⟨ends, getEnds_of hends, ?_⟩,
      h.close hp hends hclosed, fun t ↦ ?_⟩
    · rw [hget]
      exact bind_eq_ok.mpr ⟨producer, getProducer_of hp, bind_eq_ok.mpr ⟨g₁, hforget,
        bind_eq_ok.mpr ⟨g₂, hok, rfl⟩⟩⟩
    · rw [hclosed.transports, setEnds_ends_eq_none_iff hends]

/-! ## A Transport is closed -/

/-- What the Producers of a Transport leave behind. -/
theorem Consistent.clearProducers (h : g.Consistent) (hends : g.ends t = some ends)
    (hl : ∀ p, p ∈ l ↔ p ∈ ends.mapProducers.addresses) (hclosed : g.Closed l g') :
    ∃ g'', g'.clearProducers t = .ok g'' ∧ g''.Consistent ∧ g''.producers = g'.producers ∧
      (g''.endsAt t).mapProducers = ∅ ∧ g.SameTransports g'' := by
  have hlive : g'.ends t ≠ none := by
    rw [Ne, hclosed.transports, hends]
    exact Option.some_ne_none ends
  obtain ⟨ends', hends'⟩ := Option.ne_none_iff_exists'.mp hlive
  have hmem : ∀ p, p ∈ l ↔ ∃ producer, g.producers p = some producer ∧ producer.transport = t := by
    intro p
    rw [hl, ← (h.producersOf t).mem_addresses, endsAt_of hends]
  refine ⟨g'.setEnds t { ends' with mapProducers := ∅ },
    bind_eq_ok.mpr ⟨ends', getEnds_of hends', rfl⟩, ⟨hclosed.linked.setEnds, fun t' ↦ ?_, fun t' ↦
      (hclosed.consumersOf t').setMapProducers hends' ∅⟩, rfl, ?_, fun t' ↦ ?_⟩
  · by_cases ht : t' = t
    · subst ht
      rw [ProducersOf, endsAt_setEnds_self]
      refine indexes_none fun p producer id hp hid ↦ ?_
      have hp : g'.producers p = some producer := hp
      rw [hclosed.producers] at hp
      by_cases hpl : p ∈ l
      · rw [if_pos hpl] at hp
        cases hp
      · rw [if_neg hpl] at hp
        exact hpl ((hmem p).mpr ⟨producer, hp, hid.1⟩)
    · rw [ProducersOf, endsAt_setEnds_of_ne ht, hclosed.mapProducersOf]
      refine (h.producersOf t').forget (l := l) (fun p hp ↦ ?_) (fun p hp ↦ ?_) ?_
      · exact (hclosed.producers p).trans (if_pos hp)
      · exact (hclosed.producers p).trans (if_neg hp)
      · rintro p producer id hp ⟨ht', -⟩ hmem'
        obtain ⟨producer', hp', ht''⟩ := (hmem p).mp hmem'
        rw [Option.some.inj (hp.symm.trans hp')] at ht'
        exact ht (ht'.symm.trans ht'')
  · rw [endsAt_setEnds_self]
  · rw [setEnds_ends_eq_none_iff hends', hclosed.transports]

/-- The addresses in the map of a Transport are those of live Producers, each once. -/
theorem Consistent.objects_mapProducers (h : g.Consistent) (env : Surroundings)
    (hends : g.ends t = some ends) :
    (env.objects ends.mapProducers).Nodup ∧
      ∀ p ∈ env.objects ends.mapProducers, g.producers p ≠ none := by
  constructor
  · have hnodup := (h.producersOf t).nodup_addresses
    rw [endsAt_of hends] at hnodup
    exact (env.order_perm _).nodup_iff.mpr hnodup
  · intro p hp
    have hmem := (env.order_perm _).mem_iff.mp hp
    rw [← endsAt_of hends] at hmem
    obtain ⟨producer, hproducer, -⟩ := (h.producersOf t).mem_addresses.mp hmem
    rw [hproducer]
    exact Option.some_ne_none producer

/-- The DataProducers of a Transport are closed. -/
theorem Consistent.closeAllProducers (n : Names) (env : Surroundings) (h : g.Consistent)
    (hends : g.ends t = some ends) :
    ∃ g', g.closeAllProducers n env t = .ok g' ∧ g'.Consistent ∧
      (g'.endsAt t).mapProducers = ∅ ∧ g.SameTransports g' := by
  obtain ⟨hnodup, hlive⟩ := h.objects_mapProducers env hends
  obtain ⟨g₁, hloop, hclosed, -⟩ := foldlM_closed id
    (f := fun g p ↦ do
      let g ← g.onTransportProducerClosed n env p
      return g.deleteProducer p)
    (fun (g : Graph π) p (_ : True) hlinked hconsumersOf hp ↦ by
      obtain ⟨producer, hp⟩ := Option.ne_none_iff_exists'.mp hp
      obtain ⟨g', hok, hclosed⟩ := onTransportProducerClosed_spec hlinked hconsumersOf hp
      exact ⟨g'.deleteProducer p, bind_eq_ok.mpr ⟨g', hok, rfl⟩, hclosed, trivial⟩)
    trivial h.linked h.consumersOf hnodup hlive
  obtain ⟨g₂, hclear, hconsistent, -, hmap, htransports⟩ :=
    h.clearProducers hends (fun p ↦ (env.order_perm _).mem_iff) hclosed
  exact ⟨g₂, bind_eq_ok.mpr ⟨ends, getEnds_of hends, bind_eq_ok.mpr ⟨g₁, hloop, hclear⟩⟩,
    hconsistent, hmap, htransports⟩

/-- What there is when some Consumers of live Producers are deleted. -/
structure Unlinked (g : Graph π) (closed : List ℕ) (g' : Graph π) : Prop where
  linked : g'.Linked
  consumers : ∀ c, g'.consumers c = if c ∈ closed then none else g.consumers c
  producers : g'.producers = g.producers
  ends : g'.ends = g.ends

theorem Unlinked.nil (h : g.Linked) : g.Unlinked [] g where
  linked := h
  consumers _ := (if_neg List.not_mem_nil).symm
  producers := rfl
  ends := rfl

theorem Unlinked.cons {g'' : Graph π} (h : g.Unlinked [c] g') (h' : g'.Unlinked l g'') :
    g.Unlinked (c :: l) g'' where
  linked := h'.linked
  consumers c' := by
    rw [h'.consumers, h.consumers]
    exact ite_mem_cons c' c l _
  producers := h'.producers.trans h.producers
  ends := h'.ends.trans h.ends

/-- `Router::OnTransportConsumerClosed` returns, and the Consumer can be deleted. -/
theorem onTransportConsumerClosed_spec (n : Names) (h : g.Linked) (hc : g.consumers c ≠ none) :
    ∃ g', g.onTransportConsumerClosed n c = .ok g' ∧ g.Unlinked [c] (g'.deleteConsumer c) := by
  obtain ⟨p, hp⟩ := Option.ne_none_iff_exists'.mp (mt (h.consumers c).mp hc)
  obtain ⟨consumers, hconsumers, -⟩ := (h.converse c p).mp hp
  let g' : Graph π :=
    { g with
      mapProducerConsumers := Function.update g.mapProducerConsumers p (some (consumers.erase c))
      mapConsumerProducer := Function.update g.mapConsumerProducer c none }
  have hlinked : (g'.deleteConsumer c).Linked :=
    { mapProducers := h.mapProducers
      producers := fun q ↦ (update_some_eq_none_iff hconsumers _ q).trans (h.producers q)
      consumers := update_eq_none_iff h.consumers (iff_of_true rfl rfl) c
      converse := h.converse.unlink hconsumers hp fun _ ↦ Finset.mem_erase }
  refine ⟨g', ?_, hlinked, update_none_apply g.consumers c, rfl, rfl⟩
  rw [onTransportConsumerClosed, hp]
  dsimp only
  rw [hconsumers]

theorem endsAt_congr (h : g'.ends = g.ends) : g'.endsAt t = g.endsAt t := by
  rw [endsAt, h, endsAt]

theorem Unlinked.endsAt (h : g.Unlinked l g') (t : ℕ) : g'.endsAt t = g.endsAt t :=
  endsAt_congr h.ends

/-- If all Consumers of a Transport are deleted, its maps can be cleared. -/
theorem Unlinked.consumersOf (hunlinked : g.Unlinked l g') (h : ∀ t, g.ConsumersOf t)
    (hl : ∀ c, c ∈ l ↔ ∃ consumer, g.consumers c = some consumer ∧ consumer.transport = t)
    (t' : ℕ) : (g'.setEnds t {}).ConsumersOf t' := by
  have hgone : ∀ c ∈ l, g'.consumers c = none := fun c hc ↦
    (hunlinked.consumers c).trans (if_pos hc)
  have hkept : ∀ c, c ∉ l → g'.consumers c = g.consumers c := fun c hc ↦
    (hunlinked.consumers c).trans (if_neg hc)
  by_cases ht : t' = t
  · subst ht
    have hnone : ∀ c consumer, g'.consumers c = some consumer → consumer.transport ≠ t' := by
      intro c consumer hc ht'
      by_cases hcl : c ∈ l
      · rw [hgone c hcl] at hc
        cases hc
      · rw [hkept c hcl] at hc
        exact hcl ((hl c).mpr ⟨consumer, hc, ht'⟩)
    constructor
    · rw [endsAt_setEnds_self]
      exact indexes_none fun c consumer _ hc hid ↦ hnone c consumer hc hid.1
    · rw [endsAt_setEnds_self]
      exact indexes_none fun c consumer _ hc hssrc ↦ hnone c consumer hc hssrc.1
  · have hother : ∀ c consumer, g.consumers c = some consumer → consumer.transport = t' →
        c ∉ l := by
      intro c consumer hc ht' hcl
      obtain ⟨consumer', hc', ht''⟩ := (hl c).mp hcl
      rw [Option.some.inj (hc.symm.trans hc')] at ht'
      exact ht (ht'.symm.trans ht'')
    constructor
    · rw [endsAt_setEnds_of_ne ht, hunlinked.endsAt]
      exact (h t').mapConsumers.forget hgone hkept
        fun c consumer _ hc hid ↦ hother c consumer hc hid.1
    · rw [endsAt_setEnds_of_ne ht, hunlinked.endsAt]
      exact (h t').mapSsrcConsumer.forget hgone hkept
        fun c consumer _ hc hssrc ↦ hother c consumer hc hssrc.1

/-- The Consumers of a Transport are deleted. -/
theorem Consistent.closeAllConsumers (n : Names) (env : Surroundings) (h : g.Consistent)
    (hends : g.ends t = some ends) (hmap : ends.mapProducers = ∅) :
    ∃ g', g.closeAllConsumers n env t = .ok g' ∧ g'.Consistent ∧ g'.producers = g.producers ∧
      g'.ends t = some {} ∧ g.SameTransports g' := by
  have hmem : ∀ c, c ∈ env.objects ends.mapConsumers ↔
      ∃ consumer, g.consumers c = some consumer ∧ consumer.transport = t := by
    intro c
    rw [Surroundings.objects, (env.order_perm _).mem_iff, ← (h.consumersOf t).mem_addresses,
      endsAt_of hends]
  have hnodup : (env.objects ends.mapConsumers).Nodup := by
    have hnodup := (h.consumersOf t).nodup_addresses
    rw [endsAt_of hends] at hnodup
    exact (env.order_perm _).nodup_iff.mpr hnodup
  have hlive : ∀ c ∈ env.objects ends.mapConsumers, g.consumers c ≠ none := by
    intro c hc
    obtain ⟨consumer, hconsumer, -⟩ := (hmem c).mp hc
    rw [hconsumer]
    exact Option.some_ne_none _
  obtain ⟨g', hok, hunlinked, -⟩ := Run.foldlM_distinct (R := Unlinked)
    (fun g (hg : Linked g) ↦ Unlinked.nil hg) (fun _ _ _ _ _ ↦ Unlinked.cons)
    (fun g c hg (hc : g.consumers c ≠ none) ↦ by
      obtain ⟨g', hok, hunlinked⟩ := onTransportConsumerClosed_spec n hg hc
      refine ⟨_, bind_eq_ok.mpr ⟨g', hok, rfl⟩, hunlinked, hunlinked.linked, fun c' hne hc' ↦ ?_⟩
      rwa [hunlinked.consumers, if_neg (mt List.mem_singleton.mp hne)])
    _ h.linked hnodup hlive
  have hempty : ({ ends with mapConsumers := ∅, mapSsrcConsumer := fun _ ↦ none } : Ends) = {} := by
    rw [hmap]
  have hends' : g'.ends t = some ends := (congrFun hunlinked.ends t).trans hends
  refine ⟨g'.setEnds t {}, bind_eq_ok.mpr ⟨ends, getEnds_of hends,
    bind_eq_ok.mpr ⟨g', hok, ?_⟩⟩, ⟨hunlinked.linked.setEnds, fun t' ↦ ?_, fun t' ↦ ?_⟩,
    hunlinked.producers, Function.update_self _ _ _, fun t' ↦ ?_⟩
  · rw [← hempty]
    rfl
  · refine ((h.producersOf t').congr hunlinked.producers ?_).setMapConsumers hends' hmap.symm
    rw [hunlinked.endsAt]
  · exact hunlinked.consumersOf h.consumersOf hmem t'
  · rw [setEnds_ends_eq_none_iff hends', hunlinked.ends]

/-- A Transport with empty maps may be deleted. -/
theorem Consistent.deleteTransport (h : g.Consistent) (hends : g.ends t = some {}) :
    (g.deleteTransport t).Consistent := by
  have hendsAt : ∀ t', (g.deleteTransport t).endsAt t' = g.endsAt t' := by
    intro t'
    change (Function.update g.ends t none t').getD {} = g.endsAt t'
    by_cases ht : t' = t
    · rw [ht, Function.update_self, endsAt_of hends, Option.getD_none]
    · rw [Function.update_of_ne ht, endsAt]
  refine ⟨⟨h.linked.mapProducers, h.linked.producers, h.linked.consumers, h.linked.converse⟩,
    fun t' ↦ ?_, fun t' ↦ ?_⟩
  · exact (h.producersOf t').congr rfl (by rw [hendsAt])
  · exact (h.consumersOf t').congr rfl (by rw [hendsAt]) (by rw [hendsAt])

/-- A new Transport has no objects. -/
theorem Consistent.newTransport (h : g.Consistent) (hends : g.ends t = none) :
    (g.newTransport t).Consistent := by
  have hendsAt : ∀ t', (g.newTransport t).endsAt t' = g.endsAt t' := by
    intro t'
    change (Function.update g.ends t (some {}) t').getD {} = (g.ends t').getD {}
    by_cases ht : t' = t
    · rw [ht, Function.update_self, hends, Option.getD_none, Option.getD_some]
    · rw [Function.update_of_ne ht]
  refine ⟨⟨h.linked.mapProducers, h.linked.producers, h.linked.consumers, h.linked.converse⟩,
    fun t' ↦ ?_, fun t' ↦ ?_⟩
  · exact (h.producersOf t').congr rfl (by rw [hendsAt])
  · exact (h.consumersOf t').congr rfl (by rw [hendsAt]) (by rw [hendsAt])

/-! ## A Consumer is closed -/

/-- A Transport forgets a Consumer, and the Router unlinks it. -/
theorem Consistent.unlink (h : g.Consistent) (hc : g.consumers c = some consumer)
    (hends : g.ends consumer.transport = some ends)
    (hunlinked : (g.setEnds consumer.transport (ends.eraseConsumer consumer)).Unlinked [c] g') :
    g'.Consistent where
  linked := hunlinked.linked
  producersOf t := by
    have hforgotten :
        (g.setEnds consumer.transport (ends.eraseConsumer consumer)).ProducersOf t :=
      (h.producersOf t).setMapConsumers hends rfl
    refine hforgotten.congr hunlinked.producers ?_
    rw [hunlinked.endsAt]
  consumersOf t := by
    have hconsumers : g'.consumers = Function.update g.consumers c none :=
      funext fun c' ↦ (hunlinked.consumers c').trans (update_none_apply g.consumers c c').symm
    refine (h.consumersOf t).erase hc hconsumers (fun ht ↦ ?_) fun ht ↦ ?_
    · subst ht
      rw [hunlinked.endsAt, endsAt_setEnds_self, endsAt_of hends]
    · rw [hunlinked.endsAt, endsAt_setEnds_of_ne (Ne.symm ht)]

/-- `CONSUMER_CLOSE`. -/
theorem Consistent.closeConsumer (h : g.Consistent) (ht : g.ends t ≠ none)
    (consumerId : Option String) :
    ∃ reply g', g.closeConsumer n env t consumerId = .ok (reply, g') ∧ g'.Consistent ∧
      g'.producers = g.producers ∧ g.SameTransports g' := by
  obtain ⟨ends, hends⟩ := Option.ne_none_iff_exists'.mp ht
  cases hget : getFromInternal ends.mapConsumers n.consumer n.consumerId consumerId with
  | error text =>
    refine ⟨.thrown text, g, bind_eq_ok.mpr ⟨ends, getEnds_of hends, ?_⟩, h, rfl,
      fun _ ↦ Iff.rfl⟩
    rw [hget]
    rfl
  | ok c =>
    obtain ⟨id, -, hmap⟩ := getFromInternal_eq_ok hget
    have hid := (h.consumersOf t).mapConsumers
    rw [endsAt_of hends] at hid
    obtain ⟨consumer, hc, rfl, -⟩ := (hid id c).mp hmap
    let g₁ := g.setEnds consumer.transport (ends.eraseConsumer consumer)
    have hlive : g₁.consumers c ≠ none := by
      change g.consumers c ≠ none
      rw [hc]
      exact Option.some_ne_none consumer
    obtain ⟨g₂, hok, hunlinked⟩ := onTransportConsumerClosed_spec n h.linked.setEnds hlive
    have hconsistent := h.unlink hc hends hunlinked
    have hends' : (g₂.deleteConsumer c).ends consumer.transport =
        some (ends.eraseConsumer consumer) := by
      rw [hunlinked.ends]
      exact Function.update_self _ _ _
    have hkeyFrames : (g₂.deleteConsumer c).requestKeyFrames env consumer.transport [] = .ok () :=
      requestKeyFrames_of hconsistent.linked.sourced hends'
        ((hconsistent.consumersOf _).ne_none hends') fun _ hmem ↦ absurd hmem List.not_mem_nil
    have hforget : g.forgetConsumer consumer.transport consumer = .ok g₁ :=
      bind_eq_ok.mpr ⟨ends, getEnds_of hends, rfl⟩
    refine ⟨.accepted, g₂.deleteConsumer c, bind_eq_ok.mpr ⟨ends, getEnds_of hends, ?_⟩,
      hconsistent, hunlinked.producers, fun t ↦ ?_⟩
    · rw [hget]
      exact bind_eq_ok.mpr ⟨consumer, getConsumer_of hc, bind_eq_ok.mpr ⟨g₁, hforget,
        bind_eq_ok.mpr ⟨g₂, hok, bind_eq_ok.mpr ⟨(), hkeyFrames, rfl⟩⟩⟩⟩
    · rw [hunlinked.ends]
      exact setEnds_ends_eq_none_iff hends

/-! ## Consumers are told something -/

/-- `mapProducerConsumers.at(producer)` finds live Consumers if the Producer is live. -/
theorem Consistent.notifyConsumers (h : g.Consistent) (env : Surroundings)
    (hp : g.producers p ≠ none) : g.notifyConsumers env p = .ok () := by
  obtain ⟨consumers, hconsumers⟩ :=
    Option.ne_none_iff_exists'.mp (mt (h.linked.producers p).mp hp)
  rw [Graph.notifyConsumers, hconsumers]
  refine forM_eq_ok fun c hc ↦ ?_
  have hmap := (h.linked.converse c p).mpr ⟨consumers, hconsumers, Surroundings.mem_members.mp hc⟩
  have hlive : g.consumers c ≠ none := by
    refine mt (h.linked.consumers c).mpr ?_
    rw [hmap]
    exact Option.some_ne_none p
  obtain ⟨consumer, hconsumer⟩ := Option.ne_none_iff_exists'.mp hlive
  exact notify_of h.linked.sourced h.consumersOf hconsumer

/-! ## New objects -/

theorem setNewIdFromInternal_eq_ok {map : Directory String} {used idName key : String}
    {id : Option String} (h : setNewIdFromInternal map used idName id = .ok key) :
    map.lookup key = none := by
  cases id with
  | none => cases h
  | some id =>
    rw [setNewIdFromInternal] at h
    split_ifs at h with hused
    rw [← Except.ok.inj h]
    exact Option.not_isSome_iff_eq_none.mp hused

/-- A new Producer of which nobody knows is deleted. -/
theorem deleteProducer_newProducer (hp : g.producers p = none) :
    (g.newProducer p producer).deleteProducer p = g := by
  rw [deleteProducer, newProducer, Function.update_idem, ← hp, Function.update_eq_self]

/-- A new Consumer of which nobody knows is deleted. -/
theorem deleteConsumer_newConsumer (hc : g.consumers c = none) :
    (g.newConsumer c consumer).deleteConsumer c = g := by
  rw [deleteConsumer, newConsumer, Function.update_idem, ← hc, Function.update_eq_self]

theorem Linked.insertProducer (h : g.Linked) (hp : g.producers p = none)
    (hid : g.mapProducers.lookup producer.id = none) :
    ((g.newProducer p producer).insertProducer p producer).Linked where
  mapProducers := Directory.indexes_insert h.mapProducers hp hid fun _ ↦ eq_comm
  producers := update_eq_none_iff h.producers (some_eq_none_iff _ _) p
  consumers := h.consumers
  converse := h.converse.create ((h.producers p).mpr hp)
    (fun c hc ↦ absurd hc (Finset.notMem_empty c)) (fun c hc ↦ absurd hc (Finset.notMem_empty c))
    fun _ _ ↦ rfl

/-- A new Producer is known to the Router. -/
theorem onTransportNewProducer_spec (n : Names) (h : g.Linked) (hp : g.producers p = none) :
    (∃ text, (g.newProducer p producer).onTransportNewProducer n p = .ok (.error text)) ∨
    ∃ g', (g.newProducer p producer).onTransportNewProducer n p = .ok (.ok g') ∧ g'.Linked ∧
      g'.producers = Function.update g.producers p (some producer) ∧
      g'.consumers = g.consumers ∧ g'.ends = g.ends := by
  have hnone : (g.newProducer p producer).mapProducerConsumers p = none :=
    (h.producers p).mpr hp
  have hget : (g.newProducer p producer).getProducer p = .ok producer :=
    getProducer_of (Function.update_self _ _ _)
  have hassert : ∀ text, msAssert ((g.newProducer p producer).mapProducerConsumers p).isNone text =
      .ok () := by
    intro text
    rw [hnone, Option.isNone_none, msAssert_true]
  by_cases hused : ((g.newProducer p producer).mapProducers.lookup producer.id).isSome
  · refine Or.inl ⟨n.producer ++ " already present in map" ++ n.producer ++ "s [" ++
      n.producerId ++ ":" ++ producer.id ++ "]",
      bind_eq_ok.mpr ⟨(), hassert _, bind_eq_ok.mpr ⟨producer, hget, ?_⟩⟩⟩
    rw [if_pos hused]
    rfl
  · refine Or.inr ⟨(g.newProducer p producer).insertProducer p producer,
      bind_eq_ok.mpr ⟨(), hassert _, bind_eq_ok.mpr ⟨producer, hget, ?_⟩⟩, ?_, rfl, rfl, rfl⟩
    · rw [if_neg hused]
      rfl
    · exact h.insertProducer hp (Option.not_isSome_iff_eq_none.mp hused)

/-- A Transport that enters a new Producer knows it besides the others. -/
theorem ProducersOf.insert (h : g.ProducersOf t) (hp : g.producers p = none)
    (hproducers : g'.producers = Function.update g.producers p (some producer))
    (hfree : producer.transport = t → (g.endsAt t).mapProducers.lookup producer.id = none)
    (hself : producer.transport = t →
      (g'.endsAt t).mapProducers = (g.endsAt t).mapProducers.insert producer.id p)
    (hother : producer.transport ≠ t → (g'.endsAt t).mapProducers = (g.endsAt t).mapProducers) :
    g'.ProducersOf t := by
  rw [ProducersOf, hproducers]
  by_cases ht : producer.transport = t
  · rw [hself ht]
    refine Indexes.create h hp ?_ ?_ ?_
    · rintro id ⟨-, rfl⟩
      exact hfree ht
    · rintro id ⟨-, rfl⟩
      exact AList.lookup_insert _
    · intro id hid
      exact AList.lookup_insert_ne fun heq ↦ hid ⟨ht, heq.symm⟩
  · rw [hother ht]
    exact Indexes.create h hp (fun _ hid ↦ absurd hid.1 ht) (fun _ hid ↦ absurd hid.1 ht)
      fun _ _ ↦ rfl

/-- The Transport enters a Producer that is known to the Router. -/
theorem Consistent.enterProducer (h : g.Consistent)
    (hends : g.ends producer.transport = some ends) (hp : g.producers p = none)
    (hid : ends.mapProducers.lookup producer.id = none) (hlinked : g'.Linked)
    (hproducers : g'.producers = Function.update g.producers p (some producer))
    (hconsumers : g'.consumers = g.consumers) (hends' : g'.ends = g.ends) :
    (g'.setEnds producer.transport
      { ends with mapProducers := ends.mapProducers.insert producer.id p }).Consistent where
  linked := hlinked.setEnds
  producersOf t := by
    refine (h.producersOf t).insert hp hproducers (fun ht ↦ ?_) (fun ht ↦ ?_) fun ht ↦ ?_
    · rw [← ht, endsAt_of hends, hid]
    · rw [← ht, endsAt_setEnds_self, endsAt_of hends]
    · rw [endsAt_setEnds_of_ne (Ne.symm ht), endsAt_congr hends']
  consumersOf t := by
    have hconsumersOf : g'.ConsumersOf t := (h.consumersOf t).congr hconsumers
      (by rw [endsAt_congr hends']) (by rw [endsAt_congr hends'])
    exact hconsumersOf.setMapProducers (by rw [hends', hends]) _

/-- The answer to a request for a new object: if it is refused, the graph is as it was. -/
def Unless (g : Graph π) (Q : Graph π → Prop) : Reply × Graph π → Prop
  | (.accepted, g') => Q g'
  | (.thrown _, g') => g' = g

/-- `TRANSPORT_PRODUCE`. -/
theorem Consistent.produce (n : Names) (h : g.Consistent) (ht : g.ends t ≠ none)
    (hp : g.producers p = none) (producerId : Option String) (made : Except String π)
    (listen : π → Except String Unit) :
    ∃ result, g.produce n t producerId made listen p = .ok result ∧
      g.Unless (fun g' ↦ g'.Consistent ∧ g.SameTransports g' ∧
        ∃ producer, g'.producers = Function.update g.producers p (some producer)) result := by
  obtain ⟨ends, hends⟩ := Option.ne_none_iff_exists'.mp ht
  cases hid : setNewIdFromInternal ends.mapProducers
    ("a " ++ n.producer ++ " with same " ++ n.producerId ++ " already exists") n.producerId
    producerId with
  | error text =>
    refine ⟨(.thrown text, g), bind_eq_ok.mpr ⟨ends, getEnds_of hends, ?_⟩, rfl⟩
    rw [hid]
    rfl
  | ok id =>
    cases made with
    | error text =>
      refine ⟨(.thrown text, g), bind_eq_ok.mpr ⟨ends, getEnds_of hends, ?_⟩, rfl⟩
      rw [hid]
      rfl
    | ok info =>
      let producer : Producer π := { id, transport := t, info }
      have hdelete : (g.newProducer p producer).deleteProducer p = g :=
        deleteProducer_newProducer hp
      cases hlisten : listen info with
      | error text =>
        refine ⟨(.thrown text, (g.newProducer p producer).deleteProducer p),
          bind_eq_ok.mpr ⟨ends, getEnds_of hends, ?_⟩, hdelete⟩
        rw [hid]
        dsimp only
        rw [hlisten]
        rfl
      | ok _ =>
        rcases onTransportNewProducer_spec n h.linked hp with
          ⟨text, herror⟩ | ⟨g', hok, hlinked, hproducers, hconsumers, hends'⟩
        · refine ⟨(.thrown text, (g.newProducer p producer).deleteProducer p),
            bind_eq_ok.mpr ⟨ends, getEnds_of hends, ?_⟩, hdelete⟩
          rw [hid]
          dsimp only
          rw [hlisten]
          exact bind_eq_ok.mpr ⟨.error text, herror, rfl⟩
        · refine ⟨(.accepted, g'.setEnds t
            { ends with mapProducers := ends.mapProducers.insert id p }),
            bind_eq_ok.mpr ⟨ends, getEnds_of hends, ?_⟩, ?_⟩
          · rw [hid]
            dsimp only
            rw [hlisten]
            exact bind_eq_ok.mpr ⟨.ok g', hok, rfl⟩
          · refine ⟨h.enterProducer hends hp (setNewIdFromInternal_eq_ok hid) hlinked hproducers
              hconsumers hends', fun t' ↦ ?_, producer, hproducers⟩
            rw [setEnds_ends_eq_none_iff (by rw [hends', hends]), hends']

theorem Linked.insertConsumer {consumers : Finset ℕ} (h : g.Linked) (hc : g.consumers c = none)
    (hconsumers : g.mapProducerConsumers p = some consumers) :
    ((g.newConsumer c consumer).insertConsumer c p consumers).Linked where
  mapProducers := h.mapProducers
  producers q := (update_some_eq_none_iff hconsumers _ q).trans (h.producers q)
  consumers := update_eq_none_iff h.consumers (some_eq_none_iff _ _) c
  converse := h.converse.link hconsumers ((h.consumers c).mpr hc) fun _ ↦ Finset.mem_insert

/-- A new Consumer is known to the Router. -/
theorem onTransportNewConsumer_spec (n : Names) (env : Surroundings) (h : g.Consistent)
    (hc : g.consumers c = none) (hends : g.ends consumer.transport = some ends)
    (producerId : String) :
    (∃ text, (g.newConsumer c consumer).onTransportNewConsumer n env c producerId =
      .ok (.error text)) ∨
    ∃ g', (g.newConsumer c consumer).onTransportNewConsumer n env c producerId = .ok (.ok g') ∧
      g'.Linked ∧ g'.consumers = Function.update g.consumers c (some consumer) ∧
      g'.producers = g.producers ∧ g'.ends = g.ends := by
  rw [onTransportNewConsumer]
  cases hmap : (g.newConsumer c consumer).mapProducers.lookup producerId with
  | none => exact Or.inl ⟨_, rfl⟩
  | some p =>
    right
    obtain ⟨producer, hproducer, -⟩ := (h.linked.mapProducers producerId p).mp hmap
    have hlive : g.mapProducerConsumers p ≠ none := by
      refine mt (h.linked.producers p).mp ?_
      rw [hproducer]
      exact Option.some_ne_none producer
    obtain ⟨consumers, hconsumers⟩ := Option.ne_none_iff_exists'.mp hlive
    have hnone : g.mapConsumerProducer c = none := (h.linked.consumers c).mpr hc
    let g' := (g.newConsumer c consumer).insertConsumer c p consumers
    have hlinked : g'.Linked := h.linked.insertConsumer hc hconsumers
    have hconsumer : g'.consumers c = some consumer := Function.update_self _ _ _
    have hne : g'.consumers c ≠ none := by
      rw [hconsumer]
      exact Option.some_ne_none consumer
    have hothers : ∀ c' ∈ ends.mapConsumers.addresses, g'.consumers c' ≠ none := by
      intro c' hc'
      have hlive' := (h.consumersOf _).ne_none hends c' hc'
      change Function.update g.consumers c (some consumer) c' ≠ none
      by_cases heq : c' = c
      · rw [heq]
        exact hne
      · rwa [Function.update_of_ne heq]
    have hnotify : g'.notify env c = .ok () := by
      refine bind_eq_ok.mpr ⟨consumer, getConsumer_of hconsumer, ?_⟩
      refine requestKeyFrames_of hlinked.sourced hends hothers fun c' hc' ↦ ?_
      rwa [List.mem_singleton.mp hc']
    refine ⟨g', ?_, hlinked, rfl, rfl, rfl⟩
    dsimp only
    rw [show (g.newConsumer c consumer).mapProducerConsumers p = some consumers from hconsumers]
    refine bind_eq_ok.mpr ⟨(), ?_, bind_eq_ok.mpr ⟨producer, getProducer_of hproducer,
      bind_eq_ok.mpr ⟨(), hnotify, rfl⟩⟩⟩
    change msAssert (g.mapConsumerProducer c).isNone _ = _
    rw [hnone, Option.isNone_none, msAssert_true]

/-- A Transport that enters a new Consumer knows it besides the others. -/
theorem ConsumersOf.insert (h : g.ConsumersOf t) (hc : g.consumers c = none)
    (hconsumers : g'.consumers = Function.update g.consumers c (some consumer))
    (hfree : consumer.transport = t → (g.endsAt t).mapConsumers.lookup consumer.id = none ∧
      ∀ ssrc ∈ consumer.mediaSsrcs, (g.endsAt t).mapSsrcConsumer ssrc = none)
    (hself : consumer.transport = t → g'.endsAt t = (g.endsAt t).insertConsumer c consumer)
    (hother : consumer.transport ≠ t → g'.endsAt t = g.endsAt t) : g'.ConsumersOf t := by
  by_cases ht : consumer.transport = t
  · constructor
    · rw [hconsumers, hself ht]
      refine h.mapConsumers.create hc ?_ ?_ ?_
      · rintro id ⟨-, rfl⟩
        exact (hfree ht).1
      · rintro id ⟨-, rfl⟩
        exact AList.lookup_insert _
      · intro id hid
        exact AList.lookup_insert_ne fun heq ↦ hid ⟨ht, heq.symm⟩
    · rw [hconsumers, hself ht]
      refine h.mapSsrcConsumer.create hc ?_ ?_ ?_
      · rintro ssrc ⟨-, hssrc⟩
        exact (hfree ht).2 ssrc hssrc
      · rintro ssrc ⟨-, hssrc⟩
        exact if_pos hssrc
      · intro ssrc hssrc
        exact if_neg fun hmem ↦ hssrc ⟨ht, hmem⟩
  · constructor
    · rw [hconsumers, hother ht]
      exact h.mapConsumers.create hc (fun _ hid ↦ absurd hid.1 ht)
        (fun _ hid ↦ absurd hid.1 ht) fun _ _ ↦ rfl
    · rw [hconsumers, hother ht]
      exact h.mapSsrcConsumer.create hc (fun _ hssrc ↦ absurd hssrc.1 ht)
        (fun _ hssrc ↦ absurd hssrc.1 ht) fun _ _ ↦ rfl

/-- The Transport enters a Consumer that is known to the Router. -/
theorem Consistent.enterConsumer (h : g.Consistent)
    (hends : g.ends consumer.transport = some ends) (hc : g.consumers c = none)
    (hid : ends.mapConsumers.lookup consumer.id = none)
    (hssrcs : ∀ ssrc ∈ consumer.mediaSsrcs, ends.mapSsrcConsumer ssrc = none) (hlinked : g'.Linked)
    (hconsumers : g'.consumers = Function.update g.consumers c (some consumer))
    (hproducers : g'.producers = g.producers) (hends' : g'.ends = g.ends) :
    (g'.setEnds consumer.transport (ends.insertConsumer c consumer)).Consistent where
  linked := hlinked.setEnds
  producersOf t := by
    have hproducersOf : g'.ProducersOf t :=
      (h.producersOf t).congr hproducers (by rw [endsAt_congr hends'])
    have hends'' : g'.ends consumer.transport = some ends := by rw [hends', hends]
    exact hproducersOf.setMapConsumers hends'' rfl
  consumersOf t := by
    refine (h.consumersOf t).insert hc hconsumers (fun ht ↦ ?_) (fun ht ↦ ?_) fun ht ↦ ?_
    · rw [← ht, endsAt_of hends]
      exact ⟨hid, hssrcs⟩
    · rw [← ht, endsAt_setEnds_self, endsAt_of hends]
    · rw [endsAt_setEnds_of_ne (Ne.symm ht), endsAt_congr hends']

/-- The SSRCs of a new Consumer are none of those of the Consumers of the Transport. -/
def FreshSsrcs (g : Graph π) (t : ℕ) (mediaSsrcs : List (BitVec 32)) : Prop :=
  ∀ c consumer, g.consumers c = some consumer → consumer.transport = t →
    ∀ ssrc ∈ mediaSsrcs, ssrc ∉ consumer.mediaSsrcs

theorem FreshSsrcs.find_eq_none {mediaSsrcs : List (BitVec 32)} (hfresh : g.FreshSsrcs t mediaSsrcs)
    (h : g.ConsumersOf t) {ssrc : BitVec 32} (hssrc : ssrc ∈ mediaSsrcs) :
    (g.endsAt t).mapSsrcConsumer ssrc = none := by
  rw [h.mapSsrcConsumer.find_eq_none_iff]
  rintro c ⟨consumer, hc, ht, hmem⟩
  exact hfresh c consumer hc ht ssrc hssrc hmem

/-- `TRANSPORT_CONSUME`. -/
theorem Consistent.consume (n : Names) (env : Surroundings) (h : g.Consistent)
    (ht : g.ends t ≠ none) (hc : g.consumers c = none) (producerId consumerId : Option String)
    (made : Except String (List (BitVec 32)))
    (hfresh : ∀ mediaSsrcs, made = .ok mediaSsrcs → g.FreshSsrcs t mediaSsrcs) :
    ∃ result, g.consume n env t producerId consumerId made c = .ok result ∧
      g.Unless (fun g' ↦ g'.Consistent ∧ g.SameTransports g' ∧ g'.producers = g.producers)
        result := by
  obtain ⟨ends, hends⟩ := Option.ne_none_iff_exists'.mp ht
  cases producerId with
  | none => exact ⟨_, bind_eq_ok.mpr ⟨ends, getEnds_of hends, rfl⟩, rfl⟩
  | some producerId =>
    cases hid : setNewIdFromInternal ends.mapConsumers
      ("a " ++ n.consumer ++ " with same " ++ n.consumerId ++ " already exists") n.consumerId
      consumerId with
    | error text =>
      refine ⟨(.thrown text, g), bind_eq_ok.mpr ⟨ends, getEnds_of hends, ?_⟩, rfl⟩
      dsimp only
      rw [hid]
      rfl
    | ok id =>
      cases made with
      | error text =>
        refine ⟨(.thrown text, g), bind_eq_ok.mpr ⟨ends, getEnds_of hends, ?_⟩, rfl⟩
        dsimp only
        rw [hid]
        rfl
      | ok mediaSsrcs =>
        let consumer : Consumer := { id, transport := t, mediaSsrcs }
        have hconsumer : g.ends consumer.transport = some ends := hends
        rcases onTransportNewConsumer_spec n env h hc hconsumer producerId with
          ⟨text, herror⟩ | ⟨g', hok, hlinked, hconsumers, hproducers, hends'⟩
        · refine ⟨(.thrown text, (g.newConsumer c consumer).deleteConsumer c),
            bind_eq_ok.mpr ⟨ends, getEnds_of hends, ?_⟩, deleteConsumer_newConsumer hc⟩
          dsimp only
          rw [hid]
          exact bind_eq_ok.mpr ⟨.error text, herror, rfl⟩
        · let g₁ := g'.setEnds t (ends.insertConsumer c consumer)
          have hssrcs : ∀ ssrc ∈ mediaSsrcs, ends.mapSsrcConsumer ssrc = none := by
            intro ssrc hssrc
            rw [← endsAt_of hends]
            exact (hfresh mediaSsrcs rfl).find_eq_none (h.consumersOf t) hssrc
          have hconsistent : g₁.Consistent :=
            h.enterConsumer hends hc (setNewIdFromInternal_eq_ok hid) hssrcs hlinked hconsumers
              hproducers hends'
          have hends₁ : g₁.ends t = some (ends.insertConsumer c consumer) :=
            Function.update_self _ _ _
          have hkeyFrames : g₁.requestKeyFrames env t [] = .ok () :=
            requestKeyFrames_of hconsistent.linked.sourced hends₁
              ((hconsistent.consumersOf t).ne_none hends₁)
              fun _ hmem ↦ absurd hmem List.not_mem_nil
          refine ⟨(.accepted, g₁), bind_eq_ok.mpr ⟨ends, getEnds_of hends, ?_⟩, hconsistent,
            fun t' ↦ ?_, hproducers⟩
          · dsimp only
            rw [hid]
            exact bind_eq_ok.mpr ⟨.ok g', hok, bind_eq_ok.mpr ⟨(), hkeyFrames, rfl⟩⟩
          · rw [setEnds_ends_eq_none_iff (by rw [hends', hends]), hends']

end Graph

end RouterGraph

end MediasoupSfu
