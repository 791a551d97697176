import MediasoupSfu.Library.Run
import MediasoupSfu.Router.Graph

/-!
# The two sides of the graph

A graph is `Consistent` if every map of the Router and of the Transports is exact: it has the live
objects that it should have and nothing else. In the midst of a closing it is not. So the parts are
apart: what the Router knows (`Linked`), and what each Transport knows of its Producers
(`ProducersOf`) and of its Consumers (`ConsumersOf`). A Transport without an object has no maps, so
the last two also say that the listener of a live object is live.

Every closing of a Producer comes down to the same loop over its Consumers. What the loop does is
said once, by `Without`: these Consumers are gone, from the Router's map as from their Transports,
and the sets that the Router goes through are as they were. From there on it is a matter of how the
Producer itself is forgotten.
-/

namespace MediasoupSfu

namespace RouterGraph

open Index

theorem Surroundings.mem_members {env : Surroundings} {s : Finset ℕ} {c : ℕ} :
    c ∈ env.members s ↔ c ∈ s := by
  rw [Surroundings.members, (env.order_perm _).mem_iff, Finset.mem_sort]

theorem Surroundings.nodup_members {env : Surroundings} (s : Finset ℕ) : (env.members s).Nodup :=
  (env.order_perm _).nodup_iff.mpr (Finset.sort_nodup s (· ≤ ·))

namespace Graph

variable {π : Type}

/-! ## What the maps should have -/

/-- The maps of a Transport. There is nothing in them if there is no Transport. -/
def endsAt (g : Graph π) (t : ℕ) : Ends := (g.ends t).getD {}

/-- The Transport knows its live Producers. -/
def ProducersOf (g : Graph π) (t : ℕ) : Prop :=
  Indexes (g.endsAt t).mapProducers.lookup
    (Held g.producers fun producer id ↦ producer.transport = t ∧ producer.id = id)

/-- The Transport knows its live Consumers, by their ids and by their SSRCs. -/
structure ConsumersOf (g : Graph π) (t : ℕ) : Prop where
  mapConsumers : Indexes (g.endsAt t).mapConsumers.lookup
    (Held g.consumers fun consumer id ↦ consumer.transport = t ∧ consumer.id = id)
  mapSsrcConsumer : Indexes (g.endsAt t).mapSsrcConsumer
    (Held g.consumers fun consumer ssrc ↦ consumer.transport = t ∧ ssrc ∈ consumer.mediaSsrcs)

/-- The Router knows the live Producers by their ids, has an entry for each of them and for each
live Consumer, and the two maps of entries are the converse of each other. -/
structure Linked (g : Graph π) : Prop where
  mapProducers : Indexes g.mapProducers.lookup (Held g.producers fun producer id ↦ producer.id = id)
  producers : ∀ p, g.mapProducerConsumers p = none ↔ g.producers p = none
  consumers : ∀ c, g.mapConsumerProducer c = none ↔ g.consumers c = none
  converse : Indexes g.mapConsumerProducer
    (Held g.mapProducerConsumers fun consumers c ↦ c ∈ consumers)

/-- Every map is exact. -/
structure Consistent (g : Graph π) : Prop where
  linked : g.Linked
  producersOf : ∀ t, g.ProducersOf t
  consumersOf : ∀ t, g.ConsumersOf t

/-- Every live Consumer has a live Producer. -/
def Sourced (g : Graph π) : Prop :=
  ∀ c, g.consumers c ≠ none → ∃ p, g.mapConsumerProducer c = some p ∧ g.producers p ≠ none

variable {n : Names} {env : Surroundings} {g g' : Graph π} {t c p : ℕ} {consumer : Consumer}
  {producer : Producer π} {ends : Ends} {consumers : Finset ℕ} {l : List ℕ}

theorem endsAt_of (h : g.ends t = some ends) : g.endsAt t = ends := by
  rw [endsAt, h, Option.getD_some]

theorem endsAt_setEnds_self : (g.setEnds t ends).endsAt t = ends := by
  refine endsAt_of ?_
  change Function.update g.ends t (some ends) t = some ends
  exact Function.update_self _ _ _

theorem endsAt_setEnds_of_ne {t' : ℕ} (h : t' ≠ t) :
    (g.setEnds t ends).endsAt t' = g.endsAt t' := by
  change (Function.update g.ends t (some ends) t').getD {} = g.endsAt t'
  rw [Function.update_of_ne h, endsAt]

theorem setEnds_ends_eq_none_iff (h : g.ends t = some ends) {ends' : Ends} {t' : ℕ} :
    (g.setEnds t ends').ends t' = none ↔ g.ends t' = none :=
  update_some_eq_none_iff h ends' t'

theorem ProducersOf.congr (h : g.ProducersOf t) (hproducers : g'.producers = g.producers)
    (hmap : (g'.endsAt t).mapProducers = (g.endsAt t).mapProducers) : g'.ProducersOf t := by
  rw [ProducersOf, hproducers, hmap]
  exact h

theorem ConsumersOf.congr (h : g.ConsumersOf t) (hconsumers : g'.consumers = g.consumers)
    (hmap : (g'.endsAt t).mapConsumers = (g.endsAt t).mapConsumers)
    (hssrc : (g'.endsAt t).mapSsrcConsumer = (g.endsAt t).mapSsrcConsumer) :
    g'.ConsumersOf t := by
  constructor
  · rw [hconsumers, hmap]
    exact h.mapConsumers
  · rw [hconsumers, hssrc]
    exact h.mapSsrcConsumer

/-- The listener of a live Producer is live. -/
theorem ProducersOf.live (h : g.ProducersOf producer.transport)
    (hp : g.producers p = some producer) : ∃ ends, g.ends producer.transport = some ends := by
  have hmap := (h producer.id p).mpr ⟨producer, hp, rfl, rfl⟩
  cases hends : g.ends producer.transport with
  | some ends => exact ⟨ends, rfl⟩
  | none =>
    rw [endsAt, hends] at hmap
    cases hmap

/-- The listener of a live Consumer is live. -/
theorem ConsumersOf.live (h : g.ConsumersOf consumer.transport)
    (hc : g.consumers c = some consumer) : ∃ ends, g.ends consumer.transport = some ends := by
  have hmap := (h.mapConsumers consumer.id c).mpr ⟨consumer, hc, rfl, rfl⟩
  cases hends : g.ends consumer.transport with
  | some ends => exact ⟨ends, rfl⟩
  | none =>
    rw [endsAt, hends] at hmap
    cases hmap

theorem Linked.sourced (h : g.Linked) : g.Sourced := by
  intro c hc
  obtain ⟨p, hp⟩ := Option.ne_none_iff_exists'.mp (mt (h.consumers c).mp hc)
  obtain ⟨consumers, hconsumers, -⟩ := (h.converse c p).mp hp
  refine ⟨p, hp, mt (h.producers p).mpr ?_⟩
  rw [hconsumers]
  exact Option.some_ne_none _

/-! ## Uses of an object -/

theorem getProducer_of (h : g.producers p = some producer) : g.getProducer p = .ok producer := by
  rw [getProducer, h]

theorem getConsumer_of (h : g.consumers c = some consumer) : g.getConsumer c = .ok consumer := by
  rw [getConsumer, h]

theorem getEnds_of (h : g.ends t = some ends) : g.getEnds t = .ok ends := by rw [getEnds, h]

/-- A live Consumer may ask for a key frame. -/
theorem onTransportConsumerKeyFrameRequested_of (hsourced : g.Sourced) (hc : g.consumers c ≠ none) :
    g.onTransportConsumerKeyFrameRequested c = .ok () := by
  obtain ⟨p, hp, hproducer⟩ := hsourced c hc
  obtain ⟨producer, hproducer⟩ := Option.ne_none_iff_exists'.mp hproducer
  rw [onTransportConsumerKeyFrameRequested, hp]
  exact bind_eq_ok.mpr ⟨producer, getProducer_of hproducer, rfl⟩

/-- A loop returns if all of its steps do. -/
theorem forM_eq_ok {α : Type} {f : α → Except Fault Unit} {l : List α}
    (h : ∀ x ∈ l, f x = .ok ()) : l.forM f = .ok () := by
  induction l with
  | nil => rfl
  | cons x l ih =>
    exact bind_eq_ok.mpr ⟨(), h x List.mem_cons_self,
      ih fun y hy ↦ h y (List.mem_cons_of_mem x hy)⟩

/-- A Transport has live Consumers in its map. -/
theorem ConsumersOf.ne_none (h : g.ConsumersOf t) (hends : g.ends t = some ends) :
    ∀ c ∈ ends.mapConsumers.addresses, g.consumers c ≠ none := by
  intro c hc
  have hmap := h.mapConsumers
  rw [endsAt_of hends] at hmap
  obtain ⟨id, consumer, hconsumer, -⟩ := (Directory.mem_addresses hmap).mp hc
  rw [hconsumer]
  exact Option.some_ne_none _

/-- Some live Consumers and some in the map of the Transport may ask for key frames. -/
theorem requestKeyFrames_of (hsourced : g.Sourced) (hends : g.ends t = some ends)
    (hmap : ∀ c ∈ ends.mapConsumers.addresses, g.consumers c ≠ none) {consumers : List ℕ}
    (hconsumers : ∀ c ∈ consumers, g.consumers c ≠ none) :
    g.requestKeyFrames env t consumers = .ok () := by
  refine bind_eq_ok.mpr ⟨ends, getEnds_of hends, forM_eq_ok fun c hc ↦ ?_⟩
  refine onTransportConsumerKeyFrameRequested_of hsourced ?_
  rcases List.mem_append.mp (of_decide_eq_true (List.mem_filter.mp hc).2) with hc | hc
  · exact hconsumers c hc
  · exact hmap c hc

/-- A live Consumer may be told something. -/
theorem notify_of (hsourced : g.Sourced) (hconsumersOf : ∀ t, g.ConsumersOf t)
    (hc : g.consumers c = some consumer) : g.notify env c = .ok () := by
  obtain ⟨ends, hends⟩ := (hconsumersOf consumer.transport).live hc
  refine bind_eq_ok.mpr ⟨consumer, getConsumer_of hc, ?_⟩
  refine requestKeyFrames_of hsourced hends ((hconsumersOf _).ne_none hends) fun c' hc' ↦ ?_
  rw [List.mem_singleton.mp hc', hc]
  exact Option.some_ne_none _

/-! ## The Consumers of a Producer are closed -/

/-- A Transport that forgets a deleted Consumer knows those that remain. -/
theorem ConsumersOf.erase (h : g.ConsumersOf t) (hc : g.consumers c = some consumer)
    (hconsumers : g'.consumers = Function.update g.consumers c none)
    (hself : consumer.transport = t → g'.endsAt t = (g.endsAt t).eraseConsumer consumer)
    (hother : consumer.transport ≠ t → g'.endsAt t = g.endsAt t) : g'.ConsumersOf t := by
  by_cases ht : consumer.transport = t
  · constructor
    · rw [hconsumers, hself ht]
      refine h.mapConsumers.delete hc ?_ ?_
      · rintro id ⟨-, rfl⟩
        exact AList.lookup_erase _ _
      · intro id hid
        exact AList.lookup_erase_ne fun heq ↦ hid ⟨ht, heq.symm⟩
    · rw [hconsumers, hself ht]
      refine h.mapSsrcConsumer.delete hc ?_ ?_
      · rintro ssrc ⟨-, hssrc⟩
        exact if_pos hssrc
      · intro ssrc hssrc
        exact if_neg fun hmem ↦ hssrc ⟨ht, hmem⟩
  · constructor
    · rw [hconsumers, hother ht]
      exact h.mapConsumers.delete hc (fun _ hid ↦ absurd hid.1 ht) fun _ _ ↦ rfl
    · rw [hconsumers, hother ht]
      exact h.mapSsrcConsumer.delete hc (fun _ hssrc ↦ absurd hssrc.1 ht) fun _ _ ↦ rfl

theorem update_none_apply {α : Type} (f : ℕ → Option α) (c c' : ℕ) :
    Function.update f c none c' = if c' ∈ [c] then none else f c' := by
  simp only [Function.update_apply, List.mem_singleton]

theorem ite_mem_cons {α : Type} (c' c : ℕ) (l : List ℕ) (o : Option α) :
    (if c' ∈ l then none else if c' ∈ [c] then none else o) = if c' ∈ c :: l then none else o := by
  by_cases hl : c' ∈ l
  · rw [if_pos hl, if_pos (List.mem_cons_of_mem c hl)]
  · rw [if_neg hl]
    simp only [List.mem_cons, hl, or_false, List.not_mem_nil]

/-- What there is when some Consumers are closed because their Producer is. -/
structure Without (g : Graph π) (closed : List ℕ) (g' : Graph π) : Prop where
  consumers : ∀ c, g'.consumers c = if c ∈ closed then none else g.consumers c
  mapConsumerProducer : ∀ c,
    g'.mapConsumerProducer c = if c ∈ closed then none else g.mapConsumerProducer c
  consumersOf : ∀ t, g'.ConsumersOf t
  producers : g'.producers = g.producers
  mapProducers : g'.mapProducers = g.mapProducers
  mapProducerConsumers : g'.mapProducerConsumers = g.mapProducerConsumers
  mapProducersOf : ∀ t, (g'.endsAt t).mapProducers = (g.endsAt t).mapProducers
  transports : ∀ t, g'.ends t = none ↔ g.ends t = none

theorem Without.nil (h : ∀ t, g.ConsumersOf t) : g.Without [] g where
  consumers _ := (if_neg List.not_mem_nil).symm
  mapConsumerProducer _ := (if_neg List.not_mem_nil).symm
  consumersOf := h
  producers := rfl
  mapProducers := rfl
  mapProducerConsumers := rfl
  mapProducersOf _ := rfl
  transports _ := Iff.rfl

theorem Without.cons {g'' : Graph π} (h : g.Without [c] g') (h' : g'.Without l g'') :
    g.Without (c :: l) g'' where
  consumers c' := by
    rw [h'.consumers, h.consumers]
    exact ite_mem_cons c' c l _
  mapConsumerProducer c' := by
    rw [h'.mapConsumerProducer, h.mapConsumerProducer]
    exact ite_mem_cons c' c l _
  consumersOf := h'.consumersOf
  producers := h'.producers.trans h.producers
  mapProducers := h'.mapProducers.trans h.mapProducers
  mapProducerConsumers := h'.mapProducerConsumers.trans h.mapProducerConsumers
  mapProducersOf t := (h'.mapProducersOf t).trans (h.mapProducersOf t)
  transports t := (h'.transports t).trans (h.transports t)

/-- A Consumer that is not closed is as live as it was. -/
theorem Without.sourced (h : g.Without l g') (hsourced : g.Sourced) : g'.Sourced := by
  intro c hc
  rw [h.consumers] at hc
  by_cases hl : c ∈ l
  · rw [if_pos hl] at hc
    exact absurd rfl hc
  · rw [if_neg hl] at hc
    rw [h.mapConsumerProducer, if_neg hl, h.producers]
    exact hsourced c hc

/-- A Consumer that is told that its Producer is closed is gone. -/
theorem producerClosed_spec (hsourced : g.Sourced) (hconsumersOf : ∀ t, g.ConsumersOf t)
    (hc : g.consumers c = some consumer) :
    ∃ g', g.producerClosed n env c = .ok g' ∧ g.Without [c] g' := by
  obtain ⟨ends, hends⟩ := (hconsumersOf consumer.transport).live hc
  obtain ⟨p, hp, -⟩ := hsourced c (by rw [hc]; exact Option.some_ne_none _)
  let g₁ := g.setEnds consumer.transport (ends.eraseConsumer consumer)
  let g₂ : Graph π :=
    { g₁ with mapConsumerProducer := Function.update g.mapConsumerProducer c none }
  have hforget : g.forgetConsumer consumer.transport consumer = .ok g₁ :=
    bind_eq_ok.mpr ⟨ends, getEnds_of hends, rfl⟩
  have hrouter : g₁.onTransportConsumerProducerClosed n c = .ok g₂ := by
    refine bind_eq_ok.mpr ⟨(), ?_, rfl⟩
    change msAssert (g.mapConsumerProducer c).isSome _ = _
    rw [hp, Option.isSome_some, msAssert_true]
  have hself : (g₂.deleteConsumer c).endsAt consumer.transport =
      (g.endsAt consumer.transport).eraseConsumer consumer := by
    rw [endsAt_of hends]
    exact endsAt_setEnds_self
  have hother : ∀ t, consumer.transport ≠ t → (g₂.deleteConsumer c).endsAt t = g.endsAt t :=
    fun t ht ↦ endsAt_setEnds_of_ne (Ne.symm ht)
  have hwithout : g.Without [c] (g₂.deleteConsumer c) :=
    { consumers := update_none_apply g.consumers c
      mapConsumerProducer := update_none_apply g.mapConsumerProducer c
      consumersOf := fun t ↦ (hconsumersOf t).erase hc rfl
        (fun ht ↦ by rw [← ht]; exact hself) (hother t)
      producers := rfl
      mapProducers := rfl
      mapProducerConsumers := rfl
      mapProducersOf := fun t ↦ by
        by_cases ht : consumer.transport = t
        · rw [← ht, hself]
          rfl
        · rw [hother t ht]
      transports := fun t ↦ setEnds_ends_eq_none_iff hends }
  refine ⟨g₂.deleteConsumer c, bind_eq_ok.mpr ⟨consumer, getConsumer_of hc,
    bind_eq_ok.mpr ⟨g₁, hforget, bind_eq_ok.mpr ⟨g₂, hrouter,
      bind_eq_ok.mpr ⟨(), ?_, rfl⟩⟩⟩⟩, hwithout⟩
  have hends' : (g₂.deleteConsumer c).ends consumer.transport =
      some (ends.eraseConsumer consumer) := Function.update_self _ _ _
  exact requestKeyFrames_of (hwithout.sourced hsourced) hends'
    ((hwithout.consumersOf _).ne_none hends') fun _ h ↦ absurd h List.not_mem_nil

/-- One step of the loop over the Consumers. -/
theorem producerClosed_step (hsourced : g.Sourced) (hconsumersOf : ∀ t, g.ConsumersOf t)
    (hc : g.consumers c ≠ none) :
    ∃ g', g.producerClosed n env c = .ok g' ∧ g.Without [c] g' ∧
      (g'.Sourced ∧ ∀ t, g'.ConsumersOf t) ∧
      ∀ c', c' ≠ c → g.consumers c' ≠ none → g'.consumers c' ≠ none := by
  obtain ⟨consumer, hconsumer⟩ := Option.ne_none_iff_exists'.mp hc
  obtain ⟨g', hok, hwithout⟩ := producerClosed_spec hsourced hconsumersOf hconsumer
  refine ⟨g', hok, hwithout, ⟨hwithout.sourced hsourced, hwithout.consumersOf⟩, ?_⟩
  intro c' hne hc'
  rwa [hwithout.consumers, if_neg (mt List.mem_singleton.mp hne)]

/-- All Consumers of a live Producer are closed. -/
theorem closeConsumers_spec (n : Names) (env : Surroundings) (h : g.Linked)
    (hconsumersOf : ∀ t, g.ConsumersOf t) (hp : g.mapProducerConsumers p = some consumers) :
    ∃ g', g.closeConsumers n env consumers = .ok g' ∧ g.Without (env.members consumers) g' := by
  have hlive : ∀ c ∈ env.members consumers, g.consumers c ≠ none := by
    intro c hc
    have hmap := (h.converse c p).mpr ⟨consumers, hp, Surroundings.mem_members.mp hc⟩
    refine mt (h.consumers c).mpr ?_
    rw [hmap]
    exact Option.some_ne_none _
  obtain ⟨g', hok, hwithout, -⟩ := Run.foldlM_distinct (R := Without)
    (fun _ (hg : Sourced _ ∧ ∀ t, ConsumersOf _ t) ↦ Without.nil hg.2)
    (fun _ _ _ _ _ ↦ Without.cons)
    (fun _ _ hg hc ↦ producerClosed_step hg.1 hg.2 hc) (env.members consumers)
    ⟨h.sourced, hconsumersOf⟩ (Surroundings.nodup_members consumers) hlive
  exact ⟨g', hok, hwithout⟩

/-! ## A Producer is deleted -/

/-- What there is when some Producers are gone, and their Consumers with them. -/
structure Closed (g : Graph π) (closed : List ℕ) (g' : Graph π) : Prop where
  linked : g'.Linked
  consumersOf : ∀ t, g'.ConsumersOf t
  producers : ∀ p, g'.producers p = if p ∈ closed then none else g.producers p
  mapProducersOf : ∀ t, (g'.endsAt t).mapProducers = (g.endsAt t).mapProducers
  transports : ∀ t, g'.ends t = none ↔ g.ends t = none

/-- The Router knows every live Producer. -/
theorem findProducer_of (n : Names) (h : g.Linked) (hp : g.producers p = some producer) :
    ∃ consumers, g.mapProducerConsumers p = some consumers ∧
      g.findProducer n p = .ok (producer, consumers) := by
  have hlive : g.mapProducerConsumers p ≠ none := by
    refine mt (h.producers p).mp ?_
    rw [hp]
    exact Option.some_ne_none _
  obtain ⟨consumers, hconsumers⟩ := Option.ne_none_iff_exists'.mp hlive
  refine ⟨consumers, hconsumers, bind_eq_ok.mpr ⟨producer, getProducer_of hp, ?_⟩⟩
  have hid : g.mapProducers.lookup producer.id = some p :=
    (h.mapProducers producer.id p).mpr ⟨producer, hp, rfl⟩
  rw [hconsumers]
  refine bind_eq_ok.mpr ⟨(), ?_, rfl⟩
  rw [hid, Option.isSome_some, msAssert_true]

/-- After its Consumers are closed the Producer can be erased and deleted. -/
theorem Without.closed (hwithout : g.Without l g') (h : g.Linked)
    (hp : g.producers p = some producer) (hconsumers : g.mapProducerConsumers p = some consumers)
    (hl : ∀ c, c ∈ l ↔ c ∈ consumers) :
    g.Closed [p] ((g'.eraseProducer p producer).deleteProducer p) where
  linked :=
    { mapProducers := by
        change Indexes (g'.mapProducers.erase producer.id).lookup
          (Held (Function.update g'.producers p none) _)
        rw [hwithout.mapProducers, hwithout.producers]
        exact Directory.indexes_erase h.mapProducers hp fun _ ↦ eq_comm
      producers := fun q ↦ by
        change Function.update g'.mapProducerConsumers p none q = none ↔
          Function.update g'.producers p none q = none
        rw [hwithout.mapProducerConsumers, hwithout.producers]
        exact update_eq_none_iff h.producers (iff_of_true rfl rfl) p q
      consumers := fun c ↦ by
        change g'.mapConsumerProducer c = none ↔ g'.consumers c = none
        rw [hwithout.mapConsumerProducer, hwithout.consumers]
        split_ifs
        · exact iff_of_true rfl rfl
        · exact h.consumers c
      converse := by
        change Indexes g'.mapConsumerProducer
          (Held (Function.update g'.mapProducerConsumers p none) _)
        rw [hwithout.mapProducerConsumers]
        refine h.converse.delete hconsumers (fun c hc ↦ ?_) fun c hc ↦ ?_
        · rw [hwithout.mapConsumerProducer, if_pos ((hl c).mpr hc)]
        · rw [hwithout.mapConsumerProducer, if_neg (mt (hl c).mp hc)] }
  consumersOf t := (hwithout.consumersOf t).congr rfl rfl rfl
  producers q := by
    change Function.update g'.producers p none q = _
    rw [hwithout.producers, update_none_apply]
  mapProducersOf := hwithout.mapProducersOf
  transports := hwithout.transports

theorem Closed.nil (h : g.Linked) (hconsumersOf : ∀ t, g.ConsumersOf t) : g.Closed [] g where
  linked := h
  consumersOf := hconsumersOf
  producers _ := (if_neg List.not_mem_nil).symm
  mapProducersOf _ := rfl
  transports _ := Iff.rfl

theorem Closed.cons {g'' : Graph π} (h : g.Closed [p] g') (h' : g'.Closed l g'') :
    g.Closed (p :: l) g'' where
  linked := h'.linked
  consumersOf := h'.consumersOf
  producers q := by
    rw [h'.producers, h.producers]
    exact ite_mem_cons q p l _
  mapProducersOf t := (h'.mapProducersOf t).trans (h.mapProducersOf t)
  transports t := (h'.transports t).trans (h.transports t)

/-- `Router::OnTransportDataProducerClosed` returns, and the DataProducer can be deleted. -/
theorem onTransportProducerClosed_spec (h : g.Linked) (hconsumersOf : ∀ t, g.ConsumersOf t)
    (hp : g.producers p = some producer) :
    ∃ g', g.onTransportProducerClosed n env p = .ok g' ∧ g.Closed [p] (g'.deleteProducer p) := by
  obtain ⟨consumers, hconsumers, hfind⟩ := findProducer_of n h hp
  obtain ⟨g', hclose, hwithout⟩ := closeConsumers_spec n env h hconsumersOf hconsumers
  have hclosed := hwithout.closed h hp hconsumers fun _ ↦ Surroundings.mem_members
  exact ⟨g'.eraseProducer p producer,
    bind_eq_ok.mpr ⟨_, hfind, bind_eq_ok.mpr ⟨g', hclose, rfl⟩⟩, hclosed⟩

/-- A loop over live Producers closes all of them. The graph may be a part of what the loop is
about. -/
theorem foldlM_closed {σ : Type} {f : σ → ℕ → Except Fault σ} {Inv : σ → Prop}
    (graph : σ → Graph π)
    (hstep : ∀ s p, Inv s → (graph s).Linked → (∀ t, (graph s).ConsumersOf t) →
      (graph s).producers p ≠ none →
      ∃ s', f s p = .ok s' ∧ (graph s).Closed [p] (graph s') ∧ Inv s') {s : σ} (hs : Inv s)
    (h : (graph s).Linked) (hconsumersOf : ∀ t, (graph s).ConsumersOf t) (hl : l.Nodup)
    (hlive : ∀ p ∈ l, (graph s).producers p ≠ none) :
    ∃ s', l.foldlM f s = .ok s' ∧ (graph s).Closed l (graph s') ∧ Inv s' := by
  obtain ⟨s', hok, hclosed, hs', -⟩ := Run.foldlM_distinct
    (R := fun s l s' ↦ (graph s).Closed l (graph s'))
    (fun s (hs : Inv s ∧ (graph s).Linked ∧ ∀ t, (graph s).ConsumersOf t) ↦
      Closed.nil hs.2.1 hs.2.2)
    (fun _ _ _ _ _ ↦ Closed.cons)
    (fun s p hs (hp : (graph s).producers p ≠ none) ↦ by
      obtain ⟨s', hok, hclosed, hs'⟩ := hstep s p hs.1 hs.2.1 hs.2.2 hp
      refine ⟨s', hok, hclosed, ⟨hs', hclosed.linked, hclosed.consumersOf⟩, fun q hq hlive ↦ ?_⟩
      rwa [hclosed.producers, if_neg (mt List.mem_singleton.mp hq)])
    l ⟨hs, h, hconsumersOf⟩ hl hlive
  exact ⟨s', hok, hclosed, hs'⟩

end Graph

end RouterGraph

end MediasoupSfu
