import Mathlib.Data.List.Sort
import MediasoupSfu.Consumer.IncreaseLayer
import MediasoupSfu.Library.Run

/-!
# Distributing the available bitrate

`DistributeAvailableOutgoingBitrate` hands out the available bitrate layer by layer: in each pass
every consumer with a priority gets as many calls of `IncreaseLayer` as its priority says, in
descending order of priorities, and there are passes as long as some bitrate is used.

The three loops are about any kind of consumer whose `IncreaseLayer` uses at most what it is given
and keeps doing nothing when it has done nothing (`Lawful`). Each pass that is not the last one uses
some bitrate, and so does each call that is not the last one for a consumer, even where the counter
of the calls starts over at the priority 255. So the loops end. Nothing is lost
(`distribute_spec`), and in the last pass every consumer has been asked in vain for what is left.

The consumers of the transport are `Lawful`, whatever their streams and provisional layers are
(`distributeAvailableOutgoingBitrate_spec`).
-/

namespace MediasoupSfu

namespace Bwe

/-! ## The loops -/

section Loops

variable {α : Type} (increase : α → ℕ → Except Fault (ℕ × α))

/-- The calls for one consumer, with what they return, the bitrate that is left and the consumer.
The counter has 8 bits. -/
def increaseLayers (priority i : BitVec 8) (availableBitrate : ℕ) (consumer : α) :
    Except Fault (List ℕ × ℕ × α) :=
  if i ≤ priority then
    match increase consumer availableBitrate with
    | .error f => .error f
    | .ok (usedBitrate, consumer) =>
      if _hle : usedBitrate ≤ availableBitrate then
        -- Exit the loop fast if used bitrate is 0.
        if _hne : usedBitrate = 0 then .ok ([0], availableBitrate, consumer)
        else do
          let (calls, result) ← increaseLayers priority (i + 1) (availableBitrate - usedBitrate)
            consumer
          return (usedBitrate :: calls, result)
      else .error (.assertion "Consumer used more layer bitrate than given")
  else .ok ([], availableBitrate, consumer)
  termination_by availableBitrate

/-- The loop over the consumers. -/
def increasePass : List (BitVec 8 × α) → ℕ → Except Fault (List ℕ × ℕ × List (BitVec 8 × α))
  | [], availableBitrate => .ok ([], availableBitrate, [])
  | (priority, consumer) :: consumers, availableBitrate => do
    let (calls, availableBitrate, consumer) ← increaseLayers increase priority 1 availableBitrate
      consumer
    let (calls', availableBitrate, consumers) ← increasePass consumers availableBitrate
    return (calls ++ calls', availableBitrate, (priority, consumer) :: consumers)

variable {increase}

/-- The calls for one consumer and what is left make up the bitrate. -/
theorem increaseLayers_sum {priority i : BitVec 8} {available available' : ℕ} {c t : α}
    {calls : List ℕ}
    (h : increaseLayers increase priority i available c = .ok (calls, available', t)) :
    calls.sum + available' = available := by
  induction available using Nat.strongRecOn generalizing i c calls with
  | ind available ih =>
    rw [increaseLayers] at h
    split at h
    · split at h
      · cases h
      · rename_i used c' hincrease
        split at h
        · rename_i hle
          split at h
          · cases h
            exact Nat.zero_add _
          · cases hrest : increaseLayers increase priority (i + 1) (available - used) c' with
            | error f =>
              rw [hrest] at h
              cases h
            | ok result =>
              obtain ⟨calls', result⟩ := result
              simp only [bind, Except.bind, hrest] at h
              cases h
              have hsum := ih (available - used) (by omega) hrest
              rw [List.sum_cons]
              omega
        · cases h
    · cases h
      exact Nat.zero_add _

theorem increasePass_sum {consumers consumers' : List (BitVec 8 × α)} {available available' : ℕ}
    {calls : List ℕ}
    (h : increasePass increase consumers available = .ok (calls, available', consumers')) :
    calls.sum + available' = available := by
  induction consumers generalizing available consumers' calls with
  | nil =>
    cases h
    exact Nat.zero_add _
  | cons entry consumers ih =>
    obtain ⟨priority, c⟩ := entry
    rw [increasePass] at h
    cases hlayers : increaseLayers increase priority 1 available c with
    | error f =>
      rw [hlayers] at h
      cases h
    | ok result =>
      obtain ⟨calls₁, available₁, t⟩ := result
      rw [hlayers] at h
      cases hpass : increasePass increase consumers available₁ with
      | error f =>
        simp only [bind, Except.bind, hpass] at h
        cases h
      | ok result =>
        simp only [bind, Except.bind, hpass] at h
        cases h
        have hfirst := increaseLayers_sum hlayers
        have hrest := ih hpass
        rw [List.sum_append]
        omega

variable (increase)

/-- Redistribute the available bitrate by allowing consumers to increase layer by layer. -/
def distribute (consumers : List (BitVec 8 × α)) (availableBitrate : ℕ) :
    Except Fault (List ℕ × ℕ × List (BitVec 8 × α)) :=
  if 0 < availableBitrate then
    match _hpass : increasePass increase consumers availableBitrate with
    | .error f => .error f
    | .ok (calls, availableBitrate', consumers) =>
      -- If no consumer used bitrate, exit the loop.
      if _hne : availableBitrate' = availableBitrate then .ok (calls, availableBitrate', consumers)
      else do
        let (calls', result) ← distribute consumers availableBitrate'
        return (calls ++ calls', result)
  else .ok ([], availableBitrate, consumers)
  termination_by availableBitrate
  decreasing_by
    have := increasePass_sum _hpass
    omega

/-! ## What the loops do -/

/-- A call of `IncreaseLayer` does not fail where it may be made, uses at most what it is given,
changes only what `forget` leaves out, and does nothing again when it has used nothing. -/
structure Lawful {β : Type} (Ready : α → Prop) (forget : α → β) : Prop where
  call : ∀ c bitrate, Ready c → ∃ used t, increase c bitrate = .ok (used, t) ∧ used ≤ bitrate ∧
    Ready t ∧ forget t = forget c ∧ (used = 0 → increase t bitrate = .ok (0, t))

variable {increase} {β : Type} {Ready : α → Prop} {forget : α → β}

/-- **The calls for one consumer**: when they leave the bitrate as it is, the consumer has been
asked in vain. -/
theorem Lawful.increaseLayers (h : Lawful increase Ready forget) (priority i : BitVec 8)
    (available : ℕ) {c : α} (hready : Ready c) :
    ∃ calls available' t, increaseLayers increase priority i available c =
        .ok (calls, available', t) ∧ Ready t ∧ forget t = forget c ∧
      (i ≤ priority → available' = available → increase t available = .ok (0, t)) := by
  induction available using Nat.strongRecOn generalizing i c with
  | ind available ih =>
    rw [Bwe.increaseLayers]
    split
    · obtain ⟨used, t, hcall, hle, hready', hforget, hagain⟩ := h.call c available hready
      rw [hcall]
      dsimp only
      rw [dif_pos hle]
      split
      · rename_i hzero
        exact ⟨_, _, t, rfl, hready', hforget, fun _ _ ↦ hagain hzero⟩
      · rename_i hne
        obtain ⟨calls, available', u, hrest, hready'', hforget', -⟩ :=
          ih (available - used) (by omega) (i + 1) hready'
        refine ⟨used :: calls, available', u, by rw [hrest]; rfl, hready'', hforget'.trans hforget,
          fun _ heq ↦ ?_⟩
        -- some bitrate has been used
        have hsum := increaseLayers_sum hrest
        omega
    · rename_i hlt
      exact ⟨[], available, c, rfl, hready, rfl, fun hle ↦ absurd hle hlt⟩

/-- **One pass.** When it leaves the bitrate as it is, every consumer has been asked in vain. -/
theorem Lawful.increasePass (h : Lawful increase Ready forget) {consumers : List (BitVec 8 × α)}
    (hready : ∀ e ∈ consumers, 0 < e.1 ∧ Ready e.2) (available : ℕ) :
    ∃ calls available' consumers', increasePass increase consumers available =
        .ok (calls, available', consumers') ∧ (∀ e ∈ consumers', 0 < e.1 ∧ Ready e.2) ∧
      consumers'.map (fun e ↦ (e.1, forget e.2)) = consumers.map (fun e ↦ (e.1, forget e.2)) ∧
      (available' = available → ∀ e ∈ consumers', increase e.2 available = .ok (0, e.2)) := by
  induction consumers generalizing available with
  | nil => exact ⟨[], available, [], rfl, nofun, rfl, fun _ ↦ nofun⟩
  | cons entry consumers ih =>
    obtain ⟨priority, c⟩ := entry
    obtain ⟨hpos, hc⟩ := hready (priority, c) List.mem_cons_self
    obtain ⟨calls₁, available₁, t, hlayers, ht, hforget, hvain⟩ :=
      h.increaseLayers priority 1 available hc
    obtain ⟨calls₂, available₂, consumers', hpass, hready', hmap, hvain'⟩ :=
      ih (fun e he ↦ hready e (List.mem_cons_of_mem _ he)) available₁
    refine ⟨calls₁ ++ calls₂, available₂, (priority, t) :: consumers', ?_, ?_, ?_, fun heq ↦ ?_⟩
    · rw [Bwe.increasePass, hlayers]
      simp only [bind, Except.bind, hpass]
      rfl
    · intro e he
      rcases List.mem_cons.mp he with rfl | he
      · exact ⟨hpos, ht⟩
      · exact hready' e he
    · rw [List.map_cons, List.map_cons, hmap, hforget]
    · have hfirst := increaseLayers_sum hlayers
      have hrest := increasePass_sum hpass
      obtain rfl : available₁ = available := by omega
      intro e he
      rcases List.mem_cons.mp he with rfl | he
      · exact hvain (by rw [BitVec.le_def]; rw [BitVec.lt_def] at hpos; exact hpos) rfl
      · exact hvain' (by omega) e he

/-- **The distribution** ends without a failure, loses nothing, and stops when nothing is left or
every consumer has been asked in vain for what is left. -/
theorem Lawful.distribute (h : Lawful increase Ready forget) {consumers : List (BitVec 8 × α)}
    (hready : ∀ e ∈ consumers, 0 < e.1 ∧ Ready e.2) (available : ℕ) :
    ∃ calls remaining consumers', distribute increase consumers available =
        .ok (calls, remaining, consumers') ∧ calls.sum + remaining = available ∧
      consumers'.map (fun e ↦ (e.1, forget e.2)) = consumers.map (fun e ↦ (e.1, forget e.2)) ∧
      (remaining = 0 ∨ ∀ e ∈ consumers', increase e.2 remaining = .ok (0, e.2)) := by
  induction available using Nat.strongRecOn generalizing consumers with
  | ind available ih =>
    rw [Bwe.distribute]
    split
    · obtain ⟨calls, available', consumers', hpass, hready', hmap, hvain⟩ :=
        h.increasePass hready available
      have hsum := increasePass_sum hpass
      split
      · rename_i f hfail
        rw [hpass] at hfail
        cases hfail
      · rename_i calls₁ available₁ consumers₁ hpass₁
        rw [hpass] at hpass₁
        cases hpass₁
        split
        · rename_i heq
          subst heq
          exact ⟨calls, available', consumers', rfl, hsum, hmap, Or.inr (hvain rfl)⟩
        · rename_i hne
          obtain ⟨calls₂, remaining, consumers'', hrest, hsum', hmap', hstop⟩ :=
            ih available' (by omega) hready'
          refine ⟨calls ++ calls₂, remaining, consumers'', by rw [hrest]; rfl, ?_,
            hmap'.trans hmap, hstop⟩
          rw [List.sum_append]
          omega
    · rename_i hzero
      exact ⟨[], available, consumers, rfl, Nat.zero_add _, rfl, Or.inl (by omega)⟩

end Loops

/-! ## The transport -/

inductive BweType
  | transportCc
  | remb
  deriving DecidableEq, Repr

/-- What is read of `tccClient`. -/
structure TransportCongestionControlClient where
  bweType : BweType
  availableBitrate : ℕ

/-- `multimapPriorityConsumer.emplace(priority, consumer)`, in ascending order of priorities: after
those of the same priority. -/
def emplace (map : List (BitVec 8 × Consumer)) (priority : BitVec 8) (consumer : Consumer) :
    List (BitVec 8 × Consumer) :=
  map.orderedInsert (fun a b ↦ a.1 < b.1) (priority, consumer)

/-- A consumer comes into the map with its priority (if > 0). -/
def fillWith (map : List (BitVec 8 × Consumer)) (consumer : Consumer) :
    Except Fault (List (BitVec 8 × Consumer)) := do
  let priority ← consumer.getBitratePriority
  return if 0 < priority then emplace map priority consumer else map

/-- Fill the map with consumers and their priority (if > 0). -/
def fillMap (mapConsumers : List Consumer) : Except Fault (List (BitVec 8 × Consumer)) :=
  mapConsumers.foldlM fillWith []

/-- What comes of a distribution: what the calls of `IncreaseLayer` return, what is left, and the
consumers with a priority as they are before `ApplyLayers`. -/
structure Distribution where
  usedBitrates : List ℕ
  availableBitrate : ℕ
  consumers : List (BitVec 8 × Consumer)

/-- `DistributeAvailableOutgoingBitrate()`, until it instructs the consumers to apply their computed
layers. -/
def distributeAvailableOutgoingBitrate (products : FloatProducts)
    (tccClient : Option TransportCongestionControlClient) (mapConsumers : List Consumer) :
    Except Fault Distribution :=
  match tccClient with
  | none => .error (.assertion "no TransportCongestionClient")
  | some tccClient => do
    let map ← fillMap mapConsumers
    -- Nobody wants bitrate. Exit.
    if map.isEmpty then return ⟨[], tccClient.availableBitrate, []⟩
    else
      let (usedBitrates, availableBitrate, consumers) ←
        distribute (Consumer.increaseLayer products (tccClient.bweType = .remb)) map.reverse
          tccClient.availableBitrate
      return ⟨usedBitrates, availableBitrate, consumers⟩

/-- A consumer with its priority, if it has one. -/
def Consumer.prioritized (c : Consumer) : Option (BitVec 8 × Consumer) :=
  match c.getBitratePriority with
  | .error _ => none
  | .ok priority => if 0 < priority then some (priority, c) else none

/-- One more consumer. -/
theorem fillWith_spec (filled : List Consumer) (map : List (BitVec 8 × Consumer)) (c : Consumer)
    (hmap : map.Perm (filled.filterMap Consumer.prioritized)) (hc : c.WellFormed) :
    ∃ map', fillWith map c = .ok map' ∧
      map'.Perm ((filled ++ [c]).filterMap Consumer.prioritized) := by
  obtain ⟨priority, hpriority, -⟩ := hc.getBitratePriority
  rw [fillWith, hpriority]
  refine ⟨_, rfl, ?_⟩
  rw [List.filterMap_append]
  split
  · rename_i hpos
    have hsome : c.prioritized = some (priority, c) := by
      rw [Consumer.prioritized, hpriority]
      exact if_pos hpos
    rw [List.filterMap_cons_some hsome]
    have hinsert : (emplace map priority c).Perm ((priority, c) :: map) :=
      List.perm_orderedInsert _ _ _
    exact (hinsert.trans (hmap.cons _)).trans (List.perm_append_singleton _ _).symm
  · rename_i hzero
    have hnone : c.prioritized = none := by
      rw [Consumer.prioritized, hpriority]
      exact if_neg hzero
    rw [List.filterMap_cons_none hnone, List.filterMap_nil, List.append_nil]
    exact hmap

/-- **The map** has the consumers with a priority. -/
theorem fillMap_spec {consumers : List Consumer} (h : ∀ c ∈ consumers, c.WellFormed) :
    ∃ map, fillMap consumers = .ok map ∧ map.Perm (consumers.filterMap Consumer.prioritized) :=
  Run.foldlM_invariant fillWith_spec consumers [] [] .rfl
    fun pre c post hsplit ↦ h c (by simp [hsplit])

/-- A consumer with a priority may be asked. -/
theorem Consumer.WellFormed.of_prioritized {c : Consumer} (h : c.WellFormed)
    {e : BitVec 8 × Consumer} (he : c.prioritized = some e) : 0 < e.1 ∧ e.2.Ready := by
  obtain ⟨priority, hpriority, hready⟩ := h.getBitratePriority
  rw [Consumer.prioritized, hpriority] at he
  dsimp only at he
  split at he
  · rename_i hpos
    cases he
    exact ⟨hpos, hready hpos⟩
  · cases he

theorem Consumer.increaseLayer_lawful (products : FloatProducts) (considerLoss : Bool) :
    Lawful (Consumer.increaseLayer products considerLoss) Consumer.Ready Consumer.forget where
  call _ bitrate h := h.increaseLayer products considerLoss bitrate

/-- **The distribution of the bitrate**: no assertion fails in it, nothing of the bitrate is lost,
the consumers with a priority have been asked, and either nothing is left or each of them is asked
for what is left in vain. `IncreaseLayer` with simulcast and SVC takes at most the bitrate, and a
positive part of it if and only if the provisional layers move up within those of the producer. -/
theorem distributeAvailableOutgoingBitrate_spec (products : FloatProducts)
    (tccClient : TransportCongestionControlClient) {consumers : List Consumer}
    (h : ∀ c ∈ consumers, c.WellFormed) :
    (∃ d, distributeAvailableOutgoingBitrate products (some tccClient) consumers = .ok d ∧
      d.usedBitrates.sum + d.availableBitrate = tccClient.availableBitrate ∧
      (d.consumers.map fun e ↦ (e.1, e.2.forget)).Perm
        ((consumers.filterMap Consumer.prioritized).map fun e ↦ (e.1, e.2.forget)) ∧
      (d.availableBitrate = 0 ∨ ∀ e ∈ d.consumers,
        e.2.increaseLayer products (tccClient.bweType = .remb) d.availableBitrate =
          .ok (0, e.2))) ∧
    (∀ (s : SimulcastConsumer) (bitrate : ℕ) (considerLoss : Bool),
      s.WellFormed → s.isActive = true → ∃ used layers,
        s.increaseLayer products bitrate considerLoss =
          .ok (used, { s with provisional := layers }) ∧
        used ≤ bitrate ∧ (0 < used ↔ s.provisional.Below layers) ∧
        (used = 0 → layers = s.provisional) ∧ (layers = s.provisional ∨ s.HasLayers layers)) ∧
    (∀ (s : SvcConsumer) (bitrate : ℕ) (considerLoss : Bool),
      s.WellFormed → s.isActive = true → ∃ used layers,
        s.increaseLayer products bitrate considerLoss =
          .ok (used, { s with provisional := layers }) ∧
        used ≤ bitrate ∧ (0 < used ↔ s.provisional.Below layers) ∧
        (used = 0 → layers = s.provisional) ∧ (layers = s.provisional ∨ s.HasLayers layers)) := by
  refine ⟨?_, fun s bitrate considerLoss hs hactive ↦ ?_,
    fun s bitrate considerLoss hs hactive ↦ ?_⟩
  · obtain ⟨map, hfill, hperm⟩ := fillMap_spec h
    rw [distributeAvailableOutgoingBitrate, hfill]
    cases map with
    | nil =>
      refine ⟨_, rfl, Nat.zero_add _, ?_, Or.inr (List.forall_mem_nil _)⟩
      exact hperm.map _
    | cons entry map =>
      have hready : ∀ e ∈ (entry :: map).reverse, 0 < e.1 ∧ e.2.Ready := by
        intro e he
        have hmem := hperm.mem_iff.mp (List.mem_reverse.mp he)
        obtain ⟨c, hc, hprioritized⟩ := List.mem_filterMap.mp hmem
        exact (h c hc).of_prioritized hprioritized
      obtain ⟨used, remaining, consumers', hdistribute, hsum, hmap, hstop⟩ :=
        (Consumer.increaseLayer_lawful products (tccClient.bweType = .remb)).distribute hready
          tccClient.availableBitrate
      refine ⟨⟨used, remaining, consumers'⟩, ?_, hsum, ?_, hstop⟩
      · simp only [bind, Except.bind, List.isEmpty_cons, hdistribute]
        rfl
      · rw [hmap]
        exact ((List.reverse_perm _).trans hperm).map _
  · obtain ⟨used, layers, hincrease, hspec⟩ := s.increaseLayer_spec products hs hactive bitrate
      considerLoss
    exact ⟨used, layers, hincrease, hspec.used_le, hspec.pos_iff, hspec.unchanged, hspec.hasLayers⟩
  · obtain ⟨used, layers, hincrease, hspec⟩ := s.increaseLayer_spec products hs hactive bitrate
      considerLoss
    exact ⟨used, layers, hincrease, hspec.used_le, hspec.pos_iff, hspec.unchanged, hspec.hasLayers⟩

/-- The products, rounded down. -/
def roundedProducts : FloatProducts where
  more bitrate := 108 * bitrate / 100
  less lossPercentage bitrate := ((1 - lossPercentage / 200) * bitrate).floor.toNat
  more_zero := rfl
  less_zero _ := by
    rw [Nat.cast_zero, mul_zero]
    rfl

/-- Two spatial layers with two temporal layers each. -/
def videoConsumer : SimulcastConsumer where
  producerRtpStreams :=
    [some { score := 10, temporalLayers := 2, layerBitrate := fun _ t ↦ 100 * (t + 1) },
      some { score := 10, temporalLayers := 2, layerBitrate := fun _ t ↦ 300 * (t + 1) }]
  preferred := ⟨1, 1⟩
  nowMs := 60000
  priority := 2

/-- An application of `distributeAvailableOutgoingBitrate_spec`, with the first call. -/
theorem distributeAvailableOutgoingBitrate_video :
    (∃ d, distributeAvailableOutgoingBitrate roundedProducts (some ⟨.remb, 1000⟩)
        [.pipe {}, .simulcast videoConsumer] = .ok d ∧
      d.usedBitrates.sum + d.availableBitrate = 1000 ∧
      (d.consumers.map fun e ↦ (e.1, e.2.forget)).Perm
        [(2, .simulcast videoConsumer)] ∧
      (d.availableBitrate = 0 ∨ ∀ e ∈ d.consumers,
        e.2.increaseLayer roundedProducts true d.availableBitrate = .ok (0, e.2))) ∧
    (videoConsumer.increaseLayer roundedProducts 1000 true).map Prod.fst = .ok 100 := by
  refine ⟨(distributeAvailableOutgoingBitrate_spec roundedProducts ⟨.remb, 1000⟩ ?_).1, by decide⟩
  intro c hc
  rcases List.mem_pair.mp hc with rfl | rfl
  · trivial
  · refine ⟨rfl, Or.inl rfl, Or.inl rfl, fun stream hstream ↦ ?_⟩
    rcases List.mem_pair.mp hstream with hfirst | hsecond
    · cases hfirst
      exact Nat.one_pos
    · cases hsecond
      exact Nat.one_pos

end Bwe

end MediasoupSfu
