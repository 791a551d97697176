import MediasoupSfu.Router.AudioLevelObserver
import MediasoupSfu.Router.Linking

/-!
# The observers of a Router

A Router tells its RTP observers what happens to the Producers that they observe. Which observers
those are is in `mapProducerRtpObservers`; an observer has a table of its own, in which it keeps the
levels of the Producers that are not paused. Both refer to Producers by their addresses.

The observers are `Sound` if both refer to live Producers only, and if the table of an observer has
every Producer for which levels may come.
-/

namespace MediasoupSfu

namespace RouterGraph

open Index

/-- What matters of a `Producer`. -/
structure MediaInfo where
  /-- `RTC::Media::Kind::AUDIO` -/
  audio : Bool
  paused : Bool
  deriving DecidableEq, Repr

/-- The observers with the maps of the Router. -/
structure Observers where
  rtpObservers : ℕ → Option AudioLevelObserver := fun _ ↦ none
  mapRtpObservers : Directory String := ∅
  mapProducerRtpObservers : ℕ → Option (Finset ℕ) := fun _ ↦ none

namespace Observers

variable (o : Observers)

/-- A member of the observer at this address is used. -/
def getRtpObserver (r : ℕ) : Except Fault AudioLevelObserver :=
  match o.rtpObservers r with
  | none => .error .outOfBounds
  | some observer => .ok observer

/-- The observer at this address is changed. -/
def setRtpObserver (r : ℕ) (observer : AudioLevelObserver) : Observers :=
  { o with rtpObservers := Function.update o.rtpObservers r (some observer) }

/-- The observer at this address is told something. -/
def tell (f : AudioLevelObserver → Except Fault AudioLevelObserver) (r : ℕ) :
    Except Fault Observers := do
  let observer ← o.getRtpObserver r
  let observer ← f observer
  return o.setRtpObserver r observer

/-- A loop over observers that tells each of them something. -/
def tellAll (f : AudioLevelObserver → Except Fault AudioLevelObserver) (l : List ℕ) :
    Except Fault Observers :=
  l.foldlM (tell · f) o

/-- The observers of a Producer are told something. -/
def tellObservers (env : Surroundings) (p : ℕ)
    (f : AudioLevelObserver → Except Fault AudioLevelObserver) : Except Fault Observers :=
  match o.mapProducerRtpObservers p with
  | none => .ok o
  | some rtpObservers => o.tellAll f (env.members rtpObservers)

/-- `this->mapProducerRtpObservers[producer];` -/
def insertProducer (p : ℕ) : Observers :=
  match o.mapProducerRtpObservers p with
  | some _ => o
  | none =>
    { o with
      mapProducerRtpObservers := Function.update o.mapProducerRtpObservers p (some ∅) }

/-- `this->mapProducerRtpObservers.erase(mapProducerRtpObserversIt);` -/
def eraseProducer (p : ℕ) : Observers :=
  { o with mapProducerRtpObservers := Function.update o.mapProducerRtpObservers p none }

/-- `ROUTER_CREATE_AUDIO_LEVEL_OBSERVER`, where the new object is at `r`. `made` is what the
constructor reads from the data. -/
def createAudioLevelObserver (rtpObserverId : Option String)
    (made : Except String AudioLevelSettings) (r : ℕ) : Reply × Observers :=
  match rtpObserverId with
  | none => (.thrown "missing internal.rtpObserverId", o)
  | some id =>
    if (o.mapRtpObservers.lookup id).isSome then
      (.thrown "an RtpObserver with same rtpObserverId already exists", o)
    else
      match made with
      | .error text => (.thrown text, o)
      | .ok settings =>
        let o := o.setRtpObserver r { id, settings }
        -- Insert into the map.
        (.accepted, { o with mapRtpObservers := o.mapRtpObservers.insert id r })

/-- `Router::GetRtpObserverFromInternal(internal)` -/
def getRtpObserverFromInternal (rtpObserverId : Option String) : Except String ℕ :=
  match rtpObserverId with
  | none => .error "missing internal.rtpObserverId"
  | some id =>
    match o.mapRtpObservers.lookup id with
    | none => .error "RtpObserver not found"
    | some r => .ok r

/-- Remove the observer from the maps and delete it. -/
def withoutRtpObserver (r : ℕ) (observer : AudioLevelObserver) : Observers where
  rtpObservers := Function.update o.rtpObservers r none
  mapRtpObservers := o.mapRtpObservers.erase observer.id
  -- Iterate all entries in mapProducerRtpObservers and remove the closed one.
  mapProducerRtpObservers p := (o.mapProducerRtpObservers p).map (·.erase r)

/-- `RTP_OBSERVER_CLOSE` -/
def closeRtpObserver (rtpObserverId : Option String) : Except Fault (Reply × Observers) :=
  match o.getRtpObserverFromInternal rtpObserverId with
  | .error text => refuse text o
  | .ok r => do
    let observer ← o.getRtpObserver r
    return (.accepted, o.withoutRtpObserver r observer)

/-- `RTP_OBSERVER_PAUSE` -/
def pauseRtpObserver (rtpObserverId : Option String) : Except Fault (Reply × Observers) :=
  match o.getRtpObserverFromInternal rtpObserverId with
  | .error text => refuse text o
  | .ok r => do
    let observer ← o.getRtpObserver r
    return (.accepted, o.setRtpObserver r observer.pause.2)

/-- `RTP_OBSERVER_RESUME` -/
def resumeRtpObserver (rtpObserverId : Option String) : Except Fault (Reply × Observers) :=
  match o.getRtpObserverFromInternal rtpObserverId with
  | .error text => refuse text o
  | .ok r => do
    let observer ← o.getRtpObserver r
    return (.accepted, o.setRtpObserver r observer.resume)

/-- These are the observers of a Producer from now on. -/
def setObservers (p : ℕ) (rtpObservers : Finset ℕ) : Observers :=
  { o with
    mapProducerRtpObservers := Function.update o.mapProducerRtpObservers p (some rtpObservers) }

/-- `RTP_OBSERVER_ADD_PRODUCER`, of the observer at `r` and the Producer at `p`. -/
def addProducer (r p : ℕ) (audio : Bool) : Except Fault (Reply × Observers) := do
  let observer ← o.getRtpObserver r
  match observer.addProducer p audio with
  | .error text => refuse text o
  | .ok observer =>
    -- Add to the map.
    return (.accepted, (o.setRtpObserver r observer).setObservers p
      (insert r ((o.mapProducerRtpObservers p).getD ∅)))

/-- `RTP_OBSERVER_REMOVE_PRODUCER`, of the observer at `r` and the Producer at `p`. -/
def removeProducer (r p : ℕ) : Except Fault (Reply × Observers) := do
  let observer ← o.getRtpObserver r
  -- Remove from the map.
  return (.accepted, (o.setRtpObserver r (observer.removeProducer p)).setObservers p
    (((o.mapProducerRtpObservers p).getD ∅).erase r))

/-- The Producers that are listed in a notification. -/
def listed : Option AudioLevelObserver.Notification → List ℕ
  | some (.volumes entries) => entries.map Prod.fst
  | _ => []

/-- The timer of an observer expires: the Producers that it tells of are asked for their ids. -/
def onTimer (env : Surroundings) (g : Graph MediaInfo) (r : ℕ) : Except Fault Observers := do
  let observer ← o.getRtpObserver r
  let (notification, observer) := observer.update (env.order observer.mapProducerDBovs.keys)
  (listed notification).forM fun p ↦ do
    let _ ← g.getProducer p
    return ()
  return o.setRtpObserver r observer

/-! ## What the observers refer to -/

/-- The Router has an entry for each live Producer, its observers are live, and the table of an
observer has Producers that it observes, among them all that are not paused. -/
structure Sound (producers : ℕ → Option (Producer MediaInfo)) (o : Observers) : Prop where
  mapRtpObservers : Indexes o.mapRtpObservers.lookup
    (Held o.rtpObservers fun observer id ↦ observer.id = id)
  entry : ∀ p, o.mapProducerRtpObservers p = none ↔ producers p = none
  live : ∀ p observers, o.mapProducerRtpObservers p = some observers →
    ∀ r ∈ observers, o.rtpObservers r ≠ none
  table : ∀ p producer observers r observer, producers p = some producer →
    producer.info.paused = false → o.mapProducerRtpObservers p = some observers →
    r ∈ observers → o.rtpObservers r = some observer → p ∈ observer.mapProducerDBovs
  observed : ∀ r observer p, o.rtpObservers r = some observer → p ∈ observer.mapProducerDBovs →
    ∃ observers, o.mapProducerRtpObservers p = some observers ∧ r ∈ observers

variable {o : Observers} {env : Surroundings} {p r : ℕ}
  {producers producers' : ℕ → Option (Producer MediaInfo)} {observer : AudioLevelObserver}

theorem getRtpObserver_of (h : o.rtpObservers r = some observer) :
    o.getRtpObserver r = .ok observer := by
  rw [getRtpObserver, h]

/-- The observers after some of them were told something that changed them. -/
def told (o : Observers) (l : List ℕ) (g : AudioLevelObserver → AudioLevelObserver) : Observers :=
  { o with rtpObservers := fun r ↦ if r ∈ l then (o.rtpObservers r).map g else o.rtpObservers r }

/-- An observer afterwards is one from before, which may have been told. -/
theorem told_eq_some {l : List ℕ} {g : AudioLevelObserver → AudioLevelObserver}
    (h : (o.told l g).rtpObservers r = some observer) :
    ∃ before, o.rtpObservers r = some before ∧ observer = if r ∈ l then g before else before := by
  change (if r ∈ l then (o.rtpObservers r).map g else o.rtpObservers r) = some observer at h
  by_cases hr : r ∈ l
  · rw [if_pos hr] at h
    obtain ⟨before, hbefore, rfl⟩ := Option.map_eq_some_iff.mp h
    exact ⟨before, hbefore, (if_pos hr).symm⟩
  · rw [if_neg hr] at h
    exact ⟨observer, h, (if_neg hr).symm⟩

theorem told_of {l : List ℕ} {g : AudioLevelObserver → AudioLevelObserver}
    (h : o.rtpObservers r = some observer) :
    (o.told l g).rtpObservers r = some (if r ∈ l then g observer else observer) := by
  change (if r ∈ l then (o.rtpObservers r).map g else o.rtpObservers r) = _
  rw [h]
  split_ifs <;> rfl

/-- A loop over live observers tells each of them once. -/
theorem tellAll_eq {f : AudioLevelObserver → Except Fault AudioLevelObserver}
    {g : AudioLevelObserver → AudioLevelObserver} {l : List ℕ} (hl : l.Nodup)
    (hf : ∀ r ∈ l, ∃ observer, o.rtpObservers r = some observer ∧
      f observer = .ok (g observer)) : o.tellAll f l = .ok (o.told l g) := by
  induction l generalizing o with
  | nil => simp [tellAll, told, pure, Except.pure]
  | cons r l ih =>
    obtain ⟨hr, hl⟩ := List.nodup_cons.mp hl
    obtain ⟨observer, hobserver, hok⟩ := hf r List.mem_cons_self
    let o₁ := o.setRtpObserver r (g observer)
    have hother : ∀ r', r' ≠ r → o₁.rtpObservers r' = o.rtpObservers r' := fun r' h ↦
      Function.update_of_ne h _ _
    have hrest : o₁.tellAll f l = .ok (o₁.told l g) := by
      refine ih hl fun r' hr' ↦ ?_
      rw [hother r' (ne_of_mem_of_not_mem hr' hr)]
      exact hf r' (List.mem_cons_of_mem r hr')
    have htold : o₁.told l g = o.told (r :: l) g := by
      rw [told, told, Observers.mk.injEq]
      refine ⟨funext fun r' ↦ ?_, rfl, rfl⟩
      by_cases heq : r' = r
      · subst heq
        rw [if_neg hr, if_pos List.mem_cons_self, hobserver]
        exact Function.update_self _ _ _
      · rw [hother r' heq]
        simp only [List.mem_cons, heq, false_or]
    have hstep : o.tell f r = .ok o₁ := bind_eq_ok.mpr ⟨observer, getRtpObserver_of hobserver,
      bind_eq_ok.mpr ⟨g observer, hok, rfl⟩⟩
    rw [← htold, tellAll, List.foldlM_cons, hstep]
    exact hrest

/-- The address of a live observer that the Router finds by an id. -/
theorem Sound.getRtpObserverFromInternal_eq_ok (h : Sound producers o) {id : Option String}
    (hget : o.getRtpObserverFromInternal id = .ok r) :
    ∃ observer, o.rtpObservers r = some observer := by
  cases id with
  | none => cases hget
  | some id =>
    rw [getRtpObserverFromInternal] at hget
    cases hmap : o.mapRtpObservers.lookup id with
    | none =>
      rw [hmap] at hget
      cases hget
    | some r' =>
      rw [hmap] at hget
      obtain rfl : r' = r := Except.ok.inj hget
      obtain ⟨observer, hobserver, -⟩ := (h.mapRtpObservers id r').mp hmap
      exact ⟨observer, hobserver⟩

/-- The observers of a Producer are told something about it that does not change what they know of
the others. -/
theorem Sound.told (h : Sound producers o) {s : Finset ℕ}
    (hs : o.mapProducerRtpObservers p = some s) {l : List ℕ} (hl : ∀ r, r ∈ l ↔ r ∈ s)
    {g : AudioLevelObserver → AudioLevelObserver}
    (hid : ∀ observer, (g observer).id = observer.id)
    (hother : ∀ observer q, q ≠ p →
      (q ∈ (g observer).mapProducerDBovs ↔ q ∈ observer.mapProducerDBovs))
    (hproducers : ∀ q, q ≠ p → producers' q = producers q) (hlive : producers' p ≠ none)
    (htable : ∀ producer r observer, producers' p = some producer → producer.info.paused = false →
      r ∈ s → o.rtpObservers r = some observer → p ∈ (g observer).mapProducerDBovs) :
    Sound producers' (o.told l g) where
  mapRtpObservers := by
    refine h.mapRtpObservers.congr fun r id ↦ ⟨?_, ?_⟩
    · rintro ⟨observer, hobserver, rfl⟩
      obtain ⟨before, hbefore, rfl⟩ := told_eq_some hobserver
      refine ⟨before, hbefore, ?_⟩
      split_ifs
      · exact (hid before).symm
      · rfl
    · rintro ⟨before, hbefore, rfl⟩
      refine ⟨_, told_of hbefore, ?_⟩
      split_ifs
      · exact hid before
      · rfl
  entry q := by
    by_cases hq : q = p
    · subst hq
      refine iff_of_false ?_ hlive
      change o.mapProducerRtpObservers q ≠ none
      rw [hs]
      exact Option.some_ne_none s
    · rw [hproducers q hq]
      exact h.entry q
  live q observers hobservers r hr := by
    obtain ⟨before, hbefore⟩ := Option.ne_none_iff_exists'.mp (h.live q observers hobservers r hr)
    rw [told_of hbefore]
    exact Option.some_ne_none _
  table q producer observers r observer hq hpaused hobservers hr hobserver := by
    obtain ⟨before, hbefore, rfl⟩ := told_eq_some hobserver
    by_cases hqp : q = p
    · subst hqp
      obtain rfl : s = observers := Option.some.inj (hs.symm.trans hobservers)
      rw [if_pos ((hl r).mpr hr)]
      exact htable producer r before hq hpaused hr hbefore
    · rw [hproducers q hqp] at hq
      have hmem := h.table q producer observers r before hq hpaused hobservers hr hbefore
      split_ifs
      · exact (hother before q hqp).mpr hmem
      · exact hmem
  observed r observer q hobserver hq := by
    obtain ⟨before, hbefore, rfl⟩ := told_eq_some hobserver
    by_cases hr : r ∈ l
    · rw [if_pos hr] at hq
      by_cases hqp : q = p
      · subst hqp
        exact ⟨s, hs, (hl r).mp hr⟩
      · exact h.observed r before q hbefore ((hother before q hqp).mp hq)
    · rw [if_neg hr] at hq
      exact h.observed r before q hbefore hq

/-- The observers of a live Producer are told something that every one of them takes. -/
theorem Sound.tellObservers (h : Sound producers o) {s : Finset ℕ}
    (hs : o.mapProducerRtpObservers p = some s)
    {f : AudioLevelObserver → Except Fault AudioLevelObserver}
    {g : AudioLevelObserver → AudioLevelObserver}
    (hf : ∀ r observer, r ∈ s → o.rtpObservers r = some observer →
      f observer = .ok (g observer)) :
    o.tellObservers env p f = .ok (o.told (env.members s) g) := by
  rw [Observers.tellObservers, hs]
  refine tellAll_eq (Surroundings.nodup_members s) fun r hr ↦ ?_
  have hr := Surroundings.mem_members.mp hr
  obtain ⟨observer, hobserver⟩ := Option.ne_none_iff_exists'.mp (h.live p s hs r hr)
  exact ⟨observer, hobserver, hf r observer hr hobserver⟩

/-! ## Producers come and go -/

/-- A new Producer is observed by nobody. -/
theorem Sound.insertProducer (h : Sound producers o) (hp : producers p = none)
    (producer : Producer MediaInfo) :
    Sound (Function.update producers p (some producer)) (o.insertProducer p) := by
  have hnone := (h.entry p).mpr hp
  have heq : o.insertProducer p =
      { o with
        mapProducerRtpObservers := Function.update o.mapProducerRtpObservers p (some ∅) } := by
    rw [Observers.insertProducer, hnone]
  rw [heq]
  constructor
  · exact h.mapRtpObservers
  · exact update_eq_none_iff h.entry (some_eq_none_iff _ _) p
  · intro q observers hobservers r hr
    change Function.update o.mapProducerRtpObservers p _ q = some observers at hobservers
    by_cases hq : q = p
    · rw [hq, Function.update_self] at hobservers
      rw [← Option.some.inj hobservers] at hr
      exact absurd hr (Finset.notMem_empty r)
    · rw [Function.update_of_ne hq] at hobservers
      exact h.live q observers hobservers r hr
  · intro q producer' observers r observer hproducer hpaused hobservers hr hobserver
    change Function.update o.mapProducerRtpObservers p _ q = some observers at hobservers
    by_cases hq : q = p
    · rw [hq, Function.update_self] at hobservers
      rw [← Option.some.inj hobservers] at hr
      exact absurd hr (Finset.notMem_empty r)
    · rw [Function.update_of_ne hq] at hobservers hproducer
      exact h.table q producer' observers r observer hproducer hpaused hobservers hr hobserver
  · intro r observer q hobserver hq
    obtain ⟨observers, hobservers, hr⟩ := h.observed r observer q hobserver hq
    have hqp : q ≠ p := by
      rintro rfl
      rw [hnone] at hobservers
      cases hobservers
    refine ⟨observers, ?_, hr⟩
    change Function.update o.mapProducerRtpObservers p _ q = some observers
    rwa [Function.update_of_ne hqp]

/-- A Producer that its observers were told to forget may be deleted. -/
theorem Sound.eraseProducer (h : Sound producers o)
    (hnone : ∀ r observer, o.rtpObservers r = some observer → p ∉ observer.mapProducerDBovs) :
    Sound (Function.update producers p none) (o.eraseProducer p) where
  mapRtpObservers := h.mapRtpObservers
  entry := update_eq_none_iff h.entry (iff_of_true rfl rfl) p
  live q observers hobservers r hr := by
    change Function.update o.mapProducerRtpObservers p none q = some observers at hobservers
    by_cases hq : q = p
    · rw [hq, Function.update_self] at hobservers
      cases hobservers
    · rw [Function.update_of_ne hq] at hobservers
      exact h.live q observers hobservers r hr
  table q producer observers r observer hproducer hpaused hobservers hr hobserver := by
    change Function.update o.mapProducerRtpObservers p none q = some observers at hobservers
    by_cases hq : q = p
    · rw [hq, Function.update_self] at hobservers
      cases hobservers
    · rw [Function.update_of_ne hq] at hobservers hproducer
      exact h.table q producer observers r observer hproducer hpaused hobservers hr hobserver
  observed r observer q hobserver hq := by
    obtain ⟨observers, hobservers, hr⟩ := h.observed r observer q hobserver hq
    have hqp : q ≠ p := by
      rintro rfl
      exact hnone r observer hobserver hq
    refine ⟨observers, ?_, hr⟩
    change Function.update o.mapProducerRtpObservers p none q = some observers
    rwa [Function.update_of_ne hqp]

/-- A Producer with another value of `paused`. -/
def withPaused (producer : Producer MediaInfo) (paused : Bool) : Producer MediaInfo :=
  { producer with info := { producer.info with paused } }

/-- The observers of a Producer forget its levels when it is paused. -/
theorem Sound.paused (h : Sound producers o) {s : Finset ℕ} (producer : Producer MediaInfo)
    (env : Surroundings) (hs : o.mapProducerRtpObservers p = some s) :
    Sound (Function.update producers p (some (withPaused producer true)))
      (o.told (env.members s) (·.removeProducer p)) := by
  refine h.told hs (fun _ ↦ Surroundings.mem_members) (fun _ ↦ rfl) (fun observer q hq ↦ ?_)
    (fun q hq ↦ Function.update_of_ne hq _ _) ?_ fun producer' r observer hproducer hpaused ↦ ?_
  · exact AudioLevelObserver.mem_removeProducer.trans (and_iff_right hq)
  · rw [Function.update_self]
    exact Option.some_ne_none _
  · rw [Function.update_self] at hproducer
    rw [← Option.some.inj hproducer] at hpaused
    cases hpaused

/-- They have a place for its levels when it is resumed. -/
theorem Sound.resumed (h : Sound producers o) {s : Finset ℕ} (producer : Producer MediaInfo)
    (env : Surroundings) (hs : o.mapProducerRtpObservers p = some s) :
    Sound (Function.update producers p (some (withPaused producer false)))
      (o.told (env.members s) (·.enter p)) := by
  refine h.told hs (fun _ ↦ Surroundings.mem_members) (fun observer ↦ ?_) (fun observer q hq ↦ ?_)
    (fun q hq ↦ Function.update_of_ne hq _ _) ?_ fun _ _ _ _ _ _ _ ↦ ?_
  · rw [AudioLevelObserver.enter]
    split_ifs <;> rfl
  · exact AudioLevelObserver.mem_enter.trans (or_iff_right hq)
  · rw [Function.update_self]
    exact Option.some_ne_none _
  · exact AudioLevelObserver.mem_enter.mpr (Or.inl rfl)

/-- Observers that were told to forget a Producer do not have it in their tables. -/
theorem Sound.not_mem_of_told (h : Sound producers o) {s : Finset ℕ} (env : Surroundings)
    (hs : o.mapProducerRtpObservers p = some s)
    (hobserver : (o.told (env.members s) (·.removeProducer p)).rtpObservers r = some observer) :
    p ∉ observer.mapProducerDBovs := by
  obtain ⟨before, hbefore, rfl⟩ := told_eq_some hobserver
  by_cases hr : r ∈ env.members s
  · rw [if_pos hr]
    exact fun hp ↦ (AudioLevelObserver.mem_removeProducer.mp hp).1 rfl
  · rw [if_neg hr]
    intro hp
    obtain ⟨observers, hobservers, hmem⟩ := h.observed r before p hbefore hp
    obtain rfl : s = observers := Option.some.inj (hs.symm.trans hobservers)
    exact hr (Surroundings.mem_members.mpr hmem)

/-- A closed Producer is forgotten. -/
theorem Sound.closed (h : Sound producers o) {s : Finset ℕ} (producer : Producer MediaInfo)
    (env : Surroundings) (hs : o.mapProducerRtpObservers p = some s) :
    Sound (Function.update producers p none)
      ((o.told (env.members s) (·.removeProducer p)).eraseProducer p) := by
  -- The tables are as if the Producer had been paused before.
  have hpaused := h.paused producer env hs
  have herase := hpaused.eraseProducer (p := p)
    fun r observer hobserver ↦ h.not_mem_of_told env hs hobserver
  rwa [Function.update_idem] at herase

/-! ## Observers come and go -/

/-- A new observer observes nobody. -/
theorem Sound.createAudioLevelObserver (h : Sound producers o) (hr : o.rtpObservers r = none)
    (rtpObserverId : Option String) (made : Except String AudioLevelSettings) :
    Sound producers (o.createAudioLevelObserver rtpObserverId made r).2 := by
  cases rtpObserverId with
  | none => exact h
  | some id =>
    simp only [Observers.createAudioLevelObserver]
    split_ifs with hid
    · exact h
    · cases made with
      | error text => exact h
      | ok settings =>
        have hne : ∀ q observers, o.mapProducerRtpObservers q = some observers → r ∉ observers :=
          fun q observers hobservers hmem ↦ h.live q observers hobservers r hmem hr
        constructor
        · exact Directory.indexes_insert h.mapRtpObservers hr
            (Option.not_isSome_iff_eq_none.mp hid) fun _ ↦ eq_comm
        · exact h.entry
        · intro q observers hobservers r' hr'
          change Function.update o.rtpObservers r _ r' ≠ none
          rw [Function.update_of_ne (ne_of_mem_of_not_mem hr' (hne q observers hobservers))]
          exact h.live q observers hobservers r' hr'
        · intro q producer observers r' observer hproducer hpaused hobservers hr' hobserver
          change Function.update o.rtpObservers r _ r' = some observer at hobserver
          rw [Function.update_of_ne (ne_of_mem_of_not_mem hr' (hne q observers hobservers))]
            at hobserver
          exact h.table q producer observers r' observer hproducer hpaused hobservers hr' hobserver
        · intro r' observer q hobserver hq
          change Function.update o.rtpObservers r _ r' = some observer at hobserver
          by_cases hr' : r' = r
          · rw [hr', Function.update_self] at hobserver
            rw [← Option.some.inj hobserver] at hq
            exact absurd hq (AList.notMem_empty q)
          · rw [Function.update_of_ne hr'] at hobserver
            exact h.observed r' observer q hobserver hq

/-- An observer is replaced by one that observes the same Producers. -/
theorem Sound.setRtpObserver {observer' : AudioLevelObserver} (h : Sound producers o)
    (hr : o.rtpObservers r = some observer) (hid : observer'.id = observer.id)
    (hmem : ∀ q, q ∈ observer'.mapProducerDBovs ↔ q ∈ observer.mapProducerDBovs) :
    Sound producers (o.setRtpObserver r observer') where
  mapRtpObservers := h.mapRtpObservers.replace hr fun id ↦ by rw [hid]
  entry := h.entry
  live q observers hobservers r' hr' := by
    change Function.update o.rtpObservers r (some observer') r' ≠ none
    by_cases heq : r' = r
    · rw [heq, Function.update_self]
      exact Option.some_ne_none observer'
    · rw [Function.update_of_ne heq]
      exact h.live q observers hobservers r' hr'
  table q producer observers r' observer₁ hproducer hpaused hobservers hr' hobserver := by
    change Function.update o.rtpObservers r (some observer') r' = some observer₁ at hobserver
    by_cases heq : r' = r
    · rw [heq, Function.update_self] at hobserver
      rw [← Option.some.inj hobserver, hmem]
      exact h.table q producer observers r observer hproducer hpaused hobservers (heq ▸ hr') hr
    · rw [Function.update_of_ne heq] at hobserver
      exact h.table q producer observers r' observer₁ hproducer hpaused hobservers hr' hobserver
  observed r' observer₁ q hobserver hq := by
    change Function.update o.rtpObservers r (some observer') r' = some observer₁ at hobserver
    by_cases heq : r' = r
    · rw [heq, Function.update_self] at hobserver
      rw [← Option.some.inj hobserver, hmem] at hq
      rw [heq]
      exact h.observed r observer q hr hq
    · rw [Function.update_of_ne heq] at hobserver
      exact h.observed r' observer₁ q hobserver hq

/-- `RTP_OBSERVER_CLOSE` -/
theorem Sound.closeRtpObserver (h : Sound producers o) (rtpObserverId : Option String) :
    ∃ reply o', o.closeRtpObserver rtpObserverId = .ok (reply, o') ∧ Sound producers o' := by
  rw [Observers.closeRtpObserver]
  cases hget : o.getRtpObserverFromInternal rtpObserverId with
  | error text => exact ⟨_, _, rfl, h⟩
  | ok r =>
    obtain ⟨closed, hr⟩ := h.getRtpObserverFromInternal_eq_ok hget
    refine ⟨.accepted, o.withoutRtpObserver r closed,
      bind_eq_ok.mpr ⟨closed, getRtpObserver_of hr, rfl⟩, ?_⟩
    have hobservers_eq : ∀ {q observers},
        (o.withoutRtpObserver r closed).mapProducerRtpObservers q = some observers →
        ∃ before, o.mapProducerRtpObservers q = some before ∧ observers = before.erase r := by
      intro q observers hobservers
      obtain ⟨before, hbefore, heq⟩ := Option.map_eq_some_iff.mp hobservers
      exact ⟨before, hbefore, heq.symm⟩
    constructor
    · exact Directory.indexes_erase h.mapRtpObservers hr fun _ ↦ eq_comm
    · intro q
      exact Option.map_eq_none_iff.trans (h.entry q)
    · intro q observers hobservers r' hr'
      obtain ⟨before, hbefore, rfl⟩ := hobservers_eq hobservers
      obtain ⟨hne, hmem⟩ := Finset.mem_erase.mp hr'
      change Function.update o.rtpObservers r none r' ≠ none
      rw [Function.update_of_ne hne]
      exact h.live q before hbefore r' hmem
    · intro q producer observers r' observer hproducer hpaused hobservers hr' hobserver
      obtain ⟨before, hbefore, rfl⟩ := hobservers_eq hobservers
      obtain ⟨hne, hmem⟩ := Finset.mem_erase.mp hr'
      change Function.update o.rtpObservers r none r' = some observer at hobserver
      rw [Function.update_of_ne hne] at hobserver
      exact h.table q producer before r' observer hproducer hpaused hbefore hmem hobserver
    · intro r' observer q hobserver hq
      change Function.update o.rtpObservers r none r' = some observer at hobserver
      have hne : r' ≠ r := by
        rintro rfl
        rw [Function.update_self] at hobserver
        cases hobserver
      rw [Function.update_of_ne hne] at hobserver
      obtain ⟨before, hbefore, hmem⟩ := h.observed r' observer q hobserver hq
      exact ⟨before.erase r, Option.map_eq_some_iff.mpr ⟨before, hbefore, rfl⟩,
        Finset.mem_erase.mpr ⟨hne, hmem⟩⟩

/-- `RTP_OBSERVER_PAUSE` -/
theorem Sound.pauseRtpObserver (h : Sound producers o) (rtpObserverId : Option String) :
    ∃ reply o', o.pauseRtpObserver rtpObserverId = .ok (reply, o') ∧ Sound producers o' := by
  rw [Observers.pauseRtpObserver]
  cases hget : o.getRtpObserverFromInternal rtpObserverId with
  | error text => exact ⟨_, _, rfl, h⟩
  | ok r =>
    obtain ⟨observer, hr⟩ := h.getRtpObserverFromInternal_eq_ok hget
    refine ⟨.accepted, o.setRtpObserver r observer.pause.2,
      bind_eq_ok.mpr ⟨observer, getRtpObserver_of hr, rfl⟩, h.setRtpObserver hr ?_ fun _ ↦
        AudioLevelObserver.mem_pause⟩
    exact AudioLevelObserver.pause_id

/-- `RTP_OBSERVER_RESUME` -/
theorem Sound.resumeRtpObserver (h : Sound producers o) (rtpObserverId : Option String) :
    ∃ reply o', o.resumeRtpObserver rtpObserverId = .ok (reply, o') ∧ Sound producers o' := by
  rw [Observers.resumeRtpObserver]
  cases hget : o.getRtpObserverFromInternal rtpObserverId with
  | error text => exact ⟨_, _, rfl, h⟩
  | ok r =>
    obtain ⟨observer, hr⟩ := h.getRtpObserverFromInternal_eq_ok hget
    exact ⟨.accepted, o.setRtpObserver r observer.resume,
      bind_eq_ok.mpr ⟨observer, getRtpObserver_of hr, rfl⟩,
      h.setRtpObserver hr rfl fun _ ↦ Iff.rfl⟩

/-- The timer of a live observer tells of live Producers only. -/
theorem Sound.onTimer (h : Sound producers o) (env : Surroundings) {g : Graph MediaInfo}
    (hproducers : g.producers = producers) (hr : o.rtpObservers r ≠ none) :
    ∃ o', o.onTimer env g r = .ok o' ∧ Sound producers o' := by
  obtain ⟨observer, hr⟩ := Option.ne_none_iff_exists'.mp hr
  let order := env.order observer.mapProducerDBovs.keys
  have hlisted : ∀ p ∈ listed (observer.update order).1, ∃ producer,
      g.producers p = some producer := by
    intro p hp
    have hmem : p ∈ observer.mapProducerDBovs := by
      cases hnotification : (observer.update order).1 with
      | none =>
        rw [hnotification] at hp
        exact absurd hp List.not_mem_nil
      | some notification =>
        rw [hnotification] at hp
        cases notification with
        | silence => exact absurd hp List.not_mem_nil
        | volumes entries =>
          obtain ⟨entry, hentry, rfl⟩ := List.mem_map.mp hp
          exact AudioLevelObserver.mem_of_mem_volumes hnotification hentry
    obtain ⟨observers, hobservers, -⟩ := h.observed r observer p hr hmem
    refine Option.ne_none_iff_exists'.mp ?_
    rw [hproducers, Ne, ← h.entry p, hobservers]
    exact Option.some_ne_none observers
  refine ⟨o.setRtpObserver r (observer.update order).2,
    bind_eq_ok.mpr ⟨observer, getRtpObserver_of hr, bind_eq_ok.mpr ⟨(), ?_, rfl⟩⟩,
    h.setRtpObserver hr (AudioLevelObserver.update_id order) fun _ ↦ AudioLevelObserver.mem_update⟩
  refine Graph.forM_eq_ok fun p hp ↦ ?_
  obtain ⟨producer, hproducer⟩ := hlisted p hp
  exact bind_eq_ok.mpr ⟨producer, Graph.getProducer_of hproducer, rfl⟩

/-! ## Producers are observed -/

/-- An observer observes a Producer if and only if it has it in its table from now on. -/
theorem Sound.observe {observer' : AudioLevelObserver} {s s' : Finset ℕ} (h : Sound producers o)
    (hr : o.rtpObservers r = some observer) (hs : o.mapProducerRtpObservers p = some s)
    (hid : observer'.id = observer.id)
    (hother : ∀ q, q ≠ p → (q ∈ observer'.mapProducerDBovs ↔ q ∈ observer.mapProducerDBovs))
    (hothers : ∀ r', r' ≠ r → (r' ∈ s' ↔ r' ∈ s)) (hmem : r ∈ s' ↔ p ∈ observer'.mapProducerDBovs) :
    Sound producers ((o.setRtpObserver r observer').setObservers p s') where
  mapRtpObservers := h.mapRtpObservers.replace hr fun id ↦ by rw [hid]
  entry q := (update_some_eq_none_iff hs s' q).trans (h.entry q)
  live q observers hobservers r' hr' := by
    change Function.update o.mapProducerRtpObservers p (some s') q = some observers at hobservers
    change Function.update o.rtpObservers r (some observer') r' ≠ none
    by_cases hrr : r' = r
    · rw [hrr, Function.update_self]
      exact Option.some_ne_none observer'
    · rw [Function.update_of_ne hrr]
      by_cases hq : q = p
      · rw [hq, Function.update_self] at hobservers
        rw [← Option.some.inj hobservers, hothers r' hrr] at hr'
        exact h.live p s hs r' hr'
      · rw [Function.update_of_ne hq] at hobservers
        exact h.live q observers hobservers r' hr'
  table q producer observers r' observer₁ hproducer hpaused hobservers hr' hobserver := by
    change Function.update o.mapProducerRtpObservers p (some s') q = some observers at hobservers
    change Function.update o.rtpObservers r (some observer') r' = some observer₁ at hobserver
    by_cases hq : q = p
    · subst hq
      rw [Function.update_self] at hobservers
      obtain rfl : s' = observers := Option.some.inj hobservers
      by_cases hrr : r' = r
      · subst hrr
        rw [Function.update_self] at hobserver
        rw [← Option.some.inj hobserver]
        exact hmem.mp hr'
      · rw [Function.update_of_ne hrr] at hobserver
        exact h.table q producer s r' observer₁ hproducer hpaused hs ((hothers r' hrr).mp hr')
          hobserver
    · rw [Function.update_of_ne hq] at hobservers
      by_cases hrr : r' = r
      · subst hrr
        rw [Function.update_self] at hobserver
        rw [← Option.some.inj hobserver, hother q hq]
        exact h.table q producer observers r' observer hproducer hpaused hobservers hr' hr
      · rw [Function.update_of_ne hrr] at hobserver
        exact h.table q producer observers r' observer₁ hproducer hpaused hobservers hr' hobserver
  observed r' observer₁ q hobserver hq := by
    change Function.update o.rtpObservers r (some observer') r' = some observer₁ at hobserver
    change ∃ observers, Function.update o.mapProducerRtpObservers p (some s') q = some observers ∧ _
    by_cases hqp : q = p
    · subst hqp
      refine ⟨s', Function.update_self _ _ _, ?_⟩
      by_cases hrr : r' = r
      · subst hrr
        rw [Function.update_self] at hobserver
        rw [← Option.some.inj hobserver] at hq
        exact hmem.mpr hq
      · rw [Function.update_of_ne hrr] at hobserver
        obtain ⟨observers, hobservers, hr'⟩ := h.observed r' observer₁ q hobserver hq
        obtain rfl : s = observers := Option.some.inj (hs.symm.trans hobservers)
        exact (hothers r' hrr).mpr hr'
    · rw [Function.update_of_ne hqp]
      by_cases hrr : r' = r
      · subst hrr
        rw [Function.update_self] at hobserver
        rw [← Option.some.inj hobserver, hother q hqp] at hq
        exact h.observed r' observer q hr hq
      · rw [Function.update_of_ne hrr] at hobserver
        exact h.observed r' observer₁ q hobserver hq

/-- A live Producer has an entry. -/
theorem Sound.exists_entry (h : Sound producers o) (hp : producers p ≠ none) :
    ∃ s, o.mapProducerRtpObservers p = some s :=
  Option.ne_none_iff_exists'.mp (mt (h.entry p).mp hp)

/-- An observer takes a Producer, or refuses it. -/
theorem Sound.addProducer (h : Sound producers o) (hr : o.rtpObservers r ≠ none)
    (hp : producers p ≠ none) (audio : Bool) :
    ∃ reply o', o.addProducer r p audio = .ok (reply, o') ∧ Sound producers o' := by
  obtain ⟨observer, hr⟩ := Option.ne_none_iff_exists'.mp hr
  obtain ⟨s, hs⟩ := h.exists_entry hp
  cases audio with
  | false =>
    exact ⟨.thrown "not an audio Producer", o,
      bind_eq_ok.mpr ⟨observer, getRtpObserver_of hr, rfl⟩, h⟩
  | true =>
    refine ⟨.accepted, (o.setRtpObserver r (observer.enter p)).setObservers p (insert r s),
      bind_eq_ok.mpr ⟨observer, getRtpObserver_of hr, ?_⟩, h.observe hr hs ?_ ?_ ?_ ?_⟩
    · rw [hs]
      rfl
    · rw [AudioLevelObserver.enter]
      split_ifs <;> rfl
    · exact fun q hq ↦ AudioLevelObserver.mem_enter.trans (or_iff_right hq)
    · exact fun r' hr' ↦ Finset.mem_insert.trans (or_iff_right hr')
    · exact iff_of_true (Finset.mem_insert_self r s)
        (AudioLevelObserver.mem_enter.mpr (Or.inl rfl))

/-- An observer leaves a Producer. -/
theorem Sound.removeProducer (h : Sound producers o) (hr : o.rtpObservers r ≠ none)
    (hp : producers p ≠ none) :
    ∃ reply o', o.removeProducer r p = .ok (reply, o') ∧ Sound producers o' := by
  obtain ⟨observer, hr⟩ := Option.ne_none_iff_exists'.mp hr
  obtain ⟨s, hs⟩ := h.exists_entry hp
  refine ⟨.accepted, (o.setRtpObserver r (observer.removeProducer p)).setObservers p (s.erase r),
    bind_eq_ok.mpr ⟨observer, getRtpObserver_of hr, ?_⟩, h.observe hr hs rfl ?_ ?_ ?_⟩
  · rw [hs]
    rfl
  · exact fun q hq ↦ AudioLevelObserver.mem_removeProducer.trans (and_iff_right hq)
  · exact fun r' hr' ↦ Finset.mem_erase.trans (and_iff_right hr')
  · exact iff_of_false (Finset.notMem_erase r s)
      fun hmem ↦ (AudioLevelObserver.mem_removeProducer.mp hmem).1 rfl

end Observers

end RouterGraph

end MediasoupSfu
