import MediasoupSfu.Utils.Byte
import Mathlib.Data.List.AList

/-!
# The audio level observer

An `AudioLevelObserver` adds up the audio levels of the packets of the Producers that it observes.
A level is the volume in dBov without its sign, from 0 to 127, so that less is louder. When its
timer expires it tells which Producers were the loudest, and starts anew.

Producers are known by their addresses. A container is gone through in an order that is given with
the call.
-/

namespace MediasoupSfu

/-- `DBovs`. -/
structure DBovs where
  /-- Sum of dBvos (positive integer). -/
  totalSum : BitVec 16 := 0
  /-- Number of dBvos entries in `totalSum`. -/
  count : BitVec 64 := 0
  deriving DecidableEq, Repr

/-- What the constructor accepts. -/
structure AudioLevelSettings where
  maxEntries : BitVec 16
  threshold : ℤ
  maxEntries_pos : 1 ≤ maxEntries.toNat
  threshold_le : -127 ≤ threshold ∧ threshold ≤ 0

/-- The checks of the constructor. -/
def AudioLevelSettings.check (maxEntries : BitVec 16) (threshold : ℤ) :
    Except String AudioLevelSettings :=
  if hmax : maxEntries.toNat < 1 then
    .error ("invalid maxEntries value " ++ toString maxEntries.toNat)
  else
    if hthreshold : threshold < -127 ∨ threshold > 0 then
      .error ("invalid threshold value " ++ toString threshold)
    else
      .ok
        { maxEntries
          threshold
          maxEntries_pos := Nat.not_lt.mp hmax
          threshold_le := by omega }

/-- `RTC::AudioLevelObserver`. -/
structure AudioLevelObserver where
  id : String
  settings : AudioLevelSettings
  paused : Bool := false
  mapProducerDBovs : AList fun _ : ℕ ↦ DBovs := ∅
  silence : Bool := true

namespace AudioLevelObserver

variable (o : AudioLevelObserver) (p : ℕ)

/-- What is emitted. -/
inductive Notification where
  /-- The Producers with their volumes. -/
  | volumes (entries : List (ℕ × ℤ))
  | silence
  deriving DecidableEq, Repr

/-- `mapProducerDBovs[producer]`, which makes an entry if there is none. -/
def enter : AudioLevelObserver :=
  if p ∈ o.mapProducerDBovs then o
  else { o with mapProducerDBovs := o.mapProducerDBovs.insert p {} }

/-- `AddProducer(producer)` -/
def addProducer (audio : Bool) : Except String AudioLevelObserver :=
  if !audio then .error "not an audio Producer" else .ok (o.enter p)

/-- `RemoveProducer(producer)` -/
def removeProducer : AudioLevelObserver :=
  { o with mapProducerDBovs := o.mapProducerDBovs.erase p }

/-- `ReceiveRtpPacket(producer, packet)`, with the volume if the packet has one. -/
def receiveRtpPacket (volume : Option Byte) : Except Fault AudioLevelObserver :=
  if o.paused then .ok o
  else
    match volume with
    | none => .ok o
    | some volume =>
      match o.mapProducerDBovs.lookup p with
      | none => .error .outOfRange
      | some dBovs => .ok
          { o with
            mapProducerDBovs := o.mapProducerDBovs.insert p
              { totalSum := dBovs.totalSum + volume.setWidth 16, count := dBovs.count + 1 } }

/-- `ProducerPaused(producer)` -/
def producerPaused : AudioLevelObserver := o.removeProducer p

/-- `ProducerResumed(producer)` -/
def producerResumed : AudioLevelObserver := o.enter p

/-- `ResetMapProducerDBovs()` -/
def resetMapProducerDBovs : AudioLevelObserver :=
  { o with
    mapProducerDBovs :=
      { entries := o.mapProducerDBovs.entries.map fun entry ↦ ⟨entry.1, {}⟩
        nodupKeys := by
          rw [List.NodupKeys, List.keys, List.map_map]
          exact o.mapProducerDBovs.nodupKeys } }

/-- `Pause()` with `Paused()` -/
def pause : Option Notification × AudioLevelObserver :=
  if o.paused then (none, o)
  else
    let o := { o with paused := true }.resetMapProducerDBovs
    if o.silence then (none, o) else (some .silence, { o with silence := true })

/-- `Resume()` with `Resumed()` -/
def resume : AudioLevelObserver := { o with paused := false }

/-! ## The timer -/

/-- `-1 * static_cast<int8_t>(std::lround(dBovs.totalSum / dBovs.count))` -/
def avgDBov (dBovs : DBovs) : ℤ :=
  -(BitVec.ofNat 8 (dBovs.totalSum.toNat / dBovs.count.toNat)).toInt

/-- `std::map<int8_t, RTC::Producer*>` -/
abbrev DBovsProducer := BitVec 8 → Option ℕ

/-- `mapDBovsProducer[avgDBov] = producer`, if there are enough levels and they are loud enough. -/
def rank (map : DBovsProducer) (p : ℕ) : DBovsProducer :=
  match o.mapProducerDBovs.lookup p with
  | none => map
  | some dBovs =>
    if dBovs.count.toNat < 10 then map
    else if avgDBov dBovs ≥ o.settings.threshold then
      Function.update map (BitVec.ofInt 8 (avgDBov dBovs)) (some p)
    else map

/-- The entries of the map, from the greatest key on. -/
def reversed (map : DBovsProducer) : List (ℕ × ℤ) :=
  (List.range 256).filterMap fun i ↦
    let key : ℤ := 127 - i
    (map (BitVec.ofInt 8 key)).map fun p ↦ (p, key)

/-- `Update()`; the Producers are gone through in the given order. -/
def update (producers : List ℕ) : Option Notification × AudioLevelObserver :=
  let entries := reversed (producers.foldl o.rank fun _ ↦ none)
  -- Clear the map.
  let o := o.resetMapProducerDBovs
  if !entries.isEmpty then
    (some (.volumes (entries.take o.settings.maxEntries.toNat)), { o with silence := false })
  else if !o.silence then
    (some .silence, { o with silence := true })
  else
    (none, o)

/-! ## Which Producers are in the table -/

section Table

variable {o : AudioLevelObserver} {p q : ℕ}

theorem mem_enter : q ∈ (o.enter p).mapProducerDBovs ↔ q = p ∨ q ∈ o.mapProducerDBovs := by
  rw [enter]
  split_ifs with hp
  · refine ⟨Or.inr, fun h ↦ ?_⟩
    rcases h with rfl | h
    · exact hp
    · exact h
  · exact AList.mem_insert _

theorem mem_removeProducer :
    q ∈ (o.removeProducer p).mapProducerDBovs ↔ q ≠ p ∧ q ∈ o.mapProducerDBovs :=
  AList.mem_erase

theorem keys_resetMapProducerDBovs :
    o.resetMapProducerDBovs.mapProducerDBovs.keys = o.mapProducerDBovs.keys := by
  change (o.mapProducerDBovs.entries.map fun entry ↦ (⟨entry.1, {}⟩ : Sigma fun _ ↦ DBovs)).map
    Sigma.fst = _
  rw [List.map_map]
  rfl

theorem mem_resetMapProducerDBovs :
    q ∈ o.resetMapProducerDBovs.mapProducerDBovs ↔ q ∈ o.mapProducerDBovs := by
  rw [AList.mem_keys, keys_resetMapProducerDBovs, AList.mem_keys]

theorem mem_pause : q ∈ o.pause.2.mapProducerDBovs ↔ q ∈ o.mapProducerDBovs := by
  simp only [pause]
  split_ifs
  · rfl
  · exact mem_resetMapProducerDBovs
  · exact mem_resetMapProducerDBovs

theorem mem_update {producers : List ℕ} :
    q ∈ (o.update producers).2.mapProducerDBovs ↔ q ∈ o.mapProducerDBovs := by
  simp only [update]
  split_ifs <;> exact mem_resetMapProducerDBovs

theorem pause_id : o.pause.2.id = o.id := by
  simp only [pause]
  split_ifs <;> rfl

theorem update_id (producers : List ℕ) : (o.update producers).2.id = o.id := by
  simp only [update]
  split_ifs <;> rfl

/-- The observer after a packet. -/
def received (o : AudioLevelObserver) (p : ℕ) (volume : Option Byte) : AudioLevelObserver :=
  (o.receiveRtpPacket p volume).toOption.getD o

/-- A packet changes sums only. -/
theorem received_id_mem (o : AudioLevelObserver) (p : ℕ) (volume : Option Byte) :
    (o.received p volume).id = o.id ∧
      ∀ q, q ∈ (o.received p volume).mapProducerDBovs ↔ q ∈ o.mapProducerDBovs := by
  unfold received receiveRtpPacket
  split_ifs
  · exact ⟨rfl, fun _ ↦ Iff.rfl⟩
  · cases volume with
    | none => exact ⟨rfl, fun _ ↦ Iff.rfl⟩
    | some volume =>
      dsimp only
      cases hdBovs : o.mapProducerDBovs.lookup p with
      | none => exact ⟨rfl, fun _ ↦ Iff.rfl⟩
      | some dBovs =>
        refine ⟨rfl, fun q ↦ (AList.mem_insert _).trans ⟨fun h ↦ ?_, Or.inr⟩⟩
        rcases h with rfl | h
        · exact AList.lookup_isSome.mp (Option.isSome_iff_exists.mpr ⟨dBovs, hdBovs⟩)
        · exact h

/-- A packet of a Producer in the table is taken. -/
theorem receiveRtpPacket_of_mem (hp : p ∈ o.mapProducerDBovs) (volume : Option Byte) :
    o.receiveRtpPacket p volume = .ok (o.received p volume) := by
  unfold received receiveRtpPacket
  split_ifs
  · rfl
  · cases volume with
    | none => rfl
    | some volume =>
      obtain ⟨dBovs, hdBovs⟩ := Option.isSome_iff_exists.mp (AList.lookup_isSome.mpr hp)
      dsimp only
      rw [hdBovs]
      rfl

/-- Only Producers in the table are ranked. -/
theorem mem_of_rank {map : DBovsProducer} {key : BitVec 8} (h : o.rank map p key = some q) :
    map key = some q ∨ q ∈ o.mapProducerDBovs := by
  rw [rank] at h
  cases hlookup : o.mapProducerDBovs.lookup p with
  | none =>
    rw [hlookup] at h
    exact Or.inl h
  | some dBovs =>
    rw [hlookup] at h
    dsimp only at h
    split_ifs at h
    · exact Or.inl h
    · rw [Function.update_apply] at h
      split_ifs at h
      · obtain rfl := Option.some.inj h
        exact Or.inr (AList.lookup_isSome.mp (Option.isSome_iff_exists.mpr ⟨dBovs, hlookup⟩))
      · exact Or.inl h
    · exact Or.inl h

theorem mem_of_foldl_rank {producers : List ℕ} {map : DBovsProducer} {key : BitVec 8}
    (h : producers.foldl o.rank map key = some q) :
    map key = some q ∨ q ∈ o.mapProducerDBovs := by
  induction producers generalizing map with
  | nil => exact Or.inl h
  | cons p producers ih =>
    rcases ih h with hrank | hmem
    · exact mem_of_rank hrank
    · exact Or.inr hmem

/-- Only Producers in the table are listed. -/
theorem mem_of_mem_volumes {producers : List ℕ} {entries : List (ℕ × ℤ)} {entry : ℕ × ℤ}
    (h : (o.update producers).1 = some (.volumes entries)) (hentry : entry ∈ entries) :
    entry.1 ∈ o.mapProducerDBovs := by
  simp only [update] at h
  split_ifs at h
  · obtain rfl := Notification.volumes.inj (Option.some.inj h)
    obtain ⟨i, -, hi⟩ := List.mem_filterMap.mp (List.mem_of_mem_take hentry)
    obtain ⟨q, hq, rfl⟩ := Option.map_eq_some_iff.mp hi
    rcases mem_of_foldl_rank hq with hnone | hmem
    · cases hnone
    · exact hmem
  · cases Option.some.inj h

end Table

end AudioLevelObserver

end MediasoupSfu
