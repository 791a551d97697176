import MediasoupSfu.Library.Ranking
import MediasoupSfu.Library.Run
import MediasoupSfu.Router.AudioLevelObserver
import Mathlib.Algebra.Group.Action.Defs
import Mathlib.Algebra.Order.BigOperators.Group.List

/-!
# The ranking of the audio levels

When the timer of an `AudioLevelObserver` expires, the loudest Producers are to be told, or the
silence if there are none any more. Two things go wrong on the way.

* The sum of the levels of a Producer has 16 bits. With more than 516 packets it can wrap around,
  and the Producer passes for louder than it is.
* The Producers are ranked by a map whose keys are the volumes, so of those with the same volume
  only the one that comes last in the table is left.

A Producer that is lost in the second way is missed, unless its volume is the last one listed or is
not listed at all. What is announced is right, in whichever order the table is gone through, if and
only if the Producers that may be listed have the volumes that they are ranked by and are told
apart by them, as far as these are not the last ones (`announces_iff`). Nothing else can go wrong
unless the number of packets has more than 64 bits.
-/

namespace MediasoupSfu

namespace AudioLevelObserver

open Ranking

/-! ## Intervals -/

/-- How the table changes: `AddProducer` with an audio Producer or `ProducerResumed`, and
`RemoveProducer` or `ProducerPaused`. -/
inductive Change where
  | added (p : ℕ)
  | removed (p : ℕ)

/-- What happens between two expirations of the timer. -/
structure Interval where
  /-- The changes of the table. -/
  changes : List Change
  /-- The packets that arrive then, with the level of those that have one. -/
  packets : List (ℕ × Option Byte)

def change (o : AudioLevelObserver) : Change → AudioLevelObserver
  | .added p => o.enter p
  | .removed p => o.removeProducer p

/-- The packets are received. -/
def receivePackets (o : AudioLevelObserver) (packets : List (ℕ × Option Byte)) :
    Except Fault AudioLevelObserver :=
  packets.foldlM (fun o packet ↦ o.receiveRtpPacket packet.1 packet.2) o

/-- The observer after the packets. -/
def collected (o : AudioLevelObserver) (packets : List (ℕ × Option Byte)) : AudioLevelObserver :=
  packets.foldl (fun o packet ↦ o.received packet.1 packet.2) o

/-- The levels of a Producer. -/
def levels (packets : List (ℕ × Option Byte)) (p : ℕ) : List ℕ :=
  packets.filterMap fun packet ↦ if packet.1 = p then packet.2.map BitVec.toNat else none

/-! ## What is to be announced -/

/-- The average of the levels in dBov. -/
def volume (levels : List ℕ) : ℤ := -((levels.sum / levels.length : ℕ) : ℤ)

/-- The Producers that have enough levels and are loud enough. -/
def loud (o : AudioLevelObserver) (packets : List (ℕ × Option Byte)) : Finset ℕ :=
  o.mapProducerDBovs.keys.toFinset.filter fun p ↦
    10 ≤ (levels packets p).length ∧ o.settings.threshold ≤ volume (levels packets p)

/-- The right notification, if `S` are the loud Producers and there were `loudBefore` of them in the
interval before. -/
structure IsRight (n : ℕ) (S : Finset ℕ) (f : ℕ → ℤ) (loudBefore : ℕ)
    (notification : Option Notification) : Prop where
  volumes : 0 < S.card → ∃ entries, notification = some (.volumes entries) ∧ IsRanking n S f entries
  noVolumes : S.card = 0 → ∀ entries, notification ≠ some (.volumes entries)
  silence : notification = some .silence ↔ 0 < loudBefore ∧ S.card = 0

/-! ## What is announced -/

/-- What is stored for a Producer with these levels. -/
def stored (levels : List ℕ) : DBovs :=
  { totalSum := BitVec.ofNat 16 levels.sum, count := BitVec.ofNat 64 levels.length }

/-- The key under which `Update()` stores a Producer. -/
def key (dBovs : DBovs) : BitVec 8 := BitVec.ofInt 8 (avgDBov dBovs)

/-- The Producers that `Update()` stores. -/
def ranked (o : AudioLevelObserver) (packets : List (ℕ × Option Byte)) : Finset ℕ :=
  o.mapProducerDBovs.keys.toFinset.filter fun p ↦
    10 ≤ (stored (levels packets p)).count.toNat ∧
      o.settings.threshold ≤ avgDBov (stored (levels packets p))

/-! ## Runs -/

/-- An observer, and how many Producers were loud in the interval before. -/
structure Announcer where
  observer : AudioLevelObserver
  loudBefore : ℕ := 0

namespace Announcer

def start (id : String) (settings : AudioLevelSettings) : Announcer :=
  { observer := { id, settings } }

/-- The observer after the changes at the begin of an interval. -/
def changed (s : Announcer) (interval : Interval) : AudioLevelObserver :=
  interval.changes.foldl change s.observer

/-- What is left when the timer has expired, for which the order does not matter (`update_snd`). -/
def next (s : Announcer) (interval : Interval) : Announcer :=
  let o := (s.changed interval).collected interval.packets
  { observer := (o.update o.mapProducerDBovs.keys).2
    loudBefore := ((s.changed interval).loud interval.packets).card }

/-- The packets are from Producers in the table. -/
def Legal (s : Announcer) (interval : Interval) : Prop :=
  ∀ packet ∈ interval.packets, packet.1 ∈ (s.changed interval).mapProducerDBovs ∧
    ∀ level ∈ packet.2, level.toNat ≤ 127

/-- Whatever the order in which the table is gone through, the right notification is emitted. -/
def Announces (s : Announcer) (interval : Interval) : Prop :=
  ∃ o, (s.changed interval).receivePackets interval.packets = .ok o ∧
    ∀ producers, producers.Perm o.mapProducerDBovs.keys →
      IsRight o.settings.maxEntries.toNat ((s.changed interval).loud interval.packets)
        (fun p ↦ volume (levels interval.packets p)) s.loudBefore (o.update producers).1

/-- The best Producers by the stored sums are the best ones. -/
def Faithful (s : Announcer) (interval : Interval) : Prop :=
  Agrees s.observer.settings.maxEntries.toNat ((s.changed interval).loud interval.packets)
    (fun p ↦ volume (levels interval.packets p)) ((s.changed interval).ranked interval.packets)
    fun p ↦ (key (stored (levels interval.packets p))).toInt

end Announcer

/-! ## The sums -/

section Sums

variable {o : AudioLevelObserver} {p q : ℕ}

theorem stored_concat (levels : List ℕ) (level : Byte) :
    stored (levels ++ [level.toNat]) =
      { totalSum := (stored levels).totalSum + level.setWidth 16
        count := (stored levels).count + 1 } := by
  rw [stored, List.sum_append, List.length_append, List.sum_singleton, List.length_singleton,
    BitVec.ofNat_add, BitVec.ofNat_add, BitVec.ofNat_toNat]
  rfl

theorem levels_concat_of_ne (packets : List (ℕ × Option Byte)) (packet : ℕ × Option Byte)
    (h : packet.1 ≠ q) : levels (packets ++ [packet]) q = levels packets q := by
  rw [levels, List.filterMap_append, List.filterMap_cons, if_neg h]
  exact List.append_nil _

theorem levels_concat_none (packets : List (ℕ × Option Byte)) :
    levels (packets ++ [(p, none)]) q = levels packets q := by
  rw [levels, List.filterMap_append, List.filterMap_cons, Option.map_none, ite_self]
  exact List.append_nil _

theorem levels_concat_some (packets : List (ℕ × Option Byte)) (level : Byte) :
    levels (packets ++ [(p, some level)]) p = levels packets p ++ [level.toNat] := by
  rw [levels, List.filterMap_append, List.filterMap_cons, if_pos rfl]
  rfl

/-- The sums of all Producers in the table are zero. -/
def Fresh (o : AudioLevelObserver) : Prop :=
  ∀ p ∈ o.mapProducerDBovs, o.mapProducerDBovs.lookup p = some {}

/-- What packets change in an observer. -/
structure Collects (o : AudioLevelObserver) (packets : List (ℕ × Option Byte))
    (t : AudioLevelObserver) : Prop where
  settings : t.settings = o.settings
  paused : t.paused = o.paused
  silence : t.silence = o.silence
  mem : ∀ p, p ∈ t.mapProducerDBovs ↔ p ∈ o.mapProducerDBovs
  lookup : ∀ p ∈ o.mapProducerDBovs,
    t.mapProducerDBovs.lookup p = some (stored (levels packets p))

theorem received_none (o : AudioLevelObserver) (p : ℕ) : o.received p none = o := by
  rw [received, receiveRtpPacket]
  split <;> rfl

theorem received_some {dBovs : DBovs} (hpaused : o.paused = false)
    (hdBovs : o.mapProducerDBovs.lookup p = some dBovs) (level : Byte) :
    o.received p (some level) =
      { o with
        mapProducerDBovs := o.mapProducerDBovs.insert p
          { totalSum := dBovs.totalSum + level.setWidth 16, count := dBovs.count + 1 } } := by
  rw [received, receiveRtpPacket, if_neg (by rw [hpaused]; exact Bool.false_ne_true)]
  rw [hdBovs]
  rfl

/-- One more packet. -/
theorem Collects.received {packets : List (ℕ × Option Byte)} {t : AudioLevelObserver}
    (h : Collects o packets t) (hpaused : o.paused = false) (hp : p ∈ o.mapProducerDBovs)
    (level : Option Byte) : Collects o (packets ++ [(p, level)]) (t.received p level) := by
  cases level with
  | none =>
    rw [received_none]
    refine ⟨h.settings, h.paused, h.silence, h.mem, fun q hq ↦ ?_⟩
    rw [levels_concat_none]
    exact h.lookup q hq
  | some level =>
    rw [received_some (h.paused.trans hpaused) (h.lookup p hp)]
    refine ⟨h.settings, h.paused, h.silence, fun q ↦ ?_, fun q hq ↦ ?_⟩
    · refine (AList.mem_insert _).trans ⟨fun hmem ↦ ?_, fun hq ↦ Or.inr ((h.mem q).mpr hq)⟩
      rcases hmem with rfl | hq
      · exact hp
      · exact (h.mem q).mp hq
    · rcases eq_or_ne q p with rfl | hne
      · rw [levels_concat_some, stored_concat]
        exact AList.lookup_insert _
      · rw [levels_concat_of_ne packets (p, some level) hne.symm]
        exact (AList.lookup_insert_ne hne).trans (h.lookup q hq)

/-- All packets of an interval are taken, and the sums are those of their levels. -/
theorem Fresh.collects (h : o.Fresh) (hpaused : o.paused = false)
    {packets : List (ℕ × Option Byte)} (hmem : ∀ packet ∈ packets, packet.1 ∈ o.mapProducerDBovs) :
    o.receivePackets packets = .ok (o.collected packets) ∧
      Collects o packets (o.collected packets) := by
  induction packets using List.reverseRecOn with
  | nil =>
    refine ⟨rfl, rfl, rfl, rfl, fun _ ↦ Iff.rfl, fun p hp ↦ ?_⟩
    exact h p hp
  | append_singleton packets packet ih =>
    obtain ⟨hok, hcollects⟩ := ih fun packet' h' ↦ hmem packet' (List.mem_append_left _ h')
    have hp := hmem packet (List.mem_append_right _ List.mem_cons_self)
    have hlast : o.collected (packets ++ [packet]) =
        (o.collected packets).received packet.1 packet.2 := by
      rw [collected, List.foldl_append]
      rfl
    rw [hlast]
    refine ⟨?_, hcollects.received hpaused hp packet.2⟩
    rw [receivePackets, List.foldlM_append]
    rw [receivePackets] at hok
    rw [hok]
    have hreceive := receiveRtpPacket_of_mem ((hcollects.mem packet.1).mpr hp) packet.2
    change (receiveRtpPacket _ _ _ >>= pure) = _
    rw [hreceive]
    rfl

end Sums

/-! ## The map -/

section Map

variable {o : AudioLevelObserver} {p q : ℕ}

/-- `Update()` stores the Producer. -/
def IsRanked (o : AudioLevelObserver) (p : ℕ) (dBovs : DBovs) : Prop :=
  o.mapProducerDBovs.lookup p = some dBovs ∧ 10 ≤ dBovs.count.toNat ∧
    o.settings.threshold ≤ avgDBov dBovs

theorem rank_of_isRanked {dBovs : DBovs} (h : o.IsRanked p dBovs) (map : DBovsProducer) :
    o.rank map p = Function.update map (key dBovs) (some p) := by
  rw [rank, h.1]
  dsimp only
  rw [if_neg (Nat.not_lt.mpr h.2.1), if_pos h.2.2]
  rfl

theorem rank_eq_self (h : ∀ dBovs, ¬o.IsRanked p dBovs) (map : DBovsProducer) :
    o.rank map p = map := by
  rw [rank]
  cases hlookup : o.mapProducerDBovs.lookup p with
  | none => rfl
  | some dBovs =>
    dsimp only
    split_ifs with hfew hloud
    · rfl
    · exact absurd ⟨hlookup, Nat.not_lt.mp hfew, hloud⟩ (h dBovs)
    · rfl

/-- What is in the map was stored by one of the Producers that were gone through. -/
theorem isRanked_of_foldl_rank {producers : List ℕ} {k : BitVec 8}
    (h : producers.foldl o.rank (fun _ ↦ none) k = some q) :
    q ∈ producers ∧ ∃ dBovs, o.IsRanked q dBovs ∧ key dBovs = k := by
  induction producers using List.reverseRecOn with
  | nil => cases h
  | append_singleton producers p ih =>
    rw [List.foldl_append, List.foldl_cons, List.foldl_nil] at h
    by_cases hranked : ∃ dBovs, o.IsRanked p dBovs
    · obtain ⟨dBovs, hranked⟩ := hranked
      rw [rank_of_isRanked hranked, Function.update_apply] at h
      split_ifs at h with hkey
      · obtain rfl := Option.some.inj h
        exact ⟨List.mem_append_right _ List.mem_cons_self, dBovs, hranked, hkey.symm⟩
      · exact ⟨List.mem_append_left _ (ih h).1, (ih h).2⟩
    · rw [rank_eq_self (not_exists.mp hranked)] at h
      exact ⟨List.mem_append_left _ (ih h).1, (ih h).2⟩

/-- A key that was stored stays in the map. -/
theorem foldl_rank_isSome {producers : List ℕ} (hp : p ∈ producers) {dBovs : DBovs}
    (h : o.IsRanked p dBovs) : (producers.foldl o.rank (fun _ ↦ none) (key dBovs)).isSome := by
  induction producers using List.reverseRecOn with
  | nil => exact absurd hp List.not_mem_nil
  | append_singleton producers q ih =>
    rw [List.foldl_append, List.foldl_cons, List.foldl_nil]
    rcases List.mem_append.mp hp with hp | hp
    · by_cases hranked : ∃ dBovs, o.IsRanked q dBovs
      · obtain ⟨dBovs', hranked⟩ := hranked
        rw [rank_of_isRanked hranked, Function.update_apply]
        split_ifs
        · rfl
        · exact ih hp
      · rw [rank_eq_self (not_exists.mp hranked)]
        exact ih hp
    · obtain rfl := List.mem_singleton.mp hp
      rw [rank_of_isRanked h, Function.update_self]
      rfl

/-- The Producer that comes last is the one that is left. -/
theorem foldl_rank_concat {dBovs : DBovs} (h : o.IsRanked p dBovs) (producers : List ℕ) :
    (producers ++ [p]).foldl o.rank (fun _ ↦ none) (key dBovs) = some p := by
  rw [List.foldl_append, List.foldl_cons, List.foldl_nil, rank_of_isRanked h, Function.update_self]

/-! ### Its entries -/

theorem reversed_eq (map : DBovsProducer) :
    reversed map = (List.range 256).filterMap fun i : ℕ ↦
      (map (BitVec.ofInt 8 (127 - (i : ℤ)))).map fun p ↦ (p, 127 - (i : ℤ)) := by
  have hcast (l : List ℕ) : (do let i ← l; pure (i : ℤ)) = l.map Nat.cast :=
    List.flatMap_pure_eq_map _ l
  rw [reversed, hcast, List.filterMap_map]
  rfl

theorem mem_reversed {map : DBovsProducer} {e : ℕ × ℤ} :
    e ∈ reversed map ↔ ∃ k : BitVec 8, map k = some e.1 ∧ k.toInt = e.2 := by
  rw [reversed_eq, List.mem_filterMap]
  constructor
  · rintro ⟨i, hi, hentry⟩
    obtain ⟨p, hp, rfl⟩ := Option.map_eq_some_iff.mp hentry
    have hi := List.mem_range.mp hi
    refine ⟨_, hp, ?_⟩
    rw [BitVec.toInt_ofInt]
    simp only [Int.bmod]
    omega
  · rintro ⟨k, hmap, hvalue⟩
    have hlt := BitVec.toInt_lt (x := k)
    have hle := BitVec.le_toInt (x := k)
    refine ⟨(127 - k.toInt).toNat, List.mem_range.mpr (by omega), ?_⟩
    have hkey : (127 : ℤ) - (127 - k.toInt).toNat = k.toInt := by omega
    rw [hkey, BitVec.ofInt_toInt, hmap, hvalue]
    rfl

/-- The entries come in the order of their keys. -/
theorem pairwise_reversed (map : DBovsProducer) :
    ((reversed map).map Prod.snd).Pairwise (· > ·) := by
  rw [List.pairwise_map, reversed_eq, List.pairwise_filterMap]
  refine List.pairwise_lt_range.imp fun hlt e he e' he' ↦ ?_
  obtain ⟨-, -, rfl⟩ := Option.map_eq_some_iff.mp he
  obtain ⟨-, -, rfl⟩ := Option.map_eq_some_iff.mp he'
  change (127 - _ : ℤ) < 127 - _
  omega

end Map

/-! ## One expiration -/

section Expiration

variable {o t : AudioLevelObserver} {packets : List (ℕ × Option Byte)} {p : ℕ}

/-- What `Update()` goes through before it takes the first entries. -/
def ranking (o : AudioLevelObserver) (producers : List ℕ) : List (ℕ × ℤ) :=
  reversed (producers.foldl o.rank fun _ ↦ none)

theorem mem_ranked : p ∈ o.ranked packets ↔ p ∈ o.mapProducerDBovs ∧
    10 ≤ (stored (levels packets p)).count.toNat ∧
      o.settings.threshold ≤ avgDBov (stored (levels packets p)) := by
  rw [ranked, Finset.mem_filter, List.mem_toFinset, AList.mem_keys]

theorem Collects.isRanked (h : Collects o packets t) (hp : p ∈ o.ranked packets) :
    t.IsRanked p (stored (levels packets p)) := by
  obtain ⟨hmem, hcount, hthreshold⟩ := mem_ranked.mp hp
  refine ⟨h.lookup p hmem, hcount, ?_⟩
  rwa [h.settings]

theorem Collects.ranked_of_isRanked {dBovs : DBovs} (h : Collects o packets t)
    (hp : t.IsRanked p dBovs) : p ∈ o.ranked packets ∧ dBovs = stored (levels packets p) := by
  obtain ⟨hlookup, hcount, hthreshold⟩ := hp
  have hmem : p ∈ o.mapProducerDBovs :=
    (h.mem p).mp (AList.lookup_isSome.mp (Option.isSome_iff_exists.mpr ⟨dBovs, hlookup⟩))
  obtain rfl := Option.some.inj (hlookup.symm.trans (h.lookup p hmem))
  rw [h.settings] at hthreshold
  exact ⟨mem_ranked.mpr ⟨hmem, hcount, hthreshold⟩, rfl⟩

/-- The entries are one Producer for each volume. -/
theorem Collects.isSelection (h : Collects o packets t) {producers : List ℕ}
    (hperm : producers.Perm t.mapProducerDBovs.keys) :
    IsSelection (o.ranked packets) (fun p ↦ (key (stored (levels packets p))).toInt)
      (t.ranking producers) := by
  have hentry : ∀ e ∈ t.ranking producers, e.1 ∈ o.ranked packets ∧
      e.2 = (key (stored (levels packets e.1))).toInt := by
    intro e he
    obtain ⟨k, hk, hvalue⟩ := mem_reversed.mp he
    obtain ⟨-, dBovs, hranked, rfl⟩ := isRanked_of_foldl_rank hk
    obtain ⟨hmem, rfl⟩ := h.ranked_of_isRanked hranked
    exact ⟨hmem, hvalue.symm⟩
  refine ⟨fun e he ↦ (hentry e he).1, fun e he ↦ (hentry e he).2, pairwise_reversed _, ?_⟩
  intro p hp
  have hproducers : p ∈ producers := by
    rw [hperm.mem_iff, ← AList.mem_keys]
    exact (h.mem p).mpr (mem_ranked.mp hp).1
  obtain ⟨q, hq⟩ := Option.isSome_iff_exists.mp (foldl_rank_isSome hproducers (h.isRanked hp))
  exact List.mem_map.mpr ⟨(q, _), mem_reversed.mpr ⟨_, hq, rfl⟩, rfl⟩

/-- In some order a Producer is the one that is kept. -/
theorem Collects.exists_mem_ranking (h : Collects o packets t) (hp : p ∈ o.ranked packets) :
    ∃ producers : List ℕ, producers.Perm t.mapProducerDBovs.keys ∧
      (p, (key (stored (levels packets p))).toInt) ∈ t.ranking producers := by
  have hmem : p ∈ t.mapProducerDBovs.keys :=
    AList.mem_keys.mp ((h.mem p).mpr (mem_ranked.mp hp).1)
  refine ⟨t.mapProducerDBovs.keys.erase p ++ [p], ?_, ?_⟩
  · exact (List.perm_append_singleton _ _).trans (List.perm_cons_erase hmem).symm
  · exact mem_reversed.mpr ⟨_, foldl_rank_concat (h.isRanked hp) _, rfl⟩

theorem update_of_nil {producers : List ℕ} (h : o.ranking producers = []) :
    o.update producers = (if o.silence then none else some .silence,
      { o.resetMapProducerDBovs with silence := true }) := by
  have hempty : (reversed (producers.foldl o.rank fun _ ↦ none)).isEmpty = true :=
    List.isEmpty_iff.mpr h
  rw [update]
  dsimp only
  rw [hempty]
  change (if !o.silence then _ else _) = _
  cases hsilence : o.silence with
  | false => rfl
  | true =>
    have : { o.resetMapProducerDBovs with silence := true } = o.resetMapProducerDBovs := by
      rw [← hsilence]
      rfl
    rw [this]
    rfl

theorem update_of_ne_nil {producers : List ℕ} (h : o.ranking producers ≠ []) :
    o.update producers =
      (some (.volumes ((o.ranking producers).take o.settings.maxEntries.toNat)),
        { o.resetMapProducerDBovs with silence := false }) := by
  have hempty : (reversed (producers.foldl o.rank fun _ ↦ none)).isEmpty = false :=
    Bool.eq_false_iff.mpr fun hnil ↦ h (List.isEmpty_iff.mp hnil)
  rw [update]
  dsimp only
  rw [hempty]
  rfl

/-- The notification is right if the first entries are a ranking. -/
theorem isRight_update_iff {loudBefore : ℕ} (hsilence : o.silence = true ↔ loudBefore = 0)
    (producers : List ℕ) (S : Finset ℕ) (f : ℕ → ℤ) :
    IsRight o.settings.maxEntries.toNat S f loudBefore (o.update producers).1 ↔
      IsRanking o.settings.maxEntries.toNat S f
        ((o.ranking producers).take o.settings.maxEntries.toNat) := by
  have hpos := o.settings.maxEntries_pos
  by_cases hnil : o.ranking producers = []
  · rw [update_of_nil hnil, hnil, List.take_nil]
    constructor
    · intro h
      have hcard : S.card = 0 := by
        by_contra hne
        obtain ⟨entries, hentries, -⟩ := h.volumes (Nat.pos_of_ne_zero hne)
        dsimp only at hentries
        split_ifs at hentries
        cases Option.some.inj hentries
      exact ⟨by rw [hcard]; simp, List.nodup_nil, nofun, nofun, List.Pairwise.nil, nofun⟩
    · intro h
      have hcard : S.card = 0 := by
        have := h.length
        rw [List.length_nil] at this
        omega
      refine ⟨fun hlt ↦ absurd hcard hlt.ne', fun _ entries hentries ↦ ?_, ?_⟩
      · dsimp only at hentries
        split_ifs at hentries
        cases Option.some.inj hentries
      · dsimp only
        split_ifs with hbefore
        · refine iff_of_false nofun fun hlt ↦ ?_
          exact hlt.1.ne' (hsilence.mp hbefore)
        · exact iff_of_true rfl ⟨Nat.pos_of_ne_zero fun hz ↦ hbefore (hsilence.mpr hz), hcard⟩
  · rw [update_of_ne_nil hnil]
    constructor
    · intro h
      have hcard : 0 < S.card := Nat.pos_of_ne_zero fun hz ↦ h.noVolumes hz _ rfl
      obtain ⟨entries, hentries, hranking⟩ := h.volumes hcard
      rwa [Notification.volumes.inj (Option.some.inj hentries)]
    · intro h
      have hcard : 0 < S.card := by
        have hlength := h.length
        have := List.length_pos_iff.mpr hnil
        rw [List.length_take] at hlength
        omega
      refine ⟨fun _ ↦ ⟨_, rfl, h⟩, fun hz ↦ absurd hz hcard.ne', ?_⟩
      exact iff_of_false nofun fun hlt ↦ hcard.ne' hlt.2

/-- The Producers that are stored are there exactly if there are entries. -/
theorem Collects.ranking_eq_nil_iff (h : Collects o packets t) {producers : List ℕ}
    (hperm : producers.Perm t.mapProducerDBovs.keys) :
    t.ranking producers = [] ↔ o.ranked packets = ∅ := by
  rw [← List.length_eq_zero_iff, (h.isSelection hperm).length_eq, Finset.card_eq_zero,
    Finset.image_eq_empty]

/-- What is left does not depend on the order. -/
theorem Collects.update_snd (h : Collects o packets t) {producers : List ℕ}
    (hperm : producers.Perm t.mapProducerDBovs.keys) :
    (t.update producers).2 =
      { t.resetMapProducerDBovs with silence := decide (o.ranked packets = ∅) } := by
  by_cases hnil : t.ranking producers = []
  · rw [update_of_nil hnil, decide_eq_true ((h.ranking_eq_nil_iff hperm).mp hnil)]
  · rw [update_of_ne_nil hnil,
      decide_eq_false fun hempty ↦ hnil ((h.ranking_eq_nil_iff hperm).mpr hempty)]

/-- **One expiration.** In every order the notification is right if and only if the best Producers
by the stored sums are the best ones. -/
theorem Collects.forall_isRight_iff (h : Collects o packets t) {loudBefore : ℕ}
    (hsilence : t.silence = true ↔ loudBefore = 0) (S : Finset ℕ) (f : ℕ → ℤ) :
    (∀ producers : List ℕ, producers.Perm t.mapProducerDBovs.keys →
      IsRight t.settings.maxEntries.toNat S f loudBefore (t.update producers).1) ↔
      Agrees t.settings.maxEntries.toNat S f (o.ranked packets) fun p ↦
        (key (stored (levels packets p))).toInt := by
  let Kept (l : List (ℕ × ℤ)) : Prop :=
    ∃ producers : List ℕ, producers.Perm t.mapProducerDBovs.keys ∧ t.ranking producers = l
  have hkept : ∀ l, Kept l → IsSelection (o.ranked packets)
      (fun p ↦ (key (stored (levels packets p))).toInt) l := by
    rintro l ⟨producers, hperm, rfl⟩
    exact h.isSelection hperm
  rw [← forall_isRanking_iff hkept ⟨_, _, List.Perm.refl _, rfl⟩ fun p hp ↦ ?_]
  · constructor
    · rintro hright l ⟨producers, hperm, rfl⟩
      exact (isRight_update_iff hsilence producers S f).mp (hright producers hperm)
    · intro hranking producers hperm
      exact (isRight_update_iff hsilence producers S f).mpr (hranking _ ⟨producers, hperm, rfl⟩)
  · obtain ⟨producers, hperm, hmem⟩ := h.exists_mem_ranking hp
    exact ⟨_, ⟨producers, hperm, rfl⟩, hmem⟩

end Expiration

/-! ## What the sums can say -/

section Average

variable {levels : List ℕ}

theorem stored_count (h : levels.length < 2 ^ 64) :
    (stored levels).count.toNat = levels.length :=
  (BitVec.toNat_ofNat ..).trans (Nat.mod_eq_of_lt h)

/-- The quotient of the sum is at most the average. -/
theorem stored_totalSum_div_le (levels : List ℕ) :
    (stored levels).totalSum.toNat / levels.length ≤ levels.sum / levels.length :=
  Nat.div_le_div_right ((BitVec.toNat_ofNat ..).trans_le (Nat.mod_le _ _))

theorem average_le (hle : ∀ level ∈ levels, level ≤ 127) : levels.sum / levels.length ≤ 127 := by
  have hsum := List.sum_le_card_nsmul levels 127 hle
  rw [smul_eq_mul] at hsum
  exact Nat.div_le_of_le_mul hsum

/-- What is stored has an average that fits into eight bits. -/
theorem avgDBov_stored (h : levels.length < 2 ^ 64) (hle : ∀ level ∈ levels, level ≤ 127) :
    avgDBov (stored levels) = -(((stored levels).totalSum.toNat / levels.length : ℕ) : ℤ) := by
  have hfits := (stored_totalSum_div_le levels).trans (average_le hle)
  rw [avgDBov, stored_count h, BitVec.toInt_ofNat']
  generalize (stored levels).totalSum.toNat / levels.length = average at hfits ⊢
  exact congrArg Neg.neg (Int.bmod_eq_of_le (by omega) (by omega))

/-- It is the key. -/
theorem toInt_key_stored (h : levels.length < 2 ^ 64) (hle : ∀ level ∈ levels, level ≤ 127) :
    (key (stored levels)).toInt = avgDBov (stored levels) := by
  have hfits := (stored_totalSum_div_le levels).trans (average_le hle)
  rw [key, BitVec.toInt_ofInt, avgDBov_stored h hle]
  generalize (stored levels).totalSum.toNat / levels.length = average at hfits ⊢
  exact Int.bmod_eq_of_le (by omega) (by omega)

/-- A sum that wraps around makes a Producer louder. -/
theorem volume_le_avgDBov (h : levels.length < 2 ^ 64) (hle : ∀ level ∈ levels, level ≤ 127) :
    volume levels ≤ avgDBov (stored levels) := by
  have := stored_totalSum_div_le levels
  rw [avgDBov_stored h hle, volume]
  omega

end Average

/-! ## Whole runs -/

theorem Fresh.change {o : AudioLevelObserver} (h : o.Fresh) (c : Change) : (o.change c).Fresh := by
  intro q hq
  cases c with
  | added p =>
    rw [AudioLevelObserver.change, enter] at hq ⊢
    split_ifs at hq ⊢ with hp
    · exact h q hq
    · rcases eq_or_ne q p with rfl | hne
      · exact AList.lookup_insert _
      · exact (AList.lookup_insert_ne hne).trans
          (h q (((AList.mem_insert _).mp hq).resolve_left hne))
  | removed p =>
    obtain ⟨hne, hmem⟩ := mem_removeProducer.mp hq
    exact (AList.lookup_erase_ne hne).trans (h q hmem)

theorem fresh_resetMapProducerDBovs (o : AudioLevelObserver) : o.resetMapProducerDBovs.Fresh := by
  intro p hp
  obtain ⟨e, he, rfl⟩ := List.mem_map.mp (mem_resetMapProducerDBovs.mp hp)
  exact AList.mem_lookup_iff.mpr (List.mem_map.mpr ⟨e, he, rfl⟩)

theorem change_eq (o : AudioLevelObserver) (c : Change) :
    (o.change c).settings = o.settings ∧ (o.change c).paused = o.paused ∧
      (o.change c).silence = o.silence := by
  cases c with
  | added p =>
    rw [change, enter]
    split_ifs <;> exact ⟨rfl, rfl, rfl⟩
  | removed p => exact ⟨rfl, rfl, rfl⟩

namespace Announcer

variable {s : Announcer} {interval : Interval}

/-- The states between two intervals. -/
structure IsIdle (s : Announcer) : Prop where
  fresh : s.observer.Fresh
  paused : s.observer.paused = false
  silence : s.observer.silence = true ↔ s.loudBefore = 0

theorem isIdle_start (id : String) (settings : AudioLevelSettings) :
    IsIdle (start id settings) :=
  ⟨fun _ hp ↦ absurd hp (AList.notMem_empty _), rfl, iff_of_true rfl rfl⟩

theorem IsIdle.changed (h : s.IsIdle) (interval : Interval) :
    (s.changed interval).Fresh ∧ (s.changed interval).settings = s.observer.settings ∧
      (s.changed interval).paused = false ∧
        (s.changed interval).silence = s.observer.silence := by
  rw [Announcer.changed]
  induction interval.changes using List.reverseRecOn with
  | nil => exact ⟨h.fresh, rfl, h.paused, rfl⟩
  | append_singleton changes c ih =>
    obtain ⟨hfresh, hsettings, hpaused, hsilence⟩ := ih
    obtain ⟨hsettings', hpaused', hsilence'⟩ := change_eq (changes.foldl change s.observer) c
    rw [List.foldl_append, List.foldl_cons, List.foldl_nil]
    exact ⟨hfresh.change c, hsettings'.trans hsettings, hpaused'.trans hpaused,
      hsilence'.trans hsilence⟩

/-- The packets of an interval are received. -/
theorem IsIdle.collects (h : s.IsIdle) (hlegal : s.Legal interval) :
    (s.changed interval).receivePackets interval.packets =
        .ok ((s.changed interval).collected interval.packets) ∧
      Collects (s.changed interval) interval.packets
        ((s.changed interval).collected interval.packets) :=
  (h.changed interval).1.collects (h.changed interval).2.2.1 fun packet hmem ↦
    (hlegal packet hmem).1

theorem announces_iff_faithful (h : s.IsIdle) (hlegal : s.Legal interval) :
    s.Announces interval ↔ s.Faithful interval := by
  obtain ⟨hok, hcollects⟩ := h.collects hlegal
  obtain ⟨-, hsettings, -, hsilence⟩ := h.changed interval
  have hbefore : ((s.changed interval).collected interval.packets).silence = true ↔
      s.loudBefore = 0 := by
    rw [hcollects.silence, hsilence, h.silence]
  have hiff := hcollects.forall_isRight_iff hbefore ((s.changed interval).loud interval.packets)
    fun p ↦ volume (levels interval.packets p)
  rw [Faithful, ← hsettings, ← hcollects.settings, ← hiff, Announces]
  constructor
  · rintro ⟨t, ht, hright⟩
    obtain rfl := Except.ok.inj (hok.symm.trans ht)
    exact hright
  · exact fun hright ↦ ⟨_, hok, hright⟩

theorem mem_levels {packets : List (ℕ × Option Byte)} {p level : ℕ} (h : level ∈ levels packets p) :
    ∃ l : Byte, (p, some l) ∈ packets ∧ l.toNat = level := by
  obtain ⟨⟨q, l⟩, hpacket, hlevel⟩ := List.mem_filterMap.mp h
  dsimp only at hlevel
  split_ifs at hlevel with hq
  obtain ⟨l', hl, rfl⟩ := Option.map_eq_some_iff.mp hlevel
  exact ⟨l', by rwa [← hq, ← hl], rfl⟩

/-- The condition, unless an interval has so many packets that their number wraps around: the
Producers that may be listed have sums that did not wrap around or wrapped without effect, and share
their volumes with others only in the last place. -/
theorem faithful_iff (hlegal : s.Legal interval) (hlt : interval.packets.length < 2 ^ 64) :
    s.Faithful interval ↔
      let T := (s.changed interval).ranked interval.packets
      let g := fun p ↦ (key (stored (levels interval.packets p))).toInt
      let n := s.observer.settings.maxEntries.toNat
      (∀ p ∈ T, above T g (g p) < n → g p = volume (levels interval.packets p)) ∧
        ∀ p ∈ T, ∀ q ∈ T, p ≠ q → g p = g q → n ≤ above T g (g p) + 1 := by
  have hle (p : ℕ) : ∀ level ∈ levels interval.packets p, level ≤ 127 := by
    intro level hlevel
    obtain ⟨l, hpacket, rfl⟩ := mem_levels hlevel
    exact (hlegal _ hpacket).2 l rfl
  have hlength (p : ℕ) : (levels interval.packets p).length < 2 ^ 64 :=
    (List.length_filterMap_le _ _).trans_lt hlt
  constructor
  · exact fun h ↦ ⟨fun p hp hfew ↦ (h.value p hp hfew).2, h.ties⟩
  · rintro ⟨hvalue, hties⟩
    refine ⟨fun p hp hfew ↦ ⟨?_, hvalue p hp hfew⟩, hties, fun p hp ↦ ?_⟩
    · obtain ⟨hmem, hcount, hthreshold⟩ := mem_ranked.mp hp
      rw [stored_count (hlength p)] at hcount
      have hvolume : (key (stored (levels interval.packets p))).toInt =
          volume (levels interval.packets p) := hvalue p hp hfew
      rw [← toInt_key_stored (hlength p) (hle p), hvolume] at hthreshold
      exact Finset.mem_filter.mpr
        ⟨List.mem_toFinset.mpr (AList.mem_keys.mp hmem), hcount, hthreshold⟩
    · obtain ⟨hmem, hcount, hthreshold⟩ := Finset.mem_filter.mp hp
      have hvolume := volume_le_avgDBov (hlength p) (hle p)
      have hranked : p ∈ (s.changed interval).ranked interval.packets := by
        refine mem_ranked.mpr ⟨AList.mem_keys.mpr (List.mem_toFinset.mp hmem), ?_, ?_⟩
        · rwa [stored_count (hlength p)]
        · exact hthreshold.trans hvolume
      rw [← toInt_key_stored (hlength p) (hle p)] at hvolume
      refine or_iff_not_imp_left.mpr fun hmany ↦ ?_
      refine (Nat.not_lt.mp fun hfew ↦ hmany ⟨hranked, hfew⟩).trans ?_
      exact Finset.card_le_card
        (Finset.monotone_filter_right _ fun w _ hw ↦ hvolume.trans hw.le)

/-- After a right notification the observer knows if there were loud Producers. -/
theorem IsIdle.next (h : s.IsIdle) (hlegal : s.Legal interval) (hfaithful : s.Faithful interval) :
    IsIdle (s.next interval) := by
  obtain ⟨-, hcollects⟩ := h.collects hlegal
  obtain ⟨-, hsettings, hpaused, -⟩ := h.changed interval
  let t := (s.changed interval).collected interval.packets
  have hperm : t.mapProducerDBovs.keys.Perm t.mapProducerDBovs.keys := List.Perm.refl _
  have hpos := s.observer.settings.maxEntries_pos
  have hsome : (s.changed interval).ranked interval.packets = ∅ ↔
      ((s.changed interval).loud interval.packets).card = 0 := by
    have hlength := ((hcollects.isSelection hperm).isRanking hfaithful).length
    rw [List.length_take] at hlength
    rw [← hcollects.ranking_eq_nil_iff hperm, ← List.length_eq_zero_iff]
    omega
  have hobserver : (s.next interval).observer = { t.resetMapProducerDBovs with
      silence := decide ((s.changed interval).ranked interval.packets = ∅) } :=
    hcollects.update_snd hperm
  refine ⟨?_, ?_, ?_⟩
  · rw [hobserver]
    exact fresh_resetMapProducerDBovs t
  · rw [hobserver]
    exact hcollects.paused.trans hpaused
  · rw [hobserver]
    exact decide_eq_true_iff.trans hsome

/-- **When the right Producers are announced.** In every run the notifications are right, whatever
the orders in which the table is gone through, if and only if in all intervals the best Producers by
the stored sums are the best ones. -/
theorem announces_iff (id : String) (settings : AudioLevelSettings) (intervals : List Interval)
    (hlegal : Run.All next Legal (start id settings) intervals) :
    Run.All next Announces (start id settings) intervals ↔
      Run.All next Faithful (start id settings) intervals :=
  Run.All.congr IsIdle (fun _ _ ↦ announces_iff_faithful) (fun _ _ ↦ IsIdle.next)
    (isIdle_start id settings) hlegal

/-- Two places, and a threshold of -80. -/
def twoEntries : AudioLevelSettings where
  maxEntries := 2
  threshold := -80
  maxEntries_pos := by decide
  threshold_le := by decide

/-- Two Producers with ten packets each. -/
def twoProducers (level level' : Byte) : Interval where
  changes := [.added 1, .added 2]
  packets := List.replicate 10 (1, some level) ++ List.replicate 10 (2, some level')

theorem legal_twoProducers {level level' : Byte} (h : level.toNat ≤ 127) (h' : level'.toNat ≤ 127) :
    Legal (start "observer" twoEntries) (twoProducers level level') := by
  have hchanged : (start "observer" twoEntries).changed (twoProducers level level') =
      ((start "observer" twoEntries).observer.enter 1).enter 2 := rfl
  intro packet hmem
  rw [hchanged]
  rcases List.mem_append.mp hmem with hmem | hmem
  · obtain rfl := List.eq_of_mem_replicate hmem
    refine ⟨mem_enter.mpr (Or.inr (mem_enter.mpr (Or.inl rfl))), ?_⟩
    rintro _ ⟨⟩
    exact h
  · obtain rfl := List.eq_of_mem_replicate hmem
    refine ⟨mem_enter.mpr (Or.inl rfl), ?_⟩
    rintro _ ⟨⟩
    exact h'

/-- Two Producers of different volumes, and then silence. -/
theorem announces_twoProducers :
    Run.All next Announces (start "observer" twoEntries) [twoProducers 20 30, ⟨[], []⟩] := by
  have hlegal : Run.All next Legal (start "observer" twoEntries) [twoProducers 20 30, ⟨[], []⟩] :=
    ⟨legal_twoProducers (by decide) (by decide), fun _ h ↦ absurd h List.not_mem_nil, trivial⟩
  refine (announces_iff "observer" twoEntries _ hlegal).mpr ⟨?_, ?_, trivial⟩
  · exact ⟨by decide, by decide, by decide⟩
  · exact ⟨by decide, by decide, by decide⟩

/-- Of two Producers with the same volume one is missed, though there is a place for it. -/
theorem not_announces_tied : ¬∀ id settings intervals,
    Run.All next Legal (start id settings) intervals →
      Run.All next Announces (start id settings) intervals := by
  intro h
  have hlegal : Legal (start "observer" twoEntries) (twoProducers 20 20) :=
    legal_twoProducers (by decide) (by decide)
  have hannounces := (h "observer" twoEntries [twoProducers 20 20] ⟨hlegal, trivial⟩).1
  have hfaithful :=
    (announces_iff_faithful (isIdle_start "observer" twoEntries) hlegal).mp hannounces
  exact absurd (hfaithful.ties 1 (by decide) 2 (by decide) (by decide) (by decide)) (by decide)

end Announcer

end AudioLevelObserver

end MediasoupSfu
