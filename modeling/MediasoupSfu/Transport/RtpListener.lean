import MediasoupSfu.Producer.Tables

/-!
# Routing packets to producers

A transport finds the producer of a packet in three tables: by the SSRC, by the MID and by the RID
that the packet carries. A packet that is found by MID or RID has its SSRC added to the first table.

`AddProducer` writes the tables key by key. When a key is taken, it takes back what it has written
by removing all entries of the producer, and throws; only a RID that is taken is passed over if the
producer has a MID. So what it writes is `fill`: the keys of the producer that are free
(`addProducer_adds`). Therefore a call that throws changes nothing if the producer had no entries
(`consistent`), and the entries of a producer that is removed leave the tables as if it had never
been added, apart from the RIDs for which another producer was passed over (`routes_after_removal`).

A producer is what the type `π` says, of which only the RTP parameters are used.
-/

namespace MediasoupSfu

/-- `ReadMid(mid)`. -/
def RtpPacket.readMid (packet : RtpPacket) : Except Fault (Option (List Byte)) :=
  packet.readExtension packet.ids.midExtensionId

/-- `MediaSoupError`, as `MS_THROW_ERROR` makes it from a format and its argument. -/
inductive AddProducerError where
  | withSsrc (format : String) (ssrc : BitVec 32)
  | withText (format : String) (text : List Byte)
  deriving DecidableEq, Repr

/-- The members of `RtpListener`. -/
structure RtpListener (π : Type) where
  /-- Table of SSRC / Producer pairs. -/
  ssrcTable : BitVec 32 → Option π := fun _ ↦ none
  /-- Table of MID / Producer pairs. -/
  midTable : List Byte → Option π := fun _ ↦ none
  /-- Table of RID / Producer pairs. -/
  ridTable : List Byte → Option π := fun _ ↦ none

/-- A table without the entries that point to a producer. -/
def purge {κ π : Type} [DecidableEq π] (table : κ → Option π) (producer : π) : κ → Option π :=
  fun key ↦ if table key = some producer then none else table key

namespace RtpListener

variable {π : Type} [DecidableEq π]

/-! ## The code -/

/-- `RemoveProducer(producer)`. -/
def removeProducer (s : RtpListener π) (producer : π) : RtpListener π where
  ssrcTable := purge s.ssrcTable producer
  midTable := purge s.midTable producer
  ridTable := purge s.ridTable producer

/-- `RemoveProducer(producer)` and `MS_THROW_ERROR`: the exception and the tables that are left. -/
def giveUp (s : RtpListener π) (producer : π) (e : AddProducerError) :
    Except (AddProducerError × RtpListener π) (RtpListener π) :=
  .error (e, s.removeProducer producer)

/-- Check `encoding.ssrc` or `encoding.rtx.ssrc`. -/
def addSsrc (producer : π) (format : String) (s : RtpListener π) (ssrc : BitVec 32) :
    Except (AddProducerError × RtpListener π) (RtpListener π) :=
  if ssrc = 0 then .ok s
  else if s.ssrcTable ssrc = none then
    .ok { s with ssrcTable := Function.update s.ssrcTable ssrc (some producer) }
  else s.giveUp producer (.withSsrc format ssrc)

/-- Add entries into the ssrcTable. -/
def addSsrcs (producer : π) (s : RtpListener π) (encoding : RtpEncodingParameters) :
    Except (AddProducerError × RtpListener π) (RtpListener π) := do
  let s ← s.addSsrc producer "ssrc already exists in RTP listener [ssrc:%u]" encoding.ssrc
  s.addSsrc producer "RTX ssrc already exists in RTP listener [ssrc:%u]" encoding.rtxSsrc

/-- Add entries into midTable. -/
def addMid (producer : π) (s : RtpListener π) (mid : List Byte) :
    Except (AddProducerError × RtpListener π) (RtpListener π) :=
  if mid = [] then .ok s
  else if s.midTable mid = none then
    .ok { s with midTable := Function.update s.midTable mid (some producer) }
  else s.giveUp producer (.withText "MID already exists in RTP listener [mid:%s]" mid)

/-- Add entries into ridTable. -/
def addRid (producer : π) (mid : List Byte) (s : RtpListener π)
    (encoding : RtpEncodingParameters) :
    Except (AddProducerError × RtpListener π) (RtpListener π) :=
  let rid := encoding.rid
  if rid = [] then .ok s
  else if s.ridTable rid = none then
    .ok { s with ridTable := Function.update s.ridTable rid (some producer) }
  -- Just fail if no MID is given.
  else if mid = [] then
    s.giveUp producer
      (.withText "RID already exists in RTP listener and no MID is given [rid:%s]" rid)
  else .ok s

/-- `AddProducer(producer)`, with what `GetRtpParameters` returns. -/
def addProducer (s : RtpListener π) (producer : π) (rtpParameters : RtpParameters) :
    Except (AddProducerError × RtpListener π) (RtpListener π) := do
  let s ← rtpParameters.encodings.foldlM (addSsrcs producer) s
  let s ← s.addMid producer rtpParameters.mid
  rtpParameters.encodings.foldlM (addRid producer rtpParameters.mid) s

/-- Fill the ssrc table. -/
def learn (s : RtpListener π) (ssrc : BitVec 32) (producer : π) : RtpListener π :=
  -- We may be overriding an existing SSRC here, but we don't care.
  { s with ssrcTable := Function.update s.ssrcTable ssrc (some producer) }

/-- `GetProducer(packet)`. -/
def getProducer (s : RtpListener π) (packet : RtpPacket) :
    Except Fault (Option π × RtpListener π) := do
  -- First lookup into the SSRC table.
  match s.ssrcTable packet.getSsrc with
  | some producer => return (some producer, s)
  | none =>
    -- Otherwise lookup into the MID table.
    match (← packet.readMid).bind s.midTable with
    | some producer => return (some producer, s.learn packet.getSsrc producer)
    | none =>
      -- Otherwise lookup into the RID table.
      match (← packet.readRid).bind s.ridTable with
      | some producer => return (some producer, s.learn packet.getSsrc producer)
      | none => return (none, s)

/-! ## What a producer is found by -/

end RtpListener

/-- Keys of the three tables. -/
structure RoutingKeys where
  ssrcs : List (BitVec 32) := []
  mids : List (List Byte) := []
  rids : List (List Byte) := []

namespace RoutingKeys

def append (ks ls : RoutingKeys) : RoutingKeys :=
  ⟨ks.ssrcs ++ ls.ssrcs, ks.mids ++ ls.mids, ks.rids ++ ls.rids⟩

/-- 0 means that no SSRC is given. -/
def ofSsrc (ssrc : BitVec 32) : RoutingKeys := if ssrc = 0 then {} else { ssrcs := [ssrc] }

def ofMid (mid : List Byte) : RoutingKeys := if mid = [] then {} else { mids := [mid] }

def ofRid (rid : List Byte) : RoutingKeys := if rid = [] then {} else { rids := [rid] }

def ofEncodings (keys : RtpEncodingParameters → RoutingKeys) :
    List RtpEncodingParameters → RoutingKeys
  | [] => {}
  | encoding :: encodings => (keys encoding).append (ofEncodings keys encodings)

/-- What a producer with the given parameters is found by. -/
def ofParameters (rtpParameters : RtpParameters) : RoutingKeys :=
  ((ofEncodings (fun encoding ↦ (ofSsrc encoding.ssrc).append (ofSsrc encoding.rtxSsrc))
      rtpParameters.encodings).append (ofMid rtpParameters.mid)).append
    (ofEncodings (fun encoding ↦ ofRid encoding.rid) rtpParameters.encodings)

end RoutingKeys

/-- A table with entries for the given keys, as far as they are free. -/
def fillTable {κ π : Type} [DecidableEq κ] [DecidableEq π] (table : κ → Option π) (producer : π)
    (keys : List κ) : κ → Option π :=
  fun key ↦ if table key = none ∧ key ∈ keys then some producer else table key

section Tables

variable {κ π : Type} [DecidableEq κ] [DecidableEq π] {table : κ → Option π} {producer : π}

@[simp] theorem fillTable_nil : fillTable table producer [] = table := by
  funext key
  rw [fillTable, if_neg fun h ↦ List.not_mem_nil h.2]

theorem fillTable_append (ks ls : List κ) :
    fillTable (fillTable table producer ks) producer ls = fillTable table producer (ks ++ ls) := by
  funext key
  unfold fillTable
  by_cases hfree : table key = none
  · by_cases hks : key ∈ ks <;> simp [hfree, hks]
  · simp [hfree]

theorem update_eq_fillTable {key : κ} (h : table key = none) :
    Function.update table key (some producer) = fillTable table producer [key] := by
  funext k
  by_cases hk : k = key
  · rw [hk, Function.update_self, fillTable, if_pos ⟨h, List.mem_singleton_self key⟩]
  · rw [Function.update_of_ne hk, fillTable, if_neg fun h ↦ hk (List.mem_singleton.mp h.2)]

theorem purge_fillTable (keys : List κ) :
    purge (fillTable table producer keys) producer = purge table producer := by
  funext key
  unfold purge fillTable
  by_cases hfilled : table key = none ∧ key ∈ keys
  · rw [if_pos hfilled, if_pos rfl, hfilled.1, if_neg nofun]
  · rw [if_neg hfilled]

omit [DecidableEq κ] in
theorem purge_eq_self (h : ∀ key, table key ≠ some producer) : purge table producer = table := by
  funext key
  rw [purge, if_neg (h key)]

theorem free_of_fillTable {keys : List κ} {key : κ}
    (h : fillTable table producer keys key = none) : table key = none := by
  unfold fillTable at h
  split at h
  · cases h
  · exact h

theorem mem_of_fillTable {keys : List κ} {key : κ} {other : π}
    (h : fillTable table producer keys key = some other) :
    other = producer ∨ table key = some other := by
  unfold fillTable at h
  split at h
  · exact Or.inl (Option.some.inj h).symm
  · exact Or.inr h

end Tables

namespace RtpListener

variable {π : Type} [DecidableEq π] {s t : RtpListener π} {producer : π} {mid : List Byte}
  {ks ls : RoutingKeys}

/-- The tables with the keys of a producer, as far as they are free. -/
def fill (s : RtpListener π) (producer : π) (keys : RoutingKeys) : RtpListener π where
  ssrcTable := fillTable s.ssrcTable producer keys.ssrcs
  midTable := fillTable s.midTable producer keys.mids
  ridTable := fillTable s.ridTable producer keys.rids

/-- The keys that a producer needs are free. A producer with a MID does not need its RIDs. -/
structure Free (s : RtpListener π) (mid : List Byte) (keys : RoutingKeys) : Prop where
  ssrcs : ∀ ssrc ∈ keys.ssrcs, s.ssrcTable ssrc = none
  mids : ∀ mid ∈ keys.mids, s.midTable mid = none
  rids : mid = [] → ∀ rid ∈ keys.rids, s.ridTable rid = none

/-- An entry points to the producer. -/
def Points (s : RtpListener π) (producer : π) : Prop :=
  (∃ ssrc, s.ssrcTable ssrc = some producer) ∨ (∃ mid, s.midTable mid = some producer) ∨
    ∃ rid, s.ridTable rid = some producer

/-- A part of `AddProducer` adds the given keys, or removes the entries of the producer. -/
def Adds (producer : π) (mid : List Byte) (keys : RoutingKeys) (s : RtpListener π) :
    Except (AddProducerError × RtpListener π) (RtpListener π) → Prop
  | .ok t => t = s.fill producer keys ∧ s.Free mid keys
  | .error (_, t) => t = s.removeProducer producer

theorem fill_append :
    (s.fill producer ks).fill producer ls = s.fill producer (ks.append ls) := by
  simp only [fill, fillTable_append, RoutingKeys.append]

theorem fill_empty : s.fill producer {} = s := by
  simp only [fill, fillTable_nil]

theorem removeProducer_fill :
    (s.fill producer ks).removeProducer producer = s.removeProducer producer := by
  simp only [removeProducer, fill, purge_fillTable]

theorem removeProducer_eq_self (h : ¬s.Points producer) : s.removeProducer producer = s := by
  rw [removeProducer, purge_eq_self fun ssrc hssrc ↦ h (Or.inl ⟨ssrc, hssrc⟩),
    purge_eq_self fun mid hmid ↦ h (Or.inr (Or.inl ⟨mid, hmid⟩)),
    purge_eq_self fun rid hrid ↦ h (Or.inr (Or.inr ⟨rid, hrid⟩))]

theorem Free.append (hks : s.Free mid ks) (hls : (s.fill producer ks).Free mid ls) :
    s.Free mid (ks.append ls) where
  ssrcs ssrc hssrc := (List.mem_append.mp hssrc).elim (hks.ssrcs ssrc)
    fun h ↦ free_of_fillTable (hls.ssrcs ssrc h)
  mids mid hmid := (List.mem_append.mp hmid).elim (hks.mids mid)
    fun h ↦ free_of_fillTable (hls.mids mid h)
  rids hmid rid hrid := (List.mem_append.mp hrid).elim (hks.rids hmid rid)
    fun h ↦ free_of_fillTable (hls.rids hmid rid h)

/-- Nothing is added. -/
theorem adds_nothing : Adds producer mid {} s (.ok s) :=
  ⟨fill_empty.symm, nofun, nofun, fun _ ↦ nofun⟩

theorem adds_giveUp (e : AddProducerError) : Adds producer mid ks s (s.giveUp producer e) := rfl

/-- One part after another. -/
theorem Adds.bind {x : Except (AddProducerError × RtpListener π) (RtpListener π)}
    {f : RtpListener π → Except (AddProducerError × RtpListener π) (RtpListener π)}
    (hx : Adds producer mid ks s x) (hf : ∀ t, Adds producer mid ls t (f t)) :
    Adds producer mid (ks.append ls) s (x >>= f) := by
  cases x with
  | error e => exact hx
  | ok t =>
    obtain ⟨rfl, hks⟩ := hx
    have hls := hf (s.fill producer ks)
    change Adds producer mid (ks.append ls) s (f (s.fill producer ks))
    generalize f (s.fill producer ks) = y at hls
    cases y with
    | error e =>
      change e.2 = _ at hls
      rw [removeProducer_fill] at hls
      exact hls
    | ok u =>
      obtain ⟨rfl, hls⟩ := hls
      exact ⟨fill_append, hks.append hls⟩

theorem adds_encodings {f : RtpListener π → RtpEncodingParameters →
      Except (AddProducerError × RtpListener π) (RtpListener π)}
    {keys : RtpEncodingParameters → RoutingKeys}
    (hf : ∀ s encoding, Adds producer mid (keys encoding) s (f s encoding))
    (encodings : List RtpEncodingParameters) (s : RtpListener π) :
    Adds producer mid (RoutingKeys.ofEncodings keys encodings) s (encodings.foldlM f s) := by
  induction encodings generalizing s with
  | nil => exact adds_nothing
  | cons encoding encodings ih =>
    rw [List.foldlM_cons]
    exact (hf s encoding).bind ih

theorem addSsrc_adds (format : String) (s : RtpListener π) (ssrc : BitVec 32) :
    Adds producer mid (.ofSsrc ssrc) s (s.addSsrc producer format ssrc) := by
  rw [addSsrc, RoutingKeys.ofSsrc]
  by_cases hzero : ssrc = 0
  · rw [if_pos hzero, if_pos hzero]
    exact adds_nothing
  · rw [if_neg hzero, if_neg hzero]
    split
    · rename_i hfree
      refine ⟨?_, List.forall_mem_singleton.mpr hfree, nofun, fun _ ↦ nofun⟩
      rw [fill, update_eq_fillTable hfree, fillTable_nil, fillTable_nil]
    · exact adds_giveUp _

theorem addMid_adds (s : RtpListener π) (mid : List Byte) :
    Adds producer mid (.ofMid mid) s (s.addMid producer mid) := by
  rw [addMid, RoutingKeys.ofMid]
  by_cases hempty : mid = []
  · rw [if_pos hempty, if_pos hempty]
    exact adds_nothing
  · rw [if_neg hempty, if_neg hempty]
    split
    · rename_i hfree
      refine ⟨?_, nofun, List.forall_mem_singleton.mpr hfree, fun _ ↦ nofun⟩
      rw [fill, update_eq_fillTable hfree, fillTable_nil, fillTable_nil]
    · exact adds_giveUp _

theorem addRid_adds (s : RtpListener π) (encoding : RtpEncodingParameters) :
    Adds producer mid (.ofRid encoding.rid) s (s.addRid producer mid encoding) := by
  rw [addRid, RoutingKeys.ofRid]
  by_cases hempty : encoding.rid = []
  · rw [if_pos hempty, if_pos hempty]
    exact adds_nothing
  · rw [if_neg hempty, if_neg hempty]
    split
    · rename_i hfree
      refine ⟨?_, nofun, nofun, fun _ ↦ List.forall_mem_singleton.mpr hfree⟩
      rw [fill, update_eq_fillTable hfree, fillTable_nil, fillTable_nil]
    · rename_i htaken
      split
      · exact adds_giveUp _
      · rename_i hmid
        refine ⟨?_, nofun, nofun, fun h ↦ absurd h hmid⟩
        -- the RID that is taken is passed over
        have hpassed : fillTable s.ridTable producer [encoding.rid] = s.ridTable := by
          funext rid
          refine if_neg fun h ↦ htaken ?_
          rw [← List.mem_singleton.mp h.2]
          exact h.1
        rw [fill, hpassed, fillTable_nil, fillTable_nil]

/-- **What a producer adds.** -/
theorem addProducer_adds (s : RtpListener π) (producer : π) (rtpParameters : RtpParameters) :
    Adds producer rtpParameters.mid (.ofParameters rtpParameters) s
      (s.addProducer producer rtpParameters) := by
  have hssrcs : ∀ (s : RtpListener π) encoding, Adds producer rtpParameters.mid _ s
      (s.addSsrcs producer encoding) :=
    fun s encoding ↦ (addSsrc_adds _ s encoding.ssrc).bind fun t ↦
      addSsrc_adds _ t encoding.rtxSsrc
  have hmid : ∀ s : RtpListener π, Adds producer rtpParameters.mid _ s
      (s.addMid producer rtpParameters.mid) := fun s ↦ addMid_adds s rtpParameters.mid
  have hboth := ((adds_encodings hssrcs rtpParameters.encodings s).bind hmid).bind
    fun t ↦ adds_encodings addRid_adds rtpParameters.encodings t
  rw [addProducer, ← bind_assoc]
  exact hboth

/-- A call that throws changes nothing, if no entry points to the producer. -/
theorem eq_of_addProducer_throws (hs : ¬s.Points producer) {rtpParameters : RtpParameters}
    {e : AddProducerError} (h : s.addProducer producer rtpParameters = .error (e, t)) : t = s := by
  have hadds := addProducer_adds s producer rtpParameters
  rw [h] at hadds
  exact hadds.trans (removeProducer_eq_self hs)

/-- An entry of an added producer is its own or was there. -/
theorem points_fill {other : π} (h : (s.fill producer ks).Points other) :
    other = producer ∨ s.Points other := by
  rcases h with ⟨ssrc, h⟩ | ⟨mid, h⟩ | ⟨rid, h⟩
  · exact (mem_of_fillTable h).imp_right fun h ↦ Or.inl ⟨ssrc, h⟩
  · exact (mem_of_fillTable h).imp_right fun h ↦ Or.inr (Or.inl ⟨mid, h⟩)
  · exact (mem_of_fillTable h).imp_right fun h ↦ Or.inr (Or.inr ⟨rid, h⟩)

theorem points_removeProducer {other : π} (h : (s.removeProducer producer).Points other) :
    other ≠ producer ∧ s.Points other := by
  have hpurge : ∀ {κ : Type} {table : κ → Option π} {key : κ},
      purge table producer key = some other → other ≠ producer ∧ table key = some other := by
    intro κ table key hkey
    unfold purge at hkey
    split at hkey
    · cases hkey
    · rename_i hne
      exact ⟨fun heq ↦ hne (by rw [hkey, heq]), hkey⟩
  rcases h with ⟨ssrc, h⟩ | ⟨mid, h⟩ | ⟨rid, h⟩
  · exact (hpurge h).imp_right fun h ↦ Or.inl ⟨ssrc, h⟩
  · exact (hpurge h).imp_right fun h ↦ Or.inr (Or.inl ⟨mid, h⟩)
  · exact (hpurge h).imp_right fun h ↦ Or.inr (Or.inr ⟨rid, h⟩)

omit [DecidableEq π] in
theorem points_learn {ssrc : BitVec 32} {other : π} (h : (s.learn ssrc producer).Points other) :
    other = producer ∨ s.Points other := by
  rcases h with ⟨key, h⟩ | h
  · by_cases hkey : key = ssrc
    · change Function.update s.ssrcTable ssrc (some producer) key = _ at h
      rw [hkey, Function.update_self] at h
      exact Or.inl (Option.some.inj h).symm
    · change Function.update s.ssrcTable ssrc (some producer) key = _ at h
      rw [Function.update_of_ne hkey] at h
      exact Or.inr (Or.inl ⟨key, h⟩)
  · exact Or.inr (Or.inr h)

omit [DecidableEq π] in
/-- A packet is routed to a producer that an entry points to, whose SSRC may be learnt. -/
theorem getProducer_returns {packet : RtpPacket} {found : Option π}
    (h : s.getProducer packet = .ok (found, t)) :
    t = s ∨ ∃ producer, found = some producer ∧ s.Points producer ∧
      t = s.learn packet.getSsrc producer := by
  rw [getProducer] at h
  split at h
  · cases h
    exact Or.inl rfl
  · obtain ⟨mid, -, h⟩ := bind_eq_ok.mp h
    split at h
    · rename_i producer hproducer
      obtain ⟨mid, -, hmid⟩ := Option.bind_eq_some_iff.mp hproducer
      cases h
      exact Or.inr ⟨producer, rfl, Or.inr (Or.inl ⟨mid, hmid⟩), rfl⟩
    · obtain ⟨rid, -, h⟩ := bind_eq_ok.mp h
      split at h
      · rename_i producer hproducer
        obtain ⟨rid, -, hrid⟩ := Option.bind_eq_some_iff.mp hproducer
        cases h
        exact Or.inr ⟨producer, rfl, Or.inr (Or.inr ⟨rid, hrid⟩), rfl⟩
      · cases h
        exact Or.inl rfl

omit [DecidableEq π] in
theorem points_getProducer {packet : RtpPacket} {found : Option π} {other : π}
    (h : s.getProducer packet = .ok (found, t)) (hpoints : t.Points other) : s.Points other := by
  rcases getProducer_returns h with rfl | ⟨producer, -, hproducer, rfl⟩
  · exact hpoints
  · exact (points_learn hpoints).elim (fun heq ↦ heq ▸ hproducer) id

end RtpListener

/-! ## Runs -/

/-- What can happen to a listener. -/
inductive RtpListenerEvent (π : Type) where
  | addProducer (producer : π)
  | removeProducer (producer : π)
  | getProducer (packet : RtpPacket)

/-- What comes of it. -/
inductive RtpListenerOutput (π : Type) where
  | added
  | threw (e : AddProducerError)
  | removed
  | routed (producer : Option π)
  deriving DecidableEq, Repr

namespace RtpListener

variable {π : Type} [DecidableEq π] {s t : RtpListener π}

/-- One event, where the parameters of each producer are given. -/
def step (getRtpParameters : π → RtpParameters) (s : RtpListener π) :
    RtpListenerEvent π → Except Fault (RtpListenerOutput π × RtpListener π)
  | .addProducer producer =>
    match s.addProducer producer (getRtpParameters producer) with
    | .ok t => .ok (.added, t)
    | .error (e, t) => .ok (.threw e, t)
  | .removeProducer producer => .ok (.removed, s.removeProducer producer)
  | .getProducer packet => do
    let (producer, t) ← s.getProducer packet
    return (.routed producer, t)

/-- A step of a listener. -/
abbrev Step (π : Type) := Run.Record (RtpListener π) (RtpListenerEvent π) (RtpListenerOutput π)

/-- The producer was added and not removed since. -/
def Live (hist : List (Step π)) (producer : π) : Prop :=
  ∃ pre r post, hist = pre ++ r :: post ∧ r.event = .addProducer producer ∧ r.output = .added ∧
    ∀ r' ∈ post, r'.event ≠ .removeProducer producer

omit [DecidableEq π] in
theorem Live.concat {hist : List (Step π)} {producer : π} {r : Step π} (h : Live hist producer)
    (hr : r.event ≠ .removeProducer producer) : Live (hist ++ [r]) producer := by
  obtain ⟨pre, added, post, rfl, hevent, houtput, hpost⟩ := h
  refine ⟨pre, added, post ++ [r], by simp, hevent, houtput, fun r' hr' ↦ ?_⟩
  rcases List.mem_append.mp hr' with hr' | hr'
  · exact hpost r' hr'
  · rw [List.mem_singleton.mp hr']
    exact hr

omit [DecidableEq π] in
/-- A producer that was added is the subject of an earlier event. -/
theorem Live.mem {hist : List (Step π)} {producer : π} (h : Live hist producer) :
    .addProducer producer ∈ hist.map Run.Record.event := by
  obtain ⟨pre, added, post, rfl, hevent, -⟩ := h
  rw [← hevent]
  exact List.mem_map_of_mem (List.mem_append_right pre List.mem_cons_self)

/-- Each producer is added at most once. -/
def AddedOnce (events : List (RtpListenerEvent π)) : Prop :=
  ∀ pre producer post, events = pre ++ .addProducer producer :: post →
    .addProducer producer ∉ pre

/-- What the tables point to is live; a call that throws changes nothing. -/
theorem step_live {getRtpParameters : π → RtpParameters} {hist : List (Step π)} {r : Step π}
    (hlive : ∀ producer, r.before.Points producer → Live hist producer)
    (honce : AddedOnce ((hist ++ [r]).map Run.Record.event))
    (hstep : step getRtpParameters r.before r.event = .ok (r.output, r.after)) :
    (∀ producer, r.after.Points producer → Live (hist ++ [r]) producer) ∧
      ∀ e, r.output = .threw e → r.after = r.before := by
  obtain ⟨s, event, output, t⟩ := r
  dsimp only at hlive hstep ⊢
  cases event with
  | addProducer producer =>
    have hnew : ¬s.Points producer := by
      intro hpoints
      refine honce (hist.map Run.Record.event) producer [] ?_ (hlive producer hpoints).mem
      rw [List.map_append]
      rfl
    rw [step] at hstep
    cases hadd : s.addProducer producer (getRtpParameters producer) with
    | ok u =>
      have hadds := addProducer_adds s producer (getRtpParameters producer)
      rw [hadd] at hadds hstep
      cases hstep
      refine ⟨fun other hother ↦ ?_, nofun⟩
      rw [hadds.1] at hother
      rcases points_fill hother with rfl | hother
      · exact ⟨hist, _, [], rfl, rfl, rfl, List.forall_mem_nil _⟩
      · exact (hlive other hother).concat nofun
    | error e =>
      rw [hadd] at hstep
      cases hstep
      obtain rfl := eq_of_addProducer_throws hnew hadd
      exact ⟨fun other hother ↦ (hlive other hother).concat nofun, fun _ _ ↦ rfl⟩
  | removeProducer producer =>
    cases hstep
    refine ⟨fun other hother ↦ ?_, nofun⟩
    obtain ⟨hne, hother⟩ := points_removeProducer hother
    exact (hlive other hother).concat fun h ↦ hne (RtpListenerEvent.removeProducer.inj h).symm
  | getProducer packet =>
    obtain ⟨⟨found, u⟩, hget, hstep⟩ := bind_eq_ok.mp hstep
    cases hstep
    exact ⟨fun other hother ↦ (hlive other (points_getProducer hget hother)).concat nofun, nofun⟩

/-- The entries point to live producers, if each producer was added at most once. -/
def Consistent (hist : List (Step π)) (s : RtpListener π) : Prop :=
  AddedOnce (hist.map Run.Record.event) → ∀ producer, s.Points producer → Live hist producer

omit [DecidableEq π] in
theorem AddedOnce.take {front back : List (RtpListenerEvent π)} (h : AddedOnce (front ++ back)) :
    AddedOnce front := by
  intro pre producer post hfront
  refine h pre producer (post ++ back) ?_
  rw [hfront, List.append_assoc]
  rfl

theorem Consistent.step {getRtpParameters : π → RtpParameters} (hist : List (Step π)) (r : Step π)
    (hinv : Consistent hist r.before)
    (hstep : step getRtpParameters r.before r.event = .ok (r.output, r.after)) :
    Consistent (hist ++ [r]) r.after := by
  intro honce
  refine (step_live (hinv ?_) honce hstep).1
  rw [List.map_append] at honce
  exact honce.take

/-- **Consistent tables.** In every run in which each producer is added at most once, the entries
point to producers that were added and not removed since, and a call of `AddProducer` that throws
leaves the tables as they were. -/
theorem consistent (getRtpParameters : π → RtpParameters) (events : List (RtpListenerEvent π))
    (honce : AddedOnce events) (records : List (Step π))
    (htrace : Run.trace (step getRtpParameters) {} events = .ok records) (pre : List (Step π))
    (r : Step π) (post : List (Step π)) (hsplit : records = pre ++ r :: post) :
    (∀ producer, r.after.Points producer → Live (pre ++ [r]) producer) ∧
      ∀ e, r.output = .threw e → r.after = r.before := by
  have hempty : Consistent ([] : List (Step π)) {} := by
    rintro - producer (⟨_, h⟩ | ⟨_, h⟩ | ⟨_, h⟩) <;> cases h
  obtain ⟨hinv, hstep, -⟩ := Run.trace_invariant_after Consistent.step hempty htrace hsplit
  have hevents : (pre ++ [r]).map Run.Record.event ++ post.map Run.Record.event = events := by
    rw [← Run.trace_events htrace, hsplit, ← List.map_append, List.append_assoc]
    rfl
  rw [← hevents] at honce
  have honce' := honce.take
  refine step_live (hinv ?_) honce' hstep
  rw [List.map_append] at honce'
  exact honce'.take

/-- Two producers with the same SSRC: the second one is not added. -/
theorem consistent_same_ssrc :
    ∃ records : List (Step ℕ), Run.trace (step fun _ ↦ ⟨[], [], [{ ssrc := 7 }]⟩) {}
        [.addProducer 0, .addProducer 1] = .ok records ∧
      ∀ pre r post, records = pre ++ r :: post →
        (∀ producer, r.after.Points producer → Live (pre ++ [r]) producer) ∧
          ∀ e, r.output = .threw e → r.after = r.before := by
  refine ⟨_, rfl, consistent (fun _ ↦ ⟨[], [], [{ ssrc := 7 }]⟩) [.addProducer 0, .addProducer 1]
    (fun pre producer post hsplit ↦ ?_) _ rfl⟩
  rcases pre with - | ⟨first, - | ⟨second, pre⟩⟩
  · exact List.not_mem_nil
  · obtain ⟨rfl, hrest⟩ := List.cons.inj hsplit
    obtain ⟨hsecond, -⟩ := List.cons.inj hrest
    rw [← hsecond, List.mem_singleton]
    intro h
    cases h
  · simp at hsplit

/-! ## Removing one of two producers -/

/-- Where a packet goes. -/
def route (s : RtpListener π) (packet : RtpPacket) : Except Fault (Option π) :=
  (s.getProducer packet).map Prod.fst

/-- Of the keys of a packet only its RID is among the given ones. -/
structure OnlyRid (keys : RoutingKeys) (packet : RtpPacket) (rid : List Byte) : Prop where
  ssrc : packet.getSsrc ∉ keys.ssrcs
  mid : ∃ mid, packet.readMid = .ok mid ∧ ∀ m ∈ mid, m ∉ keys.mids
  readRid : packet.readRid = .ok (some rid)
  mem : rid ∈ keys.rids

/-- The first listener is the second one without some entries in the RID table. -/
structure Lacks (rids : List (List Byte)) (s t : RtpListener π) : Prop where
  ssrcTable : s.ssrcTable = t.ssrcTable
  midTable : s.midTable = t.midTable
  lacking : ∀ rid ∈ rids, s.ridTable rid = none
  ridTable : ∀ rid ∉ rids, s.ridTable rid = t.ridTable rid

/-- A listener to which a producer with the given keys was added first. -/
structure Serves (producer : π) (keys : RoutingKeys) (t : RtpListener π) : Prop where
  ssrcTable : ∀ ssrc ∈ keys.ssrcs, t.ssrcTable ssrc ≠ none
  midTable : t.midTable = fillTable (fun _ ↦ none) producer keys.mids
  ridTable : t.ridTable = fillTable (fun _ ↦ none) producer keys.rids

theorem fillTable_none {κ : Type} [DecidableEq κ] (producer : π) (keys : List κ) (key : κ) :
    fillTable (fun _ ↦ none) producer keys key = if key ∈ keys then some producer else none := by
  rw [fillTable]
  simp only [true_and]

/-- The entries of the first of two producers are gone, and those of the second one for the same
keys have never been made. -/
theorem purge_fillTable_fillTable {κ : Type} [DecidableEq κ] {a b : π} (hne : a ≠ b)
    (ks ls : List κ) (key : κ) :
    purge (fillTable (fillTable (fun _ ↦ none) a ks) b ls) a key =
      if key ∈ ks then none else fillTable (fun _ ↦ none) b ls key := by
  rw [purge, fillTable, fillTable_none, fillTable_none]
  by_cases hks : key ∈ ks
  · simp only [if_pos hks, reduceCtorEq, false_and, if_false, if_true]
  · by_cases hls : key ∈ ls
    · simp [hks, hls, hne.symm]
    · simp [hks, hls]

theorem purge_of_free {κ : Type} [DecidableEq κ] {a b : π} (hne : a ≠ b) {ks ls : List κ}
    (hfree : ∀ key ∈ ls, fillTable (fun _ ↦ none) a ks key = none) :
    purge (fillTable (fillTable (fun _ ↦ none) a ks) b ls) a =
      fillTable (fun _ ↦ none) b ls := by
  funext key
  rw [purge_fillTable_fillTable hne, ite_eq_right_iff]
  intro hks
  rw [fillTable_none, if_neg]
  intro hls
  have hnone := hfree key hls
  rw [fillTable_none, if_pos hks] at hnone
  cases hnone

omit [DecidableEq π] in
theorem Lacks.learn {rids : List (List Byte)} (h : Lacks rids s t) (ssrc : BitVec 32)
    (producer : π) : Lacks rids (s.learn ssrc producer) (t.learn ssrc producer) where
  ssrcTable := by rw [RtpListener.learn, RtpListener.learn, h.ssrcTable]
  midTable := h.midTable
  lacking := h.lacking
  ridTable := h.ridTable

theorem Serves.learn {producer : π} {keys : RoutingKeys} (h : Serves producer keys t)
    (ssrc : BitVec 32) (other : π) : Serves producer keys (t.learn ssrc other) where
  ssrcTable key hkey := by
    change Function.update t.ssrcTable ssrc (some other) key ≠ none
    by_cases heq : key = ssrc
    · rw [heq, Function.update_self]
      exact Option.some_ne_none other
    · rw [Function.update_of_ne heq]
      exact h.ssrcTable key hkey
  midTable := h.midTable
  ridTable := h.ridTable

/-- A packet is routed alike unless only its RID, one of those that are lacking, tells where it
belongs. -/
theorem getProducer_alike {rids : List (List Byte)} {producer : π} {keys : RoutingKeys}
    (hlacks : Lacks rids s t) (hserves : Serves producer keys t) {packet : RtpPacket}
    (hpacket : ¬∃ rid ∈ rids, OnlyRid keys packet rid) :
    Run.Alike (fun s t ↦ Lacks rids s t ∧ Serves producer keys t) (s.getProducer packet)
      (t.getProducer packet) := by
  rw [getProducer, getProducer, hlacks.ssrcTable]
  cases hssrc : t.ssrcTable packet.getSsrc with
  | some found => exact .ok ⟨hlacks, hserves⟩
  | none =>
    dsimp only
    cases hmid : packet.readMid with
    | error f => exact .error f
    | ok mid =>
      simp only [bind, Except.bind]
      rw [hlacks.midTable]
      cases hfound : mid.bind t.midTable with
      | some found => exact .ok ⟨hlacks.learn _ found, hserves.learn _ found⟩
      | none =>
        dsimp only
        cases hrid : packet.readRid with
        | error f => exact .error f
        | ok rid =>
          dsimp only
          -- a RID that is lacking is none of the producer's
          have hsame : rid.bind s.ridTable = rid.bind t.ridTable := by
            cases rid with
            | none => rfl
            | some rid =>
              rw [Option.bind_some, Option.bind_some]
              by_cases hlacking : rid ∈ rids
              swap
              · exact hlacks.ridTable rid hlacking
              rw [hlacks.lacking rid hlacking, hserves.ridTable, fillTable_none, if_neg]
              intro hmem
              refine hpacket ⟨rid, hlacking, ?_, ⟨mid, hmid, fun m hm hmem ↦ ?_⟩, hrid, hmem⟩
              · exact fun hmem ↦ hserves.ssrcTable _ hmem hssrc
              · rw [Option.mem_def.mp hm, Option.bind_some, hserves.midTable, fillTable_none,
                  if_pos hmem] at hfound
                cases hfound
          rw [hsame]
          cases rid.bind t.ridTable with
          | some found => exact .ok ⟨hlacks.learn _ found, hserves.learn _ found⟩
          | none => exact .ok ⟨hlacks, hserves⟩

/-- The two listeners that are compared. -/
theorem lacks_of_addProducer {a b : π} (hne : a ≠ b) {s t u : RtpListener π}
    {parametersA parametersB : RtpParameters}
    (hA : ({} : RtpListener π).addProducer a parametersA = .ok s)
    (hB : s.addProducer b parametersB = .ok t)
    (hOnly : ({} : RtpListener π).addProducer b parametersB = .ok u) :
    Lacks (RoutingKeys.ofParameters parametersA).rids (t.removeProducer a) u ∧
      u = fill {} b (.ofParameters parametersB) ∧
      s.Free parametersB.mid (.ofParameters parametersB) ∧
      s = fill {} a (.ofParameters parametersA) := by
  have haddsA := addProducer_adds {} a parametersA
  have haddsB := addProducer_adds s b parametersB
  have haddsOnly := addProducer_adds {} b parametersB
  rw [hA] at haddsA
  rw [hB] at haddsB
  rw [hOnly] at haddsOnly
  obtain ⟨rfl, -⟩ := haddsA
  obtain ⟨rfl, hfree⟩ := haddsB
  obtain ⟨rfl, -⟩ := haddsOnly
  refine ⟨⟨?_, ?_, fun rid hrid ↦ ?_, fun rid hrid ↦ ?_⟩, rfl, hfree, rfl⟩
  · exact purge_of_free hne hfree.ssrcs
  · exact purge_of_free hne hfree.mids
  · exact (purge_fillTable_fillTable hne _ _ rid).trans (if_pos hrid)
  · exact (purge_fillTable_fillTable hne _ _ rid).trans (if_neg hrid)

/-- **Routing after a removal.** A listener to which two producers were added and from which the
first one was removed routes packets as one to which only the second one was added, apart from
packets of which only the RID tells where they belong, and that is also one of the first producer.
Such packets are not routed at all. There are none if the second producer has no MID. -/
theorem routes_after_removal {a b : π} (hne : a ≠ b) {s t u : RtpListener π}
    {parametersA parametersB : RtpParameters}
    (hA : ({} : RtpListener π).addProducer a parametersA = .ok s)
    (hB : s.addProducer b parametersB = .ok t)
    (hOnly : ({} : RtpListener π).addProducer b parametersB = .ok u) :
    (∀ packets : List RtpPacket,
      (∀ packet ∈ packets, ¬∃ rid ∈ (RoutingKeys.ofParameters parametersA).rids,
        OnlyRid (.ofParameters parametersB) packet rid) →
      Run.outputs getProducer (t.removeProducer a) packets = Run.outputs getProducer u packets) ∧
    (∀ packet, ∀ rid ∈ (RoutingKeys.ofParameters parametersA).rids,
      OnlyRid (.ofParameters parametersB) packet rid →
      (t.removeProducer a).route packet = .ok none ∧ u.route packet = .ok (some b)) ∧
    (parametersB.mid = [] → ∀ packet, (t.removeProducer a).route packet = u.route packet) := by
  obtain ⟨hlacks, rfl, hfree, rfl⟩ := lacks_of_addProducer hne hA hB hOnly
  set keys := RoutingKeys.ofParameters parametersB
  set rids := (RoutingKeys.ofParameters parametersA).rids
  have hserves : Serves b keys (fill {} b keys) := by
    refine ⟨fun ssrc hssrc ↦ ?_, rfl, rfl⟩
    change fillTable (fun _ ↦ none) b keys.ssrcs ssrc ≠ none
    rw [fillTable_none, if_pos hssrc]
    exact Option.some_ne_none b
  refine ⟨fun packets hpackets ↦ ?_, fun packet rid hrid honly ↦ ?_, fun hmid packet ↦ ?_⟩
  · have halike : ∀ (s t : RtpListener π) (packet : RtpPacket), Lacks rids s t ∧ Serves b keys t →
        (¬∃ rid ∈ rids, OnlyRid keys packet rid) →
        Run.Alike (fun s t ↦ Lacks rids s t ∧ Serves b keys t) (s.getProducer packet)
          (t.getProducer packet) := fun _ _ _ h hpacket ↦ getProducer_alike h.1 h.2 hpacket
    exact Run.outputs_eq halike hpackets ⟨hlacks, hserves⟩
  · obtain ⟨mid, hmid, hmem⟩ := honly.mid
    have hssrc : (fill {} b keys).ssrcTable packet.getSsrc = none := by
      change fillTable (fun _ ↦ none) b keys.ssrcs _ = none
      rw [fillTable_none, if_neg honly.ssrc]
    have hmids : mid.bind (fill {} b keys).midTable = none := by
      refine Option.bind_eq_none_iff.mpr fun m hm ↦ ?_
      change fillTable (fun _ ↦ none) b keys.mids m = none
      rw [fillTable_none, if_neg (hmem m hm)]
    constructor
    · rw [route, getProducer, hlacks.ssrcTable, hssrc]
      simp only [hmid, honly.readRid, bind, Except.bind, hlacks.midTable, hmids, Option.bind_some,
        hlacks.lacking rid hrid]
      rfl
    · have hfound : (fill {} b keys).ridTable rid = some b := by
        change fillTable (fun _ ↦ none) b keys.rids rid = some b
        rw [fillTable_none, if_pos honly.mem]
      rw [route, getProducer, hssrc]
      simp only [hmid, honly.readRid, bind, Except.bind, hmids, Option.bind_some, hfound]
      rfl
  · -- the second producer needed its RIDs, so the first one does not have them
    have hdisjoint : ¬∃ rid ∈ rids, OnlyRid keys packet rid := by
      rintro ⟨rid, hrid, honly⟩
      have hnone : fillTable (fun _ ↦ none) a rids rid = none := hfree.rids hmid rid honly.mem
      rw [fillTable_none, if_pos hrid] at hnone
      cases hnone
    have halike := getProducer_alike hlacks hserves hdisjoint
    rw [route, route]
    generalize getProducer _ packet = x at halike ⊢
    generalize getProducer _ packet = y at halike ⊢
    cases halike with
    | ok h => rfl
    | error f => rfl

/-- A packet with the RID `r` and no MID. -/
def packetWithRid : RtpPacket where
  header := {
    version := 2
    padding := false
    extension := true
    csrcCount := 0
    marker := false
    payloadType := 100
    sequenceNumber := 1
    timestamp := 0
    ssrc := 5 }
  body := [0xBE, 0xDE, 0, 1, 0x10, 0x72, 0, 0]
  csrcList := false
  headerExtension := some 0
  mapOneByteExtensions := fun id ↦ if id = 1 then some 4 else none
  ids := { ridExtensionId := 1 }
  payload := 8
  payloadLength := 0
  payloadPadding := 0
  size := 20

/-- A producer with the MID `a` or `b` and the RID `r`. -/
def parametersWithRid (mid : Byte) : RtpParameters := ⟨[mid], [], [{ rid := [0x72] }]⟩

/-- Two producers with a RID in common: after the removal of the first one the packet is not routed
to the second one. -/
theorem not_routes_as_alone :
    ¬∀ (parametersA parametersB : RtpParameters) (s t u : RtpListener ℕ) (packet : RtpPacket),
      ({} : RtpListener ℕ).addProducer 0 parametersA = .ok s →
      s.addProducer 1 parametersB = .ok t →
      ({} : RtpListener ℕ).addProducer 1 parametersB = .ok u →
      (t.removeProducer 0).route packet = u.route packet := by
  intro h
  have hroutes :=
    h (parametersWithRid 0x61) (parametersWithRid 0x62) _ _ _ packetWithRid rfl rfl rfl
  revert hroutes
  decide

theorem routes_after_removal_same_rid :
    ∃ s t u : RtpListener ℕ, ({} : RtpListener ℕ).addProducer 0 (parametersWithRid 0x61) = .ok s ∧
      s.addProducer 1 (parametersWithRid 0x62) = .ok t ∧
      ({} : RtpListener ℕ).addProducer 1 (parametersWithRid 0x62) = .ok u ∧
      (t.removeProducer 0).route packetWithRid = .ok none ∧
      u.route packetWithRid = .ok (some 1) := by
  obtain ⟨s, hA⟩ : ∃ s, ({} : RtpListener ℕ).addProducer 0 (parametersWithRid 0x61) = .ok s :=
    ⟨_, rfl⟩
  obtain ⟨t, hB⟩ : ∃ t, s.addProducer 1 (parametersWithRid 0x62) = .ok t := by
    cases hA
    exact ⟨_, rfl⟩
  obtain ⟨u, hOnly⟩ : ∃ u, ({} : RtpListener ℕ).addProducer 1 (parametersWithRid 0x62) = .ok u :=
    ⟨_, rfl⟩
  exact ⟨s, t, u, hA, hB, hOnly, (routes_after_removal Nat.zero_ne_one hA hB hOnly).2.1
    packetWithRid [0x72] (by decide) ⟨by decide, ⟨none, rfl, nofun⟩, rfl, by decide⟩⟩

end RtpListener

end MediasoupSfu
