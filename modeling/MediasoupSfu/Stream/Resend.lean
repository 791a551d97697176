import MediasoupSfu.Stream.Buffer

/-!
# Retransmitting packets keeps the buffer sound

`FillRetransmissionContainer` and `ReceiveNack` change stored packets in place: the first brings
them into the RTX format, the transport then rewrites the values that are set on sending. `Fills`,
`Retransmits` and `Nacks` say what these loops do, packet by packet, and that the table is left
alone.

With that, all operations keep the invariant of the buffer. In every reachable state the used
entries of the table are as many as `bufferSize` says, they point to the first `bufferSize` items of
the storage, each to another one, these items hold a packet, and the entry at `bufferStartIdx` is
used unless the buffer is empty. In particular no null item is ever reset (`buffer_invariant`).
-/

namespace MediasoupSfu

open Serial Slots

namespace RtpStreamSend

variable {s s' : RtpStreamSend} {n : ℕ} {packet : RtpPacket}

/-! ## Resending -/

/-- How resending changes a stored packet. -/
inductive Encodes (s : RtpStreamSend) (item : StorageItem) (p : RtpPacket) : RtpPacket → Prop
  /-- RTX is not used. -/
  | plain : s.hasRtx = false → Encodes s item p p
  /-- The packet has been resent before. -/
  | again : s.hasRtx = true → item.rtxEncoded = true →
      Encodes s item p (p.setSequenceNumber (s.rtxSeq + 1))
  /-- The packet is put into the RTX format. -/
  | encoded {q : RtpPacket} : s.hasRtx = true → item.rtxEncoded = false →
      q.content = p.content.encodeRtx (s.params.rtxPayloadType.setWidth 7) s.params.rtxSsrc
        (s.rtxSeq + 1) → RtpPacket.SameElements p q → Encodes s item p q

/-- An item after its packet has been resent as `q`. -/
def resentItem (s : RtpStreamSend) (item : StorageItem) (q : RtpPacket) (nowMs : BitVec 64) :
    StorageItem :=
  { item with
    packet := some q
    rtxEncoded := item.rtxEncoded || s.hasRtx
    resentAtMs := nowMs
    sentTimes := item.sentTimes + 1 }

/-- The RTX sequence number after a packet has been resent. -/
def nextRtxSeq (s : RtpStreamSend) : BitVec 16 := if s.hasRtx then s.rtxSeq + 1 else s.rtxSeq

/-- A packet that is resent has room for the RTX format. -/
theorem resend_spec (s : RtpStreamSend) (ptr : ℕ) {item : StorageItem} {p : RtpPacket}
    (hloaded : item.Loaded p) (nowMs : BitVec 64) : ∃ q, s.resend ptr item p nowMs = .ok { s with
        rtxSeq := s.nextRtxSeq
        storage := s.storage.set ptr (s.resentItem item q nowMs) } ∧
      Encodes s item p q ∧ (s.resentItem item q nowMs).Loaded q := by
  have hsize := hloaded.size
  unfold resend
  cases hrtx : s.hasRtx with
  | false =>
    refine ⟨p, by simp [bind, Except.bind, pure, Except.pure, nextRtxSeq, resentItem, hrtx],
      .plain hrtx, rfl, hloaded.formed, hloaded.located, hloaded.length, ?_⟩
    simpa [resentItem, hrtx] using hsize
  | true =>
    cases hencoded : item.rtxEncoded with
    | true =>
      have hp := hloaded.formed
      refine ⟨_,
        by simp [bind, Except.bind, pure, Except.pure, nextRtxSeq, resentItem, hrtx, hencoded],
        .again hrtx hencoded, rfl,
        ⟨hp.csrcList, hp.headerExtension, hp.payload, hp.padding, hp.size, hp.fits⟩,
        ⟨hloaded.located.oneByte, hloaded.located.twoBytes⟩, hloaded.length, ?_⟩
      simpa [resentItem, hrtx, hencoded, RtpPacket.setSequenceNumber] using hsize
    | false =>
      rw [hencoded] at hsize
      have hroom : p.size + 2 ≤ RtpHeader.bytes + p.body.length := by
        rw [hloaded.length]
        exact (Nat.add_le_add_right hsize 2).trans (by decide)
      obtain ⟨q, hencode, hq, hcontent, hlength, hsize', helements⟩ :=
        RtpPacket.rtxEncode_spec hloaded.formed s.params.rtxPayloadType s.params.rtxSsrc
          (s.rtxSeq + 1)
          hroom
      refine ⟨q, ?_, .encoded hrtx hencoded hcontent helements, rfl, hq,
        (helements.located hloaded.formed hloaded.located hq).1, hlength.trans hloaded.length, ?_⟩
      · simp only [hrtx, not_true_eq_false, Bool.false_eq_true, not_false_eq_true, ↓reduceIte,
          hencode, bind, Except.bind, pure, Except.pure, nextRtxSeq, resentItem, hencoded]
      · have hle : q.size ≤ mtuSize + 2 := hsize'.trans (Nat.add_le_add_right hsize 2)
        simpa [resentItem, hrtx] using hle

/-- What happens for one requested packet. -/
inductive Fill (s : RtpStreamSend) (seq : BitVec 16) (nowMs : BitVec 64) :
    Option ℕ → RtpStreamSend → Prop
  /-- The packet is not there, is too old or has just been resent. -/
  | skipped : Fill s seq nowMs none s
  /-- The packet is resent. -/
  | sent {ptr : ℕ} {item : StorageItem} {p q : RtpPacket} : s.buffer seq = some ptr →
      s.storage[ptr]? = some item → item.Loaded p → Encodes s item p q →
      (s.resentItem item q nowMs).Loaded q → Fill s seq nowMs (some ptr) { s with
        rtxSeq := s.nextRtxSeq
        storage := s.storage.set ptr (s.resentItem item q nowMs) }

theorem Fill.inv {seq : BitVec 16} {nowMs : BitVec 64} {sent : Option ℕ}
    (h : Fill s seq nowMs sent s') (hinv : Inv n s) : Inv n s' := by
  cases h with
  | skipped => exact hinv
  | sent hptr hitem hloaded hencodes hloaded' =>
    exact (hinv.set (hinv.compact.lt hptr) hloaded').congr rfl rfl rfl rfl

theorem fillRequested_spec (hinv : Inv n s) (hn : 0 < n) (currentSeq rtt : BitVec 16)
    (nowMs : BitVec 64) :
    (s.fillRequested currentSeq rtt nowMs = .error .divisionByZero ∧ s.params.clockRate = 0) ∨
      ∃ sent s', s.fillRequested currentSeq rtt nowMs = .ok (sent, s') ∧
        Fill s currentSeq nowMs sent s' := by
  have hlength := hinv.length
  have hnonempty : ¬s.storage.isEmpty = true := by
    rw [List.isEmpty_iff_length_eq_zero]
    omega
  unfold fillRequested
  rw [if_neg hnonempty]
  cases hslot : s.buffer currentSeq with
  | none => exact Or.inr ⟨none, s, rfl, .skipped⟩
  | some ptr =>
    obtain ⟨item, p, hitem, hloaded, -⟩ := hinv.item_of_used hslot
    obtain ⟨q, hresend, hencodes, hloaded'⟩ := resend_spec s ptr hloaded nowMs
    simp only [itemAt_eq_ok hitem, hloaded.getPacket, hresend, bind, Except.bind, pure, Except.pure]
    split
    · exact Or.inl ⟨rfl, ‹_›⟩
    · right
      split
      · exact ⟨none, s, rfl, .skipped⟩
      · split
        · exact ⟨none, s, rfl, .skipped⟩
        · exact ⟨some ptr, _, rfl, .sent hslot hitem hloaded hencodes hloaded'⟩

/-- The sequence numbers that the loop of `FillRetransmissionContainer` finds requested. -/
def walk : ℕ → BitVec 16 → Bool → BitVec 16 → List (BitVec 16)
  | 0, _, _, _ => []
  | n + 1, currentSeq, requested, bitmask =>
    if requested || decide (bitmask ≠ 0) then
      (if requested then [currentSeq] else []) ++
        walk n (currentSeq + 1) (bitmask.getLsbD 0) (bitmask >>> 1)
    else []

/-- What happens for a list of requested packets, with the items that get into the container. -/
inductive Fills (nowMs : BitVec 64) :
    RtpStreamSend → List (BitVec 16) → List ℕ → RtpStreamSend → Prop
  | nil (s : RtpStreamSend) : Fills nowMs s [] [] s
  | cons {s t u : RtpStreamSend} {seq : BitVec 16} {seqs : List (BitVec 16)} {sent : Option ℕ}
      {container : List ℕ} : Fill s seq nowMs sent t → Fills nowMs t seqs container u →
      Fills nowMs s (seq :: seqs) (sent.toList ++ container) u

/-- The members that retransmitting leaves alone. -/
structure SameTable (s s' : RtpStreamSend) : Prop where
  params : s'.params = s.params
  hasRtx : s'.hasRtx = s.hasRtx
  buffer : s'.buffer = s.buffer
  bufferStartIdx : s'.bufferStartIdx = s.bufferStartIdx
  bufferSize : s'.bufferSize = s.bufferSize

namespace SameTable

theorem refl (s : RtpStreamSend) : SameTable s s := ⟨rfl, rfl, rfl, rfl, rfl⟩

theorem trans {t : RtpStreamSend} (h : SameTable s t) (h' : SameTable t s') : SameTable s s' :=
  ⟨h'.params.trans h.params, h'.hasRtx.trans h.hasRtx, h'.buffer.trans h.buffer,
    h'.bufferStartIdx.trans h.bufferStartIdx, h'.bufferSize.trans h.bufferSize⟩

end SameTable

theorem Fill.sameTable {seq : BitVec 16} {nowMs : BitVec 64} {sent : Option ℕ}
    (h : Fill s seq nowMs sent s') : SameTable s s' := by
  cases h with
  | skipped => exact .refl s
  | sent => exact ⟨rfl, rfl, rfl, rfl, rfl⟩

theorem Fill.mem_lt {seq : BitVec 16} {nowMs : BitVec 64} {sent : Option ℕ}
    (h : Fill s seq nowMs sent s') (hinv : Inv n s) : ∀ ptr ∈ sent.toList, ptr < s.bufferSize := by
  cases h with
  | skipped => exact nofun
  | sent hptr =>
    intro ptr' hptr'
    rw [Option.toList_some, List.mem_singleton] at hptr'
    rw [hptr']
    exact hinv.compact.lt hptr

namespace Fills

variable {nowMs : BitVec 64} {seqs : List (BitVec 16)} {container : List ℕ}

theorem sameTable (h : Fills nowMs s seqs container s') : SameTable s s' := by
  induction h with
  | nil s => exact .refl s
  | cons hfill _ ih => exact hfill.sameTable.trans ih

theorem inv (h : Fills nowMs s seqs container s') (hinv : Inv n s) : Inv n s' := by
  induction h with
  | nil s => exact hinv
  | cons hfill _ ih => exact ih (hfill.inv hinv)

theorem mem_lt (h : Fills nowMs s seqs container s') (hinv : Inv n s) :
    ∀ ptr ∈ container, ptr < s.bufferSize := by
  induction h with
  | nil s => exact List.forall_mem_nil _
  | cons hfill _ ih =>
    intro ptr hptr
    rcases List.mem_append.mp hptr with hptr | hptr
    · exact hfill.mem_lt hinv ptr hptr
    · rw [← hfill.sameTable.bufferSize]
      exact ih (hfill.inv hinv) ptr hptr

end Fills

/-- The requested packets, one after the other. -/
def fillAll (rtt : BitVec 16) (nowMs : BitVec 64) :
    List (BitVec 16) → RtpStreamSend → Except Fault (List ℕ × RtpStreamSend)
  | [], s => .ok ([], s)
  | seq :: seqs, s => do
    let (sent, s) ← s.fillRequested seq rtt nowMs
    let (rest, s) ← fillAll rtt nowMs seqs s
    return (sent.toList ++ rest, s)

/-- The loop goes through the sequence numbers that are requested. -/
theorem fillLoop_eq (rtt : BitVec 16) (nowMs : BitVec 64) (m : ℕ) (s : RtpStreamSend)
    (currentSeq : BitVec 16) (requested : Bool) (bitmask : BitVec 16) :
    fillLoop rtt nowMs m s currentSeq requested bitmask =
      fillAll rtt nowMs (walk m currentSeq requested bitmask) s := by
  induction m generalizing s currentSeq requested bitmask with
  | zero => rfl
  | succ m ih =>
    rw [fillLoop, walk]
    by_cases hgo : (requested || decide (bitmask ≠ 0)) = true
    · rw [if_pos hgo, if_pos hgo]
      cases requested with
      | false =>
        simp only [Bool.false_eq_true, ↓reduceIte, bind, Except.bind, ih, List.nil_append]
        cases fillAll rtt nowMs (walk m (currentSeq + 1) (bitmask.getLsbD 0) (bitmask >>> 1)) s <;>
          rfl
      | true =>
        simp only [↓reduceIte, ih]
        rfl
    · rw [if_neg hgo, if_neg hgo]
      rfl

/-- The requested packets are filled in one by one. -/
theorem fillAll_spec (hinv : Inv n s) (hn : 0 < n) (rtt : BitVec 16) (nowMs : BitVec 64)
    (seqs : List (BitVec 16)) :
    (fillAll rtt nowMs seqs s = .error .divisionByZero ∧ s.params.clockRate = 0) ∨
      ∃ container s', fillAll rtt nowMs seqs s = .ok (container, s') ∧
        Fills nowMs s seqs container s' := by
  induction seqs generalizing s with
  | nil => exact Or.inr ⟨[], s, rfl, .nil s⟩
  | cons seq seqs ih =>
    rw [fillAll]
    rcases fillRequested_spec hinv hn seq rtt nowMs with
      ⟨herror, hclock⟩ | ⟨sent, t, hsent, hfill⟩
    · rw [herror]
      exact Or.inl ⟨rfl, hclock⟩
    · rw [hsent]
      change ((fillAll rtt nowMs seqs t >>= fun _ ↦ _) = _ ∧ _) ∨
        ∃ container s', (fillAll rtt nowMs seqs t >>= fun _ ↦ _) = _ ∧ _
      rcases ih (hfill.inv hinv) with ⟨herror, hclock⟩ | ⟨container, s', hok, hfills⟩
      · rw [herror]
        rw [hfill.sameTable.params] at hclock
        exact Or.inl ⟨rfl, hclock⟩
      · rw [hok]
        exact Or.inr ⟨sent.toList ++ container, s', rfl, .cons hfill hfills⟩

/-- The loop of `FillRetransmissionContainer` treats the requested packets one after the other. -/
theorem fillLoop_spec (hinv : Inv n s) (hn : 0 < n) (rtt : BitVec 16) (nowMs : BitVec 64) (m : ℕ)
    (currentSeq : BitVec 16) (requested : Bool) (bitmask : BitVec 16) :
    (fillLoop rtt nowMs m s currentSeq requested bitmask = .error .divisionByZero ∧
        s.params.clockRate = 0) ∨
      ∃ container s', fillLoop rtt nowMs m s currentSeq requested bitmask = .ok (container, s') ∧
        Fills nowMs s (walk m currentSeq requested bitmask) container s' := by
  rw [fillLoop_eq]
  exact fillAll_spec hinv hn rtt nowMs _

/-- The sequence numbers that a stream looks for on an item of a NACK packet. -/
def requestedSeqs (s : RtpStreamSend) (seq bitmask : BitVec 16) : List (BitVec 16) :=
  if s.params.useNack then walk maxRequestedPackets seq true bitmask else []

/-- **`FillRetransmissionContainer`** treats the requested packets one after the other. -/
theorem fillRetransmissionContainer_spec (hinv : Inv n s) (hn : 0 < n) (seq bitmask rtt : BitVec 16)
    (nowMs : BitVec 64) :
    (s.fillRetransmissionContainer seq bitmask rtt nowMs = .error .divisionByZero ∧
        s.params.clockRate = 0) ∨
      ∃ container s', s.fillRetransmissionContainer seq bitmask rtt nowMs = .ok (container, s') ∧
        Fills nowMs s (s.requestedSeqs seq bitmask) container s' := by
  unfold fillRetransmissionContainer requestedSeqs
  cases s.params.useNack with
  | false => exact Or.inr ⟨[], s, rfl, .nil s⟩
  | true => exact fillLoop_spec hinv hn rtt nowMs _ seq true bitmask

/-- What happens for the items in the container, with the packets that the listener is given. -/
inductive Retransmits : RtpStreamSend → List ℕ → List RtpPacket → RtpStreamSend → Prop
  | nil (s : RtpStreamSend) : Retransmits s [] [] s
  | cons {s t u : RtpStreamSend} {ptr : ℕ} {container : List ℕ} {packets : List RtpPacket}
      {item : StorageItem} {p q : RtpPacket} : s.storage[ptr]? = some item → item.Loaded p →
      RtpPacket.Rewrites p q → SameTable s t → t.rtxSeq = s.rtxSeq →
      t.storage = s.storage.set ptr { item with packet := some q } →
        Retransmits t container packets u →
      Retransmits s (ptr :: container) (p :: packets) u

/-- The transport leaves the form of a stored packet alone. -/
theorem loaded_rewrites {item : StorageItem} {p q : RtpPacket} (h : item.Loaded p)
    (hq : RtpPacket.Rewrites p q) : StorageItem.Loaded { item with packet := some q } q where
  packet := rfl
  formed := hq.formed h.formed h.located
  located := hq.located
  length := hq.length.trans h.length
  size := by
    rw [hq.eq]
    exact h.size

namespace Retransmits

variable {container : List ℕ} {packets : List RtpPacket}

theorem sameTable (h : Retransmits s container packets s') : SameTable s s' := by
  induction h with
  | nil s => exact .refl s
  | cons _ _ _ htable _ _ _ ih => exact htable.trans ih

theorem inv (h : Retransmits s container packets s') (hinv : Inv n s)
    (hlt : ∀ ptr ∈ container, ptr < s.bufferSize) : Inv n s' := by
  induction h with
  | nil s => exact hinv
  | cons hitem hloaded hq htable _ hstorage _ ih =>
    refine ih ?_ fun ptr hptr ↦ ?_
    · exact (hinv.set (hlt _ List.mem_cons_self) (loaded_rewrites hloaded hq)).congr htable.buffer
        htable.bufferStartIdx htable.bufferSize hstorage
    · rw [htable.bufferSize]
      exact hlt ptr (List.mem_cons_of_mem _ hptr)

end Retransmits

/-- The loop of `ReceiveNack` over the container retransmits every packet in it. -/
theorem retransmit_spec (hinv : Inv n s) (sendMs : BitVec 64)
    (transportWideCcSeq : Option (BitVec 16))
    (container : List ℕ) (hlt : ∀ ptr ∈ container, ptr < s.bufferSize) :
    ∃ packets seq s', retransmit sendMs s transportWideCcSeq container = .ok (packets, seq, s') ∧
      Retransmits s container packets s' := by
  induction container generalizing s transportWideCcSeq with
  | nil => exact ⟨[], transportWideCcSeq, s, rfl, .nil s⟩
  | cons ptr container ih =>
    obtain ⟨item, p, hitem, hloaded⟩ := hinv.loaded ptr (hlt ptr List.mem_cons_self)
    obtain ⟨q, seq, hsend, hq⟩ :=
      hloaded.located.onConsumerRetransmitRtpPacket hloaded.formed sendMs
      transportWideCcSeq
    have hinv' := hinv.set (hlt ptr List.mem_cons_self) (loaded_rewrites hloaded hq)
    rw [retransmit, itemAt_eq_ok hitem]
    change ∃ packets seq s', (item.getPacket >>= fun _ ↦ _) = _ ∧ _
    rw [hloaded.getPacket]
    change ∃ packets seq s',
      (p.onConsumerRetransmitRtpPacket sendMs transportWideCcSeq >>= fun _ ↦ _)
      = _ ∧ _
    rw [hsend]
    obtain ⟨packets, seq', s', hrest, hretransmits⟩ := ih (s := { s with
        storage := s.storage.set ptr { item with packet := some q }
        packetsRetransmitted := s.packetsRetransmitted + 1
        packetsRepaired := if item.sentTimes = 1 then s.packetsRepaired + 1
          else s.packetsRepaired })
      (hinv'.congr rfl rfl rfl rfl) seq fun ptr' hptr' ↦ hlt ptr' (List.mem_cons_of_mem _ hptr')
    refine ⟨p :: packets, seq', s', ?_, .cons hitem hloaded hq ?_ ?_ ?_ hretransmits⟩
    · change (retransmit sendMs _ seq container >>= fun _ ↦ _) = _
      rw [hrest]
      rfl
    · exact ⟨rfl, rfl, rfl, rfl, rfl⟩
    · rfl
    · rfl

/-- What happens for the items of a NACK packet, with the packets that the listener is given. -/
inductive Nacks (nowMs : BitVec 64) :
    RtpStreamSend → List FeedbackRtpNackItem → List RtpPacket → RtpStreamSend → Prop
  | nil (s : RtpStreamSend) : Nacks nowMs s [] [] s
  | cons {s t u v : RtpStreamSend} {item : FeedbackRtpNackItem} {items : List FeedbackRtpNackItem}
      {container : List ℕ} {packets rest : List RtpPacket} :
      Fills nowMs { s with nackPacketCount := s.nackPacketCount + item.countRequestedPackets }
        (s.requestedSeqs item.getPacketId item.getLostPacketBitmask) container t →
      Retransmits t container packets u → Nacks nowMs u items rest v →
      Nacks nowMs s (item :: items) (packets ++ rest) v

theorem Nacks.sameTable {nowMs : BitVec 64} {items : List FeedbackRtpNackItem}
    {packets : List RtpPacket} (h : Nacks nowMs s items packets s') : SameTable s s' := by
  induction h with
  | nil s => exact .refl s
  | cons hfills hretransmits _ ih =>
    have hfirst := (hfills.sameTable.trans hretransmits.sameTable).trans ih
    exact ⟨hfirst.params, hfirst.hasRtx, hfirst.buffer, hfirst.bufferStartIdx, hfirst.bufferSize⟩

theorem Nacks.inv {nowMs : BitVec 64} {items : List FeedbackRtpNackItem} {packets : List RtpPacket}
    (h : Nacks nowMs s items packets s') (hinv : Inv n s) : Inv n s' := by
  induction h with
  | nil s => exact hinv
  | @cons s t u v item items container packets rest hfills hretransmits _ ih =>
    have hinv' :
        Inv n { s with nackPacketCount := s.nackPacketCount + item.countRequestedPackets } :=
      hinv.congr rfl rfl rfl rfl
    refine ih (hretransmits.inv (hfills.inv hinv') fun ptr hptr ↦ ?_)
    rw [hfills.sameTable.bufferSize]
    exact hfills.mem_lt hinv' ptr hptr

/-- The loop of `ReceiveNack` over the items of the packet. -/
theorem receiveNackItems_spec (hinv : Inv n s) (hn : 0 < n) (rtt : BitVec 16)
    (nowMs sendMs : BitVec 64) (transportWideCcSeq : Option (BitVec 16))
    (items : List FeedbackRtpNackItem) :
    (receiveNackItems rtt nowMs sendMs s transportWideCcSeq items = .error .divisionByZero ∧
        s.params.clockRate = 0) ∨
      ∃ packets s', receiveNackItems rtt nowMs sendMs s transportWideCcSeq items =
        .ok (packets, s') ∧
        Nacks nowMs s items packets s' := by
  induction items generalizing s transportWideCcSeq with
  | nil => exact Or.inr ⟨[], s, rfl, .nil s⟩
  | cons item items ih =>
    rw [receiveNackItems]
    have hinv₀ :
        Inv n { s with nackPacketCount := s.nackPacketCount + item.countRequestedPackets } :=
      hinv.congr rfl rfl rfl rfl
    rcases fillRetransmissionContainer_spec hinv₀ hn item.getPacketId item.getLostPacketBitmask rtt
      nowMs with ⟨herror, hclock⟩ | ⟨container, t, hfill, hfills⟩
    · left
      refine ⟨?_, hclock⟩
      dsimp only
      rw [herror]
      rfl
    · have hinv₁ := hfills.inv hinv₀
      have hlt : ∀ ptr ∈ container, ptr < t.bufferSize := by
        rw [hfills.sameTable.bufferSize]
        exact hfills.mem_lt hinv₀
      obtain ⟨packets, seq, u, hretransmit, hretransmits⟩ := retransmit_spec hinv₁ sendMs
        transportWideCcSeq container hlt
      have hparams : u.params = s.params :=
        hretransmits.sameTable.params.trans hfills.sameTable.params
      dsimp only
      rw [hfill]
      rcases ih (hretransmits.inv hinv₁ hlt) seq with ⟨herror, hclock⟩ | ⟨rest, v, hrest, hnacks⟩
      · left
        rw [hparams] at hclock
        refine ⟨?_, hclock⟩
        change (retransmit sendMs t transportWideCcSeq container >>= fun _ ↦ _) = _
        rw [hretransmit]
        change (receiveNackItems rtt nowMs sendMs u seq items >>= fun _ ↦ _) = _
        rw [herror]
        rfl
      · right
        refine ⟨packets ++ rest, v, ?_, .cons hfills hretransmits hnacks⟩
        change (retransmit sendMs t transportWideCcSeq container >>= fun _ ↦ _) = _
        rw [hretransmit]
        change (receiveNackItems rtt nowMs sendMs u seq items >>= fun _ ↦ _) = _
        rw [hrest]
        rfl

/-! ## All runs -/

/-- `StorePacket` works on the buffer only. -/
theorem Outcome.params_eq (h : Outcome s packet s') : s'.params = s.params := by
  cases h <;> rfl

/-- One event keeps the invariant and the clock rate, and only divides by a clock rate of zero. -/
theorem step_spec (hinv : Inv n s) (hn : 2 ≤ n) (event : SendEvent) :
    (s.step event = .error .divisionByZero ∧ s.params.clockRate = 0) ∨
      ∃ packets s', s.step event = .ok (packets, s') ∧ Inv n s' ∧
        s'.params.clockRate = s.params.clockRate := by
  have hpos : 0 < n := by omega
  cases event with
  | receivePacket packet nowMs =>
    right
    unfold step receivePacket
    dsimp only
    split
    · exact ⟨[], _, rfl, hinv.congr rfl rfl rfl rfl, rfl⟩
    · split
      · have hinv₀ : Inv n { s with
          seqState := (s.seqState.receivePacket packet.1.getSequenceNumber packet.1.getTimestamp
            nowMs).2 } := hinv.congr rfl rfl rfl rfl
        obtain ⟨t, ht, houtcome⟩ := storePacket_spec hinv₀ hpos packet.2
        rw [ht]
        exact ⟨[], t, rfl, houtcome.inv hinv₀ hn, by rw [houtcome.params_eq]⟩
      · exact ⟨[], _, rfl, hinv.congr rfl rfl rfl rfl, rfl⟩
  | storePacket packet =>
    right
    obtain ⟨t, ht, houtcome⟩ := storePacket_spec hinv hpos packet.2
    rw [step, ht]
    exact ⟨[], t, rfl, houtcome.inv hinv hn, by rw [houtcome.params_eq]⟩
  | fillRetransmissionContainer seq bitmask rtt nowMs =>
    rcases fillRetransmissionContainer_spec hinv hpos seq bitmask rtt nowMs with
      ⟨herror, hclock⟩ | ⟨container, t, hfill, hfills⟩
    · left
      rw [step, herror]
      exact ⟨rfl, hclock⟩
    · right
      rw [step, hfill]
      exact ⟨[], t, rfl, hfills.inv hinv, by rw [hfills.sameTable.params]⟩
  | receiveNack items rtt nowMs sendMs transportWideCcSeq =>
    have hinv₀ : Inv n { s with nackCount := s.nackCount + 1 } := hinv.congr rfl rfl rfl rfl
    rcases receiveNackItems_spec hinv₀ hpos rtt nowMs sendMs transportWideCcSeq items with
      ⟨herror, hclock⟩ | ⟨packets, t, hreceive, hnacks⟩
    · exact Or.inl ⟨herror, hclock⟩
    · exact Or.inr ⟨packets, t, hreceive, hnacks.inv hinv₀, by rw [hnacks.sameTable.params]⟩
  | clearBuffer =>
    right
    obtain ⟨storage, hclear, hlength, hblank⟩ := clearBuffer_spec hinv hpos
    rw [step, hclear]
    exact ⟨[], _, rfl, inv_of_empty hlength hblank rfl rfl, rfl⟩
  | setRtx payloadType ssrc rtxSeq =>
    exact Or.inr ⟨[], _, rfl, hinv.congr rfl rfl rfl rfl, rfl⟩

/-- What the table, the storage, the count and the start index of a buffer with room for `n` packets
say about each other. -/
structure BufferInvariant (n : ℕ) (s : RtpStreamSend) : Prop where
  /-- As many entries are used as `bufferSize` says. -/
  count : {seq | s.buffer seq ≠ none}.ncard = s.bufferSize
  le : s.bufferSize ≤ n
  /-- The used entries point to different items. -/
  distinct : ∀ seq seq' ptr, s.buffer seq = some ptr → s.buffer seq' = some ptr → seq = seq'
  /-- These are the first `bufferSize` items of the storage. -/
  exactly : ∀ ptr, (∃ seq, s.buffer seq = some ptr) ↔ ptr < s.bufferSize
  /-- Each of them holds a packet. -/
  packets : ∀ seq ptr, s.buffer seq = some ptr →
    ∃ item packet, s.storage[ptr]? = some item ∧ item.packet = some packet
  /-- The entry at the start is used. -/
  start : 0 < s.bufferSize → s.buffer s.bufferStartIdx ≠ none

theorem Inv.bufferInvariant (h : Inv n s) : BufferInvariant n s where
  count := h.compact.ncard
  le := h.le
  distinct _ _ _ := h.compact.inj
  exactly ptr := ⟨fun ⟨_, hseq⟩ ↦ h.compact.lt hseq, h.compact.surj ptr⟩
  packets seq ptr hseq := by
    obtain ⟨item, p, hitem, hloaded, -⟩ := h.item_of_used hseq
    exact ⟨item, p, hitem, hloaded.packet⟩
  start := h.start

/-- **The buffer is sound in every reachable state.** In every run of a stream with room for at
least two packets, the table, the storage, the count and the start index agree before and after each
event, and nothing goes wrong but a division by a clock rate of zero: no null item is reset. -/
theorem buffer_invariant (params : RtpStreamParams) (n : ℕ) (hn : 2 ≤ n) (events : List SendEvent) :
    match Run.trace step (init params n) events with
    | .ok records => ∀ r ∈ records, BufferInvariant n r.before ∧ BufferInvariant n r.after
    | .error fault => fault = .divisionByZero ∧ params.clockRate = 0 := by
  have hstep : ∀ s event, (Inv n s ∧ s.params.clockRate = params.clockRate) →
      (∃ fault, step s event = .error fault ∧ (fault = .divisionByZero ∧ params.clockRate = 0)) ∨
        ∃ packets t, step s event = .ok (packets, t) ∧
          (Inv n t ∧ t.params.clockRate = params.clockRate) := by
    rintro s event ⟨hinv, hclock⟩
    rcases step_spec hinv hn event with ⟨herror, hzero⟩ | ⟨packets, t, hok, hinv', hclock'⟩
    · exact Or.inl ⟨_, herror, rfl, hclock ▸ hzero⟩
    · exact Or.inr ⟨packets, t, hok, hinv', hclock'.trans hclock⟩
  have hsafe := Run.trace_safe hstep events (init params n) ⟨inv_init params n, rfl⟩
  cases htrace : Run.trace step (init params n) events with
  | error fault =>
    rw [htrace] at hsafe
    exact hsafe
  | ok records =>
    rw [htrace] at hsafe
    exact fun r hr ↦ ⟨(hsafe r hr).1.1.bufferInvariant, (hsafe r hr).2.1.bufferInvariant⟩

/-- The parameters of a stream. -/
def sendParams : RtpStreamParams :=
  { ssrc := 1, payloadType := 100, clockRate := 90000, useNack := true }

/-- A packet with a sequence number and a timestamp, and nothing else. -/
def barePacket (seq : BitVec 16) (timestamp : BitVec 32) : FormedPacket where
  val := .view { version := 2, padding := false, extension := false, csrcCount := 0, marker := false
                 payloadType := 100, sequenceNumber := seq, timestamp := timestamp, ssrc := 1 }
    [] none 0 0 0 12
  property := ⟨rfl, rfl, rfl, rfl, rfl, Nat.le_refl _⟩

/-- Three packets are stored where two have room, one of them twice, and two are retransmitted. -/
theorem buffer_invariant_three_packets :
    let params : RtpStreamParams :=
      { ssrc := 1, payloadType := 100, clockRate := 90000, useNack := true }
    let events : List SendEvent := [.setRtx 101 2 7, .storePacket (barePacket 65535 10),
      .storePacket (barePacket 1 20), .storePacket (barePacket 0 30),
        .storePacket (barePacket 0 40),
      .receiveNack [.make 0 1] 100 1000 1001 none, .clearBuffer]
    ∃ records, Run.trace step (init params 2) events = .ok records ∧
      ∀ r ∈ records, BufferInvariant 2 r.before ∧ BufferInvariant 2 r.after := by
  intro params events
  have hinvariant := buffer_invariant params 2 (Nat.le_refl 2) events
  cases htrace : Run.trace step (init params 2) events with
  | error fault =>
    rw [htrace] at hinvariant
    exact absurd hinvariant.2 (by decide)
  | ok records =>
    rw [htrace] at hinvariant
    exact ⟨records, rfl, hinvariant⟩

end RtpStreamSend

end MediasoupSfu
