import MediasoupSfu.Stream.Resend

/-!
# The age of retransmitted packets

`FillRetransmissionContainer` leaves out the packets that are older than `MaxRetransmissionDelay`,
measured by their RTP timestamps. It computes `diffTs * 1000` in 32 bits, so beyond `2 ^ 32 / 1000`
ticks the age starts over at zero (48 seconds at 90 kHz, 90 seconds at 48 kHz), and then it cuts the
quotient down to whole milliseconds, so the last millisecond is let through.

Which items get into the container does not depend on the order of the requests: the timestamp of a
stored packet is never changed, and an item is only changed when it is selected
(`mem_container_iff`). From that follows exactly when no packet in the container is too old
(`fillRetransmissionContainer_tooOld_iff`).
-/

namespace MediasoupSfu

namespace RtpStreamSend

variable {s s' : RtpStreamSend} {n ptr : ℕ} {seq rtt : BitVec 16} {nowMs : BitVec 64}

/-! ## The age of a packet -/

/-- How far the timestamp of a packet is behind the maximum one, modulo `2 ^ 32`. -/
def diffTs (s : RtpStreamSend) (p : RtpPacket) : BitVec 32 :=
  s.seqState.maxPacketTs - p.getTimestamp

/-- The age of a packet, `diffTs * 1000 / clockRate` in exact arithmetic, is more than
`MaxRetransmissionDelay`. -/
def TooOld (s : RtpStreamSend) (p : RtpPacket) : Prop :=
  maxRetransmissionDelay.toNat * s.params.clockRate.toNat < (s.diffTs p).toNat * 1000

/-- The packet was resent in the last RTT ms. -/
def ResentRecently (item : StorageItem) (rtt : BitVec 16) (nowMs : BitVec 64) : Prop :=
  item.resentAtMs ≠ 0 ∧ nowMs - item.resentAtMs ≤ rtt.setWidth 64

/-- A stored packet that `FillRetransmissionContainer` takes when it is requested. -/
structure Selects (s : RtpStreamSend) (rtt : BitVec 16) (nowMs : BitVec 64) (seq : BitVec 16)
    (ptr : ℕ) (item : StorageItem) (p : RtpPacket) : Prop where
  entry : s.buffer seq = some ptr
  stored : s.storage[ptr]? = some item
  packet : item.packet = some p
  young : ¬maxRetransmissionDelay < s.diffTs p * 1000 / s.params.clockRate
  notResent : ¬ResentRecently item rtt nowMs

/-- The comparison of the code, in natural numbers. -/
theorem delay_lt_iff (p : RtpPacket) (hclock : s.params.clockRate ≠ 0) :
    maxRetransmissionDelay < s.diffTs p * 1000 / s.params.clockRate ↔
      2001 * s.params.clockRate.toNat ≤ (s.diffTs p).toNat * 1000 % 2 ^ 32 := by
  have hpos : 0 < s.params.clockRate.toNat :=
    Nat.pos_of_ne_zero fun h ↦ hclock (BitVec.eq_of_toNat_eq h)
  rw [BitVec.lt_def, BitVec.toNat_udiv, BitVec.toNat_mul]
  exact Nat.le_div_iff_mul_le hpos

/-! ## Which items are selected -/

/-- Resending leaves the timestamp alone. -/
theorem Encodes.getTimestamp_eq {item : StorageItem} {p q : RtpPacket} (h : Encodes s item p q) :
    q.getTimestamp = p.getTimestamp := by
  cases h with
  | plain => rfl
  | again => rfl
  | encoded _ _ hcontent _ => exact congrArg RtpContent.timestamp hcontent

/-- One request, and when it is followed. -/
theorem fillRequested_selects (hinv : Inv n s) (hn : 0 < n) (hclock : s.params.clockRate ≠ 0)
    (seq rtt : BitVec 16) (nowMs : BitVec 64) :
    ∃ sent t, s.fillRequested seq rtt nowMs = .ok (sent, t) ∧ Fill s seq nowMs sent t ∧
      ∀ ptr, ptr ∈ sent.toList ↔ ∃ item p, Selects s rtt nowMs seq ptr item p := by
  have hlength := hinv.length
  have hnonempty : ¬s.storage.isEmpty = true := by
    rw [List.isEmpty_iff_length_eq_zero]
    omega
  unfold fillRequested
  rw [if_neg hnonempty]
  cases hslot : s.buffer seq with
  | none =>
    refine ⟨none, s, rfl, .skipped, fun ptr ↦ ⟨nofun, ?_⟩⟩
    rintro ⟨item, p, h⟩
    rw [h.entry] at hslot
    cases hslot
  | some ptr =>
    obtain ⟨item, p, hitem, hloaded, -⟩ := hinv.item_of_used hslot
    obtain ⟨q, hresend, hencodes, hloaded'⟩ := resend_spec s ptr hloaded nowMs
    -- what is selected is this packet
    have hthis : ∀ {ptr' item' p'}, Selects s rtt nowMs seq ptr' item' p' →
        ptr' = ptr ∧ item' = item ∧ p' = p := by
      intro ptr' item' p' h
      obtain rfl : ptr = ptr' := Option.some.inj (hslot.symm.trans h.entry)
      obtain rfl : item = item' := Option.some.inj (hitem.symm.trans h.stored)
      exact ⟨rfl, rfl, Option.some.inj (h.packet.symm.trans hloaded.packet)⟩
    simp only [itemAt_eq_ok hitem, hloaded.getPacket, hresend, bind, Except.bind, pure, Except.pure,
      if_neg hclock]
    split
    · rename_i hold
      refine ⟨none, s, rfl, .skipped, fun ptr' ↦ ⟨nofun, ?_⟩⟩
      rintro ⟨item', p', h⟩
      obtain ⟨-, -, rfl⟩ := hthis h
      exact absurd hold h.young
    · rename_i hyoung
      split
      · rename_i hresent
        refine ⟨none, s, rfl, .skipped, fun ptr' ↦ ⟨nofun, ?_⟩⟩
        rintro ⟨item', p', h⟩
        obtain ⟨-, rfl, -⟩ := hthis h
        exact absurd hresent h.notResent
      · rename_i hnotResent
        refine ⟨some ptr, _, rfl, .sent hslot hitem hloaded hencodes hloaded', fun ptr' ↦ ?_⟩
        rw [Option.toList_some, List.mem_singleton]
        constructor
        · rintro rfl
          exact ⟨item, p, hslot, hitem, hloaded.packet, hyoung, hnotResent⟩
        · rintro ⟨item', p', h⟩
          exact (hthis h).1

/-- A request changes nothing but the item that it selects. -/
theorem Fill.selects_iff {sent : Option ℕ} {seq' : BitVec 16} {item : StorageItem} {p : RtpPacket}
    (h : Fill s seq nowMs sent s') (hptr : ptr ∉ sent.toList) :
    Selects s' rtt nowMs seq' ptr item p ↔ Selects s rtt nowMs seq' ptr item p := by
  cases h with
  | skipped => exact Iff.rfl
  | @sent ptr₀ =>
    have hne : ptr₀ ≠ ptr := fun heq ↦ hptr (by simp [heq])
    have hstored : ∀ item', (s.storage.set ptr₀ item')[ptr]? = s.storage[ptr]? :=
      fun _ ↦ List.getElem?_set_ne hne
    exact ⟨fun h ↦ ⟨h.entry, (hstored _).symm.trans h.stored, h.packet, h.young, h.notResent⟩,
      fun h ↦ ⟨h.entry, (hstored _).trans h.stored, h.packet, h.young, h.notResent⟩⟩

/-- **The container** has the items that one of the requests selects, whatever their order. -/
theorem fillAll_selects (hn : 0 < n) (seqs : List (BitVec 16)) (hinv : Inv n s)
    (hclock : s.params.clockRate ≠ 0) :
    ∃ container t, fillAll rtt nowMs seqs s = .ok (container, t) ∧
      ∀ ptr, ptr ∈ container ↔ ∃ seq ∈ seqs, ∃ item p, Selects s rtt nowMs seq ptr item p := by
  induction seqs generalizing s with
  | nil => exact ⟨[], s, rfl, by simp⟩
  | cons seq seqs ih =>
    obtain ⟨sent, t, hfill, hstep, hsent⟩ := fillRequested_selects hinv hn hclock seq rtt nowMs
    obtain ⟨container, u, hrest, hcontainer⟩ := ih (hstep.inv hinv)
      (by rw [hstep.sameTable.params]; exact hclock)
    refine ⟨sent.toList ++ container, u, ?_, fun ptr ↦ ?_⟩
    · simp only [fillAll, hfill, hrest, bind, Except.bind]
      rfl
    · rw [List.mem_append, List.exists_mem_cons_iff, ← hsent ptr, hcontainer ptr]
      by_cases hptr : ptr ∈ sent.toList
      · exact ⟨fun _ ↦ Or.inl hptr, fun _ ↦ Or.inl hptr⟩
      · simp only [hstep.selects_iff hptr]

theorem mem_container_iff (hinv : Inv n s) (hn : 0 < n) (hclock : s.params.clockRate ≠ 0)
    (seq bitmask rtt : BitVec 16) (nowMs : BitVec 64) :
    ∃ container t, s.fillRetransmissionContainer seq bitmask rtt nowMs = .ok (container, t) ∧
      ∀ ptr, ptr ∈ container ↔
        ∃ seq' ∈ s.requestedSeqs seq bitmask, ∃ item p, Selects s rtt nowMs seq' ptr item p := by
  unfold fillRetransmissionContainer requestedSeqs
  cases s.params.useNack with
  | false => exact ⟨[], s, rfl, by simp⟩
  | true =>
    obtain ⟨container, t, hfill, hmem⟩ := fillAll_selects hn
      (walk maxRequestedPackets seq true bitmask) hinv hclock
    exact ⟨container, t, (fillLoop_eq rtt nowMs _ s seq true bitmask).trans hfill, hmem⟩

/-! ## Too old packets -/

/-- **The age limit holds exactly when** each requested packet that is older, and was not resent in
the last RTT ms, is so by a number of ticks whose product with 1000 still says so in 32 bits and in
whole milliseconds. -/
theorem fillRetransmissionContainer_tooOld_iff (hinv : Inv n s) (hclock : s.params.clockRate ≠ 0)
    (seq bitmask rtt : BitVec 16) (nowMs : BitVec 64) :
    (∀ container t, s.fillRetransmissionContainer seq bitmask rtt nowMs = .ok (container, t) →
      ∀ ptr ∈ container, ∀ item p, s.storage[ptr]? = some item → item.packet = some p →
        ¬s.TooOld p) ↔
    ∀ seq' ∈ s.requestedSeqs seq bitmask, ∀ ptr item p, s.buffer seq' = some ptr →
      s.storage[ptr]? = some item → item.packet = some p →
      (s.diffTs p).toNat ≤ 2 * s.params.clockRate.toNat ∨
        2001 * s.params.clockRate.toNat ≤ (s.diffTs p).toNat * 1000 % 2 ^ 32 ∨
        ResentRecently item rtt nowMs := by
  have htooOld : ∀ p, s.TooOld p ↔ ¬(s.diffTs p).toNat ≤ 2 * s.params.clockRate.toNat := by
    intro p
    change 2000 * s.params.clockRate.toNat < (s.diffTs p).toNat * 1000 ↔ _
    omega
  rcases Nat.eq_zero_or_pos n with rfl | hn
  · -- there is no room for packets
    have hnone : ∀ ptr : ℕ, s.storage[ptr]? = none := fun ptr ↦
      List.getElem?_eq_none (by rw [hinv.length]; exact Nat.zero_le ptr)
    constructor
    · intro _ _ _ ptr item _ _ hstored
      rw [hnone] at hstored
      cases hstored
    · intro _ _ _ _ ptr _ item _ hstored
      rw [hnone] at hstored
      cases hstored
  obtain ⟨container, t, hfill, hmem⟩ := mem_container_iff hinv hn hclock seq bitmask rtt nowMs
  constructor
  · intro hall seq' hseq' ptr item p hentry hstored hpacket
    by_contra hneither
    push Not at hneither
    obtain ⟨hold, hyoung, hnotResent⟩ := hneither
    have hselected : Selects s rtt nowMs seq' ptr item p :=
      ⟨hentry, hstored, hpacket, by rw [delay_lt_iff p hclock]; omega, hnotResent⟩
    exact hall container t hfill ptr ((hmem ptr).mpr ⟨seq', hseq', item, p, hselected⟩) item p
      hstored hpacket ((htooOld p).mpr (by omega))
  · intro hall container' t' hfill' ptr hptr item p hstored hpacket hold
    obtain ⟨rfl, rfl⟩ := Prod.mk.inj (Except.ok.inj (hfill.symm.trans hfill'))
    obtain ⟨seq', hseq', item', p', hselected⟩ := (hmem ptr).mp hptr
    obtain rfl : item' = item := Option.some.inj (hselected.stored.symm.trans hstored)
    obtain rfl : p' = p := Option.some.inj (hselected.packet.symm.trans hpacket)
    rcases hall seq' hseq' ptr item' p' hselected.entry hstored hpacket with hle | hmany | hresent
    · exact (htooOld p').mp hold hle
    · exact hselected.young ((delay_lt_iff p' hclock).mpr hmany)
    · exact hselected.notResent hresent

/-- Two packets at 90 kHz, the second one 48 seconds after the first. -/
def oldAndNew : List SendEvent :=
  [.receivePacket (barePacket 1 0) 0, .receivePacket (barePacket 2 4294968) 48000]

/-- The stream after some events. -/
def after (s : RtpStreamSend) (events : List SendEvent) : Except Fault RtpStreamSend :=
  events.foldlM (fun s event ↦ (s.step event).map Prod.snd) s

/-- An application of `fillRetransmissionContainer_tooOld_iff` after the two packets. -/
theorem fillRetransmissionContainer_tooOld_iff_oldAndNew :
    ∃ s, (init sendParams 600).after oldAndNew = .ok s ∧
      ((∀ container t, s.fillRetransmissionContainer 1 1 100 48001 = .ok (container, t) →
        ∀ ptr ∈ container, ∀ item p, s.storage[ptr]? = some item → item.packet = some p →
          ¬s.TooOld p) ↔
      ∀ seq' ∈ s.requestedSeqs 1 1, ∀ ptr item p, s.buffer seq' = some ptr →
        s.storage[ptr]? = some item → item.packet = some p →
        (s.diffTs p).toNat ≤ 2 * s.params.clockRate.toNat ∨
          2001 * s.params.clockRate.toNat ≤ (s.diffTs p).toNat * 1000 % 2 ^ 32 ∨
          ResentRecently item 100 48001) := by
  rcases step_spec (inv_init sendParams 600) (by decide) (.receivePacket (barePacket 1 0) 0) with
    ⟨-, hzero⟩ | ⟨packets, s, hs, hinv, hclock⟩
  · exact absurd hzero (by decide)
  rcases step_spec hinv (by decide) (.receivePacket (barePacket 2 4294968) 48000) with
    ⟨-, hzero⟩ | ⟨packets', t, ht, hinv', hclock'⟩
  · exact absurd (hclock.symm.trans hzero) (by decide)
  refine ⟨t, ?_, fillRetransmissionContainer_tooOld_iff hinv'
    (by rw [hclock', hclock]; decide) 1 1 100 48001⟩
  simp only [after, oldAndNew, List.foldlM_cons, hs, bind, Except.bind, Except.map, ht,
    List.foldlM_nil]
  rfl

set_option maxRecDepth 10000 in
/-- **A packet that is 48 seconds old is resent.** -/
theorem fillRetransmissionContainer_tooOld :
    ∃ s t item p, (init sendParams 600).after oldAndNew = .ok s ∧ s.params.clockRate ≠ 0 ∧
      s.fillRetransmissionContainer 1 0 100 48001 = .ok ([0], t) ∧ s.storage[0]? = some item ∧
      item.packet = some p ∧ s.TooOld p :=
  ⟨_, _, _, _, rfl, by decide, rfl, rfl, rfl, by unfold TooOld; decide⟩

end RtpStreamSend

end MediasoupSfu
