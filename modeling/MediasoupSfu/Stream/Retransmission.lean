import MediasoupSfu.Stream.Resend

/-!
# Retransmitted packets

A stored packet is changed in place when it is resent: the first time it is put into the RTX format,
later it only gets the next RTX sequence number, and each time the transport writes the values that
are set on sending into its header extension. What stays is that it *mirrors* the packet that was
stored: decoded from the RTX format it has the content of that packet, up to those values.

`retransmission_faithful` says so for every packet that is handed to the listener in a run with RTX,
and that the RTX sequence numbers of the handed packets count up by one.
-/

namespace MediasoupSfu

open Serial Slots

/-! ## What a stored packet keeps -/

/-- The stored packet `p`, in the RTX format if `encoded`, has the content of `orig` up to values
that are set on sending. -/
def Mirrors (encoded : Bool) (orig p : RtpPacket) : Prop :=
  ∃ c, RtpContent.AgreeOutside p.VolatileExtension orig.content c ∧
    if encoded then ∃ payloadType ssrc seq, p.content = c.encodeRtx payloadType ssrc seq
    else p.content = c

namespace Mirrors

variable {encoded : Bool} {orig p q : RtpPacket}

/-- Contents that agree with an RTX format are RTX formats of contents that agree. -/
theorem agree_encodeRtx {volatile : ℕ → Prop} {c d : RtpContent} {payloadType : BitVec 7}
    {ssrc : BitVec 32} {seq : BitVec 16}
    (h : RtpContent.AgreeOutside volatile (c.encodeRtx payloadType ssrc seq) d) :
    ∃ c', RtpContent.AgreeOutside volatile c c' ∧ d = c'.encodeRtx payloadType ssrc seq :=
  ⟨{ c with headerExtension := d.headerExtension }, ⟨rfl, h.length, h.cells⟩, h.rest⟩

theorem volatile_congr (hget : ∀ id, q.getExtension id = p.getExtension id) (hids : q.ids = p.ids)
    (hsize : q.header.csrcListSize = p.header.csrcListSize) (j : ℕ) :
    p.VolatileExtension j ↔ q.VolatileExtension j := by
  unfold RtpPacket.VolatileExtension RtpPacket.IsVolatile
  simp only [hget, hids, hsize]

/-- A clone mirrors the packet. -/
theorem of_clone (h : q.content = orig.content) : Mirrors false orig q :=
  ⟨q.content, by rw [h]; exact .refl _ _, by simp⟩

/-- A packet that the transport has sent mirrors the same packet as before. -/
theorem rewrites (h : Mirrors encoded orig p) (hp : p.Formed) (hl : p.Located)
    (hq : RtpPacket.Rewrites p q) : Mirrors encoded orig q := by
  obtain ⟨c, hagree, hcontent⟩ := h
  have hsize : q.header.csrcListSize = p.header.csrcListSize := by rw [hq.eq]
  have hvolatile := volatile_congr hq.getExtension hq.ids_eq hsize
  have hchange := hq.content_agree hp hl
  cases encoded with
  | false =>
    rw [if_neg (by decide)] at hcontent
    rw [hcontent] at hchange
    exact ⟨q.content, (hagree.trans hchange).congr hvolatile, by simp⟩
  | true =>
    obtain ⟨payloadType, ssrc, seq, hcontent⟩ := hcontent
    rw [hcontent] at hchange
    obtain ⟨c', hagree', hcontent'⟩ := agree_encodeRtx hchange
    exact ⟨c', (hagree.trans hagree').congr hvolatile, by simpa using ⟨_, _, _, hcontent'⟩⟩

/-- A packet that is resent in the RTX format mirrors the same packet as before. -/
theorem encodes {s : RtpStreamSend} {item : StorageItem} (h : Mirrors item.rtxEncoded orig p)
    (hp : p.Formed) (hl : p.Located) (hq : q.Formed) (hrtx : s.hasRtx = true)
    (hencodes : s.Encodes item p q) : Mirrors true orig q ∧
      q.getSequenceNumber = s.rtxSeq + 1 := by
  obtain ⟨c, hagree, hcontent⟩ := h
  cases hencodes with
  | plain hplain =>
    rw [hplain] at hrtx
    cases hrtx
  | again _ hencoded =>
    rw [hencoded, if_pos rfl] at hcontent
    obtain ⟨payloadType, ssrc, seq, hcontent⟩ := hcontent
    refine ⟨⟨c, hagree.congr (volatile_congr (fun _ ↦ rfl) rfl rfl), ?_⟩, rfl⟩
    rw [if_pos rfl]
    refine ⟨payloadType, ssrc, s.rtxSeq + 1, ?_⟩
    change { p.content with sequenceNumber := s.rtxSeq + 1 } = _
    rw [hcontent]
    rfl
  | encoded _ hencoded hcontent' helements =>
    rw [hencoded, if_neg (by decide)] at hcontent
    obtain ⟨-, hget⟩ := helements.located hp hl hq
    refine ⟨⟨c, hagree.congr (volatile_congr hget helements.ids helements.front.csrcListSize), ?_⟩,
      ?_⟩
    · rw [if_pos rfl]
      exact ⟨_, _, _, by rw [hcontent', hcontent]⟩
    · exact congrArg RtpContent.sequenceNumber hcontent'

/-- **Decoding** a packet in the RTX format with the payload type and the SSRC of the mirrored
packet gives its content, up to values that are set on sending. -/
theorem rtxDecode (h : Mirrors true orig p) (hp : p.Formed) :
    ∃ d, p.rtxDecode orig.getPayloadType orig.getSsrc = .ok (some d) ∧
      RtpContent.AgreeOutside p.VolatileExtension orig.content d.content := by
  obtain ⟨c, hagree, hcontent⟩ := h
  rw [if_pos rfl] at hcontent
  obtain ⟨payloadType, ssrc, seq, hcontent⟩ := hcontent
  obtain ⟨r, hdecode, hmap, -⟩ := RtpPacket.rtxDecode_spec hp orig.getPayloadType orig.getSsrc
  have hpayload : orig.getPayloadType.setWidth 7 = c.payloadType := by
    rw [hagree.rest]
    exact BitVec.setWidth_setWidth_of_le _ (by decide)
  have hssrc : orig.getSsrc = c.ssrc := by
    rw [hagree.rest]
    rfl
  rw [hcontent, hpayload, hssrc, RtpContent.decodeRtx_encodeRtx] at hmap
  cases r with
  | none => cases hmap
  | some d =>
    refine ⟨d, hdecode, ?_⟩
    rw [Option.map_some, Option.some.injEq] at hmap
    rw [hmap]
    exact hagree

end Mirrors

namespace RtpStreamSend

variable {s s' : RtpStreamSend} {n : ℕ} {packet : RtpPacket}

/-! ## The walk over the requested packets -/

theorem pos_of_mem_walk {m : ℕ} {currentSeq : BitVec 16} {requested : Bool} {bitmask : BitVec 16}
    (hm : m ≤ 2 ^ 16) {x : BitVec 16} (hx : x ∈ walk m currentSeq requested bitmask) :
    pos currentSeq x < m := by
  induction m generalizing currentSeq requested bitmask with
  | zero => cases hx
  | succ m ih =>
    rw [walk] at hx
    split at hx
    · rcases List.mem_append.mp hx with hx | hx
      · split at hx
        · rw [List.mem_singleton.mp hx, pos_self]
          exact Nat.succ_pos m
        · cases hx
      · by_cases hne : x = currentSeq
        · rw [hne, pos_self]
          exact Nat.succ_pos m
        · rw [pos_succ_of_ne hne]
          exact Nat.succ_lt_succ (ih (by omega) hx)
    · cases hx

/-- No sequence number is found requested twice. -/
theorem nodup_walk {m : ℕ} (hm : m ≤ 2 ^ 16) (currentSeq : BitVec 16) (requested : Bool)
    (bitmask : BitVec 16) : (walk m currentSeq requested bitmask).Nodup := by
  induction m generalizing currentSeq requested bitmask with
  | zero => exact List.nodup_nil
  | succ m ih =>
    have hrest := ih (by omega) (currentSeq + 1) (bitmask.getLsbD 0) (bitmask >>> 1)
    rw [walk]
    split
    · split
      · refine List.nodup_cons.mpr ⟨fun hmem ↦ ?_, hrest⟩
        have hlt := pos_of_mem_walk (by omega) hmem
        have hone : pos currentSeq (currentSeq + 1) = 1 := pos_add_ofNat (n := 1) (by decide)
        have hback : pos (currentSeq + 1) currentSeq = 2 ^ 16 - 1 := pos_succ_self (by decide) _
        omega
      · exact hrest
    · exact List.nodup_nil

theorem nodup_requestedSeqs (s : RtpStreamSend) (seq bitmask : BitVec 16) :
    (s.requestedSeqs seq bitmask).Nodup := by
  unfold requestedSeqs
  split
  · exact nodup_walk (by decide) seq true bitmask
  · exact List.nodup_nil

/-! ## Filling the container -/

/-- What is known about the items in the container once it is filled: they are different ones, those
of requested packets, and the packets in them have successive RTX sequence numbers; the other items
are as before. -/
structure Filled (s : RtpStreamSend) (seqs : List (BitVec 16)) (container : List ℕ)
    (s' : RtpStreamSend) : Prop where
  nodup : container.Nodup
  requested : ∀ ptr ∈ container, ∃ seq ∈ seqs, s.buffer seq = some ptr
  others : ∀ ptr, ptr ∉ container → s'.storage[ptr]? = s.storage[ptr]?
  rtxSeq : s'.rtxSeq = s.rtxSeq + BitVec.ofNat 16 container.length
  counted : ∀ i ptr, container[i]? = some ptr → ∃ item p, s'.storage[ptr]? = some item ∧
    item.packet = some p ∧ item.rtxEncoded = true ∧
    p.getSequenceNumber = s.rtxSeq + 1 + BitVec.ofNat 16 i

/-- The stored packets mirror the packets of `origin`. -/
def Faithful (origin : BitVec 16 → RtpPacket → Prop) (s : RtpStreamSend) : Prop :=
  ∀ seq ptr item p, s.buffer seq = some ptr → s.storage[ptr]? = some item → item.packet = some p →
    ∃ orig, origin seq orig ∧ Mirrors item.rtxEncoded orig p

variable {origin : BitVec 16 → RtpPacket → Prop}

/-- An item is changed into one that mirrors the same packet. -/
theorem Faithful.set (h : Faithful origin s) {ptr : ℕ} {item item' : StorageItem} {p p' : RtpPacket}
    (hitem : s.storage[ptr]? = some item) (hp : item.packet = some p) (hp' : item'.packet = some p')
    (hmirrors : ∀ orig, Mirrors item.rtxEncoded orig p → Mirrors item'.rtxEncoded orig p')
    (hbuffer : s'.buffer = s.buffer) (hstorage : s'.storage = s.storage.set ptr item') :
    Faithful origin s' := by
  intro seq' ptr' item'' p'' hseq' hitem'' hp''
  rw [hbuffer] at hseq'
  rw [hstorage] at hitem''
  by_cases hne : ptr = ptr'
  · subst hne
    rw [List.getElem?_set_self (List.getElem?_eq_some_iff.mp hitem).1] at hitem''
    cases hitem''
    rw [hp'] at hp''
    cases hp''
    obtain ⟨orig, horigin, hmirror⟩ := h seq' ptr item p hseq' hitem hp
    exact ⟨orig, horigin, hmirrors orig hmirror⟩
  · rw [List.getElem?_set_ne hne] at hitem''
    exact h seq' ptr' item'' p'' hseq' hitem'' hp''

theorem Fill.faithful {seq : BitVec 16} {nowMs : BitVec 64} {sent : Option ℕ}
    (hfill : Fill s seq nowMs sent s') (h : Faithful origin s) (hrtx : s.hasRtx = true) :
    Faithful origin s' := by
  cases hfill with
  | skipped => exact h
  | sent hptr hitem hloaded hencodes hloaded' =>
    refine h.set hitem hloaded.packet hloaded'.packet (fun orig hmirrors ↦ ?_) rfl rfl
    have hencoded := (hmirrors.encodes hloaded.formed hloaded.located hloaded'.formed hrtx
        hencodes).1
    simpa [resentItem, hrtx] using hencoded

theorem Fills.faithful {nowMs : BitVec 64} {seqs : List (BitVec 16)} {container : List ℕ}
    (hfills : Fills nowMs s seqs container s') (h : Faithful origin s) (hrtx : s.hasRtx = true) :
    Faithful origin s' := by
  induction hfills with
  | nil s => exact h
  | cons hfill _ ih =>
    exact ih (hfill.faithful h hrtx) (hfill.sameTable.hasRtx.trans hrtx)

/-- Filling the container with different requested packets. -/
theorem Fills.filled {nowMs : BitVec 64} {seqs : List (BitVec 16)} {container : List ℕ}
    (hfills : Fills nowMs s seqs container s') (h : Faithful origin s) (hinv : Inv n s)
    (hrtx : s.hasRtx = true) (hnodup : seqs.Nodup) : Filled s seqs container s' := by
  induction hfills with
  | nil s =>
    refine ⟨List.nodup_nil, List.forall_mem_nil _, fun _ _ ↦ rfl, by simp, fun _ _ hi ↦ ?_⟩
    cases hi
  | @cons s t u seq seqs sent container hfill hrest ih =>
    obtain ⟨hnotmem, hnodup'⟩ := List.nodup_cons.mp hnodup
    have htable := hfill.sameTable
    have hrestFilled := ih (hfill.faithful h hrtx) (hfill.inv hinv) (htable.hasRtx.trans hrtx)
      hnodup'
    have hrequested : ∀ ptr ∈ container, ∃ seq' ∈ seqs, s.buffer seq' = some ptr := by
      rw [← htable.buffer]
      exact hrestFilled.requested
    cases hfill with
    | skipped =>
      refine ⟨hrestFilled.nodup, fun ptr hptr ↦ ?_, hrestFilled.others, hrestFilled.rtxSeq,
        hrestFilled.counted⟩
      obtain ⟨seq', hseq', hptr'⟩ := hrequested ptr hptr
      exact ⟨seq', List.mem_cons_of_mem _ hseq', hptr'⟩
    | @sent ptr item p q hptr hitem hloaded hencodes hloaded' =>
      have hfresh : ptr ∉ container := by
        intro hmem
        obtain ⟨seq', hseq', hptr'⟩ := hrequested ptr hmem
        exact hnotmem (hinv.compact.inj hptr hptr' ▸ hseq')
      have hlt := (List.getElem?_eq_some_iff.mp hitem).1
      have hnext : s.nextRtxSeq = s.rtxSeq + 1 := if_pos hrtx
      have hseqNumber : q.getSequenceNumber = s.rtxSeq + 1 := by
        obtain ⟨orig, -, hmirrors⟩ := h seq ptr item p hptr hitem hloaded.packet
        exact (hmirrors.encodes hloaded.formed hloaded.located hloaded'.formed hrtx hencodes).2
      refine ⟨List.nodup_cons.mpr ⟨hfresh, hrestFilled.nodup⟩, fun ptr' hptr' ↦ ?_,
        fun ptr' hptr' ↦ ?_, ?_, fun i ptr' hi ↦ ?_⟩
      · rcases List.mem_cons.mp hptr' with rfl | hptr'
        · exact ⟨seq, List.mem_cons_self, hptr⟩
        · obtain ⟨seq', hseq', hbuffer⟩ := hrequested ptr' hptr'
          exact ⟨seq', List.mem_cons_of_mem _ hseq', hbuffer⟩
      · obtain ⟨hne, hnot⟩ : ptr' ≠ ptr ∧ ptr' ∉ container := by simpa using hptr'
        rw [hrestFilled.others ptr' hnot]
        exact List.getElem?_set_ne (Ne.symm hne)
      · rw [hrestFilled.rtxSeq]
        dsimp only
        rw [hnext, Option.toList_some, List.singleton_append, List.length_cons, BitVec.add_assoc]
        congr 1
        rw [Nat.add_comm, BitVec.ofNat_add]
        rfl
      · cases i with
        | zero =>
          cases hi
          refine ⟨s.resentItem item q nowMs, q, ?_, rfl, by simp [resentItem, hrtx], ?_⟩
          · rw [hrestFilled.others ptr hfresh]
            exact List.getElem?_set_self hlt
          · rw [hseqNumber]
            simp
        | succ i =>
          obtain ⟨item', p', hitem', hp', hencoded', hcount⟩ := hrestFilled.counted i ptr' hi
          refine ⟨item', p', hitem', hp', hencoded', ?_⟩
          rw [hcount]
          dsimp only
          rw [hnext, Nat.add_comm i 1, BitVec.ofNat_add, ← BitVec.add_assoc]
          rfl

/-! ## Handing the packets to the listener -/

theorem Retransmits.rtxSeq_eq {container : List ℕ} {packets : List RtpPacket}
    (h : Retransmits s container packets s') : s'.rtxSeq = s.rtxSeq := by
  induction h with
  | nil s => rfl
  | cons _ _ _ _ hseq _ _ ih => exact ih.trans hseq

theorem Retransmits.faithful {container : List ℕ} {packets : List RtpPacket}
    (hretransmits : Retransmits s container packets s') (h : Faithful origin s) :
    Faithful origin s' := by
  induction hretransmits with
  | nil s => exact h
  | @cons s t u ptr container packets item p q hitem hloaded hq htable _ hstorage _ ih =>
    have hp' : ({ item with packet := some q } : StorageItem).packet = some q := rfl
    exact ih (h.set hitem hloaded.packet hp'
      (fun orig hmirrors ↦ hmirrors.rewrites hloaded.formed hloaded.located hq) htable.buffer
      hstorage)

/-- The packets of different items are handed over as they are. -/
theorem Retransmits.handed {container : List ℕ} {packets : List RtpPacket}
    (h : Retransmits s container packets s') (hnodup : container.Nodup) :
    packets.length = container.length ∧ ∀ (i : ℕ) (p : RtpPacket), packets[i]? = some p →
      p.Formed ∧
      ∃ (ptr : ℕ) (item : StorageItem), container[i]? = some ptr ∧ s.storage[ptr]? = some item ∧
        item.packet = some p := by
  induction h with
  | nil s =>
    refine ⟨rfl, fun _ _ hi ↦ ?_⟩
    cases hi
  | @cons s t u ptr container packets item p q hitem hloaded hq _ _ hstorage _ ih =>
    obtain ⟨hnotmem, hnodup'⟩ := List.nodup_cons.mp hnodup
    obtain ⟨hlength, hrest⟩ := ih hnodup'
    refine ⟨congrArg (· + 1) hlength, fun i p' hi ↦ ?_⟩
    cases i with
    | zero =>
      cases hi
      exact ⟨hloaded.formed, ptr, item, rfl, hitem, hloaded.packet⟩
    | succ i =>
      obtain ⟨hformed, ptr', item', hptr', hitem', hp'⟩ := hrest i p' hi
      have hne : ptr ≠ ptr' := by
        rintro rfl
        exact hnotmem (List.mem_of_getElem? hptr')
      rw [hstorage, List.getElem?_set_ne hne] at hitem'
      exact ⟨hformed, ptr', item', hptr', hitem', hp'⟩

/-- What is known about the packets that are handed over for a NACK packet. -/
structure Handed (origin : BitVec 16 → RtpPacket → Prop) (s : RtpStreamSend)
    (items : List FeedbackRtpNackItem) (packets : List RtpPacket) (s' : RtpStreamSend) : Prop where
  faithful : Faithful origin s'
  rtxSeq : s'.rtxSeq = s.rtxSeq + BitVec.ofNat 16 packets.length
  counted : ∀ i p, packets[i]? = some p →
    p.getSequenceNumber = s.rtxSeq + 1 + BitVec.ofNat 16 i
  mirrors : ∀ p ∈ packets, p.Formed ∧ ∃ item ∈ items,
    ∃ seq ∈ walk maxRequestedPackets item.getPacketId true item.getLostPacketBitmask,
      ∃ orig, origin seq orig ∧ Mirrors true orig p

theorem mem_walk_of_mem_requestedSeqs {seq bitmask x : BitVec 16}
    (h : x ∈ s.requestedSeqs seq bitmask) : x ∈ walk maxRequestedPackets seq true bitmask := by
  unfold requestedSeqs at h
  split at h
  · exact h
  · cases h

/-- **The packets handed over for a NACK packet** mirror the stored ones and are counted. -/
theorem Nacks.handed {nowMs : BitVec 64} {items : List FeedbackRtpNackItem}
    {packets : List RtpPacket} (hnacks : Nacks nowMs s items packets s') (h : Faithful origin s)
    (hinv : Inv n s) (hrtx : s.hasRtx = true) : Handed origin s items packets s' := by
  induction hnacks with
  | nil s =>
    refine ⟨h, by simp, fun _ _ hi ↦ ?_, List.forall_mem_nil _⟩
    cases hi
  | @cons s t u v item items container packets rest hfills hretransmits hnacks ih =>
    have hinv₀ : Inv n { s with
      nackPacketCount := s.nackPacketCount + item.countRequestedPackets } :=
        hinv.congr rfl rfl rfl rfl
    have hfaithful₁ : Faithful origin t := hfills.faithful h hrtx
    have hfilled := hfills.filled h hinv₀ hrtx (nodup_requestedSeqs _ _ _)
    have hinv₁ := hfills.inv hinv₀
    obtain ⟨hlength, hhanded⟩ := hretransmits.handed hfilled.nodup
    have hlt : ∀ ptr ∈ container, ptr < t.bufferSize := by
      rw [hfills.sameTable.bufferSize]
      exact hfills.mem_lt hinv₀
    have hrest := ih (hretransmits.faithful hfaithful₁) (hretransmits.inv hinv₁ hlt)
      (hretransmits.sameTable.hasRtx.trans (hfills.sameTable.hasRtx.trans hrtx))
    have hrtxSeq : u.rtxSeq = s.rtxSeq + BitVec.ofNat 16 packets.length := by
      rw [hretransmits.rtxSeq_eq, hfilled.rtxSeq, hlength]
    refine ⟨hrest.faithful, ?_, fun i p hi ↦ ?_, fun p hp ↦ ?_⟩
    · rw [hrest.rtxSeq, hrtxSeq, List.length_append, BitVec.ofNat_add, BitVec.add_assoc]
    · by_cases hlti : i < packets.length
      · rw [List.getElem?_append_left hlti] at hi
        obtain ⟨-, ptr, storageItem, hptr, hitem, hp⟩ := hhanded i p hi
        obtain ⟨storageItem', p', hitem', hp', -, hcount⟩ := hfilled.counted i ptr hptr
        rw [hitem] at hitem'
        cases hitem'
        rw [hp] at hp'
        cases hp'
        exact hcount
      · rw [List.getElem?_append_right (by omega)] at hi
        rw [hrest.counted _ p hi, hrtxSeq, add_ofNat_add_one _ (Nat.le_of_not_lt hlti)]
    · rcases List.mem_append.mp hp with hp | hp
      · obtain ⟨i, hi⟩ := List.getElem?_of_mem hp
        obtain ⟨hformed, ptr, storageItem, hptr, hitem, hp⟩ := hhanded i p hi
        obtain ⟨storageItem', p', hitem', -, hencoded, -⟩ := hfilled.counted i ptr hptr
        rw [hitem] at hitem'
        cases hitem'
        obtain ⟨seq, hseq, hbuffer⟩ := hfilled.requested ptr (List.mem_of_getElem? hptr)
        have hbuffer' : t.buffer seq = some ptr := by
          rw [hfills.sameTable.buffer]
          exact hbuffer
        obtain ⟨orig, horigin, hmirrors⟩ := hfaithful₁ seq ptr storageItem p hbuffer' hitem hp
        rw [hencoded] at hmirrors
        exact ⟨hformed, item, List.mem_cons_self, seq, mem_walk_of_mem_requestedSeqs hseq, orig,
          horigin, hmirrors⟩
      · obtain ⟨hformed, item', hitem', hmirrors⟩ := hrest.mirrors p hp
        exact ⟨hformed, item', List.mem_cons_of_mem _ hitem', hmirrors⟩

end RtpStreamSend

/-! ## All runs -/

/-- One event of a run with the streams around it. -/
abbrev SendRecord := Run.Record RtpStreamSend SendEvent (List RtpPacket)

namespace SendRecord

/-- The packet that the event passes to `StorePacket`. -/
def passed? (r : SendRecord) : Option RtpPacket :=
  match r.event with
  | .storePacket packet => some packet.1
  | .receivePacket packet nowMs =>
    if (r.before.seqState.receivePacket packet.1.getSequenceNumber packet.1.getTimestamp nowMs).1
    then some packet.1 else none
  | _ => none

/-- The event stores the packet `p`: it is not ignored as too big or as a duplicate. -/
def Stores (r : SendRecord) (p : RtpPacket) : Prop :=
  r.passed? = some p ∧ p.size ≤ mtuSize ∧
    ∀ q, r.before.packetAt p.getSequenceNumber = some q → p.getTimestamp ≠ q.getTimestamp

/-- `p` is the packet last stored at `seq`. -/
def LastStored (hist : List SendRecord) (seq : BitVec 16) (p : RtpPacket) : Prop :=
  ∃ pre r post, hist = pre ++ r :: post ∧ Stores r p ∧ p.getSequenceNumber = seq ∧
    ∀ r' ∈ post, ∀ p', Stores r' p' → p'.getSequenceNumber ≠ seq

/-- The packets that the listener is given in a run. -/
def handed (hist : List SendRecord) : List RtpPacket := hist.flatMap Run.Record.output

theorem LastStored.append {hist : List SendRecord} {seq : BitVec 16} {p : RtpPacket}
    (h : LastStored hist seq p) {r : SendRecord}
    (hr : ∀ p', r.Stores p' → p'.getSequenceNumber ≠ seq) : LastStored (hist ++ [r]) seq p := by
  obtain ⟨pre, r₀, post, rfl, hstores, hseq, hlater⟩ := h
  refine ⟨pre, r₀, post ++ [r], by simp, hstores, hseq, fun r' hr' ↦ ?_⟩
  rcases List.mem_append.mp hr' with hr' | hr'
  · exact hlater r' hr'
  · rw [List.mem_singleton.mp hr']
    exact hr

theorem handed_concat (hist : List SendRecord) (r : SendRecord) :
    handed (hist ++ [r]) = handed hist ++ r.output := by
  simp [handed]

end SendRecord

/-- The event is none that sets up RTX anew, or fills the container without handing it over. -/
def SendEvent.IsRegular : SendEvent → Prop
  | .setRtx _ _ _ => False
  | .fillRetransmissionContainer _ _ _ _ => False
  | _ => True

namespace RtpStreamSend

variable {s s' : RtpStreamSend} {n : ℕ} {packet : RtpPacket}

open SendRecord

/-- What holds in every reachable state of a stream with RTX whose RTX sequence numbers start after
`first`. -/
structure RetransmitInv (n : ℕ) (first : BitVec 16) (hist : List SendRecord) (s : RtpStreamSend) :
    Prop where
  inv : Inv n s
  hasRtx : s.hasRtx = true
  faithful : Faithful (LastStored hist) s
  rtxSeq : s.rtxSeq = first + BitVec.ofNat 16 (handed hist).length
  counted : ∀ i p, (handed hist)[i]? = some p →
    p.getSequenceNumber = first + 1 + BitVec.ofNat 16 i

theorem faithful_empty {origin : BitVec 16 → RtpPacket → Prop} (h : s.buffer = fun _ ↦ none) :
    Faithful origin s := by
  intro seq ptr item p hseq
  rw [h] at hseq
  cases hseq

theorem retransmitInv_init (params : RtpStreamParams) (n : ℕ) (payloadType : Byte)
    (ssrc : BitVec 32)
    (rtxSeq : BitVec 16) :
    RetransmitInv n rtxSeq [] ((init params n).setRtx payloadType ssrc rtxSeq) where
  inv := (inv_init params n).congr rfl rfl rfl rfl
  hasRtx := rfl
  faithful := faithful_empty rfl
  rtxSeq := by simp [handed, setRtx]
  counted _ _ hi := by cases hi

/-- A packet that is stored is the last one at its sequence number; at the others nothing
changes. -/
theorem Outcome.faithful {hist : List SendRecord} {r : SendRecord}
    (hout : Outcome s packet s') (hinv : Inv n s) (hn : 0 < n) (hpassed : r.passed? = some packet)
    (hbefore : ∀ seq, r.before.packetAt seq = s.packetAt seq)
    (h : Faithful (LastStored hist) s) : Faithful (LastStored (hist ++ [r])) s' := by
  cases hout with
  | ignored hwhy =>
    intro seq ptr item p hseq hitem hp
    obtain ⟨orig, hlast, hmirrors⟩ := h seq ptr item p hseq hitem hp
    refine ⟨orig, hlast.append fun p' hstores ↦ ?_, hmirrors⟩
    obtain ⟨hpassed', hsize, hfresh⟩ := hstores
    rw [hpassed] at hpassed'
    cases hpassed'
    rcases hwhy with hbig | ⟨q, hq, htimestamp⟩
    · omega
    · exact absurd htimestamp (hfresh q ((hbefore _).trans hq))
  | @stored ptr buffer start size store q hsize hfresh hplace hclone hq hlocated hcontent =>
    intro seq ptr' item p hseq hitem hp
    dsimp only at hseq hitem
    have hstores : r.Stores packet := by
      refine ⟨hpassed, hsize, fun q' hq' ↦ hfresh q' ?_⟩
      rw [← hbefore]
      exact hq'
    by_cases hne : seq = packet.getSequenceNumber
    · subst hne
      rw [hplace.buffer_self] at hseq
      cases hseq
      obtain ⟨hlt, -, hle, -⟩ := hplace.size_spec hinv hn
      rw [List.getElem?_set_self (by rw [hinv.length]; omega)] at hitem
      cases hitem
      cases hp
      exact ⟨packet, ⟨hist, r, [], rfl, hstores, rfl, fun _ h ↦ absurd h List.not_mem_nil⟩,
        .of_clone hcontent⟩
    · have hptr : ptr ≠ ptr' := by
        rintro rfl
        exact hne ((hplace.compact hinv).inj hseq hplace.buffer_self)
      rw [List.getElem?_set_ne hptr] at hitem
      rcases hplace.buffer_of_ne hne with hsame | ⟨hnone, -⟩
      · obtain ⟨orig, hlast, hmirrors⟩ := h seq ptr' item p (hsame.symm.trans hseq) hitem hp
        refine ⟨orig, hlast.append fun p' hstores' ↦ ?_, hmirrors⟩
        obtain ⟨hpassed', -, -⟩ := hstores'
        rw [hpassed] at hpassed'
        cases hpassed'
        exact Ne.symm hne
      · rw [hnone] at hseq
        cases hseq

/-- A quiet event: nothing is stored, nothing is handed over. -/
theorem Faithful.quiet {hist : List SendRecord} {r : SendRecord} (h : Faithful (LastStored hist) s)
    (hquiet : r.passed? = none) (hbuffer : s'.buffer = s.buffer)
    (hstorage : s'.storage = s.storage) :
    Faithful (LastStored (hist ++ [r])) s' := by
  intro seq ptr item p hseq hitem hp
  rw [hbuffer] at hseq
  rw [hstorage] at hitem
  obtain ⟨orig, hlast, hmirrors⟩ := h seq ptr item p hseq hitem hp
  refine ⟨orig, hlast.append fun p' hstores ↦ ?_, hmirrors⟩
  exact absurd (hquiet.symm.trans hstores.1).symm (Option.some_ne_none _)

/-- An event that hands nothing over keeps the count. -/
theorem RetransmitInv.silent {first : BitVec 16} {hist : List SendRecord} {r : SendRecord}
    (h : RetransmitInv n first hist s) (hinv : Inv n s') (hrtx : s'.hasRtx = s.hasRtx)
    (hseq : s'.rtxSeq = s.rtxSeq) (hfaithful : Faithful (LastStored (hist ++ [r])) s')
    (hsilent : r.output = []) : RetransmitInv n first (hist ++ [r]) s' := by
  have hhanded : handed (hist ++ [r]) = handed hist := by
    rw [handed_concat, hsilent, List.append_nil]
  refine ⟨hinv, hrtx.trans h.hasRtx, hfaithful, ?_, ?_⟩
  · rw [hseq, h.rtxSeq, hhanded]
  · rw [hhanded]
    exact h.counted

theorem Outcome.frame (h : Outcome s packet s') : s'.hasRtx = s.hasRtx ∧ s'.rtxSeq = s.rtxSeq := by
  cases h <;> exact ⟨rfl, rfl⟩

/-- One event keeps the invariant. -/
theorem retransmitInv_step (hn : 2 ≤ n) {first : BitVec 16} (hist : List SendRecord)
    (r : SendRecord)
    (h : RetransmitInv n first hist r.before) (hregular : r.event.IsRegular)
    (hstep : step r.before r.event = .ok (r.output, r.after)) :
    RetransmitInv n first (hist ++ [r]) r.after ∧ ∀ q ∈ r.output, q.Formed ∧
      ∃ items rtt nowMs sendMs wideSeq, r.event = .receiveNack items rtt nowMs sendMs wideSeq ∧
      ∃ item ∈ items, ∃ seq ∈ walk maxRequestedPackets item.getPacketId true
        item.getLostPacketBitmask,
        ∃ orig, LastStored hist seq orig ∧ Mirrors true orig q := by
  obtain ⟨before, event, output, after⟩ := r
  dsimp only at h hregular hstep ⊢
  have hpos : 0 < n := by omega
  cases event with
  | receivePacket packet nowMs =>
    obtain ⟨t, ht, hstep⟩ := bind_eq_ok.mp hstep
    cases hstep
    refine ⟨?_, List.forall_mem_nil _⟩
    unfold receivePacket at ht
    dsimp only at ht
    split at ht
    · rename_i hvalid
      cases ht
      refine h.silent (h.inv.congr rfl rfl rfl rfl) rfl rfl (h.faithful.quiet ?_ rfl rfl) rfl
      simp only [passed?]
      rw [if_neg hvalid]
    · rename_i hvalid
      split at ht
      · have hinv₀ : Inv n { before with
          seqState := (before.seqState.receivePacket packet.1.getSequenceNumber
            packet.1.getTimestamp
            nowMs).2 } := h.inv.congr rfl rfl rfl rfl
        obtain ⟨t', ht', hout⟩ := storePacket_spec hinv₀ hpos packet.2
        rw [ht] at ht'
        cases ht'
        refine h.silent (hout.inv hinv₀ hn) hout.frame.1 hout.frame.2
          (hout.faithful hinv₀ hpos ?_ (fun _ ↦ rfl) h.faithful) rfl
        simp only [passed?]
        rw [if_pos (not_not.mp hvalid)]
      · rename_i hempty
        have hlength := h.inv.length
        rw [not_not, List.isEmpty_iff_length_eq_zero] at hempty
        omega
  | storePacket packet =>
    obtain ⟨t, ht, hstep⟩ := bind_eq_ok.mp hstep
    cases hstep
    refine ⟨?_, List.forall_mem_nil _⟩
    obtain ⟨t', ht', hout⟩ := storePacket_spec h.inv hpos packet.2
    rw [ht] at ht'
    cases ht'
    exact h.silent (hout.inv h.inv hn) hout.frame.1 hout.frame.2
      (hout.faithful h.inv hpos rfl (fun _ ↦ rfl) h.faithful) rfl
  | fillRetransmissionContainer => exact hregular.elim
  | receiveNack items rtt nowMs sendMs transportWideCcSeq =>
    have hinv₀ : Inv n { before with nackCount := before.nackCount + 1 } :=
      h.inv.congr rfl rfl rfl rfl
    rcases receiveNackItems_spec hinv₀ hpos rtt nowMs sendMs transportWideCcSeq items with
      ⟨herror, -⟩ | ⟨packets, t, hok, hnacks⟩
    · change receiveNackItems rtt nowMs sendMs _ transportWideCcSeq items = _ at hstep
      rw [herror] at hstep
      cases hstep
    · change receiveNackItems rtt nowMs sendMs _ transportWideCcSeq items = _ at hstep
      rw [hok] at hstep
      cases hstep
      have hhanded : Handed (LastStored hist) _ items output after :=
        hnacks.handed h.faithful hinv₀ h.hasRtx
      refine ⟨⟨hnacks.inv hinv₀, hnacks.sameTable.hasRtx.trans h.hasRtx,
        hhanded.faithful.quiet rfl rfl rfl, ?_, ?_⟩, fun q hq ↦ ?_⟩
      · rw [handed_concat, hhanded.rtxSeq, List.length_append, BitVec.ofNat_add, ← BitVec.add_assoc]
        exact congrArg (· + _) h.rtxSeq
      · intro i p hi
        rw [handed_concat] at hi
        by_cases hlt : i < (handed hist).length
        · rw [List.getElem?_append_left hlt] at hi
          exact h.counted i p hi
        · rw [List.getElem?_append_right (by omega)] at hi
          have hcount := hhanded.counted _ p hi
          dsimp only at hcount
          rw [hcount, h.rtxSeq, add_ofNat_add_one _ (Nat.le_of_not_lt hlt)]
      · obtain ⟨hformed, hmirrors⟩ := hhanded.mirrors q hq
        exact ⟨hformed, items, rtt, nowMs, sendMs, transportWideCcSeq, rfl, hmirrors⟩
  | clearBuffer =>
    obtain ⟨t, ht, hstep⟩ := bind_eq_ok.mp hstep
    cases hstep
    obtain ⟨storage, hclear, hlength, hblank⟩ := clearBuffer_spec h.inv hpos
    rw [ht] at hclear
    cases hclear
    exact ⟨h.silent (inv_of_empty hlength hblank rfl rfl) rfl rfl (faithful_empty rfl) rfl,
      List.forall_mem_nil _⟩
  | setRtx => exact hregular.elim

/-- The invariant, for the runs that it is about. -/
def RegularInv (n : ℕ) (first : BitVec 16) (hist : List SendRecord) (s : RtpStreamSend) : Prop :=
  (∀ r ∈ hist, r.event.IsRegular) → RetransmitInv n first hist s

/-- **Retransmission is faithful.** In every run of a stream with RTX, every packet that is handed
to the listener was requested by the NACK packet; decoded with the payload type and the SSRC of the
packet that was last stored at its sequence number, it has the content of that packet, up to the
header extension values that are set on sending. The RTX sequence numbers of the packets handed over
in the run count up by one. -/
theorem retransmission_faithful (params : RtpStreamParams) (n : ℕ) (hn : 2 ≤ n) (payloadType : Byte)
    (ssrc : BitVec 32) (rtxSeq : BitVec 16) (events : List SendEvent)
    (hregular : ∀ event ∈ events, event.IsRegular) {records : List SendRecord}
    (htrace : Run.trace step ((init params n).setRtx payloadType ssrc rtxSeq) events =
      .ok records) :
    (∀ pre r post, records = pre ++ r :: post → ∀ q ∈ r.output,
      ∃ items rtt nowMs sendMs wideSeq, r.event = .receiveNack items rtt nowMs sendMs wideSeq ∧
      ∃ item ∈ items, ∃ seq ∈ walk maxRequestedPackets item.getPacketId true
        item.getLostPacketBitmask,
        ∃ orig, LastStored pre seq orig ∧
        ∃ d, q.rtxDecode orig.getPayloadType orig.getSsrc = .ok (some d) ∧
          d.content.sequenceNumber = seq ∧
          RtpContent.AgreeOutside q.VolatileExtension orig.content d.content) ∧
    ∀ i q, (handed records)[i]? = some q →
      q.getSequenceNumber = rtxSeq + 1 + BitVec.ofNat 16 i := by
  have hevents : ∀ r ∈ records, r.event.IsRegular := fun r hr ↦
    hregular r.event (Run.trace_events htrace ▸ List.mem_map_of_mem hr)
  have hstep : ∀ (hist : List SendRecord) (r : SendRecord), RegularInv n rtxSeq hist r.before →
      step r.before r.event = .ok (r.output, r.after) →
        RegularInv n rtxSeq (hist ++ [r]) r.after := by
    intro hist r hinv hstep hall
    exact (retransmitInv_step hn hist r (hinv fun r' hr' ↦ hall r' (List.mem_append_left _ hr'))
      (hall r (List.mem_append_right _ List.mem_cons_self)) hstep).1
  -- The invariant holds before each event.
  have hreach : ∀ pre r post, records = pre ++ r :: post → RetransmitInv n rtxSeq pre r.before ∧
      r.event.IsRegular ∧ step r.before r.event = .ok (r.output, r.after) := by
    intro pre r post hsplit
    obtain ⟨hinv, hr⟩ := Run.trace_invariant hstep events [] _ records
      (fun _ ↦ retransmitInv_init params n payloadType ssrc rtxSeq) htrace pre r post hsplit
    rw [List.nil_append] at hinv
    exact ⟨hinv fun r' hr' ↦ hevents r' (by rw [hsplit]; exact List.mem_append_left _ hr'),
      hevents r (by rw [hsplit]; simp), hr⟩
  constructor
  · intro pre r post hsplit q hq
    obtain ⟨hinv, hevent, hr⟩ := hreach pre r post hsplit
    obtain ⟨hformed, items, rtt, nowMs, sendMs, wideSeq, heq, item, hitem, seq, hseq, orig, hlast,
      hmirrors⟩ := (retransmitInv_step hn pre r hinv hevent hr).2 q hq
    obtain ⟨d, hdecode, hagree⟩ := hmirrors.rtxDecode hformed
    refine ⟨items, rtt, nowMs, sendMs, wideSeq, heq, item, hitem, seq, hseq, orig, hlast, d,
      hdecode, ?_, hagree⟩
    obtain ⟨-, -, -, -, -, hlastSeq, -⟩ := hlast
    rw [hagree.rest]
    exact hlastSeq
  · rcases List.eq_nil_or_concat records with rfl | ⟨pre, r, rfl⟩
    · exact nofun
    · rw [List.concat_eq_append] at hreach ⊢
      obtain ⟨hinv, hevent, hr⟩ := hreach pre r [] rfl
      exact (retransmitInv_step hn pre r hinv hevent hr).1.counted

/-! ## A packet that is resent twice -/

/-- A packet with a value that is set on sending: an abs-send-time element. -/
def timedPacket : FormedPacket where
  val := { RtpPacket.view
      { version := 2, padding := false, extension := true, csrcCount := 0, marker := false
        payloadType := 100, sequenceNumber := 5, timestamp := 10, ssrc := 1 }
      [0xBE, 0xDE, 0x00, 0x01, 0x32, 0x00, 0x00, 0x00] (some 0) 8 0 0 20 with
    ids := { absSendTimeExtensionId := 3 } }
  property := ⟨rfl, rfl, rfl, rfl, rfl, Nat.le_refl _⟩

/-- The packet is received, and requested in two NACK packets. -/
def resentTwice : List SendEvent :=
  [.receivePacket timedPacket 1000, .receiveNack [.make 5 0] 100 1000 1000 none,
    .receiveNack [.make 5 0] 100 2000 2000 none]

theorem retransmission_faithful_resent_twice :
    ∃ records, Run.trace step ((init sendParams 2).setRtx 101 2 7) resentTwice = .ok records ∧
      (handed records).length = 2 ∧
      (∀ pre r post, records = pre ++ r :: post → ∀ q ∈ r.output, ∃ orig d,
        LastStored pre 5 orig ∧ q.rtxDecode orig.getPayloadType orig.getSsrc = .ok (some d) ∧
        RtpContent.AgreeOutside q.VolatileExtension orig.content d.content) ∧
      ∀ i q, (handed records)[i]? = some q → q.getSequenceNumber = 7 + 1 + BitVec.ofNat 16 i := by
  obtain ⟨records, htrace, hlength⟩ :
      ∃ records, Run.trace step ((init sendParams 2).setRtx 101 2 7) resentTwice = .ok records ∧
        (handed records).length = 2 := by
    decide +kernel
  have hregular : ∀ event ∈ resentTwice, event.IsRegular := by
    simp [resentTwice, SendEvent.IsRegular]
  obtain ⟨hfaithful, hcounted⟩ :=
    retransmission_faithful sendParams 2 (by decide) 101 2 7 resentTwice hregular htrace
  refine ⟨records, htrace, hlength, fun pre r post hsplit q hq ↦ ?_, hcounted⟩
  obtain ⟨items, _, _, _, _, hevent, item, hitem, seq, hseq, orig, hlast, d, hdecode, -,
      hagree⟩ :=
    hfaithful pre r post hsplit q hq
  have hmem : r.event ∈ resentTwice := by
    rw [← Run.trace_events htrace, hsplit]
    simp
  have hitems : items = [.make 5 0] := by
    rw [hevent] at hmem
    simp only [resentTwice, List.mem_cons, List.not_mem_nil, reduceCtorEq, false_or, or_false,
      SendEvent.receiveNack.injEq] at hmem
    rcases hmem with hmem | hmem <;> exact hmem.1
  rw [hitems, List.mem_singleton] at hitem
  rw [hitem] at hseq
  have hfive : seq = 5 := by
    have hwalk : walk maxRequestedPackets (FeedbackRtpNackItem.make 5 0).getPacketId true
        (FeedbackRtpNackItem.make 5 0).getLostPacketBitmask = [5] := by decide
    rw [hwalk] at hseq
    exact List.mem_singleton.mp hseq
  exact ⟨orig, d, hfive ▸ hlast, hdecode, hagree⟩

/-- Decoded from the RTX format the packet has another header extension than it was stored with: the
second time it still has the value that the transport set the first time. -/
theorem resent_extension_changed :
    ∃ records, Run.trace step ((init sendParams 2).setRtx 101 2 7) resentTwice = .ok records ∧
      ∃ q ∈ handed records, ∃ d, q.rtxDecode 100 1 = .ok (some d) ∧
        d.content.headerExtension ≠ timedPacket.1.content.headerExtension := by
  obtain ⟨records, htrace, q, hq, decoded, hdecode, d, rfl, hchanged⟩ :
      ∃ records, Run.trace step ((init sendParams 2).setRtx 101 2 7) resentTwice = .ok records ∧
        ∃ q ∈ handed records, ∃ decoded, q.rtxDecode 100 1 = .ok decoded ∧
          ∃ d ∈ decoded, d.content.headerExtension ≠ timedPacket.1.content.headerExtension := by
    decide +kernel
  exact ⟨records, htrace, q, hq, d, hdecode, hchanged⟩

end RtpStreamSend

end MediasoupSfu
