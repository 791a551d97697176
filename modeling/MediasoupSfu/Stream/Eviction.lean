import Mathlib.Data.List.DropRight
import MediasoupSfu.SeqManager.Compare
import MediasoupSfu.Stream.Resend

/-!
# Which packet is evicted

A full retransmission buffer evicts the packet at `bufferStartIdx`, which is meant to be the oldest
one. While packets are stored in order this is so, and the buffer is a bounded queue: it holds the
last `n` packets, and the start is the first of them (`Keeps`).

The start index moves when its packet is evicted or replaced, never when an older packet is stored.
So a packet that comes late and becomes the oldest one is not the next to go: another one is evicted
in its place. `evicts_oldest` says that this is the only way to go wrong: as long as no packet
becomes the oldest of several stored ones, the evicted packet is the oldest.
-/

namespace MediasoupSfu

open Serial Slots

/-- A packet with an unwrapped sequence number. -/
structure NumberedPacket where
  packet : FormedPacket
  number : ℕ
  seq_eq : packet.1.getSequenceNumber = BitVec.ofNat 16 number

namespace NumberedPacket

/-- The sequence number of the packet. -/
abbrev seq (e : NumberedPacket) : BitVec 16 := e.packet.1.getSequenceNumber

variable {a b : NumberedPacket}

theorem pos_seq (hab : a.number ≤ b.number) (h : b.number < a.number + 2 ^ 16) :
    pos a.seq b.seq = b.number - a.number := by
  rw [seq, seq, a.seq_eq, b.seq_eq, pos_ofNat_ofNat hab h]

theorem seq_ne (hab : a.number < b.number) (h : b.number < a.number + 2 ^ 16) : b.seq ≠ a.seq := by
  intro heq
  have hpos := pos_seq (Nat.le_of_lt hab) h
  rw [heq, pos_self] at hpos
  omega

end NumberedPacket

/-- Every `n + 1` consecutive packets span fewer than `2 ^ 16` values. -/
def Spans (n : ℕ) (packets : List NumberedPacket) : Prop :=
  ∀ window, window <:+: packets → window.length ≤ n + 1 →
    ∀ a ∈ window, ∀ b ∈ window, b.number < a.number + 2 ^ 16

namespace RtpStreamSend

variable {s s' : RtpStreamSend} {n : ℕ} {packet : RtpPacket}

/-! ## In order -/

/-- The buffer holds the given packets, and the start is the first of them. -/
structure Keeps (s : RtpStreamSend) (queue : List NumberedPacket) : Prop where
  size : s.bufferSize = queue.length
  used : ∀ seq, s.buffer seq ≠ none ↔ ∃ e ∈ queue, e.seq = seq
  clones : ∀ e ∈ queue, ∃ store q, e.packet.1.clone store = .ok q ∧ s.packetAt e.seq = some q
  start : ∀ e, queue.head? = some e → s.bufferStartIdx = e.seq

theorem keeps_init (params : RtpStreamParams) (n : ℕ) : Keeps (init params n) [] :=
  ⟨rfl, fun _ ↦ ⟨fun h ↦ absurd rfl h, fun ⟨_, he, _⟩ ↦ absurd he List.not_mem_nil⟩,
    List.forall_mem_nil _, fun _ h ↦ absurd h.symm (Option.some_ne_none _)⟩

/-- The next packet in order finds its entry unused. -/
theorem Keeps.fresh {queue : List NumberedPacket} {e : NumberedPacket} (h : Keeps s queue)
    (hsorted : ∀ a ∈ queue, a.number < e.number)
    (hspan : ∀ a ∈ queue, e.number < a.number + 2 ^ 16) : s.buffer e.seq = none := by
  by_contra hused
  obtain ⟨a, ha, hseq⟩ := (h.used e.seq).mp hused
  exact NumberedPacket.seq_ne (hsorted a ha) (hspan a ha) hseq.symm

/-- Once the entries other than the new one are known to be those of `rest`, the new packet joins
it. -/
theorem Keeps.join {queue rest : List NumberedPacket} {e : NumberedPacket} (h : Keeps s queue)
    (hinv : Inv n s) (hn : 0 < n) {ptr : ℕ} {buffer : BitVec 16 → Option ℕ} {start : BitVec 16}
    {size : ℕ} (hplace : Place s e.seq ptr buffer start size) {store : List Byte} {q : RtpPacket}
    (hclone : e.packet.1.clone store = .ok q) (hsize : size = rest.length + 1)
    (hsub : ∀ a ∈ rest, a ∈ queue) (hne : ∀ a ∈ rest, a.seq ≠ e.seq)
    (hused : ∀ x, x ≠ e.seq → (buffer x ≠ none ↔ ∃ a ∈ rest, a.seq = x))
    (hstart : ∀ a, (rest ++ [e]).head? = some a → start = a.seq) : Keeps { s with
      buffer := buffer
      bufferStartIdx := start
      bufferSize := size
      storage := s.storage.set ptr { packet := some q, store := store } } (rest ++ [e]) where
  size := by
    rw [List.length_append]
    exact hsize
  used x := by
    by_cases hx : x = e.seq
    · subst hx
      refine ⟨fun _ ↦ ⟨e, List.mem_append_right _ List.mem_cons_self, rfl⟩, fun _ ↦ ?_⟩
      change buffer e.seq ≠ none
      rw [hplace.buffer_self]
      exact Option.some_ne_none _
    · change buffer x ≠ none ↔ _
      rw [hused x hx]
      constructor
      · rintro ⟨a, ha, hseq⟩
        exact ⟨a, List.mem_append_left _ ha, hseq⟩
      · rintro ⟨a, ha, hseq⟩
        rcases List.mem_append.mp ha with ha | ha
        · exact ⟨a, ha, hseq⟩
        · rw [List.mem_singleton.mp ha] at hseq
          exact absurd hseq.symm hx
  clones a ha := by
    rcases List.mem_append.mp ha with ha | ha
    · obtain ⟨store', q', hclone', hat⟩ := h.clones a (hsub a ha)
      refine ⟨store', q', hclone', ?_⟩
      rw [hplace.packetAt_of_ne hinv (hne a ha) ((hused a.seq (hne a ha)).mpr ⟨a, ha, rfl⟩)]
      exact hat
    · rw [List.mem_singleton.mp ha]
      exact ⟨store, q, hclone, hplace.packetAt_self hinv hn _⟩
  start := hstart

/-- When the first packet leaves, the scan finds the second one. -/
theorem Keeps.nextUsed_eq {first second e : NumberedPacket} {rest : List NumberedPacket}
    (h : Keeps s (first :: second :: rest))
    (hsorted : (first :: second :: rest ++ [e]).Pairwise fun a b ↦ a.number < b.number)
    (hspan : ∀ a ∈ first :: second :: rest, a.number < first.number + 2 ^ 16) :
    (∀ x, Function.update s.buffer first.seq none x ≠ none ↔ ∃ a ∈ second :: rest, a.seq = x) ∧
      nextUsed (Function.update s.buffer first.seq none) first.seq = second.seq := by
  have hsorted' : (first :: second :: rest).Pairwise fun a b ↦ a.number < b.number :=
    (List.pairwise_append.mp hsorted).1
  have hfirst : ∀ a ∈ second :: rest, first.number < a.number := (List.pairwise_cons.mp hsorted').1
  have hsecond : ∀ a ∈ rest, second.number < a.number :=
    (List.pairwise_cons.mp (List.pairwise_cons.mp hsorted').2).1
  have hspan' : ∀ a ∈ second :: rest, a.number < first.number + 2 ^ 16 := fun a ha ↦
    hspan a (List.mem_cons_of_mem _ ha)
  have hne : ∀ a ∈ second :: rest, a.seq ≠ first.seq := fun a ha ↦
    NumberedPacket.seq_ne (hfirst a ha) (hspan' a ha)
  have hused : ∀ x, Function.update s.buffer first.seq none x ≠ none ↔
      ∃ a ∈ second :: rest, a.seq = x := by
    intro x
    by_cases hx : x = first.seq
    · rw [hx, Function.update_self]
      exact ⟨fun hfalse ↦ absurd rfl hfalse, fun ⟨a, ha, hseq⟩ ↦ absurd hseq (hne a ha)⟩
    · rw [Function.update_of_ne hx, h.used x]
      constructor
      · rintro ⟨a, ha, hseq⟩
        rcases List.mem_cons.mp ha with rfl | ha
        · exact absurd hseq.symm hx
        · exact ⟨a, ha, hseq⟩
      · rintro ⟨a, ha, hseq⟩
        exact ⟨a, List.mem_cons_of_mem _ ha, hseq⟩
  refine ⟨hused, ?_⟩
  have hmem : second ∈ second :: rest := List.mem_cons_self
  obtain ⟨hfound, hnearest⟩ := nextUsed_spec ((hused second.seq).mpr ⟨second, hmem, rfl⟩) first.seq
  obtain ⟨a, ha, hseq⟩ := (hused _).mp hfound
  have hle := hnearest second.seq ((hused second.seq).mpr ⟨second, hmem, rfl⟩)
  rw [← hseq] at hle ⊢
  have hpos := pos_succ_of_ne (hne a ha)
  have hpos' := pos_succ_of_ne (hne second hmem)
  rw [NumberedPacket.pos_seq (Nat.le_of_lt (hfirst a ha)) (hspan' a ha)] at hpos
  rw [NumberedPacket.pos_seq (Nat.le_of_lt (hfirst second hmem)) (hspan' second hmem)] at hpos'
  rcases List.mem_cons.mp ha with rfl | ha'
  · rfl
  · have := hfirst a ha
    have := hfirst second hmem
    have := hsecond a ha'
    omega

/-- **A bounded queue.** The next packet in order joins the queue, and if the buffer is full the
first one leaves it. -/
theorem Keeps.store {queue : List NumberedPacket} {e : NumberedPacket} (h : Keeps s queue)
    (hinv : Inv n s) (hn : 2 ≤ n) (hsize : e.packet.1.size ≤ mtuSize)
    (hsorted : (queue ++ [e]).Pairwise fun a b ↦ a.number < b.number)
    (hspan : ∀ a ∈ queue ++ [e], ∀ b ∈ queue ++ [e], b.number < a.number + 2 ^ 16)
    (hout : Outcome s e.packet.1 s') :
    Keeps s' (if queue.length < n then queue ++ [e] else queue.tail ++ [e]) := by
  have hlt : ∀ a ∈ queue, a.number < e.number := fun a ha ↦
    (List.pairwise_append.mp hsorted).2.2 a ha e List.mem_cons_self
  have hspan' : ∀ a ∈ queue, e.number < a.number + 2 ^ 16 := fun a ha ↦
    hspan a (List.mem_append_left _ ha) e (List.mem_append_right _ List.mem_cons_self)
  have hne : ∀ a ∈ queue, a.seq ≠ e.seq := fun a ha ↦
    (NumberedPacket.seq_ne (hlt a ha) (hspan' a ha)).symm
  have hfresh := h.fresh hlt hspan'
  have hlength := hinv.length
  have hqueue := h.size
  have hpos : 0 < n := by omega
  cases hout with
  | ignored hwhy =>
    rcases hwhy with hbig | ⟨p, hp, -⟩
    · omega
    · rw [packetAt, show s.buffer e.packet.1.getSequenceNumber = none from hfresh] at hp
      cases hp
  | stored store q _ _ hplace hclone =>
    have hplace' := hplace
    cases hplace with
    | first hempty =>
      obtain rfl : queue = [] := List.eq_nil_of_length_eq_zero (by omega)
      rw [if_pos (by exact hpos)]
      refine h.join hinv hpos hplace' hclone rfl (List.forall_mem_nil _) (List.forall_mem_nil _)
        (fun x hx ↦ ?_) fun a ha ↦ ?_
      · rw [Function.update_of_ne hx]
        exact h.used x
      · cases ha
        rfl
    | replaced ptr _ hslot =>
      rw [show s.buffer e.packet.1.getSequenceNumber = none from hfresh] at hslot
      cases hslot
    | added hused hroom =>
      rw [if_pos (by omega)]
      refine h.join hinv hpos hplace' hclone (by omega) (fun _ ha ↦ ha) hne (fun x hx ↦ ?_) ?_
      · rw [Function.update_of_ne hx]
        exact h.used x
      · intro a ha
        cases queue with
        | nil =>
          rw [List.length_nil] at hqueue
          omega
        | cons first rest => exact h.start a ha
    | recycled ptr hused hfull hslot hptr =>
      rw [if_neg (by omega)]
      obtain ⟨first, second, rest, rfl⟩ : ∃ first second rest, queue = first :: second :: rest := by
        rcases queue with - | ⟨first, - | ⟨second, rest⟩⟩
        · rw [List.length_nil] at hqueue
          omega
        · rw [List.length_singleton] at hqueue
          omega
        · exact ⟨first, second, rest, rfl⟩
      have hstart := h.start first rfl
      obtain ⟨hrest, hnext⟩ := h.nextUsed_eq hsorted fun a ha ↦
        hspan first List.mem_cons_self a (List.mem_append_left _ ha)
      refine h.join hinv hpos hplace' hclone hqueue (fun a ha ↦ List.mem_cons_of_mem _ ha)
        (fun a ha ↦ hne a (List.mem_cons_of_mem _ ha)) (fun x hx ↦ ?_) fun a ha ↦ ?_
      · rw [Function.update_of_ne hx, hstart]
        exact hrest x
      · cases ha
        rw [hstart]
        exact hnext

/-- The queue of the last `n` packets when one more comes. -/
theorem rtake_concat {α : Type} (l : List α) (x : α) (hn : 0 < n) : (l ++ [x]).rtake n =
    if (l.rtake n).length < n then l.rtake n ++ [x] else (l.rtake n).tail ++ [x] := by
  obtain ⟨m, rfl⟩ : ∃ m, n = m + 1 := ⟨n - 1, by omega⟩
  rw [List.rtake_concat_succ]
  unfold List.rtake
  rw [List.length_drop, List.tail_drop]
  split
  · rw [show l.length - m = l.length - (m + 1) by omega]
  · rw [show l.length - m = l.length - (m + 1) + 1 by omega]

/-- The last `n` packets and the next one span fewer than `2 ^ 16` values. -/
theorem spans_rtake_concat {packets : List NumberedPacket} {e : NumberedPacket}
    (h : Spans n (packets ++ [e])) : ∀ a ∈ packets.rtake n ++ [e], ∀ b ∈ packets.rtake n ++ [e],
      b.number < a.number + 2 ^ 16 := by
  refine h _ ?_ ?_
  · exact List.IsSuffix.isInfix ((List.suffix_append_inj_of_length_eq rfl).mpr
      ⟨List.drop_suffix _ _, rfl⟩)
  · rw [List.length_append, List.rtake, List.length_drop, List.length_singleton]
    omega

/-- After any number of packets in order, the buffer holds the last `n` of them. -/
theorem keeps_run (params : RtpStreamParams) (hn : 2 ≤ n) (packets : List NumberedPacket)
    (hsorted : packets.Pairwise fun a b ↦ a.number < b.number) (hspans : Spans n packets)
    (hsize : ∀ e ∈ packets, e.packet.1.size ≤ mtuSize) :
    ∃ s, packets.foldlM (fun s e ↦ s.storePacket e.packet.1) (init params n) = .ok s ∧
      Keeps s (packets.rtake n) := by
  have hstep : ∀ (hist : List NumberedPacket) (s : RtpStreamSend) (e : NumberedPacket),
      (Inv n s ∧ Keeps s (hist.rtake n)) →
      ((hist ++ [e]).Pairwise (fun a b ↦ a.number < b.number) ∧ Spans n (hist ++ [e]) ∧
        e.packet.1.size ≤ mtuSize) →
      ∃ t, s.storePacket e.packet.1 = .ok t ∧ (Inv n t ∧ Keeps t ((hist ++ [e]).rtake n)) := by
    rintro hist s e ⟨hinv, hkeeps⟩ ⟨hsorted, hspans, hsize⟩
    obtain ⟨t, ht, hout⟩ := storePacket_spec hinv (by omega) e.packet.2
    refine ⟨t, ht, hout.inv hinv hn, ?_⟩
    rw [rtake_concat hist e (by omega)]
    refine hkeeps.store hinv hn hsize (hsorted.sublist ?_) (spans_rtake_concat hspans) hout
    exact (List.drop_sublist _ _).append (List.Sublist.refl _)
  have hinit : Keeps (init params n) (List.rtake [] n) := by
    rw [List.rtake_nil]
    exact keeps_init params n
  have hlegal : ∀ (pre : List NumberedPacket) e post, packets = pre ++ e :: post →
      (([] ++ pre ++ [e]).Pairwise (fun a b : NumberedPacket ↦ a.number < b.number) ∧
        Spans n ([] ++ pre ++ [e]) ∧
        e.packet.1.size ≤ mtuSize) := by
    intro pre e post heq
    have hprefix : pre ++ [e] <+: packets := ⟨post, by rw [heq]; simp⟩
    refine ⟨hsorted.sublist hprefix.sublist, fun window hwindow hlength ↦ ?_,
      hsize e (by rw [heq]; simp)⟩
    exact hspans window (hwindow.trans hprefix.isInfix) hlength
  obtain ⟨s, hrun, -, hkeeps⟩ := Run.foldlM_invariant hstep packets [] (init params n)
    ⟨inv_init params n, hinit⟩ hlegal
  exact ⟨s, hrun, hkeeps⟩

/-! ## Out of order -/

/-- The stored packets and a new one lie in less than half the circle. -/
def Windowed (s : RtpStreamSend) (seq : BitVec 16) : Prop :=
  ∃ o, pos o seq < 2 ^ 15 ∧ ∀ x, s.buffer x ≠ none → pos o x < 2 ^ 15

/-- The packet of the entry `x` stays stored when a packet `seq` is stored. -/
def Stays (s : RtpStreamSend) (seq x : BitVec 16) : Prop :=
  s.buffer x ≠ none ∧ x ≠ seq ∧
    (s.bufferSize < s.storage.length ∨ s.buffer seq ≠ none ∨ x ≠ s.bufferStartIdx)

/-- `StorePacket` ignores the packet, or another packet that stays stored is older, or no other
packet stays stored. -/
def NotOldest (s : RtpStreamSend) (packet : RtpPacket) : Prop :=
  mtuSize < packet.size ∨
    (∃ p, s.packetAt packet.getSequenceNumber = some p ∧ packet.getTimestamp = p.getTimestamp) ∨
    (∃ x, s.Stays packet.getSequenceNumber x ∧ isSeqLowerThan x packet.getSequenceNumber = true) ∨
    ∀ x, ¬s.Stays packet.getSequenceNumber x

/-- The entry at the start is the oldest one. -/
def StartsOldest (s : RtpStreamSend) : Prop :=
  ∀ x, s.buffer x ≠ none → x ≠ s.bufferStartIdx → isSeqLowerThan s.bufferStartIdx x = true

/-- Seen from the origin of a window, the start comes first. -/
theorem startsOldest_iff {o : BitVec 16} (hwindow : ∀ x, s.buffer x ≠ none → pos o x < 2 ^ 15)
    (hstart : s.buffer s.bufferStartIdx ≠ none) :
    s.StartsOldest ↔ ∀ x, s.buffer x ≠ none → pos o s.bufferStartIdx ≤ pos o x := by
  constructor
  · intro h x hx
    by_cases hne : x = s.bufferStartIdx
    · rw [hne]
    · exact Nat.le_of_lt ((isSeqLowerThan_iff_pos (by decide) (hwindow _ hstart) (hwindow x hx)).mp
        (h x hx hne))
  · intro h x hx hne
    refine (isSeqLowerThan_iff_pos (by decide) (hwindow _ hstart) (hwindow x hx)).mpr ?_
    exact Nat.lt_of_le_of_ne (h x hx) fun heq ↦ hne (pos_inj.mp heq).symm

/-- A packet that stays stored and is older than the new one, where another is known to stay. -/
theorem NotOldest.exists_older (h : s.NotOldest packet) (hsize : packet.size ≤ mtuSize)
    (hfresh : ∀ p, s.packetAt packet.getSequenceNumber = some p →
      packet.getTimestamp ≠ p.getTimestamp) {y : BitVec 16}
    (hy : s.Stays packet.getSequenceNumber y) :
    ∃ x, s.Stays packet.getSequenceNumber x ∧
      isSeqLowerThan x packet.getSequenceNumber = true := by
  rcases h with hbig | ⟨p, hp, htimestamp⟩ | holder | hnone
  · omega
  · exact absurd htimestamp (hfresh p hp)
  · exact holder
  · exact absurd hy (hnone y)

/-- When the packet at the start leaves, the scan finds the oldest of the others. -/
theorem nextUsed_oldest {o : BitVec 16} (hfirst : ∀ x, s.buffer x ≠ none →
      pos o s.bufferStartIdx ≤ pos o x) {y : BitVec 16} (hy : s.buffer y ≠ none)
    (hne : y ≠ s.bufferStartIdx) {x : BitVec 16} (hx : s.buffer x ≠ none)
    (hxne : x ≠ s.bufferStartIdx) :
    pos o (nextUsed (Function.update s.buffer s.bufferStartIdx none) s.bufferStartIdx) ≤
      pos o x := by
  have hrest : ∀ z, Function.update s.buffer s.bufferStartIdx none z ≠ none →
      z ≠ s.bufferStartIdx ∧ s.buffer z ≠ none := by
    intro z hz
    by_cases hzne : z = s.bufferStartIdx
    · rw [hzne, Function.update_self] at hz
      exact absurd rfl hz
    · rw [Function.update_of_ne hzne] at hz
      exact ⟨hzne, hz⟩
  have hstay : ∀ {z}, s.buffer z ≠ none → z ≠ s.bufferStartIdx →
      Function.update s.buffer s.bufferStartIdx none z ≠ none := by
    intro z hz hzne
    rwa [Function.update_of_ne hzne]
  obtain ⟨hfound, hnearest⟩ := nextUsed_spec (hstay hy hne) s.bufferStartIdx
  generalize nextUsed _ _ = next at hfound hnearest ⊢
  obtain ⟨hnextne, hnext⟩ := hrest next hfound
  have hle := hnearest x (hstay hx hxne)
  have hpos := pos_succ_of_ne hnextne
  have hpos' := pos_succ_of_ne hxne
  rw [pos_of_le (hfirst next hnext)] at hpos
  rw [pos_of_le (hfirst x hx)] at hpos'
  have := hfirst next hnext
  have := hfirst x hx
  omega

/-- **The start stays the oldest** if the new packet does not become the oldest of several ones. -/
theorem Outcome.startsOldest (hout : Outcome s packet s') (hinv : Inv n s) (hn : 2 ≤ n)
    (holdest : s.StartsOldest) (hwindow : s.Windowed packet.getSequenceNumber)
    (hnew : s.NotOldest packet) : s'.StartsOldest := by
  cases hout with
  | ignored => exact holdest
  | @stored ptr buffer start size store q hsize hfresh hplace =>
    obtain ⟨o, ho, hstored⟩ := hwindow
    have holder : ∀ {y}, s.Stays packet.getSequenceNumber y →
        ∃ x, s.Stays packet.getSequenceNumber x ∧ pos o x < pos o packet.getSequenceNumber := by
      intro y hy
      obtain ⟨x, hx, hlower⟩ := hnew.exists_older hsize hfresh hy
      exact ⟨x, hx, (isSeqLowerThan_iff_pos (by decide) (hstored x hx.1) ho).mp hlower⟩
    generalize packet.getSequenceNumber = seq at hplace ho holder
    have hwindow' : ∀ x, buffer x ≠ none → pos o x < 2 ^ 15 := by
      intro x hx
      by_cases hseq : x = seq
      · rwa [hseq]
      · rcases hplace.buffer_of_ne hseq with hsame | ⟨hnone, -⟩
        · exact hstored x (hsame ▸ hx)
        · exact absurd hnone hx
    have hfirst : 0 < s.bufferSize → ∀ x, s.buffer x ≠ none → pos o s.bufferStartIdx ≤ pos o x :=
      fun hpos ↦ (startsOldest_iff hstored (hinv.start hpos)).mp holdest
    rw [startsOldest_iff hwindow' (hplace.start_used hinv hn)]
    change ∀ x, buffer x ≠ none → pos o start ≤ pos o x
    intro x hx
    cases hplace with
    | first hempty =>
      by_cases hseq : x = start
      · rw [hseq]
      · rw [Function.update_of_ne hseq] at hx
        obtain ⟨ptr, hptr⟩ := Option.ne_none_iff_exists'.mp hx
        have := hinv.compact.lt hptr
        omega
    | replaced ptr hpos hslot =>
      have hfirst := hfirst hpos
      by_cases hstart : s.bufferStartIdx = seq
      · -- Nothing else is stored: it would be newer than the start, not older.
        have honly : ∀ z, s.buffer z ≠ none → z = seq := by
          intro z hz
          by_contra hne
          obtain ⟨y, hy, hlt⟩ := holder ⟨hz, hne, Or.inr (Or.inl (by rw [hslot]; exact nofun))⟩
          have := hfirst y hy.1
          rw [hstart] at this
          omega
        rw [if_pos hstart, honly _ (nextUsed_spec hx _).1, honly x hx]
      · rw [if_neg hstart]
        exact hfirst x hx
    | added hpos hroom hslot =>
      have hfirst := hfirst hpos
      by_cases hseq : x = seq
      · have hne : s.bufferStartIdx ≠ seq := by
          rintro rfl
          exact hinv.start hpos hslot
        obtain ⟨y, hy, hlt⟩ := holder ⟨hinv.start hpos, hne, Or.inl hroom⟩
        have := hfirst y hy.1
        rw [hseq]
        omega
      · rw [Function.update_of_ne hseq] at hx
        exact hfirst x hx
    | recycled ptr hpos hfull hslot hptr =>
      have hfirst := hfirst hpos
      have hlength := hinv.length
      obtain ⟨y, hyne, hy⟩ := hinv.compact.exists_ne (by omega) s.bufferStartIdx
      by_cases hseq : x = seq
      · have hne : y ≠ seq := by
          rintro rfl
          exact hy hslot
        obtain ⟨z, ⟨hz, -, hzstays⟩, hlt⟩ := holder ⟨hy, hne, Or.inr (Or.inr hyne)⟩
        have hzne : z ≠ s.bufferStartIdx := by
          rcases hzstays with hroom | hused | hzne
          · omega
          · exact absurd hslot hused
          · exact hzne
        have := nextUsed_oldest hfirst hy hyne hz hzne
        rw [hseq]
        omega
      · rw [Function.update_of_ne hseq] at hx
        by_cases hxne : x = s.bufferStartIdx
        · rw [hxne, Function.update_self] at hx
          exact absurd rfl hx
        · rw [Function.update_of_ne hxne] at hx
          exact nextUsed_oldest hfirst hy hyne hx hxne

/-! ## All runs -/

/-- One call of `StorePacket` in a run. -/
def storeStep (s : RtpStreamSend) (packet : FormedPacket) :
    Except Fault (Unit × RtpStreamSend) := do
  return ((), ← s.storePacket packet.1)

/-- The record of a call of `StorePacket`. -/
abbrev StoreRecord := Run.Record RtpStreamSend FormedPacket Unit

/-- The call evicts the packet of the entry `seq`. -/
def StoreRecord.Evicts (r : StoreRecord) (seq : BitVec 16) : Prop :=
  r.before.buffer seq ≠ none ∧ r.after.buffer seq = none

theorem storeStep_spec (hinv : Inv n s) (hn : 2 ≤ n) (packet : FormedPacket) :
    ∃ t, s.storeStep packet = .ok ((), t) ∧ Outcome s packet.1 t ∧ Inv n t := by
  obtain ⟨t, ht, hout⟩ := storePacket_spec hinv (by omega) packet.2
  refine ⟨t, ?_, hout, hout.inv hinv hn⟩
  rw [storeStep, ht]
  rfl

/-- The evicted packet is the one at the start. -/
theorem Outcome.evicted (hout : Outcome s packet s') {seq : BitVec 16} (hused : s.buffer seq ≠ none)
    (hnone : s'.buffer seq = none) : seq = s.bufferStartIdx := by
  cases hout with
  | ignored => exact absurd hnone hused
  | stored store q hsize hfresh hplace =>
    by_cases hseq : seq = packet.getSequenceNumber
    · rw [hseq] at hnone
      exact absurd (hplace.buffer_self.symm.trans hnone) nofun
    · rcases hplace.buffer_of_ne hseq with hsame | ⟨-, hstart⟩
      · exact absurd (hsame.symm.trans hnone) hused
      · exact hstart

/-- What holds before each call: the invariant, and if no packet has become the oldest of several
ones so far, the start is the oldest. -/
structure OrderInv (n : ℕ) (hist : List StoreRecord) (s : RtpStreamSend) : Prop where
  inv : Inv n s
  oldest : (∀ r ∈ hist, Windowed r.before r.event.1.getSequenceNumber ∧
    NotOldest r.before r.event.1) → s.StartsOldest

theorem OrderInv.step (hn : 2 ≤ n) (hist : List StoreRecord) (r : StoreRecord)
    (h : OrderInv n hist r.before)
    (hstep : storeStep r.before r.event = .ok (r.output, r.after)) :
    OrderInv n (hist ++ [r]) r.after := by
  obtain ⟨t, ht, hout, hinv'⟩ := storeStep_spec h.inv hn r.event
  rw [hstep] at ht
  obtain rfl : r.after = t := congrArg Prod.snd (Except.ok.inj ht)
  refine ⟨hinv', fun hall ↦ ?_⟩
  obtain ⟨hwindow, hnew⟩ := hall r (List.mem_append_right _ List.mem_cons_self)
  exact hout.startsOldest h.inv hn (h.oldest fun r' hr' ↦ hall r' (List.mem_append_left _ hr'))
    hwindow
    hnew

/-- As long as no packet becomes the oldest of several stored ones, the evicted packet is the
oldest. -/
theorem evicts_oldest (params : RtpStreamParams) (hn : 2 ≤ n) (packets : List FormedPacket) :
    ∃ records, Run.trace storeStep (init params n) packets = .ok records ∧
      ∀ (pre : List StoreRecord) (r : StoreRecord) (post : List StoreRecord),
        records = pre ++ r :: post →
        (∀ r' ∈ pre, Windowed r'.before r'.event.1.getSequenceNumber ∧
          NotOldest r'.before r'.event.1) →
        ∀ e, r.Evicts e → ∀ x, r.before.buffer x ≠ none → x ≠ e → isSeqLowerThan e x = true := by
  have hsteps : ∀ s packet, Inv n s → (∃ f, storeStep s packet = .error f ∧ False) ∨
      ∃ a t, storeStep s packet = .ok (a, t) ∧ Inv n t := by
    intro s packet hinv
    obtain ⟨t, ht, -, hinv'⟩ := storeStep_spec hinv hn packet
    exact Or.inr ⟨(), t, ht, hinv'⟩
  have hsafe := Run.trace_safe hsteps packets (init params n) (inv_init params n)
  have hinit : OrderInv n [] (init params n) :=
    ⟨inv_init params n, fun _ x hx ↦ absurd rfl hx⟩
  cases htrace : Run.trace storeStep (init params n) packets with
  | error f =>
    rw [htrace] at hsafe
    exact hsafe.elim
  | ok records =>
    refine ⟨records, rfl, fun pre r post hsplit hall e hevicts x hx hne ↦ ?_⟩
    obtain ⟨hinv, hstep⟩ := Run.trace_invariant (OrderInv.step hn) packets [] _ records hinit htrace
      pre r post hsplit
    obtain ⟨t, ht, hout, -⟩ := storeStep_spec hinv.inv hn r.event
    rw [hstep] at ht
    obtain rfl : r.after = t := congrArg Prod.snd (Except.ok.inj ht)
    obtain rfl := hout.evicted hevicts.1 hevicts.2
    exact hinv.oldest hall x hx hne

/-- **The buffer keeps the newest packets.** Packets stored in order form a bounded queue: after any
number of them the buffer holds clones of the last `n`, and the start is the first of these. In any
order, the evicted packet is the oldest one, as long as the stored packets lie in less than half the
circle and no packet has become the oldest of several stored ones. -/
theorem keeps_newest (params : RtpStreamParams) (n : ℕ) (hn : 2 ≤ n) :
    (∀ packets : List NumberedPacket, packets.Pairwise (fun a b ↦ a.number < b.number) →
      Spans n packets → (∀ e ∈ packets, e.packet.1.size ≤ mtuSize) →
      ∃ s, packets.foldlM (fun s e ↦ s.storePacket e.packet.1) (init params n) = .ok s ∧
        Keeps s (packets.rtake n)) ∧
    ∀ packets : List FormedPacket, ∃ records,
      Run.trace storeStep (init params n) packets = .ok records ∧
      ∀ (pre : List StoreRecord) (r : StoreRecord) (post : List StoreRecord),
        records = pre ++ r :: post →
        (∀ r' ∈ pre, Windowed r'.before r'.event.1.getSequenceNumber ∧
          NotOldest r'.before r'.event.1) →
        ∀ e, r.Evicts e → ∀ x, r.before.buffer x ≠ none → x ≠ e → isSeqLowerThan e x = true :=
  ⟨fun packets hsorted hspans hsize ↦ keeps_run params hn packets hsorted hspans hsize,
    fun packets ↦ evicts_oldest params hn packets⟩

/-- A packet with an unwrapped sequence number, and nothing else. -/
def numberedPacket (number : ℕ) : NumberedPacket :=
  ⟨barePacket (BitVec.ofNat 16 number) 0, number, rfl⟩

theorem used_of_update {buffer : BitVec 16 → Option ℕ} {k x : BitVec 16} {v : Option ℕ}
    (h : Function.update buffer k v x ≠ none) : x = k ∨ buffer x ≠ none := by
  by_cases hx : x = k
  · exact Or.inl hx
  · rw [Function.update_of_ne hx] at h
    exact Or.inr h

/-- Of three packets around the wrap the last two are kept, and the first one is evicted. -/
theorem keeps_newest_around_wrap :
    (∃ s, [numberedPacket 65534, numberedPacket 65535, numberedPacket 65538].foldlM
        (fun s e ↦ s.storePacket e.packet.1) (init sendParams 2) = .ok s ∧
      Keeps s [numberedPacket 65535, numberedPacket 65538]) ∧
    ∃ first second third : StoreRecord, Run.trace storeStep (init sendParams 2)
        [barePacket 65534 0, barePacket 65535 0, barePacket 2 0] = .ok [first, second, third] ∧
      third.Evicts 65534 ∧
      ∀ x, third.before.buffer x ≠ none → x ≠ 65534 → isSeqLowerThan 65534 x = true := by
  obtain ⟨hinOrder, hanyOrder⟩ := keeps_newest sendParams 2 (Nat.le_refl 2)
  constructor
  · refine hinOrder _ (by simp [numberedPacket]) (fun window hwindow _ a ha b hb ↦ ?_) ?_
    · have ha := hwindow.subset ha
      have hb := hwindow.subset hb
      simp only [List.mem_cons, List.not_mem_nil, or_false] at ha hb
      rcases ha with rfl | rfl | rfl <;> rcases hb with rfl | rfl | rfl <;> decide
    · intro e he
      simp only [List.mem_cons, List.not_mem_nil, or_false] at he
      rcases he with rfl | rfl | rfl <;> decide
  · have hrun : ∃ first second third : StoreRecord, Run.trace storeStep (init sendParams 2)
        [barePacket 65534 0, barePacket 65535 0, barePacket 2 0] = .ok [first, second, third] ∧
        third.Evicts 65534 ∧ first.before.buffer = (fun _ ↦ none) ∧
        first.event.1.getSequenceNumber = 65534 ∧
        second.before.buffer = Function.update (fun _ ↦ none) 65534 (some 0) ∧
        second.before.bufferSize < second.before.storage.length ∧
        second.event.1.getSequenceNumber = 65535 :=
      ⟨_, _, _, rfl, ⟨nofun, rfl⟩, rfl, rfl, rfl, by decide, rfl⟩
    obtain ⟨first, second, third, htrace, hevicts, hfirst, hfirst', hsecond, hroom, hsecond'⟩ :=
      hrun
    obtain ⟨records, hrecords, horder⟩ :=
      hanyOrder [barePacket 65534 0, barePacket 65535 0, barePacket 2 0]
    rw [htrace] at hrecords
    obtain rfl := Except.ok.inj hrecords
    refine ⟨first, second, third, htrace, hevicts,
      horder [first, second] third [] rfl (fun r hr ↦ ?_) 65534 hevicts⟩
    simp only [List.mem_cons, List.not_mem_nil, or_false] at hr
    rcases hr with rfl | rfl
    · refine ⟨⟨65534, by rw [hfirst']; decide, fun x hx ↦ ?_⟩,
        Or.inr (Or.inr (Or.inr fun x hx ↦ ?_))⟩
      · rw [hfirst] at hx
        exact absurd rfl hx
      · have hused := hx.1
        rw [hfirst] at hused
        exact hused rfl
    · refine ⟨⟨65534, by rw [hsecond']; decide, fun x hx ↦ ?_⟩,
        Or.inr (Or.inr (Or.inl ⟨65534, ⟨?_, ?_, Or.inl hroom⟩, ?_⟩))⟩
      · rw [hsecond] at hx
        rcases used_of_update hx with rfl | hx
        · decide
        · exact absurd rfl hx
      · rw [hsecond, Function.update_self]
        exact nofun
      · rw [hsecond']
        decide
      · rw [hsecond']
        decide

/-- **A late packet is not the next to go.** With room for two packets, 10, 9 and 11 are stored. The
last one evicts 10, though 9 is older. -/
theorem evicts_newer_packet :
    ∃ first second third : StoreRecord, Run.trace storeStep (init sendParams 2)
        [barePacket 10 0, barePacket 9 0, barePacket 11 0] = .ok [first, second, third] ∧
      (∀ r ∈ [first, second, third], Windowed r.before r.event.1.getSequenceNumber) ∧
      third.Evicts 10 ∧ third.before.buffer 9 ≠ none ∧
        isSeqLowerThan (10 : BitVec 16) 9 = false := by
  have hrun : ∃ first second third : StoreRecord, Run.trace storeStep (init sendParams 2)
      [barePacket 10 0, barePacket 9 0, barePacket 11 0] = .ok [first, second, third] ∧
      (∀ r ∈ [first, second, third], r.event.1.getSequenceNumber.toNat < 2 ^ 15) ∧
      third.Evicts 10 ∧ third.before.buffer 9 ≠ none ∧ first.before.buffer = (fun _ ↦ none) ∧
      second.before.buffer = Function.update (fun _ ↦ none) 10 (some 0) ∧
      third.before.buffer = Function.update (Function.update (fun _ ↦ none) 10 (some 0)) 9
        (some 1) :=
    ⟨_, _, _, rfl, by simp only [List.forall_mem_cons]; decide, ⟨nofun, rfl⟩, nofun, rfl, rfl, rfl⟩
  obtain ⟨first, second, third, htrace, hseqs, hevicts, hnine, hfirst, hsecond, hthird⟩ := hrun
  refine ⟨first, second, third, htrace, fun r hr ↦ ⟨0, ?_, fun x hx ↦ ?_⟩, hevicts, hnine,
    by decide⟩
  · rw [pos_zero_left]
    exact hseqs r hr
  · simp only [List.mem_cons, List.not_mem_nil, or_false] at hr
    rcases hr with rfl | rfl | rfl
    · rw [hfirst] at hx
      exact absurd rfl hx
    · rw [hsecond] at hx
      rcases used_of_update hx with rfl | hx
      · decide
      · exact absurd rfl hx
    · rw [hthird] at hx
      rcases used_of_update hx with rfl | hx
      · decide
      rcases used_of_update hx with rfl | hx
      · decide
      · exact absurd rfl hx

end RtpStreamSend

end MediasoupSfu
