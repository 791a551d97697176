import MediasoupSfu.Nack.Generator

/-!
# The reachable states of the NACK generator

The NACK list is kept in a window of `MaxPacketAge` sequence numbers below the last one. Inside it
the wrapping comparison is an order, so the list is ascending and the container operations mean what
they should; that in turn is what keeps the list in the window when it moves. `Listed` states the
two together.

A jump of more than `MaxNackPackets` moves the window so far that the order breaks down, but then
the list is too large as well and is cleared. All smaller jumps stay far below half of the circle.
-/

namespace MediasoupSfu

open Serial Ordered

namespace NackGenerator

/-- The first sequence number of the window below `lastSeq`. -/
def windowStart (lastSeq : BitVec 16) : BitVec 16 := lastSeq - BitVec.ofNat 16 maxPacketAge

/-- The list lies in the window below `lastSeq`, in its order. -/
structure Listed (lastSeq : BitVec 16) (nackList : List NackEntry) : Prop where
  /-- Every key is one of the `MaxPacketAge` sequence numbers before `lastSeq`. -/
  keys : ∀ e ∈ nackList, pos (windowStart lastSeq) e.1 < maxPacketAge
  /-- The keys ascend. -/
  ascending : Ascending (pos (windowStart lastSeq)) Prod.fst nackList

namespace Listed

variable {lastSeq : BitVec 16} {nackList : List NackEntry}

theorem nil (lastSeq : BitVec 16) : Listed lastSeq [] := ⟨by simp, List.Pairwise.nil⟩

theorem sublist {xs : List NackEntry} (h : Listed lastSeq nackList) (hs : xs.Sublist nackList) :
    Listed lastSeq xs :=
  ⟨fun e he ↦ h.keys e (hs.subset he), h.ascending.sublist hs⟩

end Listed

theorem pos_windowStart (lastSeq : BitVec 16) :
    pos (windowStart lastSeq) lastSeq = maxPacketAge := by
  have hpos := pos_add_ofNat (o := windowStart lastSeq) (n := maxPacketAge) (by decide)
  rwa [windowStart, BitVec.sub_add_cancel, ← windowStart] at hpos

/-- The comparator is an order on the first half of the circle from the window on. -/
theorem ranked (o : BitVec 16) : RankedOn isSeqLowerThan (pos o) (window o (2 ^ 15)) :=
  rankedOn_window (by decide) o (Nat.le_refl _)

/-! ## Looking up an older packet -/

/-- The half circle before `lastSeq`. -/
def halfStart (lastSeq : BitVec 16) : BitVec 16 := lastSeq - BitVec.ofNat 16 (2 ^ 15)

theorem pos_halfStart (lastSeq x : BitVec 16) (hx : pos (windowStart lastSeq) x < maxPacketAge) :
    pos (halfStart lastSeq) x = pos (windowStart lastSeq) x + (2 ^ 15 - maxPacketAge) := by
  unfold pos halfStart windowStart maxPacketAge at *
  bv_omega

/-- A lower sequence number lies in the half circle before `lastSeq`. -/
theorem pos_halfStart_lt {lastSeq seq : BitVec 16} (h : isSeqLowerThan seq lastSeq = true) :
    pos (halfStart lastSeq) seq < 2 ^ 15 := by
  have hle : 0 < pos seq lastSeq ∧ pos seq lastSeq ≤ 2 ^ 15 := by
    rcases (isSeqLowerThan_iff (by decide)).mp h with ⟨hpos, hlt⟩ | ⟨heq, -⟩
    · exact ⟨hpos, Nat.le_of_lt hlt⟩
    · rw [heq]
      decide
  unfold pos halfStart at *
  bv_omega

theorem Listed.half {lastSeq : BitVec 16} {nackList : List NackEntry}
    (h : Listed lastSeq nackList) :
    (∀ e ∈ nackList, e.1 ∈ window (halfStart lastSeq) (2 ^ 15)) ∧
      Ascending (pos (halfStart lastSeq)) Prod.fst nackList := by
  have hage : maxPacketAge = 10000 := rfl
  constructor
  · intro e he
    have := h.keys e he
    rw [mem_window, pos_halfStart lastSeq e.1 this]
    omega
  · refine List.Pairwise.imp_of_mem (fun ha hb hlt ↦ ?_) h.ascending
    rw [pos_halfStart _ _ (h.keys _ ha), pos_halfStart _ _ (h.keys _ hb)]
    omega

/-! ## The window moves -/

/-- The window moves by as much as the last sequence number. -/
theorem pos_windowStart_windowStart (lastSeq seq : BitVec 16) :
    pos (windowStart lastSeq) (windowStart seq) = pos lastSeq seq := by
  have hshift : windowStart seq - windowStart lastSeq = seq - lastSeq := by
    unfold windowStart
    bv_omega
  rw [pos, hshift, pos]

theorem pos_windowStart_of_le {lastSeq seq x : BitVec 16}
    (hx : pos lastSeq seq ≤ pos (windowStart lastSeq) x) :
    pos (windowStart seq) x = pos (windowStart lastSeq) x - pos lastSeq seq := by
  rw [← pos_windowStart_windowStart lastSeq seq] at hx ⊢
  exact pos_of_le hx

/-- **The old entries are dropped.** After a small jump the lower bound leaves a list in the new
window, below the old last sequence number. -/
theorem Listed.lowerBound {lastSeq seq : BitVec 16} {nackList : List NackEntry}
    (h : Listed lastSeq nackList) (hle : pos lastSeq seq ≤ maxNackPackets + 1)
    (search : SeqSearch) :
    Listed seq (Ordered.lowerBound search Prod.fst
        (seq - BitVec.ofNat 16 maxPacketAge) nackList) ∧
      ∀ e ∈ Ordered.lowerBound search Prod.fst
        (seq - BitVec.ofNat 16 maxPacketAge) nackList,
        pos (windowStart seq) e.1 + pos lastSeq seq < maxPacketAge := by
  have hkeys : ∀ e ∈ nackList, e.1 ∈ window (windowStart lastSeq) (2 ^ 15) := fun e he ↦
    Nat.lt_trans (h.keys e he) (by decide)
  have hstart := pos_windowStart_windowStart lastSeq seq
  have hmax : maxNackPackets = 1000 := rfl
  have hage : maxPacketAge = 10000 := rfl
  have hmem : ∀ e, e ∈ Ordered.lowerBound search Prod.fst (windowStart seq) nackList ↔
      e ∈ nackList ∧ pos (windowStart lastSeq) (windowStart seq) ≤ pos (windowStart lastSeq) e.1 :=
    fun _ ↦ mem_lowerBound (ranked _) h.ascending hkeys (by rw [mem_window, hstart]; omega)
  rw [← windowStart]
  rw [hstart] at hmem
  have hpos : ∀ e ∈ Ordered.lowerBound search Prod.fst (windowStart seq) nackList,
      pos (windowStart seq) e.1 + pos lastSeq seq < maxPacketAge := by
    intro e he
    obtain ⟨hin, hge⟩ := (hmem e).mp he
    have := h.keys e hin
    rw [pos_windowStart_of_le hge]
    omega
  refine ⟨⟨fun e he ↦ ?_, ?_⟩, hpos⟩
  · have := hpos e he
    omega
  · refine List.Pairwise.imp_of_mem ?_ (h.ascending.sublist (lowerBound_sublist _ nackList))
    intro a b ha hb hlt
    rw [pos_windowStart_of_le ((hmem a).mp ha).2,
      pos_windowStart_of_le ((hmem b).mp hb).2]
    have := ((hmem a).mp ha).2
    omega

/-! ## The new entries -/

/-- The entries for `n` sequence numbers from `seq` on, without those already recovered. -/
def newNacks (search : SeqSearch) (recoveredList : List (BitVec 16)) :
    ℕ → BitVec 16 → List NackEntry
  | 0, _ => []
  | n + 1, seq =>
    if (find? search id seq recoveredList).isSome then
      newNacks search recoveredList n (seq + 1)
    else (seq, { seq := seq, sendAtSeq := seq }) :: newNacks search recoveredList n (seq + 1)

theorem length_newNacks_le (search : SeqSearch) (recoveredList : List (BitVec 16)) (n : ℕ) :
    ∀ seq, (newNacks search recoveredList n seq).length ≤ n := by
  induction n with
  | zero => intro seq; exact Nat.le_refl 0
  | succ n ih =>
    intro seq
    have := ih (seq + 1)
    rw [newNacks]
    split
    · omega
    · rw [List.length_cons]
      omega

/-- The new entries are fresh and their keys are among the `n` sequence numbers. -/
theorem mem_newNacks {search : SeqSearch} {recoveredList : List (BitVec 16)} {e : NackEntry}
    (n : ℕ) :
    ∀ seq, e ∈ newNacks search recoveredList n seq ↔
      (∃ i < n, e.1 = seq + BitVec.ofNat 16 i) ∧ e.2 = { seq := e.1, sendAtSeq := e.1 } ∧
        find? search id e.1 recoveredList = none := by
  induction n with
  | zero => intro seq; simp [newNacks]
  | succ n ih =>
    intro seq
    have hshift : ∀ i, seq + 1 + BitVec.ofNat 16 i = seq + BitVec.ofNat 16 (i + 1) := by
      intro i
      rw [Nat.add_comm i 1, BitVec.ofNat_add, ← BitVec.add_assoc]
      rfl
    have hsplit : (∃ i < n + 1, e.1 = seq + BitVec.ofNat 16 i) ↔
        e.1 = seq ∨ ∃ i < n, e.1 = seq + 1 + BitVec.ofNat 16 i := by
      constructor
      · rintro ⟨i, hi, he⟩
        cases i with
        | zero => exact Or.inl (by simpa using he)
        | succ i => exact Or.inr ⟨i, by omega, by rw [hshift, he]⟩
      · rintro (he | ⟨i, hi, he⟩)
        · exact ⟨0, by omega, by simpa using he⟩
        · exact ⟨i + 1, by omega, by rw [← hshift, he]⟩
    rw [hsplit, newNacks]
    split
    · rename_i hfound
      rw [ih (seq + 1)]
      constructor
      · rintro ⟨hi, hrest⟩
        exact ⟨Or.inr hi, hrest⟩
      · rintro ⟨he | hi, hinfo, hnone⟩
        · rw [← he, hnone] at hfound
          cases hfound
        · exact ⟨hi, hinfo, hnone⟩
    · rename_i hmissing
      rw [List.mem_cons, ih (seq + 1)]
      rw [Option.not_isSome_iff_eq_none] at hmissing
      constructor
      · rintro (rfl | ⟨hi, hrest⟩)
        · exact ⟨Or.inl rfl, rfl, hmissing⟩
        · exact ⟨Or.inr hi, hrest⟩
      · rintro ⟨he | hi, hinfo, hnone⟩
        · exact Or.inl (Prod.ext he (by rw [hinfo, he]))
        · exact Or.inr ⟨hi, hinfo, hnone⟩

theorem pos_succ {o seq : BitVec 16} (h : pos o seq + 1 < 2 ^ 16) :
    pos o (seq + 1) = pos o seq + 1 := by
  have hone : pos seq (seq + 1) = 1 := pos_add_ofNat (o := seq) (n := 1) (by decide)
  rw [pos_add_pos (x := seq) (by omega), hone]

/-- **The insertion loop.** Above every listed key, the loop finds no sequence number in the list
and appends the new entries. -/
theorem insertNacks_eq {o : BitVec 16} {search : SeqSearch} {recoveredList : List (BitVec 16)}
    (n : ℕ) :
    ∀ (seq : BitVec 16) (nackList : List NackEntry), pos o seq + n ≤ maxPacketAge →
      (∀ e ∈ nackList, pos o e.1 < pos o seq) →
      insertNacks search recoveredList n seq nackList
        = .ok (nackList ++ newNacks search recoveredList n seq) := by
  induction n with
  | zero => intro seq nackList _ _; rw [insertNacks, newNacks, List.append_nil]
  | succ n ih =>
    intro seq nackList hle hlow
    have hage : maxPacketAge = 10000 := rfl
    have hlower : ∀ e ∈ nackList, isSeqLowerThan e.1 seq = true := fun e he ↦
      (isSeqLowerThan_iff_pos (o := o) (by decide) (by have := hlow e he; omega)
        (by omega)).mpr (hlow e he)
    have hnext : pos o (seq + 1) = pos o seq + 1 := pos_succ (by omega)
    rw [insertNacks, newNacks, find?_eq_none_of_lower hlower]
    change (if _ then _ else _) = _
    split
    · exact ih (seq + 1) nackList (by omega) fun e he ↦ by have := hlow e he; omega
    · rw [insert_eq_append hlower, ih (seq + 1) _ (by omega), List.append_assoc,
        List.singleton_append]
      intro e he
      rcases List.mem_append.mp he with he | he
      · have := hlow e he
        omega
      · rw [List.mem_singleton.mp he, hnext]
        exact Nat.lt_succ_self _

theorem ascending_newNacks (o : BitVec 16) (search : SeqSearch) (recoveredList : List (BitVec 16))
    (n : ℕ) : ∀ seq, pos o seq + n ≤ maxPacketAge →
      Ascending (pos o) Prod.fst (newNacks search recoveredList n seq) ∧
        ∀ e ∈ newNacks search recoveredList n seq,
          pos o seq ≤ pos o e.1 ∧ pos o e.1 < pos o seq + n := by
  have hage : maxPacketAge = 10000 := rfl
  induction n with
  | zero => intro seq _; exact ⟨List.Pairwise.nil, by simp [newNacks]⟩
  | succ n ih =>
    intro seq hle
    have hnext : pos o (seq + 1) = pos o seq + 1 := pos_succ (by omega)
    obtain ⟨hasc, hpos⟩ := ih (seq + 1) (by omega)
    rw [newNacks]
    split
    · exact ⟨hasc, fun e he ↦ by have := hpos e he; omega⟩
    · refine ⟨List.pairwise_cons.mpr ⟨fun e he ↦ ?_, hasc⟩, fun e he ↦ ?_⟩
      · have := hpos e he
        change pos o seq < _
        omega
      · rcases List.mem_cons.mp he with rfl | he
        · exact ⟨Nat.le_refl _, by change pos o seq < _; omega⟩
        · have := hpos e he
          omega

/-! ## Adding packets -/

theorem makeRoom_suffix (search : SeqSearch) (numNewNacks : ℕ) (keyFrameList : List (BitVec 16))
    (nackList : List NackEntry) :
    (makeRoom search numNewNacks keyFrameList nackList).2 <:+ nackList := by
  induction keyFrameList, nackList using makeRoom.induct search numNewNacks with
  | case1 ks xs removed h hlarge ih =>
    rw [makeRoom, dif_pos h, if_pos hlarge]
    exact ih.trans (removeNackItemsUntilKeyFrame_suffix search ks xs)
  | case2 ks xs removed h hsmall =>
    rw [makeRoom, dif_pos h, if_neg hsmall]
    exact removeNackItemsUntilKeyFrame_suffix search ks xs
  | case3 ks xs removed h =>
    rw [makeRoom, dif_neg h]
    exact removeNackItemsUntilKeyFrame_suffix search ks xs

/-- The number of new entries, in terms of the jump. -/
theorem pos_succ_add_one {lastSeq seq : BitVec 16} (hne : seq ≠ lastSeq) :
    pos (lastSeq + 1) seq + 1 = pos lastSeq seq := by
  have hpos := pos_pos_of_ne hne
  have hone : pos lastSeq (lastSeq + 1) = 1 := pos_add_ofNat (o := lastSeq) (n := 1) (by decide)
  have hsub := pos_of_le (o := lastSeq) (x := lastSeq + 1) (y := seq) (by omega)
  omega

/-- **Adding packets** never fails: either the list is cleared and a key frame requested, or the
entries that are kept and the new ones make up a list in the new window. -/
theorem addPacketsToNackList_spec {g : NackGenerator} (h : Listed g.lastSeq g.nackList)
    (search : SeqSearch) {seq : BitVec 16} (hne : seq ≠ g.lastSeq) :
    (∃ ks, g.addPacketsToNackList search (g.lastSeq + 1) seq
        = .ok ([.keyFrameRequired], { g with keyFrameList := ks, nackList := [] })) ∨
    ∃ ks kept, kept <:+ g.nackList ∧
      Listed seq (kept ++ newNacks search g.recoveredList (pos (g.lastSeq + 1) seq)
        (g.lastSeq + 1)) ∧
      (kept ++ newNacks search g.recoveredList (pos (g.lastSeq + 1) seq)
        (g.lastSeq + 1)).length ≤ maxNackPackets ∧
      g.addPacketsToNackList search (g.lastSeq + 1) seq
        = .ok ([], { g with
            keyFrameList := ks
            nackList := kept ++ newNacks search g.recoveredList (pos (g.lastSeq + 1) seq)
              (g.lastSeq + 1) }) := by
  unfold addPacketsToNackList
  dsimp only
  rw [← pos]
  generalize hrecent : Ordered.lowerBound search Prod.fst
    (seq - BitVec.ofNat 16 maxPacketAge) g.nackList = recent
  generalize hroom : (if maxNackPackets < recent.length + pos (g.lastSeq + 1) seq then
    makeRoom search (pos (g.lastSeq + 1) seq) g.keyFrameList recent
    else (g.keyFrameList, recent)) = room
  obtain ⟨ks, kept⟩ := room
  have hkept : kept <:+ recent := by
    split at hroom
    · rw [show kept = (makeRoom search (pos (g.lastSeq + 1) seq) g.keyFrameList recent).2 by
        rw [hroom]]
      exact makeRoom_suffix _ _ _ _
    · have hsame : kept = recent := (Prod.mk.inj hroom).2.symm
      exact hsame ▸ List.suffix_refl recent
  by_cases hlarge : maxNackPackets < kept.length + pos (g.lastSeq + 1) seq
  · left
    exact ⟨ks, if_pos hlarge⟩
  · right
    have hjump := pos_succ_add_one hne
    have hsmall : pos g.lastSeq seq ≤ maxNackPackets + 1 := by omega
    obtain ⟨hlisted, hlow⟩ := h.lowerBound hsmall search
    rw [hrecent] at hlisted hlow
    have hage : maxPacketAge = 10000 := rfl
    have hmax : maxNackPackets = 1000 := rfl
    -- positions in the new window
    have hend := pos_windowStart seq
    have hlast : pos (windowStart seq) (g.lastSeq + 1) + pos (g.lastSeq + 1) seq =
        maxPacketAge := by
      have hsub := pos_windowStart g.lastSeq
      have hle : pos g.lastSeq seq ≤ pos (windowStart g.lastSeq) g.lastSeq := by omega
      have hshift := pos_windowStart_of_le hle
      have hfit : pos (windowStart seq) g.lastSeq + 1 < 2 ^ 16 := by omega
      have hnext := pos_succ hfit
      omega
    have hbelow : ∀ e ∈ kept, pos (windowStart seq) e.1 <
        pos (windowStart seq) (g.lastSeq + 1) := by
      intro e he
      have := hlow e (hkept.subset he)
      omega
    obtain ⟨hasc, hnew⟩ := ascending_newNacks (windowStart seq) search g.recoveredList
      (pos (g.lastSeq + 1) seq) (g.lastSeq + 1) (by omega)
    refine ⟨ks, kept, ?_, ⟨?_, ?_⟩, ?_, ?_⟩
    · exact hkept.trans (hrecent ▸ lowerBound_suffix _ _)
    · intro e he
      rcases List.mem_append.mp he with he | he
      · exact hlisted.keys e (hkept.subset he)
      · have := (hnew e he).2
        omega
    · refine List.pairwise_append.mpr ⟨hlisted.ascending.sublist hkept.sublist, hasc, ?_⟩
      intro a ha b hb
      exact Nat.lt_of_lt_of_le (hbelow a ha) (hnew b hb).1
    · have := length_newNacks_le search g.recoveredList (pos (g.lastSeq + 1) seq) (g.lastSeq + 1)
      rw [List.length_append]
      omega
    · rw [if_neg hlarge, insertNacks_eq (o := windowStart seq) _ _ _ (by omega) hbelow]
      rfl

/-! ## Requesting keeps the keys -/

/-- What `GetNackBatch` leaves of an entry. -/
def retained (g : NackGenerator) (filter : NackFilter) (nowMs : BitVec 64) (entry : NackEntry) :
    Option NackEntry :=
  if g.isDue filter nowMs entry then requested nowMs entry else some entry

theorem nackList_getNackBatch (g : NackGenerator) (filter : NackFilter) (nowMs : BitVec 64) :
    (g.getNackBatch filter nowMs).2.nackList = g.nackList.filterMap (g.retained filter nowMs) := rfl

theorem fst_of_retained {g : NackGenerator} {filter : NackFilter} {nowMs : BitVec 64}
    {e e' : NackEntry} (h : g.retained filter nowMs e = some e') : e'.1 = e.1 := by
  unfold retained at h
  split at h
  · unfold requested at h
    dsimp only at h
    split at h
    · cases h
    · cases h
      rfl
  · cases h
    rfl

theorem Listed.filterMap {lastSeq : BitVec 16} {nackList : List NackEntry}
    (h : Listed lastSeq nackList) {f : NackEntry → Option NackEntry}
    (hf : ∀ e e', f e = some e' → e'.1 = e.1) : Listed lastSeq (nackList.filterMap f) where
  keys := by
    intro e' he'
    obtain ⟨e, he, hfe⟩ := List.mem_filterMap.mp he'
    rw [hf e e' hfe]
    exact h.keys e he
  ascending := by
    refine List.Pairwise.filterMap f (fun a b hab a' ha' b' hb' ↦ ?_) h.ascending
    rw [hf a a' ha', hf b b' hb']
    exact hab

/-! ## One step -/

/-- What holds in every reachable state. -/
structure Inv (g : NackGenerator) : Prop where
  listed : Listed g.lastSeq g.nackList
  length_le : g.nackList.length ≤ maxNackPackets
  armed : g.nackList ≠ [] → g.timerActive = true
  idle : g.started = false → g.nackList = []

theorem inv_init (rtt : BitVec 32) : Inv { rtt := rtt } :=
  ⟨.nil _, Nat.zero_le _, fun h ↦ absurd rfl h, fun _ ↦ rfl⟩

theorem Inv.getNackBatch {g : NackGenerator} (hlisted : Listed g.lastSeq g.nackList)
    (hlength : g.nackList.length ≤ maxNackPackets) (filter : NackFilter) (nowMs : BitVec 64) :
    Listed g.lastSeq (g.getNackBatch filter nowMs).2.nackList ∧
      (g.getNackBatch filter nowMs).2.nackList.length ≤ maxNackPackets := by
  rw [nackList_getNackBatch]
  exact ⟨hlisted.filterMap fun _ _ ↦ fst_of_retained,
    (List.length_filterMap_le _ _).trans hlength⟩

theorem mayRunTimer_nil {g : NackGenerator} (h : g.nackList = []) : g.mayRunTimer = g := if_pos h

theorem inv_mayRunTimer {g : NackGenerator} (hlisted : Listed g.lastSeq g.nackList)
    (hlength : g.nackList.length ≤ maxNackPackets) (hidle : g.started = false → g.nackList = []) :
    Inv g.mayRunTimer := by
  unfold mayRunTimer
  by_cases hnil : g.nackList = []
  · rw [if_pos hnil]
    exact ⟨hlisted, hlength, fun hne ↦ absurd hnil hne, hidle⟩
  · rw [if_neg hnil]
    exact ⟨hlisted, hlength, fun _ ↦ rfl, hidle⟩

/-- The key frame list after a newer packet. -/
def prunedKeyFrames (search : SeqSearch) (g : NackGenerator) (seq : BitVec 16) (isKeyFrame : Bool) :
    List (BitVec 16) :=
  Ordered.lowerBound search id (seq - BitVec.ofNat 16 maxPacketAge)
    (if isKeyFrame then Ordered.insert search id seq g.keyFrameList
      else g.keyFrameList)

/-- The end of `ReceivePacket`, once the missing packets are listed: request them and see to the
timer. -/
def requestMissing (g : NackGenerator) (nowMs : BitVec 64) : List NackNotice × NackGenerator :=
  let (nackBatch, g) := g.getNackBatch .seq nowMs
  (batchNotice nackBatch, if g.timerActive then g else g.mayRunTimer)

theorem inv_requestMissing {g : NackGenerator} (hstarted : g.started = true)
    (hlisted : Listed g.lastSeq g.nackList) (hlength : g.nackList.length ≤ maxNackPackets)
    (nowMs : BitVec 64) : Inv (g.requestMissing nowMs).2 := by
  obtain ⟨hl, hn⟩ := Inv.getNackBatch hlisted hlength .seq nowMs
  have hidle : (g.getNackBatch .seq nowMs).2.started = false →
      (g.getNackBatch .seq nowMs).2.nackList = [] := by
    intro hc
    have : g.started = false := hc
    rw [hstarted] at this
    cases this
  unfold requestMissing
  dsimp only
  split
  · rename_i hactive
    exact ⟨hl, hn, fun _ ↦ hactive, hidle⟩
  · exact inv_mayRunTimer hl hn hidle

/-- **A newer packet.** A recovered one is only remembered; any other one moves the last sequence
number and has the packets it skips listed and requested, unless the list overflows. -/
theorem receiveNewer_spec {g : NackGenerator} (h : g.Inv) (search : SeqSearch) {seq : BitVec 16}
    (hne : seq ≠ g.lastSeq) (isKeyFrame isRecovered : Bool) (nowMs : BitVec 64) :
    (isRecovered = true ∧ ∃ rs, (∀ s ∈ rs, s = seq ∨ s ∈ g.recoveredList) ∧
      g.receiveNewer search seq isKeyFrame isRecovered nowMs
        = .ok ([], { g with
            keyFrameList := g.prunedKeyFrames search seq isKeyFrame, recoveredList := rs })) ∨
    (isRecovered = false ∧ ∃ ks, g.receiveNewer search seq isKeyFrame isRecovered nowMs
        = .ok ([.keyFrameRequired],
            { g with keyFrameList := ks, nackList := [], lastSeq := seq })) ∨
    (isRecovered = false ∧ ∃ ks kept, kept <:+ g.nackList ∧
      Listed seq (kept ++ newNacks search g.recoveredList (pos (g.lastSeq + 1) seq)
        (g.lastSeq + 1)) ∧
      (kept ++ newNacks search g.recoveredList (pos (g.lastSeq + 1) seq)
        (g.lastSeq + 1)).length ≤ maxNackPackets ∧
      g.receiveNewer search seq isKeyFrame isRecovered nowMs
        = .ok (requestMissing { g with
            keyFrameList := ks
            nackList := kept ++ newNacks search g.recoveredList (pos (g.lastSeq + 1) seq)
              (g.lastSeq + 1)
            lastSeq := seq } nowMs)) := by
  unfold receiveNewer
  dsimp only
  cases isRecovered with
  | true =>
    refine Or.inl ⟨rfl, _, fun s hs ↦ ?_, rfl⟩
    exact mem_of_mem_insert (mem_of_mem_lowerBound hs)
  | false =>
    refine Or.inr ?_
    have hlisted : Listed { g with keyFrameList := g.prunedKeyFrames search seq isKeyFrame }.lastSeq
      { g with keyFrameList := g.prunedKeyFrames search seq isKeyFrame }.nackList := h.listed
    rcases addPacketsToNackList_spec hlisted search hne with
      ⟨ks, hadd⟩ | ⟨ks, kept, hkept, hnew, hlength, hadd⟩
    · refine Or.inl ⟨rfl, ks, ?_⟩
      simp only [Bool.false_eq_true, if_false]
      unfold prunedKeyFrames at hadd
      rw [hadd]
      change Except.ok (_, if g.timerActive then _ else mayRunTimer _) = _
      rw [mayRunTimer_nil rfl, ite_self]
      rfl
    · refine Or.inr ⟨rfl, ks, kept, hkept, hnew, hlength, ?_⟩
      simp only [Bool.false_eq_true, if_false]
      unfold prunedKeyFrames at hadd
      rw [hadd]
      rfl

/-- What `ReceivePacket` can do: whether the packet was a nacked one, what the listener is told and
the generator afterwards. -/
inductive Received (g : NackGenerator) (search : SeqSearch) (seq : BitVec 16) (isRecovered : Bool)
    (nowMs : BitVec 64) : Bool → List NackNotice → NackGenerator → Prop
  /-- The first packet. -/
  | first (hidle : g.started = false) (ks : List (BitVec 16)) :
    Received g search seq isRecovered nowMs false []
      { g with started := true, lastSeq := seq, keyFrameList := ks }
  /-- The last packet again, or an older one that is not listed. -/
  | ignored (hstarted : g.started = true) (hold : seq = g.lastSeq ∨
      isSeqLowerThan seq g.lastSeq = true ∧ ∀ e ∈ g.nackList, e.1 ≠ seq) :
    Received g search seq isRecovered nowMs false [] g
  /-- A listed packet leaves the list. -/
  | found (hstarted : g.started = true) (hlow : isSeqLowerThan seq g.lastSeq = true)
      (nackList : List NackEntry) (hsub : nackList.Sublist g.nackList)
      (hmem : ∀ e, e ∈ nackList ↔ e ∈ g.nackList ∧ e.1 ≠ seq) :
    Received g search seq isRecovered nowMs true [] { g with nackList := nackList }
  /-- A newer packet that came by RTX is only remembered. -/
  | recovered (hstarted : g.started = true) (hne : seq ≠ g.lastSeq)
      (hnew : ¬isSeqLowerThan seq g.lastSeq = true) (hrecovered : isRecovered = true)
      (ks rs : List (BitVec 16)) (hrs : ∀ s ∈ rs, s = seq ∨ s ∈ g.recoveredList) :
    Received g search seq isRecovered nowMs false []
      { g with keyFrameList := ks, recoveredList := rs }
  /-- A newer packet with too many packets missing. -/
  | overflow (hstarted : g.started = true) (hne : seq ≠ g.lastSeq)
      (hnew : ¬isSeqLowerThan seq g.lastSeq = true) (hrecovered : isRecovered = false)
      (ks : List (BitVec 16)) :
    Received g search seq isRecovered nowMs false [.keyFrameRequired]
      { g with keyFrameList := ks, nackList := [], lastSeq := seq }
  /-- A newer packet; the packets that it skips are listed and requested. -/
  | advanced (hstarted : g.started = true) (hne : seq ≠ g.lastSeq)
      (hnew : ¬isSeqLowerThan seq g.lastSeq = true) (hrecovered : isRecovered = false)
      (ks : List (BitVec 16)) (kept : List NackEntry) (hkept : kept <:+ g.nackList)
      (hlisted : Listed seq (kept ++ newNacks search g.recoveredList (pos (g.lastSeq + 1) seq)
        (g.lastSeq + 1)))
      (hlength : (kept ++ newNacks search g.recoveredList (pos (g.lastSeq + 1) seq)
        (g.lastSeq + 1)).length ≤ maxNackPackets)
      (g' : NackGenerator)
      (hg' : g' = { g with
        keyFrameList := ks
        nackList := kept ++ newNacks search g.recoveredList (pos (g.lastSeq + 1) seq)
          (g.lastSeq + 1)
        lastSeq := seq }) :
    Received g search seq isRecovered nowMs false (g'.requestMissing nowMs).1
      (g'.requestMissing nowMs).2

/-- **One received packet.** In a state of the invariant `ReceivePacket` returns, and does one of
the six things. -/
theorem receivePacket_spec {g : NackGenerator} (h : g.Inv) (search : SeqSearch) (seq : BitVec 16)
    (isKeyFrame isRecovered : Bool) (nowMs : BitVec 64) :
    ∃ found notices g', g.receivePacket search seq isKeyFrame isRecovered nowMs
        = .ok (found, notices, g') ∧ Received g search seq isRecovered nowMs found notices g' := by
  unfold receivePacket
  by_cases hstarted : g.started = true
  · rw [if_neg (not_not.mpr hstarted)]
    by_cases heq : seq = g.lastSeq
    · rw [if_pos heq]
      exact ⟨_, _, _, rfl, .ignored hstarted (Or.inl heq)⟩
    rw [if_neg heq]
    by_cases hlow : isSeqLowerThan seq g.lastSeq = true
    · rw [if_pos hlow]
      obtain ⟨hkeys, hasc⟩ := h.listed.half
      have hseq := pos_halfStart_lt hlow
      cases hfind : Ordered.find? search Prod.fst seq g.nackList with
      | none =>
        have hnone := (find?_eq_none_iff (ranked _) hasc hkeys hseq).mp hfind
        exact ⟨_, _, _, rfl, .ignored hstarted (Or.inr ⟨hlow, hnone⟩)⟩
      | some entry =>
        exact ⟨_, _, _, rfl, .found hstarted hlow _ (erase_sublist seq g.nackList) fun _ ↦
          mem_erase (ranked _) hasc hkeys hseq⟩
    · rw [if_neg hlow]
      rcases receiveNewer_spec h search heq isKeyFrame isRecovered nowMs with
        ⟨hrec, rs, hrs, hnewer⟩ | ⟨hrec, ks, hnewer⟩ |
        ⟨hrec, ks, kept, hkept, hlisted, hlength, hnewer⟩
      · rw [hnewer]
        exact ⟨_, _, _, rfl, .recovered hstarted heq hlow hrec _ rs hrs⟩
      · rw [hnewer]
        exact ⟨_, _, _, rfl, .overflow hstarted heq hlow hrec ks⟩
      · rw [hnewer]
        exact ⟨_, _, _, rfl, .advanced hstarted heq hlow hrec ks kept hkept hlisted hlength _ rfl⟩
  · rw [if_pos hstarted]
    exact ⟨_, _, _, rfl, .first (by simpa using hstarted) _⟩

theorem Received.inv {g g' : NackGenerator} {search : SeqSearch} {seq : BitVec 16}
    {isRecovered : Bool}
    {nowMs : BitVec 64} {found : Bool} {notices : List NackNotice} (h : g.Inv)
    (hreceived : Received g search seq isRecovered nowMs found notices g') : g'.Inv := by
  cases hreceived with
  | first hidle ks =>
    have hnil := h.idle hidle
    refine ⟨?_, h.length_le, h.armed, fun _ ↦ hnil⟩
    change Listed seq g.nackList
    rw [hnil]
    exact .nil seq
  | ignored => exact h
  | found hstarted hlow nackList hsub hmem =>
    refine ⟨h.listed.sublist hsub, hsub.length_le.trans h.length_le, fun hne ↦ ?_, fun hidle ↦ ?_⟩
    · refine h.armed fun hnil ↦ hne ?_
      exact List.sublist_nil.mp (hnil ▸ hsub)
    · exact List.sublist_nil.mp (h.idle hidle ▸ hsub)
  | recovered => exact ⟨h.listed, h.length_le, h.armed, h.idle⟩
  | overflow => exact ⟨.nil _, Nat.zero_le _, fun hne ↦ absurd rfl hne, fun _ ↦ rfl⟩
  | advanced hstarted hne hnew hrec ks kept hkept hlisted hlength g₁ hg₁ =>
    subst hg₁
    apply inv_requestMissing
    · exact hstarted
    · exact hlisted
    · exact hlength

/-- **One step.** No event makes the generator fail, and the invariant is kept. -/
theorem step_spec {g : NackGenerator} (h : g.Inv) (event : NackEvent) :
    ∃ notices g', g.step event = .ok (notices, g') ∧ g'.Inv := by
  cases event with
  | receivePacket search seq isKeyFrame isRecovered nowMs =>
    obtain ⟨found, notices, g', hreceive, hreceived⟩ :=
      receivePacket_spec h search seq isKeyFrame isRecovered nowMs
    exact ⟨notices, g', by rw [step, hreceive]; rfl, hreceived.inv h⟩
  | timer nowMs =>
    by_cases hactive : g.timerActive = true
    · refine ⟨_, _, if_pos hactive, ?_⟩
      obtain ⟨hl, hn⟩ := Inv.getNackBatch (g := { g with timerActive := false }) h.listed
          h.length_le
        .time nowMs
      refine inv_mayRunTimer hl hn fun hidle ↦ ?_
      have hnil : g.nackList = [] := h.idle hidle
      change g.nackList.filterMap _ = []
      rw [hnil]
      rfl
    · exact ⟨_, _, if_neg hactive, h⟩
  | updateRtt rtt => exact ⟨_, _, rfl, h.listed, h.length_le, h.armed, h.idle⟩
  | reset => exact ⟨_, _, rfl, .nil _, Nat.zero_le _, fun hc ↦ absurd rfl hc, fun _ ↦ rfl⟩

/-! ## All runs -/

/-- The generator after a run of events. -/
def run (g : NackGenerator) (events : List NackEvent) : Except Fault NackGenerator :=
  events.foldlM (fun g event ↦ (g.step event).map Prod.snd) g

theorem run_inv (g : NackGenerator) (h : g.Inv) (events : List NackEvent) :
    ∃ g', g.run events = .ok g' ∧ g'.Inv := by
  have hstep : ∀ (_ : List NackEvent) (g : NackGenerator) (event : NackEvent), g.Inv → True →
      ∃ g', (g.step event).map Prod.snd = .ok g' ∧ g'.Inv := by
    intro _ g event hinv _
    obtain ⟨notices, g', hstep, hinv'⟩ := step_spec hinv event
    exact ⟨g', by rw [hstep]; rfl, hinv'⟩
  exact Run.foldlM_invariant hstep events [] g h fun _ _ _ _ ↦ trivial

/-- **Every reachable state.** No run of the generator fails an assertion, and in the state it
reaches the NACK list lies in the `MaxPacketAge` sequence numbers before the last one, has at most
`MaxNackPackets` entries, and is empty unless the timer is armed. -/
theorem reachable_nackList (events : List NackEvent) :
    ∃ g, run {} events = .ok g ∧
      (∀ e ∈ g.nackList, pos (g.lastSeq - BitVec.ofNat 16 maxPacketAge) e.1 < maxPacketAge) ∧
      g.nackList.length ≤ maxNackPackets ∧ (g.nackList ≠ [] → g.timerActive = true) := by
  obtain ⟨g, hrun, hinv⟩ := run_inv {} (inv_init _) events
  exact ⟨g, hrun, hinv.listed.keys, hinv.length_le, hinv.armed⟩

end NackGenerator

end MediasoupSfu
