import Mathlib.Data.List.Sort
import MediasoupSfu.Stream.Resend

/-!
# Requests on the wire

The receiving stream packs the sequence numbers to request into the items of a NACK packet: a first
one, and a bit for each of the sixteen after it. The sending stream walks over each item again, with
one flag for the packet at hand and a bitmask that is shifted from round to round.

The two ends agree (`nack_exchange`): whatever holes a list of increasing sequence numbers has, what
is walked over is that list, and the count of the bits is its length.
-/

namespace MediasoupSfu

open Serial

/-- `RTC::RTCP::BufferSize`. -/
def rtcpBufferSize : ℕ := 65536

/-- `GetSize()` of a `FeedbackRtpNackPacket` with the items: the common header, the feedback header
and the headers of the items. -/
def nackPacketSize (items : List FeedbackRtpNackItem) : ℕ := 4 + 8 + 4 * items.length

namespace RtpStreamRecv

/-- The inner loop of `OnNackGeneratorNackRequired`: the bitmask for the sequence numbers that go
into the item of `seq`, and those that are left. -/
def collectBitmask (seq : BitVec 16) : BitVec 16 → List (BitVec 16) → BitVec 16 × List (BitVec 16)
  | bitmask, [] => (bitmask, [])
  | bitmask, it :: rest =>
    let shift := it - seq - 1
    if 15 < shift then (bitmask, it :: rest)
    else collectBitmask seq (bitmask ||| 1#16 <<< shift) rest

/-- The outer loop of `OnNackGeneratorNackRequired`, for at most `n` rounds: the items of the packet
and `numPacketsRequested`. -/
def packItems : ℕ → List (BitVec 16) → List FeedbackRtpNackItem × ℕ
  | 0, _ => ([], 0)
  | _ + 1, [] => ([], 0)
  | n + 1, seq :: rest =>
    let (bitmask, rest) := collectBitmask seq 0 rest
    let nackItem := FeedbackRtpNackItem.make seq bitmask
    let (items, numPacketsRequested) := packItems n rest
    (nackItem :: items, nackItem.countRequestedPackets + numPacketsRequested)

/-- `OnNackGeneratorNackRequired(seqNumbers)`: the items of the packet that is sent and what is
added to `nackPacketCount`, or nothing if the packet is too big. -/
def onNackGeneratorNackRequired (s : RtpStreamRecv) (seqNumbers : List (BitVec 16)) :
    Except Fault (Option (List FeedbackRtpNackItem × ℕ)) := do
  msAssert s.params.useNack "NACK required but not supported"
  -- Each round takes at least one sequence number.
  let (items, numPacketsRequested) := packItems seqNumbers.length seqNumbers
  -- Ensure that the RTCP packet fits into the RTCP buffer.
  if rtcpBufferSize < nackPacketSize items then return none
  else return some (items, numPacketsRequested)

end RtpStreamRecv

namespace FeedbackRtpNackItem

/-- The sequence numbers that the sending stream finds requested by an item. -/
def expand (item : FeedbackRtpNackItem) : List (BitVec 16) :=
  RtpStreamSend.walk maxRequestedPackets item.getPacketId true item.getLostPacketBitmask

end FeedbackRtpNackItem

/-! ## Bits of a mask -/

/-- The set bits below `n`, from the lowest to the highest. -/
def setBits (n : ℕ) (bitmask : BitVec 16) : List ℕ := (List.range n).filter bitmask.getLsbD

theorem length_setBits (n : ℕ) (bitmask : BitVec 16) :
    (setBits n bitmask).length = bitmask.cpopNatRec n 0 := by
  induction n with
  | zero => rfl
  | succ n ih =>
    rw [setBits, List.range_succ, List.filter_append, List.length_append, ← setBits, ih,
      BitVec.cpopNatRec_succ, BitVec.cpopNatRec_eq (0 + _)]
    cases hbit : bitmask.getLsbD n <;> simp [hbit]

theorem setBits_succ (n : ℕ) (bitmask : BitVec 16) :
    setBits (n + 1) bitmask =
      (if bitmask.getLsbD 0 then [0] else []) ++ (setBits n (bitmask >>> 1)).map Nat.succ := by
  have hshift : (bitmask.getLsbD ∘ Nat.succ) = (bitmask >>> 1).getLsbD := by
    funext i
    rw [Function.comp_apply, BitVec.getLsbD_ushiftRight, Nat.add_comm]
  rw [setBits, List.range_succ_eq_map, List.filter_cons, List.filter_map, hshift, setBits]
  split <;> rfl

theorem setBits_zero (n : ℕ) : setBits n 0#16 = [] := by
  simp [setBits]

theorem cpop_htons (v : BitVec 16) : (htons v).cpop.toNat = v.cpop.toNat := by
  have hv : v = (v >>> 8).setWidth 8 ++ v.setWidth 8 := by
    apply BitVec.eq_of_getLsbD_eq
    intro i hi
    rw [BitVec.getLsbD_append, BitVec.getLsbD_setWidth, BitVec.getLsbD_setWidth,
      BitVec.getLsbD_ushiftRight]
    by_cases h : i < 8
    · simp [h]
    · simp [h, show i - 8 < 8 by omega, show 8 + (i - 8) = i by omega]
  conv_rhs => rw [hv]
  rw [htons, BitVec.toNat_cpop_append, BitVec.toNat_cpop_append, Nat.add_comm]

/-- The bits of an item are counted in network order, which makes no difference. -/
theorem FeedbackRtpNackItem.countRequestedPackets_make (seq bitmask : BitVec 16) :
    (make seq bitmask).countRequestedPackets = (setBits 16 bitmask).length + 1 := by
  rw [countRequestedPackets, make, cpop_htons, BitVec.toNat_cpop, length_setBits]

/-! ## Walking over an item -/

theorem eq_zero_of_getLsbD {v : BitVec 16} (h : ∀ i, v.getLsbD i = false) : v = 0 := by
  apply BitVec.eq_of_getLsbD_eq
  intro i _
  rw [h i]
  simp

/-- **The walk in closed form**: first the packet at hand if it is requested, then those of the set
bits. -/
theorem walk_eq_setBits (n : ℕ) (currentSeq : BitVec 16) (requested : Bool) (bitmask : BitVec 16)
    (hbits : ∀ i, n ≤ i → bitmask.getLsbD i = false) :
    RtpStreamSend.walk (n + 1) currentSeq requested bitmask =
      (if requested then [currentSeq] else []) ++
        (setBits n bitmask).map fun i ↦ currentSeq + 1 + BitVec.ofNat 16 i := by
  induction n generalizing currentSeq requested bitmask with
  | zero =>
    have hzero := eq_zero_of_getLsbD fun i ↦ hbits i (Nat.zero_le i)
    subst hzero
    cases requested <;> rfl
  | succ n ih =>
    have hshift : ∀ i, n ≤ i → (bitmask >>> 1).getLsbD i = false := by
      intro i hi
      rw [BitVec.getLsbD_ushiftRight]
      exact hbits (1 + i) (by omega)
    have hmap : (setBits (n + 1) bitmask).map (fun i ↦ currentSeq + 1 + BitVec.ofNat 16 i) =
        (if bitmask.getLsbD 0 then [currentSeq + 1] else []) ++
          (setBits n (bitmask >>> 1)).map fun i ↦ currentSeq + 1 + 1 + BitVec.ofNat 16 i := by
      rw [setBits_succ, List.map_append, List.map_map]
      congr 1
      · split <;> simp
      · apply List.map_congr_left
        intro i _
        rw [Function.comp_apply, Nat.succ_eq_one_add, BitVec.ofNat_add, ← BitVec.add_assoc]
        rfl
    rw [RtpStreamSend.walk, hmap]
    split
    · rw [ih _ _ _ hshift]
    · -- The loop ends early: no bit is left.
      rename_i hdone
      obtain ⟨hrequested, hzero⟩ : requested = false ∧ bitmask = 0 := by simpa using hdone
      subst hrequested hzero
      simp [setBits_zero]

/-- An item is walked over from its packet id to its last bit. -/
theorem FeedbackRtpNackItem.expand_make (seq bitmask : BitVec 16) :
    (make seq bitmask).expand =
      seq :: (setBits 16 bitmask).map fun i ↦ seq + 1 + BitVec.ofNat 16 i := by
  rw [expand, getPacketId_make, getLostPacketBitmask_make, maxRequestedPackets]
  exact walk_eq_setBits 16 seq true bitmask fun i hi ↦ BitVec.getLsbD_of_ge bitmask i hi

theorem FeedbackRtpNackItem.length_expand_make (seq bitmask : BitVec 16) :
    (make seq bitmask).expand.length = (make seq bitmask).countRequestedPackets := by
  rw [expand_make, countRequestedPackets_make, List.length_cons, List.length_map]

/-! ## Packing the sequence numbers -/

/-- The sequence numbers of `seqs` increase, seen from `seq`. -/
def Ascends (seq : BitVec 16) (seqs : List (BitVec 16)) : Prop :=
  (seq :: seqs).Pairwise fun x y ↦ pos seq x < pos seq y

namespace Ascends

variable {seq x : BitVec 16} {seqs taken rest : List (BitVec 16)}

theorem pos_pos (h : Ascends seq seqs) (hx : x ∈ seqs) : 0 < pos seq x := by
  rw [← pos_self seq]
  exact (List.pairwise_cons.mp h).1 x hx

/-- The part after `x` increases seen from `x` too, and the distances get smaller. -/
theorem rebase (h : Ascends seq (taken ++ x :: rest)) :
    Ascends x rest ∧ ∀ y ∈ rest, pos x y = pos seq y - pos seq x ∧ pos seq x < pos seq y := by
  obtain ⟨-, hpairwise⟩ := List.pairwise_cons.mp h
  obtain ⟨hx, hrest⟩ := List.pairwise_cons.mp (List.pairwise_append.mp hpairwise).2.1
  have hpos : ∀ y ∈ rest, pos x y = pos seq y - pos seq x := fun y hy ↦
    pos_of_le (Nat.le_of_lt (hx y hy))
  refine ⟨List.pairwise_cons.mpr ⟨fun y hy ↦ ?_, ?_⟩, fun y hy ↦ ⟨hpos y hy, hx y hy⟩⟩
  · have := hx y hy
    rw [pos_self, hpos y hy]
    omega
  · refine hrest.imp_of_mem fun {y z} hy hz hyz ↦ ?_
    have := hx y hy
    rw [hpos y hy, hpos z hz]
    omega

end Ascends

namespace RtpStreamRecv

variable {seq : BitVec 16} {seqs : List (BitVec 16)}

/-- The shift of a later sequence number. -/
theorem toNat_shift {x : BitVec 16} (h : 0 < pos seq x) : (x - seq - 1).toNat = pos seq x - 1 := by
  have hle : (1 : BitVec 16) ≤ x - seq := BitVec.le_def.mpr h
  rw [BitVec.toNat_sub_of_le hle]
  rfl

theorem getLsbD_one_shiftLeft {shift : BitVec 16} (h : shift.toNat ≤ 15) (i : ℕ) :
    (1#16 <<< shift).getLsbD i = decide (i = shift.toNat) := by
  rw [BitVec.shiftLeft_eq', BitVec.getLsbD_shiftLeft, BitVec.getLsbD_one]
  by_cases hi : i = shift.toNat
  · simp [hi, show shift.toNat < 16 by omega]
  · simp only [hi, decide_false, Bool.and_eq_false_imp, Bool.and_eq_true, decide_eq_true_eq,
      Bool.not_eq_true', decide_eq_false_iff_not]
    omega

/-- What the inner loop takes: the sequence numbers up to a distance of 16, a bit for each. -/
theorem collectBitmask_spec (bitmask : BitVec 16) (h : ∀ x ∈ seqs, 0 < pos seq x) :
    ∃ taken, seqs = taken ++ (collectBitmask seq bitmask seqs).2 ∧ (∀ x ∈ taken, pos seq x ≤ 16) ∧
      (∀ x, (collectBitmask seq bitmask seqs).2.head? = some x → 16 < pos seq x) ∧
      ∀ i, (collectBitmask seq bitmask seqs).1.getLsbD i = true ↔
        bitmask.getLsbD i = true ∨ ∃ x ∈ taken, pos seq x = i + 1 := by
  induction seqs generalizing bitmask with
  | nil => exact ⟨[], rfl, nofun, nofun, fun i ↦ by simp [collectBitmask]⟩
  | cons it rest ih =>
    have hit := h it List.mem_cons_self
    have hshift := toNat_shift hit
    rw [collectBitmask]
    split
    · rename_i hfar
      rw [BitVec.lt_def, hshift] at hfar
      refine ⟨[], rfl, nofun, fun x hx ↦ ?_, fun i ↦ by simp⟩
      cases hx
      change 15 < _ at hfar
      omega
    · rename_i hnear
      rw [BitVec.lt_def, hshift] at hnear
      change ¬15 < _ at hnear
      obtain ⟨taken, hsplit, hle, hhead, hbits⟩ := ih (bitmask ||| 1#16 <<< (it - seq - 1))
        fun x hx ↦ h x (List.mem_cons_of_mem _ hx)
      refine ⟨it :: taken, by rw [List.cons_append, ← hsplit], fun x hx ↦ ?_, hhead, fun i ↦ ?_⟩
      · rcases List.mem_cons.mp hx with rfl | hx
        · omega
        · exact hle x hx
      · rw [hbits i, BitVec.getLsbD_or, Bool.or_eq_true, getLsbD_one_shiftLeft (by omega), hshift,
          decide_eq_true_eq, or_assoc]
        refine or_congr Iff.rfl ?_
        constructor
        · rintro (rfl | ⟨x, hx, hpos⟩)
          · exact ⟨it, List.mem_cons_self, by omega⟩
          · exact ⟨x, List.mem_cons_of_mem _ hx, hpos⟩
        · rintro ⟨x, hx, hpos⟩
          rcases List.mem_cons.mp hx with rfl | hx
          · exact Or.inl (by omega)
          · exact Or.inr ⟨x, hx, hpos⟩

/-- **One item** is walked over in the order of the sequence numbers that it was made of. -/
theorem expand_collected (h : Ascends seq seqs) :
    ∃ taken, seqs = taken ++ (collectBitmask seq 0 seqs).2 ∧
      (FeedbackRtpNackItem.make seq (collectBitmask seq 0 seqs).1).expand = seq :: taken ∧
      ∀ x, (collectBitmask seq 0 seqs).2.head? = some x → 16 < pos seq x := by
  obtain ⟨taken, hsplit, hle, hhead, hbits⟩ := collectBitmask_spec 0 fun x hx ↦ h.pos_pos hx
  have htaken : ∀ x ∈ taken, 0 < pos seq x := fun x hx ↦
    h.pos_pos (by rw [hsplit]; exact List.mem_append_left _ hx)
  have hsorted : taken.Pairwise fun x y ↦ pos seq x < pos seq y := by
    have hpairwise := (List.pairwise_cons.mp h).2
    rw [hsplit] at hpairwise
    exact (List.pairwise_append.mp hpairwise).1
  -- The set bits are the distances, both in increasing order.
  have hset : setBits 16 (collectBitmask seq 0 seqs).1 = taken.map fun x ↦ pos seq x - 1 := by
    refine List.Pairwise.eq_of_mem_iff (r := (· < ·)) ?_ ?_ fun i ↦ ?_
    · exact List.pairwise_lt_range.filter _
    · rw [List.pairwise_map]
      refine hsorted.imp_of_mem fun {x y} hx _ hxy ↦ ?_
      have := htaken x hx
      omega
    · rw [setBits, List.mem_filter, hbits i, List.mem_range, List.mem_map]
      constructor
      · rintro ⟨hi, hzero | ⟨x, hx, hpos⟩⟩
        · simp at hzero
        · exact ⟨x, hx, by omega⟩
      · rintro ⟨x, hx, rfl⟩
        have hxle := hle x hx
        have hxpos := htaken x hx
        exact ⟨by omega, Or.inr ⟨x, hx, by omega⟩⟩
  refine ⟨taken, hsplit, ?_, hhead⟩
  rw [FeedbackRtpNackItem.expand_make, hset, List.map_map]
  congr 1
  refine (List.map_congr_left fun x hx ↦ ?_).trans (List.map_id taken)
  have hone : BitVec.ofNat 16 (1 + (pos seq x - 1)) = 1 + BitVec.ofNat 16 (pos seq x - 1) :=
    BitVec.ofNat_add 1 _
  have hxpos := htaken x hx
  rw [Function.comp_apply, BitVec.add_assoc, ← hone, Nat.add_sub_cancel' hxpos, add_ofNat_pos]
  rfl

/-- Packing a list of increasing sequence numbers, the first one at distance 0 and all below `m`. -/
theorem packItems_spec {n m : ℕ} (hn : seqs.length < n) (h : Ascends seq seqs) (hm : 0 < m)
    (hbound : ∀ x ∈ seqs, pos seq x < m) :
    (packItems n (seq :: seqs)).1.flatMap FeedbackRtpNackItem.expand = seq :: seqs ∧
      (packItems n (seq :: seqs)).2 = (seq :: seqs).length ∧
      ((packItems n (seq :: seqs)).1.map FeedbackRtpNackItem.countRequestedPackets).sum =
        (seq :: seqs).length ∧
      17 * (packItems n (seq :: seqs)).1.length < m + 17 := by
  induction n generalizing seq seqs m with
  | zero => omega
  | succ n ih =>
    obtain ⟨taken, hsplit, hexpand, hhead⟩ := expand_collected h
    have hcount : (FeedbackRtpNackItem.make seq
        (collectBitmask seq 0 seqs).1).countRequestedPackets =
        taken.length + 1 := by
      rw [← FeedbackRtpNackItem.length_expand_make, hexpand, List.length_cons]
    have hlength := congrArg List.length hsplit
    rw [List.length_append] at hlength
    rw [packItems]
    cases hrest : (collectBitmask seq 0 seqs).2 with
    | nil =>
      rw [hrest, List.append_nil] at hsplit
      rw [hrest, List.length_nil, Nat.add_zero] at hlength
      have hnone : packItems n [] = ([], 0) := by cases n <;> rfl
      simp only [hrest, hnone, List.flatMap_cons, List.flatMap_nil, hexpand, hcount, List.map_cons,
        List.map_nil, List.sum_cons, List.sum_nil, List.length_cons, List.length_nil]
      exact ⟨by rw [hsplit, List.append_nil], by omega, by omega, by omega⟩
    | cons x rest =>
      rw [hrest] at hsplit
      rw [hrest, List.length_cons] at hlength
      have hfar : 16 < pos seq x := hhead x (by rw [hrest]; rfl)
      have hx : pos seq x < m := hbound x (by rw [hsplit]; simp)
      obtain ⟨hascends, hrebase⟩ := Ascends.rebase (hsplit ▸ h)
      have hbelow : ∀ y ∈ rest, pos x y < m - 17 := by
        intro y hy
        obtain ⟨hpos, hlt⟩ := hrebase y hy
        have := hbound y (by rw [hsplit]; simp [hy])
        omega
      obtain ⟨hlist, hnum, hsum, hsize⟩ := ih (by omega) hascends (by omega) hbelow
      rw [List.length_cons] at hnum hsum
      simp only [hrest, List.flatMap_cons, hexpand, hlist, hcount, hnum, List.map_cons,
        List.sum_cons, hsum, List.length_cons]
      exact ⟨by rw [hsplit, List.cons_append], by omega, by omega, by omega⟩

/-- The sequence numbers increase in wrapping order, and span less than half the circle. -/
def Increasing : List (BitVec 16) → Prop
  | [] => True
  | seq :: seqs => Ascends seq seqs ∧ ∀ x ∈ seqs, pos seq x < 2 ^ 15

/-- **The two ends agree.** For every list of increasing sequence numbers a NACK packet is sent;
what the sending stream walks over is that list, each sequence number once, and both the number that
the receiving stream counts and the sum of the counts of the items are its length. -/
theorem nack_exchange (s : RtpStreamRecv) (huse : s.params.useNack = true)
    (seqNumbers : List (BitVec 16)) (h : Increasing seqNumbers) :
    ∃ items numPacketsRequested,
      s.onNackGeneratorNackRequired seqNumbers = .ok (some (items, numPacketsRequested)) ∧
      items.flatMap FeedbackRtpNackItem.expand = seqNumbers ∧ seqNumbers.Nodup ∧
      numPacketsRequested = seqNumbers.length ∧
      (items.map FeedbackRtpNackItem.countRequestedPackets).sum = seqNumbers.length := by
  have hsent : ∀ {items num}, packItems seqNumbers.length seqNumbers = (items, num) →
      17 * items.length < 2 ^ 15 + 17 →
      s.onNackGeneratorNackRequired seqNumbers = .ok (some (items, num)) := by
    intro items num hpack hsize
    have hfits : ¬rtcpBufferSize < nackPacketSize items := by
      unfold rtcpBufferSize nackPacketSize
      omega
    unfold onNackGeneratorNackRequired
    rw [huse, hpack]
    change (if _ then _ else _) = _
    rw [if_neg hfits]
    rfl
  cases seqNumbers with
  | nil => exact ⟨[], 0, hsent rfl (by decide), rfl, List.nodup_nil, rfl, rfl⟩
  | cons seq seqs =>
    obtain ⟨hascends, hspan⟩ := h
    obtain ⟨hlist, hnum, hsum, hsize⟩ :=
      packItems_spec (Nat.lt_succ_self seqs.length) hascends (Nat.two_pow_pos 15) hspan
    refine ⟨_, _, hsent rfl hsize, hlist, ?_, hnum, hsum⟩
    refine List.Pairwise.imp (fun {x y} hlt heq ↦ ?_) hascends
    rw [heq] at hlt
    exact Nat.lt_irrefl _ hlt

/-- Requests around the wrap, with holes: the last bit of the first item is used, and one sequence
number is out of its reach. -/
theorem nack_exchange_around_wrap :
    let s : RtpStreamRecv := { params := { ssrc := 1, payloadType := 100, useNack := true } }
    let seqNumbers : List (BitVec 16) := [65530, 65531, 65535, 0, 10, 11, 27]
    ∃ items numPacketsRequested,
      s.onNackGeneratorNackRequired seqNumbers = .ok (some (items, numPacketsRequested)) ∧
      items.map (fun item ↦ (item.getPacketId, item.getLostPacketBitmask)) =
        [(65530, 0x8031), (11, 0x8000)] ∧
      items.flatMap FeedbackRtpNackItem.expand = seqNumbers ∧ numPacketsRequested = 7 := by
  intro s seqNumbers
  have hincreasing : Increasing seqNumbers := ⟨by unfold Ascends; decide, by simp [pos]⟩
  obtain ⟨items, num, hsent, hexpand, -⟩ := nack_exchange s rfl seqNumbers hincreasing
  have heval : s.onNackGeneratorNackRequired seqNumbers =
      .ok (some ([.make 65530 0x8031, .make 11 0x8000], 7)) := by
    decide
  rw [hsent] at heval
  cases heval
  exact ⟨_, _, hsent, by decide, hexpand, rfl⟩

end RtpStreamRecv

end MediasoupSfu
