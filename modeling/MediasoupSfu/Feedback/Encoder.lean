import MediasoupSfu.Feedback.ParseSafety

/-!
# What the feedback encoder has written

`AddPacket` hands each new packet to `FillChunk`, which appends the statuses of the gap before it
and its own. Some statuses are already part of a chunk, the others wait in the context. This file
states what the two together represent (`Core`), when the context may be closed into a chunk
(`Context.Tidy`), and that `FillChunk` keeps both while the represented list of statuses grows by
exactly the gap and the packet (`Encodes.fillChunk`).

The context is *tidy* between two calls and also in the middle of `FillChunk`, between the gap and
the packet: there `allSameStatus` may still be set over a mixed list, but then the current status is
that of a missing packet, and the status of a received packet never equals it.
-/

namespace MediasoupSfu

namespace Chunk

/-- A chunk that the encoder closes while packets are still being added. -/
def Full : Chunk → Prop
  | runLength status count => status.Plain ∧ 0 < count.toNat ∧ count.toNat ≤ 0x1FFF
  | oneBitVector _ => False
  | twoBitVector statuses => statuses.length = 7 ∧ ∀ s ∈ statuses, s.Plain

theorem Full.sized {c : Chunk} (h : c.Full) : c.Sized := by
  cases c with
  | runLength status count =>
    rw [Sized, symbols, List.length_replicate]
    exact count.isLt
  | oneBitVector statuses => exact h.elim
  | twoBitVector statuses =>
    rw [Sized, symbols, h.1]
    decide

/-- The word of the chunk is read back as this chunk when `remaining` packets are announced. -/
def Fits (remaining : ℕ) : Chunk → Prop
  | runLength status count => status.Plain ∧ 0 < count.toNat ∧ count.toNat ≤ 0x1FFF
  | oneBitVector _ => False
  | twoBitVector statuses =>
    statuses ≠ [] ∧ statuses.length = min 7 remaining ∧ ∀ s ∈ statuses, s.Plain

theorem Full.fits {c : Chunk} (h : c.Full) {remaining : ℕ} (hle : c.symbols.length ≤ remaining) :
    c.Fits remaining := by
  cases c with
  | runLength status count => exact h
  | oneBitVector statuses => exact h
  | twoBitVector statuses =>
    rw [symbols, h.1] at hle
    refine ⟨fun hnil ↦ ?_, by rw [h.1, Nat.min_eq_left hle], h.2⟩
    rw [hnil] at h
    cases h.1

theorem Fits.sized {c : Chunk} {remaining : ℕ} (h : c.Fits remaining) : c.Sized := by
  cases c with
  | runLength status count =>
    rw [Sized, symbols, List.length_replicate]
    exact count.isLt
  | oneBitVector statuses => exact h.elim
  | twoBitVector statuses =>
    rw [Sized, symbols, h.2.1]
    omega

end Chunk

namespace Context

/-- When the context may be closed into one chunk. -/
structure Tidy (ctx : Context) : Prop where
  /-- A list that counts as uniform, with the status of a received packet, is uniform. -/
  same : ctx.allSameStatus = true → ctx.currentStatus.isReceived = true →
    ∀ s ∈ ctx.statuses, s = ctx.currentStatus
  /-- There is no current status only while the list is empty. -/
  none : ctx.currentStatus = .none → ctx.statuses = []
  /-- Seven statuses are reached only by a uniform list of received packets. -/
  long : 7 ≤ ctx.statuses.length → ctx.allSameStatus = true ∧ ctx.currentStatus.isReceived = true

theorem Tidy.eq_replicate {ctx : Context} (h : ctx.Tidy) (hlen : 7 ≤ ctx.statuses.length) :
    ctx.statuses = List.replicate ctx.statuses.length ctx.currentStatus :=
  List.eq_replicate_iff.mpr ⟨rfl, h.same (h.long hlen).1 (h.long hlen).2⟩

theorem Tidy.empty {ctx : Context} (h : ctx.statuses = []) : ctx.Tidy where
  same := by simp [h]
  none := fun _ ↦ h
  long := by simp [h]

end Context

namespace Status

theorem Plain.of_isReceived {s : Status} (h : s.isReceived = true) : s.Plain := by
  cases s <;> simp_all [isReceived, Plain]

end Status

namespace FeedbackRtpTransportPacket

@[simp] theorem isReceived_deltaStatus (delta : BitVec 16) :
    (deltaStatus delta).isReceived = true := by
  unfold deltaStatus
  split <;> rfl

theorem plain_deltaStatus (delta : BitVec 16) : (deltaStatus delta).Plain :=
  .of_isReceived (isReceived_deltaStatus delta)

theorem length_serializeDelta (delta : BitVec 16) :
    (serializeDelta delta).length = if deltaStatus delta = .smallDelta then 1 else 2 := by
  unfold serializeDelta deltaStatus
  split <;> simp [Byte.set2Bytes]

/-- The members that no step of the encoder after the first changes. -/
def header (p : FeedbackRtpTransportPacket) :=
  (p.type, p.messageType, p.senderSsrc, p.mediaSsrc, p.baseSequenceNumber, p.referenceTime,
    p.feedbackPacketCount, p.size)

/-- The packet represents these statuses, in its chunks and its context, and these deltas. -/
structure Core (p : FeedbackRtpTransportPacket) (statuses : List Status)
    (deltas : List (BitVec 16)) : Prop where
  /-- The chunks and then the context represent the statuses. -/
  symbols : p.chunks.flatMap Chunk.symbols ++ p.context.statuses = statuses
  /-- Every status is one of the three that are written. -/
  plain : ∀ s ∈ statuses, s.Plain
  /-- There is one delta for each received packet, of the width that its status announces. -/
  received : statuses.filter Status.isReceived = deltas.map deltaStatus
  /-- The deltas of the packet. -/
  deltas_eq : p.deltas = deltas
  /-- Every chunk is full. -/
  full : ∀ c ∈ p.chunks, c.Full
  /-- The statuses in chunks are counted. -/
  count : p.packetStatusCount = BitVec.ofNat 16 (totalCount p.chunks)
  /-- The bytes of chunks and deltas are counted. -/
  size : p.deltasAndChunksSize = 2 * p.chunks.length + (deltas.flatMap serializeDelta).length

namespace Core

variable {p : FeedbackRtpTransportPacket} {statuses : List Status} {deltas : List (BitVec 16)}

/-- Closing the context into a chunk. -/
theorem createChunk (h : p.Core statuses deltas) {c : Chunk} (hc : c.Full)
    (hsymbols : c.symbols = p.context.statuses) (status : Status) :
    ((p.createChunk c).setContext [] status).Core statuses deltas where
  symbols := by
    rw [← h.symbols, ← hsymbols]
    simp [FeedbackRtpTransportPacket.createChunk, setContext]
  plain := h.plain
  received := h.received
  deltas_eq := h.deltas_eq
  full := by
    intro c' hc'
    rcases List.mem_append.mp hc' with hc' | hc'
    · exact h.full c' hc'
    · rw [List.mem_singleton.mp hc']
      exact hc
  count := by
    have htotal : totalCount (p.chunks ++ [c]) = totalCount p.chunks + c.symbols.length := by
      simp [totalCount]
    change p.packetStatusCount + c.getCount = BitVec.ofNat 16 (totalCount (p.chunks ++ [c]))
    rw [htotal, BitVec.ofNat_add, ← h.count, ← hc.sized.getCount_toNat, BitVec.ofNat_toNat,
      BitVec.setWidth_eq]
  size := by
    change p.deltasAndChunksSize + 2 = 2 * (p.chunks ++ [c]).length + _
    rw [h.size, List.length_append, List.length_singleton]
    omega

/-- Missing packets enter the context. -/
theorem setContext (h : p.Core statuses deltas) (n : ℕ) (status : Status) :
    (p.setContext (p.context.statuses ++ List.replicate n .notReceived) status).Core
      (statuses ++ List.replicate n .notReceived) deltas where
  symbols := by
    rw [← h.symbols]
    simp [FeedbackRtpTransportPacket.setContext]
  plain := by
    intro s hs
    rcases List.mem_append.mp hs with hs | hs
    · exact h.plain s hs
    · exact Or.inl (List.eq_of_mem_replicate hs)
  received := by
    have hgap : (List.replicate n Status.notReceived).filter Status.isReceived = [] :=
      List.filter_replicate_of_neg (by decide)
    rw [List.filter_append, h.received, hgap, List.append_nil]
  deltas_eq := h.deltas_eq
  full := h.full
  count := h.count
  size := h.size

/-- A received packet enters the context. -/
theorem receive (h : p.Core statuses deltas) (delta : BitVec 16) (ctx : Context)
    (hctx : ctx.statuses = p.context.statuses ++ [deltaStatus delta]) :
    Core { p with
      deltas := p.deltas ++ [delta]
      deltasAndChunksSize :=
        p.deltasAndChunksSize + if deltaStatus delta = .smallDelta then 1 else 2
      context := ctx } (statuses ++ [deltaStatus delta]) (deltas ++ [delta]) where
  symbols := by rw [← h.symbols, hctx, List.append_assoc]
  plain := by
    intro s hs
    rcases List.mem_append.mp hs with hs | hs
    · exact h.plain s hs
    · rw [List.mem_singleton.mp hs]
      exact plain_deltaStatus delta
  received := by simp [h.received]
  deltas_eq := by rw [h.deltas_eq]
  full := h.full
  count := h.count
  size := by
    rw [h.size, List.flatMap_append, List.length_append, List.flatMap_singleton,
      length_serializeDelta, Nat.add_assoc]

theorem plain_context (h : p.Core statuses deltas) : ∀ s ∈ p.context.statuses, s.Plain := by
  intro s hs
  exact h.plain s (h.symbols ▸ List.mem_append_right _ hs)

/-- A uniform context of received packets is no longer than the list of deltas. -/
theorem length_context_le (h : p.Core statuses deltas)
    (hrec : ∀ s ∈ p.context.statuses, s.isReceived = true) :
    p.context.statuses.length ≤ deltas.length := by
  have hfilter := congrArg List.length h.received
  rw [← h.symbols, List.filter_append, List.filter_eq_self.mpr hrec, List.length_append,
    List.length_map] at hfilter
  omega

end Core

/-- What holds of the encoder at any point. -/
structure Encodes (p : FeedbackRtpTransportPacket) (statuses : List Status)
    (deltas : List (BitVec 16)) : Prop extends p.Core statuses deltas where
  tidy : p.context.Tidy

namespace Encodes

variable {p : FeedbackRtpTransportPacket} {statuses : List Status} {deltas : List (BitVec 16)}

/-- A context with seven statuses or more can be closed into a run length chunk. -/
theorem full_runLength (h : p.Encodes statuses deltas) (hdeltas : deltas.length ≤ 0x1FFF)
    (hlen : 7 ≤ p.context.statuses.length) :
    (Chunk.runLength p.context.currentStatus
        (BitVec.ofNat 16 p.context.statuses.length)).Full ∧
      (Chunk.runLength p.context.currentStatus
        (BitVec.ofNat 16 p.context.statuses.length)).symbols = p.context.statuses := by
  obtain ⟨hsame, hrec⟩ := h.tidy.long hlen
  have hle := h.length_context_le fun s hs ↦ by rw [h.tidy.same hsame hrec s hs]; exact hrec
  have hcount : (BitVec.ofNat 16 p.context.statuses.length).toNat = p.context.statuses.length := by
    rw [BitVec.toNat_ofNat]
    omega
  refine ⟨⟨.of_isReceived hrec, by omega, by omega⟩, ?_⟩
  rw [Chunk.symbols, hcount]
  exact (h.tidy.eq_replicate hlen).symm

theorem closeRun (h : p.Encodes statuses deltas) (hdeltas : deltas.length ≤ 0x1FFF)
    (hlen : 7 ≤ p.context.statuses.length) (status : Status) :
    ((p.createRunLengthChunk p.context.currentStatus
      (BitVec.ofNat 16 p.context.statuses.length)).setContext [] status).Encodes
        statuses deltas := by
  obtain ⟨hfull, hsymbols⟩ := h.full_runLength hdeltas hlen
  exact ⟨h.toCore.createChunk hfull hsymbols status, .empty rfl⟩

/-- The context takes up a gap that leaves it shorter than seven statuses. -/
theorem waitMissing (h : p.Encodes statuses deltas) {n : ℕ}
    (hlen : p.context.statuses.length + n < 7) :
    (p.setContext (p.context.statuses ++ List.replicate n .notReceived) .notReceived).Encodes
      (statuses ++ List.replicate n .notReceived) deltas := by
  refine ⟨h.toCore.setContext n .notReceived, ?_, ?_, ?_⟩
  · intro _ hrec
    cases hrec
  · intro hnone
    cases hnone
  · intro hlong
    have : 7 ≤ (p.context.statuses ++ List.replicate n Status.notReceived).length := hlong
    rw [List.length_append, List.length_replicate] at this
    omega

/-- The context is topped up with missing packets to a full two bit vector chunk. -/
theorem closeVector (h : p.Encodes statuses deltas) {n : ℕ}
    (hlen : p.context.statuses.length + n = 7) (status : Status) :
    ((p.createTwoBitVectorChunk
        (p.context.statuses ++ List.replicate n .notReceived)).setContext [] status).Encodes
      (statuses ++ List.replicate n .notReceived) deltas := by
  have hcore := h.toCore.setContext n .notReceived
  have hseven : (p.context.statuses ++ List.replicate n Status.notReceived).length = 7 := by
    rw [List.length_append, List.length_replicate, hlen]
  exact ⟨hcore.createChunk (c := .twoBitVector _) ⟨hseven, hcore.plain_context⟩ rfl status,
    .empty rfl⟩

/-- The rest of a gap goes into a run length chunk of its own. -/
theorem missingRun (h : p.Encodes statuses deltas) (hctx : p.context.statuses = [])
    {n : BitVec 16} (hpos : 0 < n.toNat) (hn : n.toNat ≤ 0x1FFF) (status : Status) :
    ((p.createRunLengthChunk .notReceived n).setContext [] status).Encodes
      (statuses ++ List.replicate n.toNat .notReceived) deltas := by
  have hcore := h.toCore.setContext n.toNat .notReceived
  refine ⟨hcore.createChunk (c := .runLength .notReceived n) ⟨Or.inl rfl, hpos, hn⟩ ?_ status,
    .empty rfl⟩
  change List.replicate n.toNat _ = p.context.statuses ++ List.replicate n.toNat _
  rw [hctx, List.nil_append]

/-- **The gap before a packet** is represented after the first part of `FillChunk`. -/
theorem fillMissing (h : p.Encodes statuses deltas) (hdeltas : deltas.length ≤ 0x1FFF)
    {missing : BitVec 16} (hmissing : missing.toNat ≤ 0x1FFF) :
    (p.fillMissing missing).Encodes (statuses ++ List.replicate missing.toNat .notReceived)
      deltas := by
  unfold FeedbackRtpTransportPacket.fillMissing
  -- a run of seven or more is closed first
  generalize hq : (if 7 ≤ p.context.statuses.length ∧ p.context.allSameStatus then
    (p.createRunLengthChunk p.context.currentStatus
      (BitVec.ofNat 16 p.context.statuses.length)).setContext [] .none else p) = q
  have hshort : q.Encodes statuses deltas ∧ q.context.statuses.length < 7 := by
    by_cases hrun : 7 ≤ p.context.statuses.length
    · rw [if_pos ⟨hrun, (h.tidy.long hrun).1⟩] at hq
      subst hq
      exact ⟨h.closeRun hdeltas hrun .none, by simp [setContext]⟩
    · rw [if_neg fun hc ↦ hrun hc.1] at hq
      subst hq
      exact ⟨h, by omega⟩
  obtain ⟨hqenc, hqlen⟩ := hshort
  clear hq
  have hlt := missing.isLt
  dsimp only
  generalize hn : min missing.toNat (7 - q.context.statuses.length) = n
  have hlen : (q.setContext (q.context.statuses ++ List.replicate n Status.notReceived)
      .notReceived).context.statuses.length = q.context.statuses.length + n := by
    simp [setContext]
  by_cases hfew : q.context.statuses.length + missing.toNat < 7
  · obtain rfl : n = missing.toNat := by omega
    have hnone : ¬missing - BitVec.ofNat 16 missing.toNat ≠ 0 := by simp
    rw [← hlen] at hfew
    rw [if_neg hnone, if_neg hfew.ne]
    exact hqenc.waitMissing (hlen ▸ hfew)
  · have hvec := hqenc.closeVector (n := n) (by omega) .none
    have hrest : (missing - BitVec.ofNat 16 n).toNat = missing.toNat - n := by
      rw [BitVec.toNat_sub_of_le, BitVec.toNat_ofNat, Nat.mod_eq_of_lt (by omega)]
      rw [BitVec.le_def, BitVec.toNat_ofNat, Nat.mod_eq_of_lt (by omega)]
      omega
    have hseven : q.context.statuses.length + n = 7 := by omega
    rw [← hlen] at hseven
    rw [if_pos hseven]
    by_cases hzero : missing - BitVec.ofNat 16 n = 0
    · rw [hzero] at hrest
      obtain rfl : n = missing.toNat := by simp at hrest; omega
      rw [if_neg (not_not.mpr hzero)]
      exact hvec
    · have hpos : 0 < (missing - BitVec.ofNat 16 n).toNat := by
        rw [Nat.pos_iff_ne_zero]
        exact fun hc ↦ hzero (BitVec.eq_of_toNat_eq hc)
      have hrun := hvec.missingRun rfl hpos (by omega) .none
      rw [List.append_assoc, List.replicate_append_replicate,
        show n + (missing - BitVec.ofNat 16 n).toNat = missing.toNat by omega] at hrun
      rw [if_pos hzero]
      exact hrun

/-- **The packet itself** is represented after the second part of `FillChunk`, and the context is
left with the status of a received packet, or empty. -/
theorem fillReceived (h : p.Encodes statuses deltas) (hdeltas : deltas.length ≤ 0x1FFF)
    (delta : BitVec 16) :
    (p.fillReceived delta).Encodes (statuses ++ [deltaStatus delta]) (deltas ++ [delta]) ∧
      ((p.fillReceived delta).context.statuses ≠ [] →
        (p.fillReceived delta).context.currentStatus.isReceived = true) := by
  unfold FeedbackRtpTransportPacket.fillReceived
  dsimp only
  -- a run of seven or more is closed when the new status does not continue it
  generalize hq : (if 7 ≤ p.context.statuses.length ∧ p.context.allSameStatus ∧
      deltaStatus delta ≠ p.context.currentStatus then
    (p.createRunLengthChunk p.context.currentStatus
      (BitVec.ofNat 16 p.context.statuses.length)).setContext [] p.context.currentStatus
    else p) = q
  have hopen : q.Encodes statuses deltas ∧
      (7 ≤ q.context.statuses.length → q.context.currentStatus = deltaStatus delta) := by
    by_cases hrun : 7 ≤ p.context.statuses.length ∧ p.context.allSameStatus ∧
        deltaStatus delta ≠ p.context.currentStatus
    · rw [if_pos hrun] at hq
      subst hq
      exact ⟨h.closeRun hdeltas hrun.1 _, fun hlong ↦ by simp [setContext] at hlong⟩
    · rw [if_neg hrun] at hq
      subst hq
      refine ⟨h, fun hlong ↦ ?_⟩
      by_contra hne
      exact hrun ⟨hlong, (h.tidy.long hlong).1, Ne.symm hne⟩
  obtain ⟨hqenc, hcont⟩ := hopen
  clear hq
  generalize hsame : (decide (q.context.currentStatus = .none) ||
    (q.context.allSameStatus && decide (q.context.currentStatus = deltaStatus delta))) = same
  have huniform : same = true → ∀ s ∈ q.context.statuses ++ [deltaStatus delta],
      s = deltaStatus delta := by
    rintro rfl s hs
    rcases List.mem_append.mp hs with hs | hs
    · rw [Bool.or_eq_true, Bool.and_eq_true, decide_eq_true_iff, decide_eq_true_iff] at hsame
      rcases hsame with hnone | ⟨hall, hcur⟩
      · rw [hqenc.tidy.none hnone] at hs
        cases hs
      · rw [← hcur]
        exact hqenc.tidy.same hall (by rw [hcur]; exact isReceived_deltaStatus delta) s hs
    · exact List.mem_singleton.mp hs
  have hcore := hqenc.toCore.receive delta ⟨same, deltaStatus delta,
    q.context.statuses ++ [deltaStatus delta]⟩ rfl
  by_cases hclose : (q.context.statuses ++ [deltaStatus delta]).length = 7 ∧ ¬same = true
  · rw [if_pos hclose]
    refine ⟨⟨hcore.createChunk (c := .twoBitVector _) ⟨hclose.1, hcore.plain_context⟩ rfl _,
      .empty rfl⟩, fun hne ↦ absurd rfl hne⟩
  · rw [if_neg hclose]
    refine ⟨⟨hcore, fun hall _ ↦ huniform hall, fun hnone ↦ ?_, fun hlong ↦ ?_⟩,
      fun _ ↦ isReceived_deltaStatus delta⟩
    · have hrec := isReceived_deltaStatus delta
      rw [show deltaStatus delta = .none from hnone] at hrec
      cases hrec
    · refine ⟨?_, isReceived_deltaStatus delta⟩
      change 7 ≤ (q.context.statuses ++ [deltaStatus delta]).length at hlong
      by_contra hnot
      have hmore : 7 ≤ q.context.statuses.length := by
        rw [List.length_append, List.length_singleton] at hlong hclose
        have : q.context.statuses.length + 1 ≠ 7 := fun heq ↦ hclose ⟨heq, hnot⟩
        omega
      exact hnot (by simp [← hsame, hcont hmore, (hqenc.tidy.long hmore).1])

/-- **One packet.** `FillChunk` appends the statuses of the missing packets and of the packet, and
its delta. -/
theorem fillChunk (h : p.Encodes statuses deltas) (hdeltas : deltas.length ≤ 0x1FFF)
    {previous sequenceNumber : BitVec 16}
    (hgap : (sequenceNumber - (previous + 1)).toNat ≤ 0x1FFF) (delta : BitVec 16) :
    (p.fillChunk previous sequenceNumber delta).Encodes
        (statuses ++ List.replicate (sequenceNumber - (previous + 1)).toNat .notReceived ++
          [deltaStatus delta]) (deltas ++ [delta]) ∧
      ((p.fillChunk previous sequenceNumber delta).context.statuses ≠ [] →
        (p.fillChunk previous sequenceNumber delta).context.currentStatus.isReceived = true) := by
  unfold FeedbackRtpTransportPacket.fillChunk
  dsimp only
  by_cases hpos : 0 < sequenceNumber - (previous + 1)
  · rw [if_pos hpos]
    exact (h.fillMissing hdeltas hgap).fillReceived hdeltas delta
  · have hzero : (sequenceNumber - (previous + 1)).toNat = 0 := by
      simpa [BitVec.lt_def] using hpos
    rw [if_neg hpos, hzero, List.replicate_zero, List.append_nil]
    exact h.fillReceived hdeltas delta

end Encodes

/-! ## Closing the packet -/

/-- Every chunk can be read back with as many packets announced as the list describes. -/
def Framed : List Chunk → Prop
  | [] => True
  | c :: cs => c.Fits (totalCount (c :: cs)) ∧ Framed cs

theorem Framed.append {cs tail : List Chunk} (hcs : ∀ c ∈ cs, c.Full) (htail : Framed tail) :
    Framed (cs ++ tail) := by
  induction cs with
  | nil => exact htail
  | cons c cs ih =>
    refine ⟨(hcs c List.mem_cons_self).fits ?_, ih fun c' hc' ↦ hcs c' (List.mem_cons_of_mem _ hc')⟩
    rw [totalCount_cons]
    exact Nat.le_add_right _ _

/-- The packet as it is written: every status is part of a chunk. -/
structure Closed (p : FeedbackRtpTransportPacket) (statuses : List Status)
    (deltas : List (BitVec 16)) : Prop where
  symbols : p.chunks.flatMap Chunk.symbols = statuses
  received : statuses.filter Status.isReceived = deltas.map deltaStatus
  deltas_eq : p.deltas = deltas
  framed : Framed p.chunks
  count : p.packetStatusCount = BitVec.ofNat 16 statuses.length
  size : p.deltasAndChunksSize = 2 * p.chunks.length + (deltas.flatMap serializeDelta).length

/-- One more chunk for the statuses of the context. -/
theorem Core.closed_createChunk {p : FeedbackRtpTransportPacket} {statuses : List Status}
    {deltas : List (BitVec 16)} (h : p.Core statuses deltas) {c : Chunk}
    (hsymbols : c.symbols = p.context.statuses) (hfits : c.Fits c.symbols.length)
    (ctx : Context) : Closed { p.createChunk c with context := ctx } statuses deltas where
  symbols := by
    rw [← h.symbols, ← hsymbols]
    simp [FeedbackRtpTransportPacket.createChunk]
  received := h.received
  deltas_eq := h.deltas_eq
  framed := Framed.append h.full ⟨by simpa [totalCount] using hfits, trivial⟩
  count := by
    change p.packetStatusCount + c.getCount = _
    rw [← h.symbols, List.length_append, BitVec.ofNat_add, h.count, ← hsymbols,
      ← hfits.sized.getCount_toNat, BitVec.ofNat_toNat, BitVec.setWidth_eq, totalCount]
  size := by
    change p.deltasAndChunksSize + 2 = 2 * (p.chunks ++ [c]).length + _
    rw [h.size, List.length_append, List.length_singleton]
    omega

/-- **The final flush.** `AddPendingChunks` does not fail and leaves every status in a chunk. -/
theorem Encodes.addPendingChunks {p : FeedbackRtpTransportPacket} {statuses : List Status}
    {deltas : List (BitVec 16)} (h : p.Encodes statuses deltas) (hdeltas : deltas.length ≤ 0x1FFF)
    (hcur : p.context.statuses ≠ [] → p.context.currentStatus.isReceived = true) :
    ∃ q, p.addPendingChunks = .ok q ∧ q.Closed statuses deltas ∧ q.header = p.header := by
  unfold FeedbackRtpTransportPacket.addPendingChunks
  by_cases hempty : p.context.statuses = []
  · rw [if_pos hempty]
    have hsymbols := h.symbols
    rw [hempty, List.append_nil] at hsymbols
    refine ⟨p, rfl, ⟨hsymbols, h.received, h.deltas_eq, ?_, ?_, h.size⟩, rfl⟩
    · rw [← List.append_nil p.chunks]
      exact Framed.append h.full trivial
    · rw [h.count, ← hsymbols, totalCount]
  · rw [if_neg hempty]
    have hpos : 0 < p.context.statuses.length := List.length_pos_iff.mpr hempty
    by_cases hsame : p.context.allSameStatus = true
    · rw [if_pos hsame]
      have hall := h.tidy.same hsame (hcur hempty)
      have hle := h.length_context_le fun s hs ↦ by rw [hall s hs]; exact hcur hempty
      have hcount : (BitVec.ofNat 16 p.context.statuses.length).toNat
          = p.context.statuses.length := by
        rw [BitVec.toNat_ofNat]
        omega
      refine ⟨_, rfl, h.closed_createChunk (c := .runLength _ _) ?_ ?_ _, rfl⟩
      · rw [Chunk.symbols, hcount]
        exact (List.eq_replicate_iff.mpr ⟨rfl, hall⟩).symm
      · exact ⟨.of_isReceived (hcur hempty), by omega, by omega⟩
    · have hshort : p.context.statuses.length < 7 := by
        by_contra hlong
        exact hsame (h.tidy.long (by omega)).1
      rw [if_neg hsame]
      simp only [hshort, decide_true, msAssert_true]
      refine ⟨_, rfl, h.closed_createChunk (c := .twoBitVector _) rfl ?_ _, rfl⟩
      refine ⟨hempty, ?_, h.plain_context⟩
      change p.context.statuses.length = min 7 p.context.statuses.length
      omega

end FeedbackRtpTransportPacket

end MediasoupSfu
