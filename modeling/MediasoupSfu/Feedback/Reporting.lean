import MediasoupSfu.Feedback.RoundTrip
import MediasoupSfu.Feedback.Server
import MediasoupSfu.Feedback.StatusCount

/-!
# What the transport-cc server reports

A feedback packet is closed by the timer, when it is full and when it is too long, and the next one
goes on from its last RTP packet. Put together, the packets that were sent and the one under
construction therefore report every wide sequence number after the first once, up to the newest one
that arrived.

`unwrap` says what the sequence numbers stand for: each arrival is placed relative to the newest one
before it. `reporting` is the main result. It needs that no packet is refused as fatal, that no
status count wraps, and that no arrival time is below 64 ms, because a packet that is based on such
a time takes the next RTP packet for its first one.
-/

namespace MediasoupSfu

open Serial

/-! ## Arrivals -/

/-- Arrivals, numbered from the first one on. -/
structure Unwrapped where
  /-- The newest sequence number. -/
  latest : BitVec 16
  /-- Its number. -/
  newest : ℕ
  /-- The numbers of all arrivals. -/
  numbers : List ℤ

/-- The next arrival is placed relative to the newest one. -/
def Unwrapped.arrive (u : Unwrapped) (n : BitVec 16) : Unwrapped :=
  if isSeqHigherThan n u.latest then
    { latest := n
      newest := u.newest + pos u.latest n
      numbers := u.numbers ++ [(u.newest : ℤ) + pos u.latest n] }
  else { u with numbers := u.numbers ++ [(u.newest : ℤ) - pos n u.latest] }

/-- The arrivals after a first one. -/
def unwrap (first : BitVec 16) (rest : List (BitVec 16)) : Unwrapped :=
  rest.foldl Unwrapped.arrive ⟨first, 0, [0]⟩

/-- An arrival has this number and is newer than every one before it. -/
def NewOnArrival (numbers : List ℤ) (n : ℤ) : Prop :=
  ∃ pre post, numbers = pre ++ n :: post ∧ ∀ m ∈ pre, m < n

theorem newOnArrival_concat {numbers : List ℤ} {x n : ℤ} :
    NewOnArrival (numbers ++ [x]) n ↔ NewOnArrival numbers n ∨ (n = x ∧ ∀ m ∈ numbers, m < x) := by
  constructor
  · rintro ⟨pre, post, hsplit, hlt⟩
    rcases Run.split_concat hsplit with ⟨rfl, rfl, -⟩ | ⟨post', hsplit', -⟩
    · exact Or.inr ⟨rfl, hlt⟩
    · exact Or.inl ⟨pre, post', hsplit', hlt⟩
  · rintro (⟨pre, post, rfl, hlt⟩ | ⟨rfl, hlt⟩)
    · exact ⟨pre, post ++ [x], by simp, hlt⟩
    · exact ⟨numbers, [], rfl, hlt⟩

theorem NewOnArrival.mem {numbers : List ℤ} {n : ℤ} (h : NewOnArrival numbers n) : n ∈ numbers := by
  obtain ⟨pre, post, rfl, -⟩ := h
  simp

/-- One flag for each number from one to the newest, set if it was new on arrival. -/
structure Marks (u : Unwrapped) (flags : List Bool) : Prop where
  length : flags.length = u.newest
  le : ∀ m ∈ u.numbers, m ≤ u.newest
  mem : (u.newest : ℤ) ∈ u.numbers
  marked : ∀ i : ℕ, flags[i]? = some true ↔ NewOnArrival u.numbers (i + 1)

theorem marks_first (first : BitVec 16) : Marks ⟨first, 0, [0]⟩ [] := by
  refine ⟨rfl, by simp, by simp, fun i ↦ ⟨nofun, fun h ↦ ?_⟩⟩
  have hmem := List.mem_singleton.mp h.mem
  omega

/-- An older arrival leaves the flags. -/
theorem Marks.old {u : Unwrapped} {flags : List Bool} (h : Marks u flags) {n : BitVec 16}
    (hold : isSeqHigherThan n u.latest = false) : Marks (u.arrive n) flags := by
  have harrive : u.arrive n =
      { u with numbers := u.numbers ++ [(u.newest : ℤ) - pos n u.latest] } :=
    if_neg (by rw [hold]; decide)
  rw [harrive]
  refine ⟨h.length, fun m hm ↦ ?_, List.mem_append_left _ h.mem, fun i ↦ ?_⟩
  · rcases List.mem_append.mp hm with hm | hm
    · exact h.le m hm
    · rw [List.mem_singleton.mp hm]
      dsimp only
      omega
  · rw [h.marked, newOnArrival_concat]
    refine ⟨Or.inl, fun hnew ↦ hnew.resolve_right ?_⟩
    rintro ⟨-, hlt⟩
    have := hlt _ h.mem
    omega

/-- A newer arrival adds its own flag, after those of the numbers that it skips. -/
theorem Marks.new {u : Unwrapped} {flags : List Bool} (h : Marks u flags) {n : BitVec 16}
    (hnew : isSeqHigherThan n u.latest = true) {gap : ℕ} (hgap : pos u.latest n = gap + 1) :
    Marks (u.arrive n) (flags ++ (List.replicate gap false ++ [true])) := by
  have harrive : u.arrive n = ⟨n, u.newest + pos u.latest n,
    u.numbers ++ [(u.newest : ℤ) + pos u.latest n]⟩ := if_pos hnew
  rw [harrive, hgap]
  refine ⟨by simp [h.length], fun m hm ↦ ?_, by simp, fun i ↦ ?_⟩
  · rcases List.mem_append.mp hm with hm | hm
    · have := h.le m hm
      push_cast
      omega
    · rw [List.mem_singleton.mp hm]
      push_cast
      omega
  · rw [newOnArrival_concat]
    have hlength := h.length
    rcases Nat.lt_or_ge i flags.length with hi | hi
    · rw [List.getElem?_append_left hi, h.marked]
      refine ⟨Or.inl, fun hor ↦ hor.resolve_right ?_⟩
      rintro ⟨heq, -⟩
      omega
    · have hnot : ¬NewOnArrival u.numbers (i + 1) := by
        intro hmem
        have := h.le _ hmem.mem
        omega
      rw [List.getElem?_append_right hi]
      rcases Nat.lt_trichotomy (i - flags.length) gap with hlt | heq | hgt
      · rw [List.getElem?_append_left (by simpa using hlt), List.getElem?_replicate_of_lt hlt]
        refine ⟨nofun, fun hor ↦ ?_⟩
        obtain ⟨heq, -⟩ := hor.resolve_left hnot
        omega
      · rw [heq, List.getElem?_append_right (by simp)]
        refine ⟨fun _ ↦ Or.inr ⟨by omega, fun m hm ↦ ?_⟩, fun _ ↦ by simp⟩
        have := h.le m hm
        omega
      · rw [List.getElem?_eq_none (by simpa using Nat.succ_le_of_lt hgt)]
        refine ⟨nofun, fun hor ↦ ?_⟩
        obtain ⟨heq, -⟩ := hor.resolve_left hnot
        omega

namespace FeedbackRtpTransportPacket

variable {p p' : FeedbackRtpTransportPacket} {c : AddPacketCall} {base : BitVec 16}

/-! ## The results of packets -/

/-- Which of the packets that a feedback packet stands for were received. -/
def flags (p : FeedbackRtpTransportPacket) : List Bool :=
  (p.chunks.flatMap Chunk.symbols ++ p.context.statuses).map Status.isReceived

@[simp] theorem length_flags (p : FeedbackRtpTransportPacket) : p.flags.length = p.represented := by
  rw [flags, List.length_map, List.length_append]
  rfl

/-- The status count does not wrap, also after `Finish`. -/
def StatusCountFits (p : FeedbackRtpTransportPacket) : Prop := p.represented ≤ maxPacketStatusCount

instance (p : FeedbackRtpTransportPacket) : Decidable p.StatusCountFits :=
  inferInstanceAs (Decidable (_ ≤ _))

theorem StatusCountFits.pending (h : p.StatusCountFits) : p.context.statuses.length < 2 ^ 16 := by
  unfold StatusCountFits represented maxPacketStatusCount at h
  omega

/-- The packet has a delta for each packet that it reports as received, and counts right. -/
structure Complete (p : FeedbackRtpTransportPacket) : Prop extends p.Sound where
  fits : p.StatusCountFits
  deltas : p.flags.count true = p.deltas.length

/-- The results of feedback packets, each after `Finish`. -/
def packetResults : List FeedbackRtpTransportPacket → Except Fault (List PacketResult)
  | [] => .ok []
  | p :: ps => do
    let q ← p.finish
    let results ← q.getPacketResults
    let rest ← packetResults ps
    return results ++ rest

theorem received_plainResults (statuses : List Status) : ∀ current : BitVec 16,
    (plainResults current statuses).map PacketResult.received = statuses.map Status.isReceived := by
  induction statuses with
  | nil => intro _; rfl
  | cons s ss ih =>
    intro current
    rw [plainResults, List.map_cons, List.map_cons, ih]

theorem Complete.results (h : p.Complete) : ∃ q results, p.finish = .ok q ∧
    q.getPacketResults = .ok results ∧
    results.map PacketResult.sequenceNumber =
      ((List.range p.represented).map fun i ↦ p.baseSequenceNumber + BitVec.ofNat 16 i) ∧
    results.map PacketResult.received = p.flags := by
  have hlt := h.fits.pending
  obtain ⟨hheader, hdeltas, -, -⟩ := foldl_createChunk_frame p p.context.pendingChunks
  simp only [header, Prod.mk.injEq] at hheader
  have hsymbols : (p.chunks ++ p.context.pendingChunks).flatMap Chunk.symbols =
      p.chunks.flatMap Chunk.symbols ++ p.context.statuses := by
    rw [List.flatMap_append, h.tidy.symbols_pendingChunks h.waiting hlt]
  have hlength : (p.chunks.flatMap Chunk.symbols ++ p.context.statuses).length = p.represented := by
    rw [List.length_append]
    rfl
  have hreceived : (p.chunks.flatMap Chunk.symbols ++ p.context.statuses).countP Status.isReceived =
      p.deltas.length := by
    rw [← h.deltas, flags, List.count, List.countP_map]
    exact List.countP_congr fun s _ ↦ by simp
  have hcount := countP_plainResults (p.baseSequenceNumber - 1)
    (p.chunks.flatMap Chunk.symbols ++ p.context.statuses)
  obtain ⟨results, hresults, hnumbers, hflags⟩ := assignDeltas_ok _ p.deltas
    (p.referenceTime.toInt * 64) (hcount.trans hreceived).le
  refine ⟨_, results, addPendingChunks_eq h.tidy, ?_, ?_, ?_⟩
  · rw [getPacketResults_eq, chunks_create, hsymbols, deltas_create]
    change assignDeltas (plainResults
      ((p.context.pendingChunks.foldl createChunk p).baseSequenceNumber
      - 1) _) _ ((p.context.pendingChunks.foldl createChunk p).referenceTime.toInt * 64) = _
    rw [hheader.2.2.2.2.1, hheader.2.2.2.2.2.1]
    exact hresults
  · rw [hnumbers, sequenceNumber_plainResults, hlength, BitVec.sub_add_cancel]
  · rw [hflags, received_plainResults]
    rfl

/-- Each packet goes on where the one before it stopped. -/
def Chained : BitVec 16 → List FeedbackRtpTransportPacket → Prop
  | _, [] => True
  | base, p :: ps => p.Complete ∧ p.baseSequenceNumber = base ∧
    Chained (base + BitVec.ofNat 16 p.represented) ps

theorem Chained.concat {ps : List FeedbackRtpTransportPacket} (h : Chained base ps)
    (hp : p.Complete)
    (hbase : p.baseSequenceNumber = base + BitVec.ofNat 16 (ps.flatMap flags).length) :
    Chained base (ps ++ [p]) := by
  induction ps generalizing base with
  | nil =>
    refine ⟨hp, ?_, trivial⟩
    simpa using hbase
  | cons q ps ih =>
    refine ⟨h.1, h.2.1, ih h.2.2 ?_⟩
    rw [hbase, List.flatMap_cons, List.length_append, length_flags, BitVec.ofNat_add,
      BitVec.add_assoc]

/-- **The results of a chain** are contiguous, with the flags of its packets. -/
theorem Chained.results {ps : List FeedbackRtpTransportPacket} (h : Chained base ps) :
    ∃ results, packetResults ps = .ok results ∧
      results.map PacketResult.sequenceNumber =
        ((List.range results.length).map fun i ↦ base + BitVec.ofNat 16 i) ∧
      results.map PacketResult.received = ps.flatMap flags := by
  induction ps generalizing base with
  | nil => exact ⟨[], rfl, rfl, rfl⟩
  | cons p ps ih =>
    obtain ⟨hp, rfl, hps⟩ := h
    obtain ⟨q, first, hq, hfirst, hnumbers, hflags⟩ := hp.results
    obtain ⟨rest, hrest, hnumbers', hflags'⟩ := ih hps
    have hlength : first.length = p.represented := by
      rw [← length_flags, ← hflags, List.length_map]
    refine ⟨first ++ rest, ?_, ?_, ?_⟩
    · rw [packetResults, hq]
      change (q.getPacketResults >>= _) = _
      rw [hfirst]
      change (packetResults ps >>= _) = _
      rw [hrest]
      rfl
    · rw [List.map_append, List.length_append, List.range_add, List.map_append, hnumbers, hnumbers',
        hlength, List.map_map]
      refine congrArg _ (List.map_congr_left fun i _ ↦ ?_)
      rw [Function.comp_apply, BitVec.ofNat_add, BitVec.add_assoc]
    · rw [List.map_append, hflags, hflags', List.flatMap_cons]

/-! ## The packet under construction -/

/-- The packets that were sent and the one under construction report the arrivals. -/
structure Tracks (first : BitVec 16) (u : Unwrapped) (sent : List FeedbackRtpTransportPacket)
    (p : FeedbackRtpTransportPacket) : Prop extends p.Complete where
  chained : Chained (first + 1) sent
  base : p.baseSequenceNumber = first + 1 + BitVec.ofNat 16 (sent.flatMap flags).length
  next : p.baseSequenceNumber + BitVec.ofNat 16 p.represented = p.latestSequenceNumber + 1
  latest : p.latestSequenceNumber = u.latest
  time : 64 ≤ p.latestTimestamp.toNat
  marks : Marks u (sent.flatMap flags ++ p.flags)

theorem Bare.flags (h : p.Bare) : p.flags = [] := by
  rw [FeedbackRtpTransportPacket.flags, h.no_chunks, h.no_statuses]
  rfl

theorem Bare.complete (h : p.Bare) : p.Complete := by
  refine ⟨h.toSound, ?_, ?_⟩
  · rw [StatusCountFits, ← length_flags, h.flags]
    decide
  · rw [h.flags, h.no_deltas]
    rfl

theorem Sound.flags_record (h : p.Sound) (c : AddPacketCall)
    (hlt : p.context.statuses.length < 2 ^ 16) :
    (p.record c).flags = p.flags ++ (List.replicate (p.missing c).toNat false ++ [true]) := by
  have hsymbols := (h.advances c).symbols hlt
  rw [flags, chunks_record, context_record, List.flatMap_append, List.append_assoc, hsymbols, flags]
  simp only [List.map_append, List.map_replicate, List.map_singleton, isReceived_deltaStatus,
    List.append_assoc]
  rfl

namespace Tracks

variable {first : BitVec 16} {u : Unwrapped} {sent : List FeedbackRtpTransportPacket}

theorem has_base (h : Tracks first u sent p) : p.latestTimestamp ≠ 0 := by
  intro hzero
  have htime := h.time
  rw [hzero] at htime
  exact absurd htime (by decide)

theorem setSsrcs (h : Tracks first u sent p) (senderSsrc mediaSsrc : BitVec 32) :
    Tracks first u sent { p with senderSsrc := senderSsrc, mediaSsrc := mediaSsrc } :=
  ⟨⟨⟨h.tidy, h.waiting, h.local_size, h.count, h.written, h.bytes, h.pending⟩, h.fits, h.deltas⟩,
    h.chained, h.base, h.next, h.latest, h.time, h.marks⟩

/-- The time of a new base is not zero. -/
theorem time_rebase (p : FeedbackRtpTransportPacket) (htime : 64 ≤ c.timestamp.toNat) :
    64 ≤ (p.rebase c).latestTimestamp.toNat := by
  change 64 ≤ (c.timestamp >>> 6 * (64 : BitVec 64)).toNat
  rw [roundedTime_toNat]
  omega

/-- The first arrival. -/
theorem based (h : p.Bare) (htime : 64 ≤ c.timestamp.toNat) :
    Tracks c.sequenceNumber (unwrap c.sequenceNumber []) [] (p.rebase c) := by
  have hbare := h.rebase c
  refine ⟨hbare.complete, trivial, ?_, ?_, rfl, time_rebase p htime, ?_⟩
  · exact (BitVec.add_zero _).symm
  · rw [← length_flags, hbare.flags]
    exact BitVec.add_zero _
  · rw [hbare.flags]
    exact marks_first _

/-- A packet that is handed over is followed by one that goes on after it. -/
theorem followed (h : Tracks first u sent p) {next : FeedbackRtpTransportPacket} (hnext : next.Bare)
    (len : ℕ) : Tracks first u (sent ++ [p])
      (next.rebase ⟨p.latestSequenceNumber, p.latestTimestamp, len⟩) := by
  have hbare := hnext.rebase ⟨p.latestSequenceNumber, p.latestTimestamp, len⟩
  have hlength : ((sent ++ [p]).flatMap flags).length =
      (sent.flatMap flags).length + p.represented := by
    rw [List.flatMap_append, List.length_append, List.flatMap_singleton, length_flags]
  refine ⟨hbare.complete, h.chained.concat h.toComplete h.base, ?_, ?_, h.latest,
    time_rebase next h.time, ?_⟩
  · rw [hlength, BitVec.ofNat_add, ← BitVec.add_assoc, ← h.base, h.next]
    rfl
  · rw [← length_flags, hbare.flags]
    exact BitVec.add_zero _
  · rw [hbare.flags, List.append_nil, List.flatMap_append, List.flatMap_singleton]
    exact h.marks

/-- **An arrival.** A call that succeeds reports its packet. -/
theorem added (h : Tracks first u sent p) (hcall : p.addStep c = .ok (.success, p'))
    (htime : 64 ≤ c.timestamp.toNat) (hfits : p'.StatusCountFits) :
    Tracks first (u.arrive c.sequenceNumber) sent p' := by
  cases (addPacket_outcome hcall).2 with
  | based hbase => exact absurd hbase h.has_base
  | ignored _ hold =>
    rw [h.latest] at hold
    have hlatest : (u.arrive c.sequenceNumber).latest = u.latest := by
      rw [Unwrapped.arrive, if_neg (by rw [hold]; decide)]
    exact ⟨h.toComplete, h.chained, h.base, h.next, h.latest.trans hlatest.symm, h.time,
      h.marks.old hold⟩
  | refused _ _ hresult => exact absurd rfl hresult
  | recorded hbase hnew =>
    have hlt := h.fits.pending
    have hheader := p.header_record c
    simp only [header, Prod.mk.injEq] at hheader
    have hbaseSeq : (p.record c).baseSequenceNumber = p.baseSequenceNumber := hheader.2.2.2.2.1
    have hflags := h.toSound.flags_record c hlt
    have hnext : p.latestSequenceNumber + 1 + BitVec.ofNat 16 (p.missing c).toNat =
        c.sequenceNumber := add_ofNat_pos _ _
    have hlatest : (u.arrive c.sequenceNumber).latest = c.sequenceNumber := by
      rw [Unwrapped.arrive, if_pos (by rw [← h.latest]; exact hnew)]
    have hne := ne_of_isSeqHigherThan hnew
    refine ⟨⟨h.toSound.record c, hfits, ?_⟩, h.chained, hbaseSeq.trans h.base, ?_,
      hlatest.symm, htime, ?_⟩
    · have hmissing : (List.replicate (p.missing c).toNat false).count true = 0 := by
        rw [List.count_replicate]
        rfl
      rw [hflags, deltas_record, List.count_append, List.count_append, hmissing, h.deltas,
        List.length_append]
      rfl
    · rw [hbaseSeq, h.toSound.represented_record c hlt, BitVec.ofNat_add, BitVec.ofNat_add,
        ← BitVec.add_assoc, h.next, ← BitVec.add_assoc, hnext]
      rfl
    · rw [hflags, ← List.append_assoc]
      rw [h.latest] at hnew hne
      refine h.marks.new hnew ?_
      rw [pos_succ_of_ne hne, missing, h.latest]
      rfl

end Tracks

theorem Bare.sizeWithAnother (h : p.Bare) : p.sizeWithAnother = 24 := by
  have hbytes := h.bytes
  rw [h.no_chunks, h.no_deltas] at hbytes
  rw [FeedbackRtpTransportPacket.sizeWithAnother, hbytes]
  rfl

/-- With less room than for one packet, nothing is ever recorded. -/
theorem Bare.stays {result : AddPacketResult} (h : p.Bare) (hlen : c.maxRtcpPacketLen < 24)
    (hcall : p.addStep c = .ok (result, p')) : p'.Bare := by
  cases (addPacket_outcome hcall).2 with
  | based => exact h.rebase c
  | ignored => exact h
  | refused => exact h
  | recorded _ _ _ _ hsize =>
    rw [h.sizeWithAnother] at hsize
    omega

/-- What the packets that were sent and the one under construction have to do with the arrivals. -/
def Reporting (len : ℕ) (arrivals : List (BitVec 16)) (sent : List FeedbackRtpTransportPacket)
    (p : FeedbackRtpTransportPacket) : Prop :=
  match arrivals with
  | [] => p.Bare ∧ p.latestTimestamp = 0 ∧ sent = []
  | first :: rest =>
    (24 ≤ len → Tracks first (unwrap first rest) sent p) ∧ (len < 24 → p.Bare ∧ sent = [])

/-- What is reported about the arrivals after the first one: a contiguous sequence of wide sequence
numbers starting right after the first one, of which exactly those that were new on arrival are
received. If there is room for a packet at all, the sequence ends with the newest arrival. -/
structure Reported (len : ℕ) (first : BitVec 16) (rest : List (BitVec 16))
    (results : List PacketResult) : Prop where
  contiguous : results.map PacketResult.sequenceNumber =
    (List.range results.length).map fun i ↦ first + 1 + BitVec.ofNat 16 i
  received : ∀ (i : ℕ) (r : PacketResult), results[i]? = some r →
    (r.received = true ↔ NewOnArrival (unwrap first rest).numbers (i + 1))
  complete : 24 ≤ len → results.length = (unwrap first rest).newest

theorem Bare.packetResults (h : p.Bare) : packetResults [p] = .ok [] := by
  have hchained : Chained p.baseSequenceNumber [p] := ⟨h.complete, rfl, trivial⟩
  obtain ⟨results, hresults, -, hflags⟩ := hchained.results
  rw [List.flatMap_singleton, h.flags] at hflags
  rw [hresults, List.map_eq_nil_iff.mp hflags]

theorem Tracks.reported {first : BitVec 16} {rest : List (BitVec 16)}
    {sent : List FeedbackRtpTransportPacket} (h : Tracks first (unwrap first rest) sent p)
    (len : ℕ) :
    ∃ results, packetResults (sent ++ [p]) = .ok results ∧ Reported len first rest results := by
  obtain ⟨results, hresults, hnumbers, hflags⟩ := (h.chained.concat h.toComplete h.base).results
  rw [List.flatMap_append, List.flatMap_singleton] at hflags
  refine ⟨results, hresults, hnumbers, fun i r hr ↦ ?_, fun _ ↦ ?_⟩
  · rw [← h.marks.marked, ← hflags, List.getElem?_map, hr]
    simp
  · rw [← h.marks.length, ← hflags, List.length_map]

end FeedbackRtpTransportPacket

namespace TransportCongestionControlServer

open FeedbackRtpTransportPacket

variable {s t : TransportCongestionControlServer} {e : ServerEvent} {output : ServerOutput}
  {first : BitVec 16} {u : Unwrapped} {sent : List FeedbackRtpTransportPacket} {len : ℕ}

/-! ## Runs of the server -/

/-- Handing over changes nothing about what is reported. -/
theorem tracks_send (h : Tracks first u sent s.transportCcFeedbackPacket) :
    Tracks first u (sent ++ s.send.1.feedback) s.send.2.transportCcFeedbackPacket := by
  by_cases hnil : s.transportCcFeedbackPacket.deltas = []
  · rw [send_of_nil hnil]
    change Tracks first u (sent ++ []) s.transportCcFeedbackPacket
    rwa [List.append_nil]
  · have hpos : 0 < s.transportCcFeedbackPacket.latestTimestamp := by
      rw [BitVec.lt_def]
      exact Nat.lt_of_lt_of_le (by decide) h.time
    have hsuccessor : s.successor = _ := if_pos hpos
    rw [send_of_ne hnil]
    change Tracks first u (sent ++ [s.transportCcFeedbackPacket]) s.successor
    rw [hsuccessor]
    exact h.followed (bare_fresh _ _ _) _

/-- What an event must not do: a call of `AddPacket` fails fatally, or a status count wraps. -/
structure Unharmed (output : ServerOutput) (t : TransportCongestionControlServer) : Prop where
  not_fatal : AddPacketResult.fatal ∉ output.answers
  sent_fits : ∀ p ∈ output.feedback, p.StatusCountFits
  fits : t.transportCcFeedbackPacket.StatusCountFits

instance (output : ServerOutput) (t : TransportCongestionControlServer) :
    Decidable (Unharmed output t) :=
  decidable_of_iff (AddPacketResult.fatal ∉ output.answers ∧
    (∀ p ∈ output.feedback, p.StatusCountFits) ∧ t.transportCcFeedbackPacket.StatusCountFits)
    ⟨fun ⟨h, h', h''⟩ ↦ ⟨h, h', h''⟩, fun ⟨h, h', h''⟩ ↦ ⟨h, h', h''⟩⟩

variable {c : AddPacketCall}

/-- The first arrival. -/
theorem Provides.rebases (h : s.transportCcFeedbackPacket.Bare)
    (hbase : s.transportCcFeedbackPacket.latestTimestamp = 0) (hprovides : Provides s c output t) :
    output.feedback = [] ∧ t.transportCcFeedbackPacket = s.transportCcFeedbackPacket.rebase c := by
  have hfirst : ∀ {result packet}, s.transportCcFeedbackPacket.addStep c = .ok (result, packet) →
      result = .success ∧ packet = s.transportCcFeedbackPacket.rebase c := by
    intro result packet hcall
    have hout := (addPacket_outcome hcall).2
    refine ⟨?_, hout.eq_rebase hbase⟩
    cases hout with
    | based => rfl
    | ignored hne => exact absurd hbase hne
    | refused hne => exact absurd hbase hne
    | recorded => rfl
  cases hprovides with
  | added hcall => exact ⟨rfl, (hfirst hcall).2⟩
  | filled hcall hfull =>
    rw [(hfirst hcall).2, (h.rebase c).ready.not_full] at hfull
    cases hfull
  | overflowed hcall => cases (hfirst hcall).1
  | failed hcall => cases (hfirst hcall).1

/-- A later arrival, if there is room for a packet. -/
theorem Provides.tracks (hready : s.transportCcFeedbackPacket.Ready)
    (h : Tracks first u sent s.transportCcFeedbackPacket) (hprovides : Provides s c output t)
    (hlen : 24 ≤ c.maxRtcpPacketLen) (htime : 64 ≤ c.timestamp.toNat)
    (hunharmed : Unharmed output t) :
    Tracks first (u.arrive c.sequenceNumber) (sent ++ output.feedback)
      t.transportCcFeedbackPacket := by
  obtain ⟨hfatal, hsent, hfits⟩ := hunharmed
  cases hprovides with
  | @added packet hcall =>
    change Tracks first _ (sent ++ []) packet
    rw [List.append_nil]
    exact h.added hcall htime hfits
  | @filled packet hcall =>
    rw [ServerOutput.feedback_append] at hsent ⊢
    have hpacket : packet.StatusCountFits := by
      by_cases hnil : packet.deltas = []
      · rw [send_of_nil (s := s.put packet) hnil] at hfits
        exact hfits
      · refine hsent packet ?_
        rw [send_of_ne (s := s.put packet) hnil]
        exact List.mem_cons_self
    exact tracks_send (s := s.put packet) (h.added hcall htime hpacket)
  | @overflowed again packet hcall hagain =>
    have hbare : s.send.2.transportCcFeedbackPacket.Bare := by
      by_cases hnil : s.transportCcFeedbackPacket.deltas = []
      · rw [send_of_nil hnil]
        exact hready.bare hnil
      · rw [send_of_ne hnil]
        exact s.bare_successor
    rw [ServerOutput.feedback_append, ServerOutput.feedback_append]
    change Tracks first _ (sent ++ (_ ++ [])) packet
    rw [List.append_nil]
    cases again with
    | success => exact (tracks_send h).added hagain htime hfits
    | maxSizeExceeded =>
      have hsize := addPacket_maxSizeExceeded hagain
      rw [hbare.sizeWithAnother] at hsize
      omega
    | fatal => exact absurd (by simp [ServerOutput.append]) hfatal
  | failed => exact absurd List.mem_cons_self hfatal

/-- A later arrival without room for a packet. -/
theorem Provides.stays (h : s.transportCcFeedbackPacket.Bare) (hprovides : Provides s c output t)
    (hlen : c.maxRtcpPacketLen < 24) :
    output.feedback = [] ∧ t.transportCcFeedbackPacket.Bare := by
  cases hprovides with
  | added hcall => exact ⟨rfl, h.stays hlen hcall⟩
  | filled hcall hfull =>
    rw [(h.stays hlen hcall).ready.not_full] at hfull
    cases hfull
  | overflowed hcall hagain =>
    rw [send_of_nil h.no_deltas] at hagain ⊢
    exact ⟨rfl, h.stays hlen hagain⟩
  | failed => exact ⟨rfl, bare_fresh _ _ _⟩

theorem unwrap_concat (first n : BitVec 16) (rest : List (BitVec 16)) :
    unwrap first (rest ++ [n]) = (unwrap first rest).arrive n := List.foldl_concat _ _ _ _

/-- **One event.** -/
theorem Reacts.keepsReporting {arrivals : List (BitVec 16)}
    (hready : s.transportCcFeedbackPacket.Ready)
    (h : Reporting s.maxRtcpPacketLen arrivals sent s.transportCcFeedbackPacket)
    (hreacts : Reacts s e output t) (hconnected : e ≠ .transportDisconnected)
    (htime : ∀ n time, e.arrival = some (n, time) → 64 ≤ time.toNat)
    (hunharmed : Unharmed output t) :
    Reporting s.maxRtcpPacketLen (arrivals ++ (e.arrival.map Prod.fst).toList)
      (sent ++ output.feedback)
      t.transportCcFeedbackPacket := by
  cases hreacts with
  | idle harrival _ hsame hsent =>
    rw [harrival, hsent, hsame.packet]
    simpa using h
  | @provided nowMs n ssrc timeMs _ provided _ u hprovides hsame hsent hanswers =>
    have hunharmed' : Unharmed provided u := by
      refine ⟨hanswers ▸ hunharmed.not_fatal, hsent ▸ hunharmed.sent_fits, ?_⟩
      rw [← hsame.packet]
      exact hunharmed.fits
    have hlate : 64 ≤ nowMs.toNat := htime n nowMs rfl
    rw [hsent, hsame.packet]
    change Reporting _ (arrivals ++ [n]) _ _
    cases arrivals with
    | nil =>
      obtain ⟨hbare, hbase, rfl⟩ := h
      have hbare' : (s.setSsrcs ssrc).transportCcFeedbackPacket.Bare :=
        (hready.setSsrcs 0 ssrc).bare hbare.no_deltas
      obtain ⟨hnone, hpacket⟩ := hprovides.rebases hbare' hbase
      rw [hnone, hpacket]
      have htracks := Tracks.based (c := ⟨n, nowMs, s.maxRtcpPacketLen⟩) hbare' hlate
      exact ⟨fun _ ↦ htracks, fun _ ↦ ⟨hbare'.rebase _, rfl⟩⟩
    | cons first rest =>
      change Reporting _ (first :: (rest ++ [n])) _ _
      refine ⟨fun hlen ↦ ?_, fun hlen ↦ ?_⟩
      · rw [unwrap_concat]
        exact hprovides.tracks (hready.setSsrcs 0 ssrc) ((h.1 hlen).setSsrcs 0 ssrc) hlen hlate
          hunharmed'
      · obtain ⟨hbare, rfl⟩ := h.2 hlen
        obtain ⟨hnone, hbare'⟩ :=
          hprovides.stays ((hready.setSsrcs 0 ssrc).bare hbare.no_deltas) hlen
        exact ⟨hbare', hnone⟩
  | expired =>
    change Reporting _ (arrivals ++ []) _ _
    rw [List.append_nil]
    cases arrivals with
    | nil =>
      obtain ⟨hbare, hbase, rfl⟩ := h
      rw [send_of_nil hbare.no_deltas]
      exact ⟨hbare, hbase, rfl⟩
    | cons first rest =>
      refine ⟨fun hlen ↦ tracks_send (h.1 hlen), fun hlen ↦ ?_⟩
      obtain ⟨hbare, rfl⟩ := h.2 hlen
      rw [send_of_nil hbare.no_deltas]
      exact ⟨hbare, rfl⟩
  | disconnected => exact absurd rfl hconnected

/-- The wide sequence numbers that arrived in a run. -/
def arrivals (records : List ServerRecord) : List (BitVec 16) :=
  records.flatMap fun r ↦ (r.event.arrival.map Prod.fst).toList

theorem arrivals_concat (hist : List ServerRecord) (r : ServerRecord) :
    arrivals (hist ++ [r]) = arrivals hist ++ (r.event.arrival.map Prod.fst).toList := by
  simp [arrivals]

/-- The invariant of what is reported. -/
def ReportingInv (len : ℕ) (hist : List ServerRecord) (s : TransportCongestionControlServer) :
    Prop :=
  s.maxRtcpPacketLen = len ∧ s.transportCcFeedbackPacket.Ready ∧
    ((∀ r ∈ hist, r.event ≠ .transportDisconnected ∧
        (∀ n time, r.event.arrival = some (n, time) → 64 ≤ time.toNat) ∧
        Unharmed r.output r.after) →
      Reporting len (arrivals hist) (sentFeedback hist) s.transportCcFeedbackPacket)

theorem reportingInv_step (len : ℕ) (hist : List ServerRecord) (r : ServerRecord)
    (h : ReportingInv len hist r.before) (hstep : step r.before r.event = .ok (r.output, r.after)) :
    ReportingInv len (hist ++ [r]) r.after := by
  obtain ⟨rfl, hready, hreporting⟩ := h
  have hreacts := reacts_of_step hready hstep
  refine ⟨hreacts.maxRtcpPacketLen_eq, hreacts.ready hready, fun hhist ↦ ?_⟩
  obtain ⟨hconnected, htime, hunharmed⟩ := hhist r (List.mem_append_right _ List.mem_cons_self)
  rw [arrivals_concat, sentFeedback_concat]
  exact hreacts.keepsReporting hready
    (hreporting fun r' hr' ↦ hhist r' (List.mem_append_left _ hr'))
    hconnected htime hunharmed

/-- **What is reported.** In every run without a disconnection in which no arrival time is below
64 ms, no call of `AddPacket` fails fatally and no status count wraps, the results of the feedback
packets that were sent, followed by those of the one under construction, are a contiguous sequence
of wide sequence numbers that starts right after the first arrival, and exactly those that were new
on arrival are received. -/
theorem reporting (len : ℕ) (events : List ServerEvent)
    (hconnected : .transportDisconnected ∉ events)
    (htime : ∀ e ∈ events, ∀ n time, e.arrival = some (n, time) → 64 ≤ time.toNat) :
    ∃ records, Run.trace step (init len) events = .ok records ∧
      ((∀ r ∈ records, Unharmed r.output r.after) →
        ∀ pre r post, records = pre ++ r :: post →
          ∃ results, packetResults
              (sentFeedback (pre ++ [r]) ++ [r.after.transportCcFeedbackPacket]) = .ok results ∧
            match arrivals (pre ++ [r]) with
            | [] => results = []
            | first :: rest => Reported len first rest results) := by
  obtain ⟨records, htrace⟩ := trace_total len events
  refine ⟨records, htrace, fun hunharmed pre r post hsplit ↦ ?_⟩
  have hinit : ReportingInv len [] (init len) :=
    ⟨rfl, ready_init len, fun _ ↦ ⟨bare_fresh 0 0 0, rfl, rfl⟩⟩
  obtain ⟨-, -, -, -, hreporting⟩ :=
    Run.trace_invariant_after (reportingInv_step len) hinit htrace hsplit
  have hreported := hreporting fun r' hr' ↦ by
    have hmem := Run.mem_of_split hsplit hr'
    have hevent : r'.event ∈ events := Run.trace_events htrace ▸ List.mem_map_of_mem hmem
    exact ⟨fun heq ↦ hconnected (heq ▸ hevent), htime r'.event hevent, hunharmed r' hmem⟩
  cases harrivals : arrivals (pre ++ [r]) with
  | nil =>
    rw [harrivals] at hreported
    obtain ⟨hbare, -, hsent⟩ := hreported
    rw [hsent]
    exact ⟨[], hbare.packetResults, rfl⟩
  | cons first rest =>
    rw [harrivals] at hreported
    rcases Nat.lt_or_ge len 24 with hlen | hlen
    · obtain ⟨hbare, hsent⟩ := hreported.2 hlen
      rw [hsent]
      exact ⟨[], hbare.packetResults, rfl, nofun, fun hge ↦ absurd hge (by omega)⟩
    · exact (hreported.1 hlen).reported len

/-- Packets are lost, reordered and repeated, and a feedback packet has room for one of them. -/
def busyEvents : List ServerEvent :=
  [.transportConnected, .incomingPacket 1000 (some 65534) 7 1000,
    .incomingPacket 1001 (some 2) 7 1001, .incomingPacket 1002 (some 1) 7 1002,
      .incomingPacket 1003 (some 4) 7 1003,
    .incomingPacket 1005 (some 4) 7 1005, .timer, .incomingPacket 1100 (some 5) 7 1100]

theorem reporting_busyEvents :
    ∃ pre r, Run.trace step (init 24) busyEvents = .ok (pre ++ [r]) ∧
      (sentFeedback (pre ++ [r])).length = 2 ∧ ∃ results : List PacketResult,
        packetResults (sentFeedback (pre ++ [r]) ++ [r.after.transportCcFeedbackPacket])
          = .ok results ∧ Reported 24 65534 [2, 1, 4, 4, 5] results := by
  have htimes : (busyEvents.all fun e ↦ match e.arrival with
      | some (_, time) => decide (64 ≤ time.toNat)
      | none => true) = true := by decide
  obtain ⟨records, htrace, hunharmed, harrivals, hlength⟩ :
      ∃ records, Run.trace step (init 24) busyEvents = .ok records ∧
        (∀ r ∈ records, Unharmed r.output r.after) ∧ arrivals records = [65534, 2, 1, 4, 4, 5] ∧
        (sentFeedback records).length = 2 := by
    decide +kernel
  obtain ⟨records', htrace', hreporting⟩ := reporting 24 busyEvents (by decide) (by
    intro e he n time harrival
    have hlate := List.all_eq_true.mp htimes e he
    rw [harrival] at hlate
    exact of_decide_eq_true hlate)
  cases htrace.symm.trans htrace'
  rcases List.eq_nil_or_concat records with rfl | ⟨pre, r, rfl⟩
  · cases harrivals
  · rw [List.concat_eq_append] at *
    have hreported := hreporting hunharmed pre r [] rfl
    rw [harrivals] at hreported
    exact ⟨pre, r, htrace, hlength, hreported⟩

/-- Time goes back to zero after the first arrival. -/
def backwardsEvents : List ServerEvent :=
  [.incomingPacket 64 (some 1) 7 64, .incomingPacket 0 (some 2) 7 0,
    .incomingPacket 64 (some 3) 7 64]

/-- **An arrival at time zero is forgotten.** The first arrival time is 64 ms, but the packet that
was recorded at time zero is taken for one without a base, and its result gets the number 4 instead
of 2. -/
theorem reporting_backwards :
    ∃ pre r, Run.trace step (init 1200) backwardsEvents = .ok (pre ++ [r]) ∧
      (∀ r' ∈ pre ++ [r], Unharmed r'.output r'.after) ∧ arrivals (pre ++ [r]) = [1, 2, 3] ∧
      ∃ results : List PacketResult,
        packetResults (sentFeedback (pre ++ [r]) ++ [r.after.transportCcFeedbackPacket])
          = .ok results ∧ results.map PacketResult.sequenceNumber = [4] ∧
        ¬Reported 1200 1 [2, 3] results := by
  obtain ⟨records, htrace, hunharmed, harrivals, r, hlast, results, hresults, hnumbers⟩ :
      ∃ records, Run.trace step (init 1200) backwardsEvents = .ok records ∧
        (∀ r ∈ records, Unharmed r.output r.after) ∧ arrivals records = [1, 2, 3] ∧
        ∃ r ∈ records.getLast?, ∃ results : List PacketResult,
          packetResults (sentFeedback records ++ [r.after.transportCcFeedbackPacket]) =
            .ok results ∧ results.map PacketResult.sequenceNumber = [4] := by
    decide +kernel
  obtain ⟨pre, rfl⟩ := List.getLast?_eq_some_iff.mp hlast
  refine ⟨pre, r, htrace, hunharmed, harrivals, results, hresults, hnumbers, fun hreported ↦ ?_⟩
  have hlength : results.length = 1 := by
    rw [← List.length_map (f := PacketResult.sequenceNumber), hnumbers]
    rfl
  have hcontiguous := hreported.contiguous
  rw [hnumbers, hlength] at hcontiguous
  exact absurd hcontiguous (by decide)

end TransportCongestionControlServer

end MediasoupSfu
