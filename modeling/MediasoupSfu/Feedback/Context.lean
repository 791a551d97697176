import Mathlib.Data.BitVec
import MediasoupSfu.Feedback.Report

/-!
# The context of the feedback encoder

What `FillChunk` does to the chunks of a packet depends on its context alone: on the statuses that
wait there, on the size of the gap and on the status of the new packet. This file takes the context
out of the packet. `Context.skip` and `Context.receive` are the two parts of `FillChunk` as
functions from a context to the chunks that are created and the context afterwards, and
`fillChunk_eq` says that the packet changes by exactly these chunks, the new context and the delta.

`Context.Advances` then collects, for a tidy context, everything that later files need to know about
one packet: which statuses are represented, how long the runs are, and how many chunks there will be
once what waits in the context is closed too.
-/

namespace MediasoupSfu

namespace Context

/-- The run length chunk for a run that waits in the context. -/
def run (ctx : Context) : Chunk :=
  .runLength ctx.currentStatus (BitVec.ofNat 16 ctx.statuses.length)

/-- The context after its statuses went into a chunk. -/
def cleared (ctx : Context) (status : Status) : Context :=
  { ctx with statuses := [], currentStatus := status }

/-- The context with missing packets added. -/
def withMissing (ctx : Context) (n : ℕ) : Context :=
  { ctx with
    statuses := ctx.statuses ++ List.replicate n .notReceived
    currentStatus := .notReceived }

/-- A run of seven or more is closed before a gap. -/
def closeRun (ctx : Context) : List Chunk × Context :=
  if 7 ≤ ctx.statuses.length ∧ ctx.allSameStatus then ([ctx.run], ctx.cleared .none) else ([], ctx)

/-- The gap tops up the context, as far as there is room. -/
def topUp (ctx : Context) (represented : ℕ) : List Chunk × Context :=
  if (ctx.withMissing represented).statuses.length = 7 then
    ([.twoBitVector (ctx.withMissing represented).statuses],
      (ctx.withMissing represented).cleared .none)
  else ([], ctx.withMissing represented)

/-- What is left of the gap goes into a run length chunk. -/
def skipRest (ctx : Context) (missing : BitVec 16) : List Chunk × Context :=
  if missing ≠ 0 then ([.runLength .notReceived missing], ctx.cleared .none) else ([], ctx)

/-- The first part of `FillChunk`. -/
def skip (ctx : Context) (missing : BitVec 16) : List Chunk × Context :=
  let (first, ctx) := ctx.closeRun
  let represented := min missing.toNat (7 - ctx.statuses.length)
  let (second, ctx) := ctx.topUp represented
  let (third, ctx) := ctx.skipRest (missing - BitVec.ofNat 16 represented)
  (first ++ (second ++ third), ctx)

/-- The context with the status of a received packet added. -/
def withReceived (ctx : Context) (status : Status) : Context where
  allSameStatus := decide (ctx.currentStatus = .none) ||
    (ctx.allSameStatus && decide (ctx.currentStatus = status))
  currentStatus := status
  statuses := ctx.statuses ++ [status]

/-- The packet joins the context, which may be full then. -/
def join (ctx : Context) (status : Status) : List Chunk × Context :=
  if (ctx.withReceived status).statuses.length = 7 ∧ ¬(ctx.withReceived status).allSameStatus then
    ([.twoBitVector (ctx.withReceived status).statuses], (ctx.withReceived status).cleared .none)
  else ([], ctx.withReceived status)

/-- The second part of `FillChunk`. -/
def receive (ctx : Context) (status : Status) : List Chunk × Context :=
  if 7 ≤ ctx.statuses.length ∧ ctx.allSameStatus ∧ status ≠ ctx.currentStatus then
    let (chunks, ctx') := (ctx.cleared ctx.currentStatus).join status
    (ctx.run :: chunks, ctx')
  else ctx.join status

/-- `FillChunk`, for a gap of `missing` packets before a packet with the status. -/
def advance (ctx : Context) (missing : BitVec 16) (status : Status) : List Chunk × Context :=
  let (skipped, ctx) := if 0 < missing then ctx.skip missing else ([], ctx)
  let (received, ctx) := ctx.receive status
  (skipped ++ received, ctx)

end Context

namespace FeedbackRtpTransportPacket

/-! ## The packet and its context -/

/-- The chunks are created, and the context is replaced. -/
def create (p : FeedbackRtpTransportPacket) (step : List Chunk × Context) :
    FeedbackRtpTransportPacket :=
  { step.1.foldl createChunk p with context := step.2 }

theorem foldl_createChunk_context (p : FeedbackRtpTransportPacket) (ctx : Context)
    (chunks : List Chunk) :
    chunks.foldl createChunk { p with context := ctx } =
      { chunks.foldl createChunk p with context := ctx } := by
  induction chunks generalizing p with
  | nil => rfl
  | cons c chunks ih => exact ih (p.createChunk c)

theorem create_create (p : FeedbackRtpTransportPacket) (a b : List Chunk × Context) :
    (p.create a).create b = p.create (a.1 ++ b.1, b.2) := by
  unfold create
  rw [foldl_createChunk_context, List.foldl_append]

@[simp] theorem context_create (p : FeedbackRtpTransportPacket) (a : List Chunk × Context) :
    (p.create a).context = a.2 := rfl

theorem closeRun_eq (p : FeedbackRtpTransportPacket) :
    (if 7 ≤ p.context.statuses.length ∧ p.context.allSameStatus then
      (p.createRunLengthChunk p.context.currentStatus
        (BitVec.ofNat 16 p.context.statuses.length)).setContext [] .none
    else p) = p.create p.context.closeRun := by
  unfold Context.closeRun
  split_ifs <;> rfl

theorem topUp_eq (p : FeedbackRtpTransportPacket) (n : ℕ) :
    (let q := p.setContext (p.context.statuses ++ List.replicate n .notReceived) .notReceived
    if q.context.statuses.length = 7 then
      (q.createTwoBitVectorChunk q.context.statuses).setContext [] .none
    else q) = p.create (p.context.topUp n) := by
  unfold Context.topUp
  by_cases hfull : (p.context.withMissing n).statuses.length = 7
  · rw [if_pos hfull]
    exact if_pos hfull
  · rw [if_neg hfull]
    exact if_neg hfull

theorem skipRest_eq (p : FeedbackRtpTransportPacket) (missing : BitVec 16) :
    (if missing ≠ 0 then (p.createRunLengthChunk .notReceived missing).setContext [] .none else p) =
      p.create (p.context.skipRest missing) := by
  unfold Context.skipRest
  split_ifs <;> rfl

theorem fillMissing_eq (p : FeedbackRtpTransportPacket) (missing : BitVec 16) :
    p.fillMissing missing = p.create (p.context.skip missing) := by
  unfold fillMissing
  dsimp only
  rw [closeRun_eq, topUp_eq, skipRest_eq]
  simp only [create_create, context_create, List.append_assoc]
  rfl

/-- The delta of a received packet is added. -/
def withDelta (p : FeedbackRtpTransportPacket) (delta : BitVec 16) : FeedbackRtpTransportPacket :=
  { p with
    deltas := p.deltas ++ [delta]
    deltasAndChunksSize := p.deltasAndChunksSize + (serializeDelta delta).length }

theorem withDelta_foldl_createChunk (p : FeedbackRtpTransportPacket) (chunks : List Chunk)
    (delta : BitVec 16) :
    (chunks.foldl createChunk p).withDelta delta =
      chunks.foldl createChunk (p.withDelta delta) := by
  induction chunks generalizing p with
  | nil => rfl
  | cons c chunks ih =>
    rw [List.foldl_cons, List.foldl_cons, ih]
    congr 1
    unfold withDelta createChunk
    dsimp only
    rw [Nat.add_right_comm]

theorem withDelta_create (p : FeedbackRtpTransportPacket) (a : List Chunk × Context)
    (delta : BitVec 16) : (p.create a).withDelta delta = (p.withDelta delta).create a := by
  unfold create
  rw [← withDelta_foldl_createChunk]
  rfl

theorem join_eq (p : FeedbackRtpTransportPacket) (delta : BitVec 16) :
    (let status := deltaStatus delta
    let statuses := p.context.statuses ++ [status]
    let allSameStatus := decide (p.context.currentStatus = .none) ||
      (p.context.allSameStatus && decide (p.context.currentStatus = status))
    let q := { p with
      deltas := p.deltas ++ [delta]
      deltasAndChunksSize := p.deltasAndChunksSize + if status = .smallDelta then 1 else 2
      context := { allSameStatus := allSameStatus, currentStatus := status, statuses := statuses } }
    if statuses.length = 7 ∧ ¬allSameStatus then
      (q.createTwoBitVectorChunk statuses).setContext [] .none
    else q) = (p.withDelta delta).create (p.context.join (deltaStatus delta)) := by
  unfold Context.join withDelta
  rw [length_serializeDelta]
  by_cases hfull : (p.context.withReceived (deltaStatus delta)).statuses.length = 7 ∧
      ¬(p.context.withReceived (deltaStatus delta)).allSameStatus
  · rw [if_pos hfull]
    exact if_pos hfull
  · rw [if_neg hfull]
    exact if_neg hfull

theorem fillReceived_eq (p : FeedbackRtpTransportPacket) (delta : BitVec 16) :
    p.fillReceived delta = (p.withDelta delta).create (p.context.receive (deltaStatus delta)) := by
  unfold fillReceived Context.receive
  dsimp only
  by_cases hrun : 7 ≤ p.context.statuses.length ∧ p.context.allSameStatus ∧
      deltaStatus delta ≠ p.context.currentStatus
  · rw [if_pos hrun, if_pos hrun]
    refine (join_eq _ delta).trans ?_
    exact (congrArg (create · _)
      (withDelta_create p ([p.context.run], p.context.cleared _) delta)).trans
      (create_create _ _ _)
  · rw [if_neg hrun, if_neg hrun]
    exact join_eq p delta

/-- **One packet.** `FillChunk` creates the chunks of the context's step, and adds the delta. -/
theorem fillChunk_eq (p : FeedbackRtpTransportPacket) (previous sequenceNumber delta : BitVec 16) :
    p.fillChunk previous sequenceNumber delta = (p.withDelta delta).create
      (p.context.advance (sequenceNumber - (previous + 1)) (deltaStatus delta)) := by
  unfold fillChunk Context.advance
  dsimp only
  rw [fillReceived_eq]
  split_ifs
  · rw [fillMissing_eq, withDelta_create, create_create]
    rfl
  · rfl

/-! ## The members that a step changes -/

@[simp] theorem chunks_create (p : FeedbackRtpTransportPacket) (a : List Chunk × Context) :
    (p.create a).chunks = p.chunks ++ a.1 := by
  obtain ⟨chunks, ctx⟩ := a
  change (chunks.foldl createChunk p).chunks = p.chunks ++ chunks
  induction chunks generalizing p with
  | nil => exact (List.append_nil _).symm
  | cons c chunks ih =>
    rw [List.foldl_cons, ih]
    exact List.append_assoc p.chunks [c] chunks

@[simp] theorem deltasAndChunksSize_create (p : FeedbackRtpTransportPacket)
    (a : List Chunk × Context) :
    (p.create a).deltasAndChunksSize = p.deltasAndChunksSize + 2 * a.1.length := by
  obtain ⟨chunks, ctx⟩ := a
  change (chunks.foldl createChunk p).deltasAndChunksSize = _ + 2 * chunks.length
  induction chunks generalizing p with
  | nil => rfl
  | cons c chunks ih =>
    rw [List.foldl_cons, ih, List.length_cons]
    change p.deltasAndChunksSize + 2 + _ = _
    omega

theorem packetStatusCount_create (p : FeedbackRtpTransportPacket) (a : List Chunk × Context) :
    (p.create a).packetStatusCount = p.packetStatusCount + (a.1.map Chunk.getCount).sum := by
  obtain ⟨chunks, ctx⟩ := a
  change (chunks.foldl createChunk p).packetStatusCount = _ + (chunks.map Chunk.getCount).sum
  induction chunks generalizing p with
  | nil => exact (BitVec.add_zero _).symm
  | cons c chunks ih =>
    rw [List.foldl_cons, ih, List.map_cons, List.sum_cons, ← BitVec.add_assoc]
    rfl

/-- The members that creating chunks leaves as they are. -/
theorem foldl_createChunk_frame (p : FeedbackRtpTransportPacket) (chunks : List Chunk) :
    (chunks.foldl createChunk p).header = p.header ∧
    (chunks.foldl createChunk p).deltas = p.deltas ∧
      (chunks.foldl createChunk p).latestSequenceNumber = p.latestSequenceNumber ∧
      (chunks.foldl createChunk p).latestTimestamp = p.latestTimestamp := by
  induction chunks generalizing p with
  | nil => exact ⟨rfl, rfl, rfl, rfl⟩
  | cons c chunks ih => exact ih (p.createChunk c)

end FeedbackRtpTransportPacket

/-! ## One packet in a tidy context -/

namespace Chunk

/-- A chunk of the kinds and sizes that the encoder creates. -/
def Written : Chunk → Prop
  | runLength _ _ => True
  | oneBitVector _ => False
  | twoBitVector statuses => statuses.length ≤ 7

theorem Written.sized {c : Chunk} (h : c.Written) : c.Sized := by
  cases c with
  | runLength status count =>
    rw [Sized, symbols, List.length_replicate]
    exact count.isLt
  | oneBitVector statuses => exact h.elim
  | twoBitVector statuses => exact Nat.lt_of_le_of_lt h (by decide)

/-- It is written as two bytes. -/
theorem Written.serialize {c : Chunk} (h : c.Written) :
    ∃ bytes, c.serialize = .ok bytes ∧ bytes.length = 2 := by
  cases c with
  | runLength status count => exact ⟨_, rfl, rfl⟩
  | oneBitVector statuses => exact h.elim
  | twoBitVector statuses =>
    have hle : statuses.length ≤ 7 := h
    refine ⟨Byte.set2Bytes (packStatuses 2 12 (0x8000 ||| 0x01 <<< 14) statuses), ?_, rfl⟩
    simp only [Chunk.serialize, hle, decide_true, msAssert_true]
    rfl

end Chunk

namespace Context

variable {ctx : Context} {missing : BitVec 16} {status : Status}

/-- The statuses that a gap finds waiting: a run of seven or more is closed first. -/
def kept (ctx : Context) : List Status := if 7 ≤ ctx.statuses.length then [] else ctx.statuses

/-- The chunk of a run that a gap closes. -/
def closedRun (ctx : Context) : List Chunk := if 7 ≤ ctx.statuses.length then [ctx.run] else []

theorem length_kept_lt (ctx : Context) : ctx.kept.length < 7 := by
  unfold kept
  split
  · decide
  · omega

theorem Tidy.closeRun_eq (h : ctx.Tidy) : ∃ current,
    ctx.closeRun = (ctx.closedRun,
      { ctx with statuses := ctx.kept, currentStatus := current }) := by
  unfold closeRun closedRun kept
  by_cases hlong : 7 ≤ ctx.statuses.length
  · rw [if_pos ⟨hlong, (h.long hlong).1⟩, if_pos hlong, if_pos hlong]
    exact ⟨.none, rfl⟩
  · rw [if_neg fun hrun ↦ hlong hrun.1, if_neg hlong, if_neg hlong]
    exact ⟨ctx.currentStatus, rfl⟩

/-- A gap that leaves the context shorter than seven statuses waits there. -/
theorem Tidy.skip_wait (h : ctx.Tidy) (hfew : ctx.kept.length + missing.toNat < 7) :
    ctx.skip missing = (ctx.closedRun, { ctx with
      statuses := ctx.kept ++ List.replicate missing.toNat .notReceived
      currentStatus := .notReceived }) := by
  obtain ⟨current, hclose⟩ := h.closeRun_eq
  unfold skip
  rw [hclose]
  dsimp only
  have hmin : min missing.toNat (7 - ctx.kept.length) = missing.toNat := by omega
  have hnot : ¬(ctx.kept ++ List.replicate missing.toNat Status.notReceived).length = 7 := by
    rw [List.length_append, List.length_replicate]
    omega
  have hdone : ¬missing - BitVec.ofNat 16 missing.toNat ≠ 0 := by simp
  rw [hmin]
  unfold topUp skipRest withMissing
  rw [if_neg hnot, if_neg hdone, List.append_nil, List.append_nil]

/-- The number of missing packets that top up the context. -/
def room (ctx : Context) : ℕ := 7 - ctx.kept.length

/-- The vector of seven symbols that a gap completes. -/
theorem length_kept_room (ctx : Context) :
    (ctx.kept ++ List.replicate ctx.room Status.notReceived).length = 7 := by
  have hkept := ctx.length_kept_lt
  rw [List.length_append, List.length_replicate]
  unfold room
  omega

/-- A longer gap fills a two bit vector chunk, and the rest of it a run length chunk. -/
theorem Tidy.skip_close (h : ctx.Tidy) (hmany : 7 ≤ ctx.kept.length + missing.toNat) :
    ctx.skip missing = (ctx.closedRun ++
      (.twoBitVector (ctx.kept ++ List.replicate ctx.room .notReceived) ::
        if missing.toNat = ctx.room then []
        else [.runLength .notReceived (missing - BitVec.ofNat 16 ctx.room)]),
      ctx.cleared .none) := by
  obtain ⟨current, hclose⟩ := h.closeRun_eq
  have hkept := ctx.length_kept_lt
  unfold skip
  rw [hclose]
  dsimp only
  have hmin : min missing.toNat (7 - ctx.kept.length) = ctx.room := by
    unfold room
    omega
  have hseven := ctx.length_kept_room
  have hzero : missing - BitVec.ofNat 16 ctx.room = 0 ↔ missing.toNat = ctx.room := by
    have hlt := missing.isLt
    have hroom : (BitVec.ofNat 16 ctx.room).toNat = ctx.room := by
      rw [BitVec.toNat_ofNat]
      unfold room
      omega
    have hsame : missing - BitVec.ofNat 16 ctx.room = 0 ↔ missing = BitVec.ofNat 16 ctx.room := by
      rw [← BitVec.toNat_inj]
      exact Serial.pos_eq_zero
    rw [hsame, ← BitVec.toNat_inj, hroom]
  rw [hmin]
  unfold topUp skipRest withMissing
  rw [if_pos hseven]
  by_cases hrest : missing.toNat = ctx.room
  · rw [if_pos hrest, if_neg (not_not.mpr (hzero.mpr hrest))]
    rfl
  · rw [if_neg hrest, if_pos fun hc ↦ hrest (hzero.mp hc)]
    rfl

/-- What is known about the step of a context for a gap and the packet after it. -/
structure Advances (ctx : Context) (gap : ℕ) (status : Status) (step : List Chunk × Context) : Prop
    where
  tidy : step.2.Tidy
  /-- What waits ends with the status of a received packet. -/
  waiting : step.2.statuses ≠ [] → step.2.currentStatus.isReceived = true
  /-- The chunks and the context stand for the statuses that waited, the gap and the packet. -/
  symbols : ctx.statuses.length < 2 ^ 16 → step.1.flatMap Chunk.symbols ++ step.2.statuses =
    ctx.statuses ++ (List.replicate gap .notReceived ++ [status])
  /-- No run is longer than the gap or the run that waited. -/
  runs : ∀ s c, Chunk.runLength s c ∈ step.1 →
    c.toNat ≤ gap ∨ (7 ≤ ctx.statuses.length ∧ c.toNat ≤ ctx.statuses.length)
  written : ∀ c ∈ step.1, c.Written
  /-- The context grows by the packet, or is short. -/
  pending : step.2.statuses.length ≤ ctx.statuses.length + 1 ∨ step.2.statuses.length ≤ 7

/-- A run that waits is represented by its chunk. -/
theorem Tidy.symbols_run (h : ctx.Tidy) (hlong : 7 ≤ ctx.statuses.length)
    (hlt : ctx.statuses.length < 2 ^ 16) : ctx.run.symbols = ctx.statuses := by
  rw [run, Chunk.symbols, BitVec.toNat_ofNat, Nat.mod_eq_of_lt hlt]
  exact (h.eq_replicate hlong).symm

theorem Tidy.symbols_closedRun (h : ctx.Tidy) (hlt : ctx.statuses.length < 2 ^ 16) :
    ctx.closedRun.flatMap Chunk.symbols ++ ctx.kept = ctx.statuses := by
  unfold closedRun kept
  by_cases hlong : 7 ≤ ctx.statuses.length
  · rw [if_pos hlong, if_pos hlong, List.flatMap_singleton, h.symbols_run hlong hlt,
      List.append_nil]
  · rw [if_neg hlong, if_neg hlong]
    rfl

theorem mem_closedRun {c : Chunk} (h : c ∈ ctx.closedRun) : c = ctx.run := by
  unfold closedRun at h
  split at h
  · exact List.mem_singleton.mp h
  · cases h

theorem toNat_run_le (ctx : Context) :
    (BitVec.ofNat 16 ctx.statuses.length).toNat ≤ ctx.statuses.length := by
  rw [BitVec.toNat_ofNat]
  exact Nat.mod_le _ _

/-- The packet joins a context. -/
theorem join_spec (hs : status.isReceived = true) (htidy : ctx.Tidy)
    (hcont : 7 ≤ ctx.statuses.length → ctx.currentStatus = status) :
    (ctx.join status).2.Tidy ∧
      ((ctx.join status).2.statuses ≠ [] → (ctx.join status).2.currentStatus.isReceived = true) ∧
      (ctx.join status).1.flatMap Chunk.symbols ++ (ctx.join status).2.statuses =
        ctx.statuses ++ [status] ∧
      (∀ c ∈ (ctx.join status).1, ∃ statuses, c = .twoBitVector statuses ∧
        statuses.length = 7) := by
  unfold join
  by_cases hfull : (ctx.withReceived status).statuses.length = 7 ∧
      ¬(ctx.withReceived status).allSameStatus
  · rw [if_pos hfull]
    refine ⟨.empty rfl, fun hne ↦ absurd rfl hne,
      by simp [withReceived, Chunk.symbols, cleared], ?_⟩
    intro c hc
    exact ⟨_, List.mem_singleton.mp hc, hfull.1⟩
  · rw [if_neg hfull]
    refine ⟨⟨fun hsame _ s hmem ↦ ?_, fun hnone ↦ ?_, fun hlong ↦ ⟨?_, hs⟩⟩, fun _ ↦ hs, rfl,
      List.forall_mem_nil _⟩
    · rcases List.mem_append.mp hmem with hmem | hmem
      · rw [withReceived, Bool.or_eq_true, Bool.and_eq_true, decide_eq_true_iff,
          decide_eq_true_iff] at hsame
        rcases hsame with hnone | ⟨hall, hcur⟩
        · rw [htidy.none hnone] at hmem
          cases hmem
        · exact (htidy.same hall (hcur ▸ hs) s hmem).trans hcur
      · exact List.mem_singleton.mp hmem
    · rw [show status = .none from hnone] at hs
      cases hs
    · by_contra hnot
      have hmore : 7 ≤ ctx.statuses.length := by
        have hne : (ctx.withReceived status).statuses.length ≠ 7 := fun heq ↦ hfull ⟨heq, hnot⟩
        change 7 ≤ (ctx.statuses ++ [status]).length at hlong
        change (ctx.statuses ++ [status]).length ≠ 7 at hne
        rw [List.length_append, List.length_singleton] at hlong hne
        omega
      exact hnot (by simp [withReceived, hcont hmore, (htidy.long hmore).1])

/-- The second part of `FillChunk`, in a context that is tidy. -/
theorem receive_spec (hs : status.isReceived = true) (htidy : ctx.Tidy) :
    ctx.Advances 0 status (ctx.receive status) := by
  unfold receive
  by_cases hrun : 7 ≤ ctx.statuses.length ∧ ctx.allSameStatus ∧ status ≠ ctx.currentStatus
  · rw [if_pos hrun]
    have hempty : (ctx.cleared ctx.currentStatus).statuses = [] := rfl
    obtain ⟨htidy', hwaiting, hsymbols, hchunks⟩ := join_spec hs (.empty hempty)
      (fun hlong ↦ absurd hlong (by rw [hempty]; decide))
    refine ⟨htidy', hwaiting, fun hlt ↦ ?_, fun s c hc ↦ ?_, fun c hc ↦ ?_, ?_⟩
    · rw [hempty, List.nil_append] at hsymbols
      dsimp only
      rw [List.flatMap_cons, List.append_assoc, hsymbols, htidy.symbols_run hrun.1 hlt]
      rfl
    · rcases List.mem_cons.mp hc with hc | hc
      · cases hc
        exact Or.inr ⟨hrun.1, ctx.toNat_run_le⟩
      · obtain ⟨_, heq, -⟩ := hchunks _ hc
        cases heq
    · rcases List.mem_cons.mp hc with rfl | hc
      · trivial
      · obtain ⟨_, rfl, hseven⟩ := hchunks _ hc
        exact hseven.le
    · have hlength := congrArg List.length hsymbols
      rw [hempty, List.length_append] at hlength
      change _ = 1 at hlength
      exact Or.inr (by dsimp only; omega)
  · rw [if_neg hrun]
    obtain ⟨htidy', hwaiting, hsymbols, hchunks⟩ := join_spec hs htidy fun hlong ↦ by
      by_contra hne
      exact hrun ⟨hlong, (htidy.long hlong).1, Ne.symm hne⟩
    refine ⟨htidy', hwaiting, fun _ ↦ hsymbols, fun s c hc ↦ ?_, fun c hc ↦ ?_, ?_⟩
    · obtain ⟨_, heq, -⟩ := hchunks _ hc
      cases heq
    · obtain ⟨_, rfl, hseven⟩ := hchunks _ hc
      exact hseven.le
    · have hlength := congrArg List.length hsymbols
      rw [List.length_append, List.length_append] at hlength
      change _ = _ + 1 at hlength
      exact Or.inl (by omega)

/-- The first part of `FillChunk`, in a context that is tidy. -/
theorem skip_spec (htidy : ctx.Tidy) (missing : BitVec 16) : (ctx.skip missing).2.Tidy ∧
    (ctx.skip missing).2.statuses.length < 7 ∧
    (ctx.statuses.length < 2 ^ 16 → (ctx.skip missing).1.flatMap Chunk.symbols ++
      (ctx.skip missing).2.statuses = ctx.statuses ++ List.replicate missing.toNat .notReceived) ∧
    (∀ s c, Chunk.runLength s c ∈ (ctx.skip missing).1 →
      c.toNat ≤ missing.toNat ∨ (7 ≤ ctx.statuses.length ∧ c.toNat ≤ ctx.statuses.length)) ∧
    ∀ c ∈ (ctx.skip missing).1, c.Written := by
  have hkept := ctx.length_kept_lt
  have hrun : ∀ s c, Chunk.runLength s c ∈ ctx.closedRun →
      7 ≤ ctx.statuses.length ∧ c.toNat ≤ ctx.statuses.length := by
    intro s c hc
    unfold closedRun at hc
    split at hc
    · cases List.mem_singleton.mp hc
      exact ⟨‹_›, ctx.toNat_run_le⟩
    · cases hc
  have hrunWritten : ∀ c ∈ ctx.closedRun, c.Written := fun c hc ↦ mem_closedRun hc ▸ trivial
  by_cases hfew : ctx.kept.length + missing.toNat < 7
  · rw [htidy.skip_wait hfew]
    refine ⟨⟨fun _ hrec ↦ ?_, fun hnone ↦ ?_, fun hlong ↦ ?_⟩, ?_, fun hlt ↦ ?_,
      fun s c hc ↦ Or.inr (hrun s c hc), hrunWritten⟩
    · cases hrec
    · cases hnone
    · rw [List.length_append, List.length_replicate] at hlong
      omega
    · rw [List.length_append, List.length_replicate]
      exact hfew
    · rw [← List.append_assoc, htidy.symbols_closedRun hlt]
  · have hroom : ctx.room ≤ missing.toNat := by
      unfold room
      omega
    have hseven := ctx.length_kept_room
    have hrest : (missing - BitVec.ofNat 16 ctx.room).toNat = missing.toNat - ctx.room := by
      have hmissing := missing.isLt
      have hnat : (BitVec.ofNat 16 ctx.room).toNat = ctx.room := by
        rw [BitVec.toNat_ofNat, Nat.mod_eq_of_lt (by omega)]
      rw [BitVec.toNat_sub_of_le (BitVec.le_def.mpr (by omega)), hnat]
    rw [htidy.skip_close (by omega)]
    refine ⟨.empty rfl, Nat.succ_pos 6, fun hlt ↦ ?_, fun s c hc ↦ ?_, fun c hc ↦ ?_⟩
    · have hgap : missing.toNat = ctx.room + (missing.toNat - ctx.room) := by omega
      have htail : (if missing.toNat = ctx.room then []
          else [Chunk.runLength .notReceived (missing - BitVec.ofNat 16 ctx.room)]).flatMap
            Chunk.symbols = List.replicate (missing.toNat - ctx.room) .notReceived := by
        split
        · rw [Nat.sub_eq_zero_of_le (by omega)]
          rfl
        · rw [List.flatMap_singleton, Chunk.symbols, hrest]
      conv_rhs => rw [← htidy.symbols_closedRun hlt, hgap, ← List.replicate_append_replicate]
      simp only [List.flatMap_append, List.flatMap_cons, htail, Chunk.symbols, cleared,
        List.append_assoc, List.append_nil]
    · rcases List.mem_append.mp hc with hc | hc
      · exact Or.inr (hrun s c hc)
      · rcases List.mem_cons.mp hc with hc | hc
        · cases hc
        · split at hc
          · cases hc
          · cases List.mem_singleton.mp hc
            exact Or.inl (by omega)
    · rcases List.mem_append.mp hc with hc | hc
      · exact hrunWritten c hc
      · rcases List.mem_cons.mp hc with rfl | hc
        · exact hseven.le
        · split at hc
          · cases hc
          · rw [List.mem_singleton.mp hc]
            trivial

/-- **One packet.** -/
theorem advance_spec (hs : status.isReceived = true) (htidy : ctx.Tidy) (missing : BitVec 16) :
    ctx.Advances missing.toNat status (ctx.advance missing status) := by
  unfold advance
  dsimp only
  by_cases hpos : 0 < missing
  · rw [if_pos hpos]
    obtain ⟨htidy', hshort, hsymbols, hruns, hwritten⟩ := skip_spec htidy missing
    have hreceive := receive_spec hs htidy'
    refine ⟨hreceive.tidy, hreceive.waiting, fun hlt ↦ ?_, fun s c hc ↦ ?_, fun c hc ↦ ?_, ?_⟩
    · rw [List.flatMap_append, List.append_assoc, hreceive.symbols (by omega), ← List.append_assoc,
        hsymbols hlt]
      simp
    · rcases List.mem_append.mp hc with hc | hc
      · exact hruns s c hc
      · rcases hreceive.runs s c hc with hle | ⟨hlong, -⟩
        · exact Or.inl (by omega)
        · omega
    · rcases List.mem_append.mp hc with hc | hc
      · exact hwritten c hc
      · exact hreceive.written c hc
    · rcases hreceive.pending with hpending | hpending
      · exact Or.inr (by dsimp only; omega)
      · exact Or.inr hpending
  · have hzero : missing.toNat = 0 := by simpa [BitVec.lt_def] using hpos
    rw [if_neg hpos, hzero]
    exact receive_spec hs htidy

/-! ## Closing what waits -/

/-- The chunk for the statuses that wait in the context. -/
def pendingChunks (ctx : Context) : List Chunk :=
  if ctx.statuses = [] then [] else if ctx.allSameStatus then [ctx.run]
    else [.twoBitVector ctx.statuses]

theorem length_pendingChunks (ctx : Context) :
    ctx.pendingChunks.length = if ctx.statuses = [] then 0 else 1 := by
  unfold pendingChunks
  split_ifs <;> rfl

/-- A context that is tidy and ends with a received packet is represented by its chunk. -/
theorem Tidy.symbols_pendingChunks (h : ctx.Tidy)
    (hwaiting : ctx.statuses ≠ [] → ctx.currentStatus.isReceived = true)
    (hlt : ctx.statuses.length < 2 ^ 16) :
    ctx.pendingChunks.flatMap Chunk.symbols = ctx.statuses := by
  unfold pendingChunks
  by_cases hempty : ctx.statuses = []
  · rw [if_pos hempty, hempty]
    rfl
  · rw [if_neg hempty]
    by_cases hsame : ctx.allSameStatus = true
    · rw [if_pos hsame, List.flatMap_singleton, run, Chunk.symbols, BitVec.toNat_ofNat,
        Nat.mod_eq_of_lt hlt]
      exact (List.eq_replicate_iff.mpr ⟨rfl, h.same hsame (hwaiting hempty)⟩).symm
    · rw [if_neg hsame, List.flatMap_singleton, Chunk.symbols]

/-- A mixed context is shorter than seven statuses. -/
theorem Tidy.length_lt_of_mixed (h : ctx.Tidy) (hmixed : ¬ctx.allSameStatus = true) :
    ctx.statuses.length < 7 := by
  by_contra hlong
  exact hmixed (h.long (by omega)).1

theorem Tidy.written_pendingChunks (h : ctx.Tidy) : ∀ c ∈ ctx.pendingChunks, c.Written := by
  intro c hc
  unfold pendingChunks at hc
  split_ifs at hc with hempty hsame
  · cases hc
  · rw [List.mem_singleton.mp hc]
    trivial
  · rw [List.mem_singleton.mp hc]
    exact (h.length_lt_of_mixed hsame).le

theorem runs_pendingChunks {s : Status} {c : BitVec 16}
    (h : Chunk.runLength s c ∈ ctx.pendingChunks) : c.toNat ≤ ctx.statuses.length := by
  unfold pendingChunks at h
  split_ifs at h
  · cases h
  · cases List.mem_singleton.mp h
    exact ctx.toNat_run_le
  · cases List.mem_singleton.mp h

end Context

/-- **The final flush.** `AddPendingChunks` does not fail, and creates the chunk of the context. -/
theorem FeedbackRtpTransportPacket.addPendingChunks_eq {p : FeedbackRtpTransportPacket}
    (h : p.context.Tidy) : p.addPendingChunks =
      .ok (p.create (p.context.pendingChunks, { p.context with statuses := [] })) := by
  unfold addPendingChunks Context.pendingChunks
  by_cases hempty : p.context.statuses = []
  · rw [if_pos hempty, if_pos hempty]
    obtain ⟨⟩ := p
    rename_i context _ _
    obtain ⟨⟩ := context
    dsimp only at hempty
    subst hempty
    rfl
  · rw [if_neg hempty, if_neg hempty]
    by_cases hsame : p.context.allSameStatus = true
    · rw [if_pos hsame, if_pos hsame]
      rfl
    · have hshort := h.length_lt_of_mixed hsame
      rw [if_neg hsame, if_neg hsame]
      simp only [hshort, decide_true, msAssert_true]
      rfl

end MediasoupSfu
