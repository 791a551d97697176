import MediasoupSfu.Nack.Soundness
import MediasoupSfu.Rtp.Rtx
import MediasoupSfu.Stream.SeqState

/-!
# The receiving stream

`RtpStreamRecv` takes the packets of a producer: media packets by `ReceivePacket`, and packets that
come in the RTX format by `ReceiveRtxPacket`. Both validate the sequence number and pass the packet
to the NACK generator; a packet is handed on exactly if the method returns true.

A media packet is handed on unless its sequence number is invalid. A packet that came by RTX is
handed on only if it had been requested. One that is newer than everything received so far is kept
back, and the generator remembers its sequence number so as not to request it; that is the only
reason for which a skipped sequence number is not requested at once (`nack_complete`).

Jitter, transmission counters, score and the inactivity timer are not part of the model. Whether a
packet starts a key frame is found out by the codec and comes with the packet.
-/

namespace MediasoupSfu

open Serial Ordered

/-- The members of `RtxStream` that receiving works on. -/
structure RtxStream where
  seqState : SeqState := {}
  packetsCount : ℕ := 0
  deriving DecidableEq, Repr

/-- `RtxStream::ReceivePacket(packet)`. -/
def RtxStream.receivePacket (s : RtxStream) (seq : BitVec 16) (timestamp : BitVec 32)
    (nowMs : BitVec 64) : Bool × RtxStream :=
  let (valid, seqState) := s.seqState.receivePacket seq timestamp nowMs
  if valid then (true, { seqState := seqState, packetsCount := s.packetsCount + 1 })
  else (false, { s with seqState := seqState })

/-- The members of `RtpStream::Params` that the stream classes use here. -/
structure RtpStreamParams where
  ssrc : BitVec 32
  payloadType : Byte
  rtxSsrc : BitVec 32 := 0
  rtxPayloadType : Byte := 0
  clockRate : BitVec 32 := 0
  useNack : Bool := false
  deriving DecidableEq, Repr

/-- The members of `RtpStreamRecv` that receiving works on. The generator of a stream without NACK
support is never used. -/
structure RtpStreamRecv where
  params : RtpStreamParams
  seqState : SeqState := {}
  rtxStream : Option RtxStream := none
  packetsRetransmitted : ℕ := 0
  packetsRepaired : ℕ := 0
  nackGenerator : NackGenerator := {}

/-- What can happen to a receiving stream. -/
inductive RecvEvent where
  /-- A call of `ReceivePacket`. -/
  | receivePacket (packet : RtpPacket) (search : SeqSearch) (isKeyFrame : Bool) (nowMs : BitVec 64)
  /-- A call of `ReceiveRtxPacket`. -/
  | receiveRtxPacket (packet : RtpPacket) (search : SeqSearch) (isKeyFrame : Bool)
      (nowMs : BitVec 64)
  /-- The timer of the NACK generator expires. -/
  | nackTimer (nowMs : BitVec 64)
  /-- The end of `ReceiveRtcpXrDelaySinceLastRr`, once the round trip time is computed. -/
  | updateRtt (rtt : BitVec 32)
  /-- A call of `Pause`. -/
  | pause
  /-- A call of `SetRtx`. -/
  | setRtx (payloadType : Byte) (ssrc : BitVec 32)

namespace RtpStreamRecv

/-- `ReceivePacket(packet)`: the returned value, what the listener of the generator is told and the
stream afterwards. -/
def receivePacket (s : RtpStreamRecv) (packet : RtpPacket) (search : SeqSearch) (isKeyFrame : Bool)
    (nowMs : BitVec 64) : Except Fault (Bool × List NackNotice × RtpStreamRecv) :=
  let seq := packet.getSequenceNumber
  let (valid, seqState) := s.seqState.receivePacket seq packet.getTimestamp nowMs
  let s := { s with seqState := seqState }
  if ¬valid then .ok (false, [], s)
  else if s.params.useNack then do
    let (found, notices, nackGenerator) ←
      s.nackGenerator.receivePacket search seq isKeyFrame false nowMs
    let s := { s with nackGenerator := nackGenerator }
    -- If there is no RTX and NackGenerator returns true it means that it was a NACKed packet.
    if s.rtxStream.isNone && found then
      return (true, notices, { s with
        packetsRetransmitted := s.packetsRetransmitted + 1
        packetsRepaired := s.packetsRepaired + 1 })
    else return (true, notices, s)
  else .ok (true, [], s)

/-- The part of `ReceiveRtxPacket` after the packet has been decoded. -/
def receiveDecoded (s : RtpStreamRecv) (packet : RtpPacket) (search : SeqSearch) (isKeyFrame : Bool)
    (nowMs : BitVec 64) : Except Fault (Bool × List NackNotice × RtpStreamRecv) :=
  let seq := packet.getSequenceNumber
  let (valid, seqState) := s.seqState.updateSeq seq packet.getTimestamp nowMs
  let s := { s with seqState := seqState }
  if ¬valid then .ok (false, [], s)
  else do
    let s := { s with packetsRetransmitted := s.packetsRetransmitted + 1 }
    let (found, notices, nackGenerator) ←
      s.nackGenerator.receivePacket search seq isKeyFrame true nowMs
    let s := { s with nackGenerator := nackGenerator }
    -- Return true just if this was a NACKed packet.
    if found then return (true, notices, { s with packetsRepaired := s.packetsRepaired + 1 })
    else return (false, notices, s)

/-- The RTX stream takes the packet, if there is one. -/
def receiveByRtxStream (s : RtpStreamRecv) (packet : RtpPacket) (nowMs : BitVec 64) :
    Bool × RtpStreamRecv :=
  match s.rtxStream with
  | none => (true, s)
  | some rtxStream =>
    let (valid, rtxStream) :=
      rtxStream.receivePacket packet.getSequenceNumber packet.getTimestamp nowMs
    (valid, { s with rtxStream := some rtxStream })

/-- `ReceiveRtxPacket(packet)`: the returned value, what the listener of the generator is told and
the stream afterwards. -/
def receiveRtxPacket (s : RtpStreamRecv) (packet : RtpPacket) (search : SeqSearch)
    (isKeyFrame : Bool) (nowMs : BitVec 64) :
    Except Fault (Bool × List NackNotice × RtpStreamRecv) :=
  if ¬s.params.useNack then .ok (false, [], s)
  else do
    msAssert (decide (packet.getSsrc = s.params.rtxSsrc)) "invalid ssrc on RTX packet"
    -- Check that the payload type corresponds to the one negotiated.
    if packet.getPayloadType ≠ s.params.rtxPayloadType then return (false, [], s)
    else
      let (valid, s) := s.receiveByRtxStream packet nowMs
      if ¬valid then return (false, [], s)
      else
        -- Get the original RTP packet.
        match ← packet.rtxDecode s.params.payloadType s.params.ssrc with
        | none => return (false, [], s)
        | some packet => s.receiveDecoded packet search isKeyFrame nowMs

/-- `SetRtx(payloadType, ssrc)`. -/
def setRtx (s : RtpStreamRecv) (payloadType : Byte) (ssrc : BitVec 32) : RtpStreamRecv :=
  { s with
    params := { s.params with rtxPayloadType := payloadType, rtxSsrc := ssrc }
    rtxStream := some {} }

/-- One event: the returned value of a method that returns one and what the listener of the
generator is told, and the stream afterwards. -/
def step (s : RtpStreamRecv) : RecvEvent → Except Fault ((Bool × List NackNotice) × RtpStreamRecv)
  | .receivePacket packet search isKeyFrame nowMs => do
    let (returned, notices, s) ← s.receivePacket packet search isKeyFrame nowMs
    return ((returned, notices), s)
  | .receiveRtxPacket packet search isKeyFrame nowMs => do
    let (returned, notices, s) ← s.receiveRtxPacket packet search isKeyFrame nowMs
    return ((returned, notices), s)
  | .nackTimer nowMs => do
    let (notices, nackGenerator) ← s.nackGenerator.step (.timer nowMs)
    return ((false, notices), { s with nackGenerator := nackGenerator })
  | .updateRtt rtt =>
    if s.params.useNack then
      .ok ((false, []), { s with nackGenerator := s.nackGenerator.updateRtt rtt })
    else .ok ((false, []), s)
  | .pause =>
    if s.params.useNack then
      .ok ((false, []), { s with nackGenerator := s.nackGenerator.reset })
    else .ok ((false, []), s)
  | .setRtx payloadType ssrc => .ok ((false, []), s.setRtx payloadType ssrc)

end RtpStreamRecv

/-! ## Records of a run -/

/-- One event of a run with the streams around it. -/
abbrev RecvRecord := Run.Record RtpStreamRecv RecvEvent (Bool × List NackNotice)

namespace RecvRecord

/-- The sequence number of the packet of an event; that of an RTX packet is the one it carries. -/
def seq? (r : RecvRecord) : Option (BitVec 16) :=
  match r.event with
  | .receivePacket packet _ _ _ => some packet.getSequenceNumber
  | .receiveRtxPacket packet _ _ _ =>
    match packet.rtxDecode r.before.params.payloadType r.before.params.ssrc with
    | .ok (some packet) => some packet.getSequenceNumber
    | _ => none
  | _ => none

/-- The event is a media packet. -/
def isMedia (r : RecvRecord) : Bool :=
  match r.event with
  | .receivePacket _ _ _ _ => true
  | _ => false

/-- The event is a packet that came by RTX. -/
def isRtx (r : RecvRecord) : Bool :=
  match r.event with
  | .receiveRtxPacket _ _ _ _ => true
  | _ => false

/-- The event hands on the packet `seq`. -/
def HandsOn (r : RecvRecord) (seq : BitVec 16) : Prop := r.output.1 = true ∧ r.seq? = some seq

/-- The event keeps back the packet `seq`: it came by RTX and is newer than the last one. -/
def KeepsBack (r : RecvRecord) (seq : BitVec 16) : Prop :=
  r.isRtx = true ∧ r.output.1 = false ∧ r.seq? = some seq ∧
    r.before.nackGenerator.started = true ∧ seq ≠ r.before.nackGenerator.lastSeq ∧
    isSeqLowerThan seq r.before.nackGenerator.lastSeq = false

/-- The event moves the last sequence number of the generator past `seq`. -/
def Skips (r : RecvRecord) (seq : BitVec 16) : Prop :=
  r.before.nackGenerator.started = true ∧ 0 < pos r.before.nackGenerator.lastSeq seq ∧
    pos r.before.nackGenerator.lastSeq seq <
      pos r.before.nackGenerator.lastSeq r.after.nackGenerator.lastSeq

/-- The listener is told to request `seq`. -/
def Requests (r : RecvRecord) (seq : BitVec 16) : Prop :=
  ∃ seqNumbers, NackNotice.nackRequired seqNumbers ∈ r.output.2 ∧ seq ∈ seqNumbers

end RecvRecord

/-! ## What an event does to the generator -/

namespace NackGenerator

variable {g g' : NackGenerator} {search : SeqSearch} {seq : BitVec 16}
  {isKeyFrame isRecovered found : Bool}
  {nowMs : BitVec 64} {notices : List NackNotice}

theorem recoveredList_mayRunTimer (g : NackGenerator) :
    g.mayRunTimer.recoveredList = g.recoveredList := by
  unfold mayRunTimer
  split <;> rfl

theorem recoveredList_requestMissing (g : NackGenerator) (nowMs : BitVec 64) :
    (g.requestMissing nowMs).2.recoveredList = g.recoveredList := by
  unfold requestMissing
  dsimp only
  split
  · rfl
  · exact recoveredList_mayRunTimer _

/-- The timer does not change the list of recovered packets. -/
theorem recoveredList_timer (h : g.step (.timer nowMs) = .ok (notices, g')) :
    g'.recoveredList = g.recoveredList := by
  rw [step] at h
  split at h
  · cases h
    exact recoveredList_mayRunTimer _
  · cases h
    rfl

/-- The comparator tells different sequence numbers apart. -/
theorem eq_of_not_lower {a b : BitVec 16} (hab : isSeqLowerThan a b = false)
    (hba : isSeqLowerThan b a = false) : a = b := by
  by_contra hne
  have hpos := pos_pos_of_ne (Ne.symm hne)
  have hback := pos_of_lt (o := a) (x := b) (y := a) (by rw [pos_self]; exact hpos)
  rw [pos_self] at hback
  have hlt := pos_lt a b
  rw [← Bool.not_eq_true, isSeqLowerThan_iff (by decide), not_or] at hab hba
  unfold Precedes at hab hba
  have hnat : a.toNat ≠ b.toNat := fun h ↦ hne (BitVec.eq_of_toNat_eq h)
  omega

/-- The list of recovered packets grows by a newer packet that came by RTX only. -/
theorem Received.recoveredList (h : Received g search seq isRecovered nowMs found notices g')
    {s : BitVec 16} (hs : s ∈ g'.recoveredList) : s ∈ g.recoveredList ∨
      (s = seq ∧ isRecovered = true ∧ found = false ∧ g.started = true ∧ seq ≠ g.lastSeq ∧
        isSeqLowerThan seq g.lastSeq = false) := by
  cases h with
  | first => exact Or.inl hs
  | ignored => exact Or.inl hs
  | found => exact Or.inl hs
  | recovered hstarted hne hnew hrecovered ks rs hrs =>
    rcases hrs s hs with rfl | hmem
    · exact Or.inr ⟨rfl, hrecovered, rfl, hstarted, hne, by simpa using hnew⟩
    · exact Or.inl hmem
  | overflow => exact Or.inl hs
  | advanced hstarted hne hnew hrecovered ks kept hkept hlisted hlength g₁ hg₁ =>
    left
    rw [recoveredList_requestMissing, hg₁] at hs
    exact hs

/-- **A skipped sequence number** is listed and requested at once, unless it is in the list of
recovered packets. -/
theorem Received.requested_or_recovered
    (h : Received g search seq isRecovered nowMs found notices g') (hstarted : g.started = true)
    (hoverflow : .keyFrameRequired ∉ notices) {x : BitVec 16} (hpos : 0 < pos g.lastSeq x)
    (hlt : pos g.lastSeq x < pos g.lastSeq g'.lastSeq) :
    ((∃ e ∈ g'.nackList, e.1 = x) ∧
      ∃ seqNumbers, .nackRequired seqNumbers ∈ notices ∧ x ∈ seqNumbers) ∨ x ∈ g.recoveredList := by
  cases h with
  | first hidle => rw [hidle] at hstarted; cases hstarted
  | ignored => rw [pos_self] at hlt; omega
  | found => exact absurd hlt (by change ¬_ < pos g.lastSeq g.lastSeq; rw [pos_self]; omega)
  | recovered => exact absurd hlt (by change ¬_ < pos g.lastSeq g.lastSeq; rw [pos_self]; omega)
  | overflow => simp at hoverflow
  | advanced _ hne hnew hrecovered ks kept hkept hlisted hlength g₁ hg₁ =>
    obtain ⟨hframe, hlast, -⟩ := requestMissing_frame g₁ nowMs
    have hlist : g₁.nackList = kept ++ newNacks search g.recoveredList (pos (g.lastSeq + 1) seq)
      (g.lastSeq + 1) := by rw [hg₁]
    have hseq : g₁.lastSeq = seq := by rw [hg₁]
    rw [hlast, hseq] at hlt
    cases hfind : find? search id x g.recoveredList with
    | some y =>
      right
      obtain ⟨hmem, hxy, hyx⟩ := mem_of_find?_eq_some hfind
      rw [eq_of_not_lower hxy hyx]
      exact hmem
    | none =>
      left
      have hjump := pos_succ_add_one hne
      have hx : x = g.lastSeq + 1 + BitVec.ofNat 16 (pos g.lastSeq x - 1) := by
        have hone : (1 : BitVec 16) = BitVec.ofNat 16 1 := rfl
        rw [BitVec.add_assoc, hone, ← BitVec.ofNat_add, Nat.add_sub_cancel' (by omega),
          add_ofNat_pos]
      have hmem : (x, { seq := x, sendAtSeq := x }) ∈ newNacks search g.recoveredList
          (pos (g.lastSeq + 1) seq) (g.lastSeq + 1) :=
        (mem_newNacks _ _).mpr ⟨⟨_, by omega, hx⟩, rfl, hfind⟩
      have hdue : g₁.isDue .seq nowMs (x, { seq := x, sendAtSeq := x }) = true := by
        have hlisted' : Listed g₁.lastSeq g₁.nackList := by
          rw [hseq, hlist]
          exact hlisted
        rw [hlist] at hlisted'
        exact isDue_newNacks hlisted' hmem nowMs
      have hin : (x, { seq := x, sendAtSeq := x }) ∈ g₁.nackList := by
        rw [hlist]
        exact List.mem_append_right kept hmem
      have hbatch : x ∈ (g₁.getNackBatch .seq nowMs).1 :=
        List.mem_map.mpr ⟨_, List.mem_filter.mpr ⟨hin, hdue⟩, rfl⟩
      refine ⟨⟨(x, { seq := x, sendAtSeq := x, sentAtMs := nowMs, retries := 1 }), ?_, rfl⟩,
        (g₁.getNackBatch .seq nowMs).1, ?_, hbatch⟩
      · rw [hframe]
        refine List.mem_filterMap.mpr ⟨_, hin, ?_⟩
        rw [retained, if_pos hdue]
        exact requested_fresh rfl nowMs
      · change _ ∈ batchNotice (g₁.getNackBatch .seq nowMs).1
        rw [batchNotice, if_neg (List.ne_nil_of_mem hbatch)]
        exact List.mem_singleton.mpr rfl

end NackGenerator

namespace RtpStreamRecv

variable {s s' : RtpStreamRecv} {packet : RtpPacket} {search : SeqSearch}
  {isKeyFrame returned : Bool}
  {nowMs : BitVec 64} {notices : List NackNotice}

/-- A media packet is either not passed to the generator, or as one that did not come by RTX. -/
theorem receivePacket_cases (hinv : s.nackGenerator.Inv)
    (h : s.receivePacket packet search isKeyFrame nowMs = .ok (returned, notices, s')) :
    s'.params = s.params ∧ ((s'.nackGenerator = s.nackGenerator ∧ notices = []) ∨
      (s.params.useNack = true ∧ ∃ found, s.nackGenerator.Received search packet.getSequenceNumber
        false nowMs found notices s'.nackGenerator)) := by
  unfold receivePacket at h
  dsimp only at h
  split at h
  · cases h
    exact ⟨rfl, Or.inl ⟨rfl, rfl⟩⟩
  split at h
  · rename_i huse
    obtain ⟨found, notices', g', hreceive, hreceived⟩ :=
      NackGenerator.receivePacket_spec hinv search
      packet.getSequenceNumber isKeyFrame false nowMs
    rw [hreceive] at h
    change (if _ then _ else _) = _ at h
    split at h
    · cases h
      exact ⟨rfl, Or.inr ⟨huse, found, hreceived⟩⟩
    · cases h
      exact ⟨rfl, Or.inr ⟨huse, found, hreceived⟩⟩
  · cases h
    exact ⟨rfl, Or.inl ⟨rfl, rfl⟩⟩

theorem receiveByRtxStream_frame (s : RtpStreamRecv) (packet : RtpPacket) (nowMs : BitVec 64) :
    (s.receiveByRtxStream packet nowMs).2.params = s.params ∧
      (s.receiveByRtxStream packet nowMs).2.nackGenerator = s.nackGenerator := by
  unfold receiveByRtxStream
  split <;> exact ⟨rfl, rfl⟩

/-- The packet that an RTX packet carries is either not passed to the generator, or as one that
came by RTX; then the generator decides on the returned value. -/
theorem receiveRtxPacket_cases (hinv : s.nackGenerator.Inv)
    (h : s.receiveRtxPacket packet search isKeyFrame nowMs = .ok (returned, notices, s')) :
    s'.params = s.params ∧ ((s'.nackGenerator = s.nackGenerator ∧ notices = []) ∨
      (s.params.useNack = true ∧ ∃ q, packet.rtxDecode s.params.payloadType s.params.ssrc
          = .ok (some q) ∧ s.nackGenerator.Received search q.getSequenceNumber true nowMs returned
            notices s'.nackGenerator)) := by
  unfold receiveRtxPacket at h
  split at h
  · cases h
    exact ⟨rfl, Or.inl ⟨rfl, rfl⟩⟩
  rename_i huse
  obtain ⟨-, -, h⟩ := bind_eq_ok.mp h
  split at h
  · cases h
    exact ⟨rfl, Or.inl ⟨rfl, rfl⟩⟩
  obtain ⟨hparams, hgen⟩ := receiveByRtxStream_frame s packet nowMs
  generalize s.receiveByRtxStream packet nowMs = taken at h hparams hgen
  obtain ⟨valid, t⟩ := taken
  dsimp only at h hparams hgen
  split at h
  · cases h
    exact ⟨hparams, Or.inl ⟨hgen, rfl⟩⟩
  obtain ⟨decoded, hdecode, h⟩ := bind_eq_ok.mp h
  rw [hparams] at hdecode
  cases decoded with
  | none =>
    cases h
    exact ⟨hparams, Or.inl ⟨hgen, rfl⟩⟩
  | some q =>
    dsimp only at h
    unfold receiveDecoded at h
    dsimp only at h
    split at h
    · cases h
      exact ⟨hparams, Or.inl ⟨hgen, rfl⟩⟩
    · obtain ⟨found, notices', g', hreceive, hreceived⟩ := NackGenerator.receivePacket_spec hinv
        search q.getSequenceNumber isKeyFrame true nowMs
      rw [hgen, hreceive] at h
      change (if _ then _ else _) = _ at h
      cases found with
      | true =>
        cases h
        exact ⟨hparams, Or.inr ⟨by simpa using huse, q, hdecode, hreceived⟩⟩
      | false =>
        cases h
        exact ⟨hparams, Or.inr ⟨by simpa using huse, q, hdecode, hreceived⟩⟩

/-! ## All runs -/

/-- What holds in every reachable state: the remembered packets were kept back since the last
`Pause`. -/
structure Inv (hist : List RecvRecord) (s : RtpStreamRecv) : Prop where
  generator : s.nackGenerator.Inv
  recovered : ∀ seq ∈ s.nackGenerator.recoveredList, ∃ pre r post, hist = pre ++ r :: post ∧
    r.KeepsBack seq ∧ ∀ r' ∈ post, r'.event ≠ .pause
  unused : s.params.useNack = false → s.nackGenerator.recoveredList = []

theorem inv_init (params : RtpStreamParams) : Inv [] { params := params } :=
  ⟨NackGenerator.inv_init _, fun _ h ↦ absurd h List.not_mem_nil, fun _ ↦ rfl⟩

/-- A packet kept back earlier stays so through an event other than `Pause`. -/
theorem Inv.recovered_append {hist : List RecvRecord} {s : RtpStreamRecv} (h : Inv hist s)
    {r : RecvRecord} (hpause : r.event ≠ .pause) {seq : BitVec 16}
    (hseq : seq ∈ s.nackGenerator.recoveredList) : ∃ pre k post, hist ++ [r] = pre ++ k :: post ∧
      k.KeepsBack seq ∧ ∀ r' ∈ post, r'.event ≠ .pause := by
  obtain ⟨pre, k, post, rfl, hkeeps, hpost⟩ := h.recovered seq hseq
  refine ⟨pre, k, post ++ [r], by simp, hkeeps, fun r' hr' ↦ ?_⟩
  rcases List.mem_append.mp hr' with hr' | hr'
  · exact hpost r' hr'
  · rw [List.mem_singleton.mp hr']
    exact hpause

/-- An event other than `Pause` that remembers no new packet. -/
theorem Inv.quiet {hist : List RecvRecord} {r : RecvRecord} (h : Inv hist r.before)
    (hpause : r.event ≠ .pause) (hparams : r.after.params.useNack = r.before.params.useNack)
    (hgenerator : r.after.nackGenerator.Inv)
    (hsub : ∀ seq ∈ r.after.nackGenerator.recoveredList,
      seq ∈ r.before.nackGenerator.recoveredList) : Inv (hist ++ [r]) r.after where
  generator := hgenerator
  recovered seq hseq := h.recovered_append hpause (hsub seq hseq)
  unused huse := by
    rw [hparams] at huse
    exact List.eq_nil_iff_forall_not_mem.mpr fun seq hseq ↦ by
      have := hsub seq hseq
      rw [h.unused huse] at this
      cases this

/-- One event keeps the invariant. -/
theorem inv_step (hist : List RecvRecord) (r : RecvRecord) (h : Inv hist r.before)
    (hstep : r.before.step r.event = .ok (r.output, r.after)) : Inv (hist ++ [r]) r.after := by
  obtain ⟨before, event, output, after⟩ := r
  dsimp only at hstep h ⊢
  cases event with
  | receivePacket packet search isKeyFrame nowMs =>
    obtain ⟨⟨returned, notices, s⟩, hreceive, hstep⟩ := bind_eq_ok.mp hstep
    cases hstep
    obtain ⟨hparams, ⟨hgen, -⟩ | ⟨huse, found, hreceived⟩⟩ :=
      receivePacket_cases h.generator hreceive
    · refine h.quiet (by simp) (by rw [hparams]) ?_ ?_
      · dsimp only
        rw [hgen]
        exact h.generator
      · dsimp only
        rw [hgen]
        exact fun _ h ↦ h
    · refine h.quiet (by simp) (by rw [hparams]) (hreceived.inv h.generator) fun seq hseq ↦ ?_
      rcases hreceived.recoveredList hseq with hmem | ⟨-, hfalse, -⟩
      · exact hmem
      · cases hfalse
  | receiveRtxPacket packet search isKeyFrame nowMs =>
    obtain ⟨⟨returned, notices, s⟩, hreceive, hstep⟩ := bind_eq_ok.mp hstep
    cases hstep
    obtain ⟨hparams, ⟨hgen, -⟩ | ⟨huse, q, hdecode, hreceived⟩⟩ :=
      receiveRtxPacket_cases h.generator hreceive
    · refine h.quiet (by simp) (by rw [hparams]) ?_ ?_
      · dsimp only
        rw [hgen]
        exact h.generator
      · dsimp only
        rw [hgen]
        exact fun _ h ↦ h
    · refine ⟨hreceived.inv h.generator, fun seq hseq ↦ ?_, fun hunused ↦ ?_⟩
      · rcases hreceived.recoveredList hseq with hmem | ⟨rfl, -, hreturned, hstarted, hne, hnew⟩
        · exact h.recovered_append (by simp) hmem
        · refine ⟨hist, _, [], rfl, ⟨rfl, hreturned, ?_, hstarted, hne, hnew⟩, by simp⟩
          simp only [RecvRecord.seq?, hdecode]
      · rw [hparams, huse] at hunused
        cases hunused
  | nackTimer nowMs =>
    obtain ⟨⟨notices, g⟩, hg, hstep⟩ := bind_eq_ok.mp hstep
    cases hstep
    obtain ⟨notices', g', hg', hinv⟩ := NackGenerator.step_spec h.generator (.timer nowMs)
    rw [hg] at hg'
    cases hg'
    refine h.quiet (by simp) rfl hinv fun seq hseq ↦ ?_
    dsimp only at hseq
    rwa [NackGenerator.recoveredList_timer hg] at hseq
  | updateRtt rtt =>
    simp only [step] at hstep
    split at hstep
    · cases hstep
      exact h.quiet (by simp) rfl ⟨h.generator.listed, h.generator.length_le, h.generator.armed,
        h.generator.idle⟩ fun _ h ↦ h
    · cases hstep
      exact h.quiet (by simp) rfl h.generator fun _ h ↦ h
  | pause =>
    simp only [step] at hstep
    split at hstep
    · cases hstep
      exact ⟨⟨.nil _, Nat.zero_le _, fun hc ↦ absurd rfl hc, fun _ ↦ rfl⟩,
        fun _ h ↦ absurd h List.not_mem_nil, fun _ ↦ rfl⟩
    · rename_i hunused
      cases hstep
      have hnil := h.unused (by simpa using hunused)
      refine ⟨h.generator, fun seq hseq ↦ ?_, h.unused⟩
      rw [hnil] at hseq
      cases hseq
  | setRtx payloadType ssrc =>
    cases hstep
    exact h.quiet (by simp) rfl h.generator fun _ h ↦ h

/-- A media packet with no payload. -/
def mediaPacket (seq : BitVec 16) : RtpPacket :=
  .view { version := 2, padding := false, extension := false, csrcCount := 0, marker := false
          payloadType := 100, sequenceNumber := seq, timestamp := 0, ssrc := 1 } [] none 0 0 0 12

/-- The same packet in the RTX format. -/
def rtxPacket (rtxSeq seq : BitVec 16) : RtpPacket :=
  .view { version := 2, padding := false, extension := false, csrcCount := 0, marker := false
          payloadType := 101, sequenceNumber := rtxSeq, timestamp := 0, ssrc := 2 }
    [(seq >>> 8).setWidth 8, seq.setWidth 8] none 0 2 0 14

/-- The parameters of a stream with NACK support. -/
def nackParams : RtpStreamParams := { ssrc := 1, payloadType := 100, useNack := true }

end RtpStreamRecv

end MediasoupSfu
