import MediasoupSfu.Nack.Invariant

/-!
# When a sequence number is requested

A run of the NACK generator is recorded event by event. A record *skips* a sequence number when the
event moves the last sequence number past it, *receives* it when the event is a packet with that
number, and *requests* it when the listener is told to ask for it.

The connection between a list entry and the past is the *epoch* of its sequence number: the records
since the last one that skipped it. While the entry is listed, its retry counter is the number of
requests of the epoch, its time of sending is the time of the last of them, and the packet was not
received in the epoch. A new epoch can begin without the old entry being gone for long, after a
`Reset` or after the sequence numbers have gone round, so the guarantees on the number of requests
and on the time between them are guarantees for one epoch.
-/

namespace MediasoupSfu

open Serial Ordered

/-- The time an event reads from the clock. -/
def NackEvent.time? : NackEvent → Option (BitVec 64)
  | .receivePacket _ _ _ _ nowMs => some nowMs
  | .timer nowMs => some nowMs
  | .updateRtt _ => none
  | .reset => none

/-- One event of a run with the states around it. -/
structure NackRecord where
  before : NackGenerator
  event : NackEvent
  notices : List NackNotice
  after : NackGenerator

namespace NackRecord

/-- The event moves the last sequence number past `seq`. -/
def Skips (r : NackRecord) (seq : BitVec 16) : Prop :=
  r.before.started = true ∧ r.after.started = true ∧ 0 < pos r.before.lastSeq seq ∧
    pos r.before.lastSeq seq < pos r.before.lastSeq r.after.lastSeq

/-- The event is the arrival of the packet `seq`. -/
def Receives (r : NackRecord) (seq : BitVec 16) : Prop :=
  ∃ search isKeyFrame isRecovered nowMs,
    r.event = .receivePacket search seq isKeyFrame isRecovered nowMs

/-- The listener is told to request `seq`. -/
def requests (r : NackRecord) (seq : BitVec 16) : Bool :=
  r.notices.any fun notice ↦ match notice with
    | .nackRequired seqNumbers => seqNumbers.contains seq
    | .keyFrameRequired => false

/-- Records without any batch request nothing. -/
theorem requests_eq_false {r : NackRecord} (h : r.notices = []) (seq : BitVec 16) :
    r.requests seq = false := by
  rw [requests, h]
  rfl

theorem requests_batchNotice {r : NackRecord} {batch : List (BitVec 16)}
    (h : r.notices = NackGenerator.batchNotice batch) (seq : BitVec 16) :
    r.requests seq = true ↔ seq ∈ batch := by
  rw [requests, h, NackGenerator.batchNotice]
  by_cases hnil : batch = []
  · rw [if_pos hnil, hnil]
    simp
  · rw [if_neg hnil]
    simp

theorem not_skips_of_lastSeq_eq {r : NackRecord} (h : r.after.lastSeq = r.before.lastSeq)
    (seq : BitVec 16) : ¬r.Skips seq := by
  rintro ⟨-, -, -, hlt⟩
  rw [h, pos_self] at hlt
  omega

theorem not_receives_of_ne {r : NackRecord} {search : SeqSearch} {s : BitVec 16}
    {isKeyFrame isRecovered : Bool} {nowMs : BitVec 64}
    (h : r.event = .receivePacket search s isKeyFrame isRecovered nowMs) {seq : BitVec 16}
    (hne : seq ≠ s) : ¬r.Receives seq := by
  rintro ⟨search', isKeyFrame', isRecovered', nowMs', h'⟩
  rw [h] at h'
  injection h' with _ hs
  exact hne hs.symm

end NackRecord

namespace NackGenerator

/-- The records of a run. -/
def trace (g : NackGenerator) : List NackEvent → Except Fault (List NackRecord)
  | [] => .ok []
  | event :: events => do
    let (notices, g') ← g.step event
    let records ← g'.trace events
    return ⟨g, event, notices, g'⟩ :: records

/-! ## Entries below the last sequence number -/

variable {g : NackGenerator}

/-- A listed key is lower than the last sequence number. -/
theorem Listed.isSeqLowerThan {lastSeq : BitVec 16} {nackList : List NackEntry}
    (h : Listed lastSeq nackList) {e : NackEntry} (he : e ∈ nackList) :
    MediasoupSfu.isSeqLowerThan e.1 lastSeq = true := by
  have hage : maxPacketAge = 10000 := rfl
  have hpos := h.keys e he
  have hend := pos_windowStart lastSeq
  exact (isSeqLowerThan_iff_pos (o := windowStart lastSeq) (by decide) (by omega)
    (by omega)).mpr (by omega)

/-- Seen from the last sequence number, a listed key is nearly a whole turn away. -/
theorem Listed.pos_gt {lastSeq : BitVec 16} {nackList : List NackEntry}
    (h : Listed lastSeq nackList) {e : NackEntry} (he : e ∈ nackList) :
    2 ^ 16 - maxPacketAge ≤ pos lastSeq e.1 := by
  have hpos := h.keys e he
  have hend := pos_windowStart lastSeq
  have := pos_of_lt (o := windowStart lastSeq) (x := lastSeq) (y := e.1) (by omega)
  omega

/-- A packet that is neither lower nor the last one again is at most half a turn ahead. -/
theorem pos_le_of_not_lower {lastSeq seq : BitVec 16}
    (h : ¬MediasoupSfu.isSeqLowerThan seq lastSeq = true) : pos lastSeq seq ≤ 2 ^ 15 := by
  by_contra hgt
  apply h
  rw [isSeqLowerThan_iff (by decide)]
  left
  have hback : pos seq lastSeq = 2 ^ 16 - pos lastSeq seq := by
    have hlt := pos_lt lastSeq seq
    have := pos_of_lt (o := lastSeq) (x := seq) (y := lastSeq) (by rw [pos_self]; omega)
    rw [this, pos_self]
    omega
  have hlt := pos_lt lastSeq seq
  exact ⟨by omega, by omega⟩

/-! ## What one event does to the entries -/

/-- The entry has been requested, and may be requested again. -/
structure Sent (e : NackEntry) : Prop where
  key : e.2.seq = e.1
  time : e.2.sentAtMs ≠ 0
  retries : e.2.retries.toNat < 10

/-- Where an entry of the list after an event comes from. -/
inductive Carried (r : NackRecord) (e' : NackEntry) : Prop
  /-- It was there before, and the event is not about its packet. -/
  | kept (hmem : e' ∈ r.before.nackList) (hskips : ¬r.Skips e'.1) (hreceives : ¬r.Receives e'.1)
      (hrequests : r.requests e'.1 = false)
  /-- It was there before and is requested again. -/
  | again (e : NackEntry) (hmem : e ∈ r.before.nackList) (hkey : e'.1 = e.1)
      (hretries : e'.2.retries.toNat = e.2.retries.toNat + 1)
      (htime : r.event.time? = some e'.2.sentAtMs) (hskips : ¬r.Skips e'.1)
      (hreceives : ¬r.Receives e'.1) (hrequests : r.requests e'.1 = true)
  /-- Its packet was skipped and is requested for the first time. -/
  | fresh (hskips : r.Skips e'.1) (hretries : e'.2.retries.toNat = 1)
      (htime : r.event.time? = some e'.2.sentAtMs) (hrequests : r.requests e'.1 = true)

/-- Why a sequence number is requested. -/
inductive Caused (r : NackRecord) (seq : BitVec 16) : Prop
  /-- Its packet was skipped by the same event. -/
  | skipped (hskips : r.Skips seq) (nowMs : BitVec 64) (htime : r.event.time? = some nowMs)
  /-- It is listed and the round trip time has passed since its last request. -/
  | due (e : NackEntry) (hmem : e ∈ r.before.nackList) (hkey : e.1 = seq) (nowMs : BitVec 64)
      (htime : r.event.time? = some nowMs)
      (hrtt : r.before.rtt.setWidth 64 ≤ nowMs - e.2.sentAtMs) (hskips : ¬r.Skips seq)
      (hreceives : ¬r.Receives seq)

/-- What is known of an event and the list after it. -/
structure Explained (r : NackRecord) : Prop where
  sent : ∀ e ∈ r.after.nackList, Sent e
  carried : ∀ e ∈ r.after.nackList, Carried r e
  caused : ∀ seq, r.requests seq = true → Caused r seq

/-- An event that requests nothing and leaves the last sequence number in place. -/
theorem explained_of_quiet {r : NackRecord} (hsent : ∀ e ∈ r.before.nackList, Sent e)
    (hsub : ∀ e ∈ r.after.nackList, e ∈ r.before.nackList) (hnotices : r.notices = [])
    (hlast : r.after.nackList ≠ [] → r.after.lastSeq = r.before.lastSeq)
    (hreceives : ∀ e ∈ r.after.nackList, ¬r.Receives e.1) : Explained r where
  sent e he := hsent e (hsub e he)
  carried e he := .kept (hsub e he)
    (NackRecord.not_skips_of_lastSeq_eq (hlast (List.ne_nil_of_mem he)) _) (hreceives e he)
    (NackRecord.requests_eq_false hnotices _)
  caused seq h := by
    rw [NackRecord.requests_eq_false hnotices] at h
    cases h

/-- A new entry is requested in the same call. -/
theorem isDue_newNacks {g : NackGenerator} {search : SeqSearch} {recoveredList : List (BitVec 16)}
    {n : ℕ} {seq : BitVec 16} {kept : List NackEntry}
    (hlisted : Listed g.lastSeq (kept ++ newNacks search recoveredList n seq)) {e : NackEntry}
    (he : e ∈ newNacks search recoveredList n seq) (nowMs : BitVec 64) :
    g.isDue .seq nowMs e = true := by
  have hlow := hlisted.isSeqLowerThan (List.mem_append_right kept he)
  obtain ⟨-, hinfo, -⟩ := (mem_newNacks n seq).mp he
  simp only [isDue, hinfo]
  rw [isSeqHigherThan_eq, hlow]
  simp

/-- The first request of a new entry. -/
theorem requested_fresh {e : NackEntry} (h : e.2 = { seq := e.1, sendAtSeq := e.1 })
    (nowMs : BitVec 64) : requested nowMs e
      = some (e.1, { seq := e.1, sendAtSeq := e.1, sentAtMs := nowMs, retries := 1 }) := by
  unfold requested
  rw [h]
  rfl

theorem not_isDue_of_sent {g : NackGenerator} {e : NackEntry} (h : Sent e) (nowMs : BitVec 64) :
    g.isDue .seq nowMs e = false := by
  simp only [isDue, decide_eq_false h.time, Bool.false_and]

theorem nackList_mayRunTimer (g : NackGenerator) : g.mayRunTimer.nackList = g.nackList := by
  unfold mayRunTimer
  split <;> rfl

theorem lastSeq_mayRunTimer (g : NackGenerator) : g.mayRunTimer.lastSeq = g.lastSeq := by
  unfold mayRunTimer
  split <;> rfl

theorem started_mayRunTimer (g : NackGenerator) : g.mayRunTimer.started = g.started := by
  unfold mayRunTimer
  split <;> rfl

theorem rtt_mayRunTimer (g : NackGenerator) : g.mayRunTimer.rtt = g.rtt := by
  unfold mayRunTimer
  split <;> rfl

theorem requestMissing_frame (g : NackGenerator) (nowMs : BitVec 64) :
    (g.requestMissing nowMs).2.nackList = g.nackList.filterMap (g.retained .seq nowMs) ∧
      (g.requestMissing nowMs).2.lastSeq = g.lastSeq ∧
      (g.requestMissing nowMs).2.started = g.started := by
  unfold requestMissing
  dsimp only
  split
  · exact ⟨rfl, rfl, rfl⟩
  · exact ⟨nackList_mayRunTimer _, lastSeq_mayRunTimer _, started_mayRunTimer _⟩

/-- The sequence numbers of the new entries are the skipped ones. -/
theorem pos_of_mem_newNacks {search : SeqSearch} {recoveredList : List (BitVec 16)}
    {lastSeq seq : BitVec 16} (hne : seq ≠ lastSeq) {e : NackEntry}
    (he : e ∈ newNacks search recoveredList (pos (lastSeq + 1) seq) (lastSeq + 1)) :
    0 < pos lastSeq e.1 ∧ pos lastSeq e.1 < pos lastSeq seq := by
  obtain ⟨⟨i, hi, hkey⟩, -⟩ := (mem_newNacks _ _).mp he
  have hjump := pos_succ_add_one hne
  have hlt := pos_lt lastSeq seq
  have hpos : pos lastSeq e.1 = i + 1 := by
    have hshift : lastSeq + 1 + BitVec.ofNat 16 i = lastSeq + BitVec.ofNat 16 (i + 1) := by
      rw [Nat.add_comm i 1, BitVec.ofNat_add, ← BitVec.add_assoc]
      rfl
    rw [hkey, hshift, pos_add_ofNat (by omega)]
  omega

/-- **An advance of the last sequence number** requests exactly the new entries. -/
theorem explained_advanced {r : NackRecord} {search : SeqSearch} {seq : BitVec 16}
    {isKeyFrame isRecovered : Bool} {nowMs : BitVec 64}
    (hevent : r.event = .receivePacket search seq isKeyFrame isRecovered nowMs) (hnow : nowMs ≠ 0)
    (hinv : r.before.Inv) (hsent : ∀ e ∈ r.before.nackList, Sent e)
    (hstarted : r.before.started = true) (hne : seq ≠ r.before.lastSeq)
    (hnew : ¬MediasoupSfu.isSeqLowerThan seq r.before.lastSeq = true)
    {kept missing : List NackEntry}
    (hkept : kept <:+ r.before.nackList) (hmissing : missing = newNacks search
      r.before.recoveredList (pos (r.before.lastSeq + 1) seq) (r.before.lastSeq + 1))
    (hlisted : Listed seq (kept ++ missing))
    (g' : NackGenerator) (hlist : g'.nackList = kept ++ missing)
    (hlast : g'.lastSeq = seq) (hstarted' : g'.started = true)
    (hnotices : r.notices = (g'.requestMissing nowMs).1)
    (hafter : r.after = (g'.requestMissing nowMs).2) : Explained r := by
  obtain ⟨hframe, hframeLast, hframeStarted⟩ := requestMissing_frame g' nowMs
  rw [← hafter, hlist] at hframe
  rw [← hafter, hlast] at hframeLast
  rw [← hafter, hstarted'] at hframeStarted
  have htime : r.event.time? = some nowMs := by rw [hevent]; rfl
  have hfresh : ∀ e ∈ missing, e.2 = { seq := e.1, sendAtSeq := e.1 } := by
    intro e he
    rw [hmissing] at he
    exact ((mem_newNacks _ _).mp he).2.1
  have hdue : ∀ e ∈ missing, g'.isDue .seq nowMs e = true := by
    intro e he
    have hlisted' : Listed g'.lastSeq (kept ++ missing) := by
      rw [hlast]
      exact hlisted
    rw [hmissing] at he hlisted'
    exact isDue_newNacks hlisted' he nowMs
  have hskips : ∀ e ∈ missing, r.Skips e.1 := by
    intro e he
    rw [hmissing] at he
    obtain ⟨hpos, hlt⟩ := pos_of_mem_newNacks hne he
    exact ⟨hstarted, hframeStarted, hpos, by rw [hframeLast]; exact hlt⟩
  have hold : ∀ e ∈ kept, ¬r.Skips e.1 := by
    rintro e he ⟨-, -, -, hlt⟩
    have hage : maxPacketAge = 10000 := rfl
    have hfar := hinv.listed.pos_gt (hkept.subset he)
    have hnear := pos_le_of_not_lower hnew
    rw [hframeLast] at hlt
    omega
  have hrequests : ∀ s, r.requests s = true ↔ ∃ e ∈ missing, e.1 = s := by
    intro s
    rw [NackRecord.requests_batchNotice hnotices, List.mem_map]
    constructor
    · rintro ⟨e, he, rfl⟩
      obtain ⟨hmem, hisDue⟩ := List.mem_filter.mp he
      rw [hlist] at hmem
      rcases List.mem_append.mp hmem with hmem | hmem
      · rw [not_isDue_of_sent (hsent e (hkept.subset hmem))] at hisDue
        cases hisDue
      · exact ⟨e, hmem, by rw [hfresh e hmem]⟩
    · rintro ⟨e, he, rfl⟩
      exact ⟨e, List.mem_filter.mpr ⟨by rw [hlist]; exact List.mem_append_right _ he, hdue e he⟩,
        by rw [hfresh e he]⟩
  have hentry : ∀ e' ∈ r.after.nackList, e' ∈ kept ∨ ∃ e ∈ missing,
      e' = (e.1, { seq := e.1, sendAtSeq := e.1, sentAtMs := nowMs, retries := 1 }) := by
    intro e' he'
    rw [hframe] at he'
    obtain ⟨e, he, hretained⟩ := List.mem_filterMap.mp he'
    unfold retained at hretained
    rcases List.mem_append.mp he with he | he
    · rw [not_isDue_of_sent (hsent e (hkept.subset he))] at hretained
      obtain rfl : e = e' := Option.some.inj hretained
      exact Or.inl he
    · rw [hdue e he, if_pos rfl, requested_fresh (hfresh e he)] at hretained
      exact Or.inr ⟨e, he, (Option.some.inj hretained).symm⟩
  refine ⟨fun e' he' ↦ ?_, fun e' he' ↦ ?_, fun s hs ↦ ?_⟩
  · rcases hentry e' he' with hmem | ⟨e, -, rfl⟩
    · exact hsent e' (hkept.subset hmem)
    · exact ⟨rfl, hnow, (by decide : (1 : BitVec 8).toNat < 10)⟩
  · rcases hentry e' he' with hmem | ⟨e, he, rfl⟩
    · refine .kept (hkept.subset hmem) (hold e' hmem) ?_ ?_
      · refine NackRecord.not_receives_of_ne hevent ?_
        rintro rfl
        exact hnew (hinv.listed.isSeqLowerThan (hkept.subset hmem))
      · rw [← Bool.not_eq_true, hrequests]
        rintro ⟨e, he, heq⟩
        exact hold e' hmem (heq ▸ hskips e he)
    · exact .fresh (hskips e he) rfl htime ((hrequests _).mpr ⟨e, he, rfl⟩)
  · obtain ⟨e, he, rfl⟩ := (hrequests s).mp hs
    exact .skipped (hskips e he) nowMs htime

/-- **The timer** requests the entries for which the round trip time has passed. -/
theorem explained_timer {r : NackRecord} {nowMs : BitVec 64} (hevent : r.event = .timer nowMs)
    (hnow : nowMs ≠ 0) (hinv : r.before.Inv) (hsent : ∀ e ∈ r.before.nackList, Sent e)
    (g' : NackGenerator) (hlist : g'.nackList = r.before.nackList)
    (hlast : g'.lastSeq = r.before.lastSeq) (hrtt : g'.rtt = r.before.rtt)
    (hnotices : r.notices = (g'.onTimer nowMs).1) (hafter : r.after = (g'.onTimer nowMs).2) :
    Explained r := by
  have hlist' : r.after.nackList = r.before.nackList.filterMap (g'.retained .time nowMs) := by
    rw [hafter, ← hlist]
    exact nackList_mayRunTimer _
  have hlast' : r.after.lastSeq = r.before.lastSeq := by
    rw [hafter, ← hlast]
    exact lastSeq_mayRunTimer _
  have htime : r.event.time? = some nowMs := by rw [hevent]; rfl
  have hreceives : ∀ s, ¬r.Receives s := by
    rintro s ⟨_, _, _, _, h⟩
    rw [hevent] at h
    cases h
  have hskips : ∀ s, ¬r.Skips s := NackRecord.not_skips_of_lastSeq_eq hlast'
  have hrequests : ∀ s, r.requests s = true ↔
      ∃ e ∈ r.before.nackList, g'.isDue .time nowMs e = true ∧ e.1 = s := by
    intro s
    rw [NackRecord.requests_batchNotice hnotices, List.mem_map, hlist]
    constructor
    · rintro ⟨e, he, rfl⟩
      obtain ⟨hmem, hdue⟩ := List.mem_filter.mp he
      exact ⟨e, hmem, hdue, (hsent e hmem).key.symm⟩
    · rintro ⟨e, he, hdue, rfl⟩
      exact ⟨e, List.mem_filter.mpr ⟨he, hdue⟩, (hsent e he).key⟩
  have hentry : ∀ e' ∈ r.after.nackList, ∃ e ∈ r.before.nackList,
      (g'.isDue .time nowMs e = false ∧ e' = e) ∨
      (g'.isDue .time nowMs e = true ∧ e.2.retries.toNat + 1 < 10 ∧
        e' = (e.1, { e.2 with retries := e.2.retries + 1, sentAtMs := nowMs })) := by
    intro e' he'
    rw [hlist'] at he'
    obtain ⟨e, he, hretained⟩ := List.mem_filterMap.mp he'
    refine ⟨e, he, ?_⟩
    unfold retained at hretained
    by_cases hdue : g'.isDue .time nowMs e = true
    · right
      rw [if_pos hdue] at hretained
      unfold requested at hretained
      dsimp only at hretained
      split at hretained
      · cases hretained
      · rename_i hmax
        have hless := (hsent e he).retries
        rw [BitVec.le_def, BitVec.toNat_add, Nat.not_le] at hmax
        have hmod : (e.2.retries.toNat + 1) % 2 ^ 8 < 10 := hmax
        exact ⟨hdue, by omega, (Option.some.inj hretained).symm⟩
    · left
      rw [if_neg hdue] at hretained
      exact ⟨by simpa using hdue, (Option.some.inj hretained).symm⟩
  refine ⟨fun e' he' ↦ ?_, fun e' he' ↦ ?_, fun s hs ↦ ?_⟩
  · obtain ⟨e, he, ⟨-, rfl⟩ | ⟨-, hless, rfl⟩⟩ := hentry e' he'
    · exact hsent e' he
    · refine ⟨(hsent e he).key, hnow, ?_⟩
      change (e.2.retries + 1).toNat < 10
      rw [BitVec.toNat_add]
      change (e.2.retries.toNat + 1) % 2 ^ 8 < 10
      omega
  · obtain ⟨e, he, ⟨hdue, rfl⟩ | ⟨hdue, hless, rfl⟩⟩ := hentry e' he'
    · refine .kept he (hskips _) (hreceives _) ?_
      rw [← Bool.not_eq_true, hrequests]
      rintro ⟨e₂, he₂, hdue₂, hkey⟩
      rw [hinv.listed.ascending.eq_of_key_eq he₂ he hkey, hdue] at hdue₂
      cases hdue₂
    · refine .again e he rfl ?_ htime (hskips _) (hreceives _)
        ((hrequests _).mpr ⟨e, he, hdue, rfl⟩)
      change (e.2.retries + 1).toNat = _
      rw [BitVec.toNat_add]
      change (e.2.retries.toNat + 1) % 2 ^ 8 = _
      omega
  · obtain ⟨e, he, hdue, rfl⟩ := (hrequests s).mp hs
    refine .due e he rfl nowMs htime ?_ (hskips _) (hreceives _)
    rw [← hrtt]
    exact of_decide_eq_true hdue

theorem Received.rtt_eq {g g' : NackGenerator} {search : SeqSearch} {seq : BitVec 16}
    {isRecovered : Bool} {nowMs : BitVec 64} {found : Bool} {notices : List NackNotice}
    (h : Received g search seq isRecovered nowMs found notices g') : g'.rtt = g.rtt := by
  cases h with
  | first => rfl
  | ignored => rfl
  | found => rfl
  | recovered => rfl
  | overflow => rfl
  | advanced _ _ _ _ ks kept _ _ _ g₁ hg₁ =>
    subst hg₁
    unfold requestMissing
    dsimp only
    split
    · rfl
    · exact rtt_mayRunTimer _

/-- **One step** from a state whose entries have all been requested. -/
theorem step_explained {g : NackGenerator} (h : g.Inv) (hsent : ∀ e ∈ g.nackList, Sent e)
    (event : NackEvent) (hclock : ∀ t, event.time? = some t → t ≠ 0) :
    ∃ notices g', g.step event = .ok (notices, g') ∧ g'.Inv ∧ Explained ⟨g, event, notices, g'⟩ ∧
      ((∀ rtt, event ≠ .updateRtt rtt) → g'.rtt = g.rtt) ∧
      ∀ rtt, event = .updateRtt rtt → g'.rtt = rtt := by
  cases event with
  | receivePacket search seq isKeyFrame isRecovered nowMs =>
    obtain ⟨found, notices, g', hreceive, hreceived⟩ :=
      receivePacket_spec h search seq isKeyFrame isRecovered nowMs
    refine ⟨notices, g', by rw [step, hreceive]; rfl, hreceived.inv h, ?_,
      fun _ ↦ hreceived.rtt_eq, fun _ hc ↦ by cases hc⟩
    have hother : ∀ e ∈ g.nackList, e.1 ≠ seq →
        ¬NackRecord.Receives ⟨g, .receivePacket search seq isKeyFrame isRecovered nowMs, notices,
          g'⟩ e.1 := fun e _ hne ↦ NackRecord.not_receives_of_ne rfl hne
    cases hreceived with
    | first hidle ks =>
      have hempty := h.idle hidle
      refine explained_of_quiet hsent (fun e he ↦ he) rfl (fun hne ↦ absurd hempty hne) ?_
      intro e he
      change e ∈ g.nackList at he
      rw [hempty] at he
      cases he
    | ignored hstarted hold =>
      refine explained_of_quiet hsent (fun e he ↦ he) rfl (fun _ ↦ rfl) fun e he ↦ ?_
      refine hother e he fun heq ↦ ?_
      rcases hold with hlast | ⟨-, hnone⟩
      · have hend := pos_windowStart g.lastSeq
        have := h.listed.keys e he
        rw [heq, hlast] at this
        omega
      · exact hnone e he heq
    | found hstarted hlow nackList hsub hmem =>
      exact explained_of_quiet hsent (fun e he ↦ hsub.subset he) rfl (fun _ ↦ rfl) fun e he ↦
        hother e (hsub.subset he) ((hmem e).mp he).2
    | recovered hstarted hne hnew hrec ks rs hrs =>
      refine explained_of_quiet hsent (fun e he ↦ he) rfl (fun _ ↦ rfl) fun e he ↦ ?_
      refine hother e he fun heq ↦ hnew ?_
      rw [← heq]
      exact h.listed.isSeqLowerThan he
    | overflow hstarted hne hnew hrec ks =>
      refine ⟨by simp, by simp, fun s hs ↦ ?_⟩
      cases hs
    | advanced hstarted hne hnew hrec ks kept hkept hlisted hlength g₁ hg₁ =>
      exact explained_advanced rfl (hclock nowMs rfl) h hsent hstarted hne hnew hkept rfl hlisted
        g₁ (by rw [hg₁]) (by rw [hg₁]) (by rw [hg₁]; exact hstarted) rfl rfl
  | timer nowMs =>
    obtain ⟨notices, g', hstep, hinv⟩ := step_spec h (.timer nowMs)
    refine ⟨notices, g', hstep, hinv, ?_⟩
    by_cases hactive : g.timerActive = true
    · have hresult : g.step (.timer nowMs) = .ok ({ g with timerActive := false }.onTimer nowMs) :=
        if_pos hactive
      rw [hresult] at hstep
      obtain ⟨rfl, rfl⟩ := Prod.mk.inj (Except.ok.inj hstep)
      refine ⟨explained_timer rfl (hclock nowMs rfl) h hsent { g with timerActive := false }
        rfl rfl rfl rfl rfl, fun _ ↦ ?_,
        fun _ hc ↦ by cases hc⟩
      exact rtt_mayRunTimer _
    · have hresult : g.step (.timer nowMs) = .ok ([], g) := if_neg hactive
      rw [hresult] at hstep
      obtain ⟨rfl, rfl⟩ := Prod.mk.inj (Except.ok.inj hstep)
      refine ⟨explained_of_quiet hsent (fun e he ↦ he) rfl (fun _ ↦ rfl) ?_, fun _ ↦ rfl,
        fun _ hc ↦ by cases hc⟩
      rintro e he ⟨_, _, _, _, hc⟩
      cases hc
  | updateRtt rtt =>
    refine ⟨_, _, rfl, ⟨h.listed, h.length_le, h.armed, h.idle⟩,
      explained_of_quiet hsent (fun e he ↦ he) rfl (fun _ ↦ rfl) ?_, fun hne ↦ absurd rfl (hne rtt),
      fun _ heq ↦ by cases heq; rfl⟩
    rintro e he ⟨_, _, _, _, hc⟩
    cases hc
  | reset =>
    refine ⟨_, _, rfl, ⟨.nil _, Nat.zero_le _, fun hc ↦ absurd rfl hc, fun _ ↦ rfl⟩,
      explained_of_quiet hsent (fun e he ↦ ?_) rfl (fun hne ↦ absurd rfl hne) fun e he ↦ ?_,
      fun _ ↦ rfl, fun _ hc ↦ by cases hc⟩
    · cases he
    · cases he

/-! ## The history -/

/-- The times at which `seq` was requested, in milliseconds. -/
def requestTimes (seq : BitVec 16) (records : List NackRecord) : List ℕ :=
  (records.filter fun r ↦ r.requests seq).filterMap fun r ↦ r.event.time?.map BitVec.toNat

theorem requestTimes_append (seq : BitVec 16) (xs ys : List NackRecord) :
    requestTimes seq (xs ++ ys) = requestTimes seq xs ++ requestTimes seq ys := by
  rw [requestTimes, List.filter_append, List.filterMap_append]
  rfl

theorem requestTimes_singleton_false {seq : BitVec 16} {r : NackRecord}
    (h : r.requests seq = false) : requestTimes seq [r] = [] := by
  simp [requestTimes, h]

theorem requestTimes_singleton_true {seq : BitVec 16} {r : NackRecord} {nowMs : BitVec 64}
    (h : r.requests seq = true) (htime : r.event.time? = some nowMs) :
    requestTimes seq [r] = [nowMs.toNat] := by
  simp [requestTimes, h, htime]

theorem mem_requestTimes {seq : BitVec 16} {records : List NackRecord} {t : ℕ}
    (h : t ∈ requestTimes seq records) :
    ∃ r ∈ records, ∃ u, r.event.time? = some u ∧ u.toNat = t := by
  obtain ⟨r, hr, htime⟩ := List.mem_filterMap.mp h
  obtain ⟨u, hu, hut⟩ := Option.map_eq_some_iff.mp htime
  exact ⟨r, (List.mem_filter.mp hr).1, u, hu, hut⟩

/-- The requests of one epoch are few and apart. -/
structure Polite (rtt : ℕ) (times : List ℕ) : Prop where
  few : times.length ≤ 10
  apart : times.Pairwise fun t u ↦ t + rtt ≤ u

theorem Polite.le_last {rtt : ℕ} {times : List ℕ} (h : Polite rtt times) {last : ℕ}
    (hlast : times.getLast? = some last) : ∀ t ∈ times, t ≤ last := by
  obtain ⟨xs, rfl⟩ := List.getLast?_eq_some_iff.mp hlast
  intro t ht
  rcases List.mem_append.mp ht with ht | ht
  · have := (List.pairwise_append.mp h.apart).2.2 t ht last (List.mem_singleton.mpr rfl)
    omega
  · exact (List.mem_singleton.mp ht).le

/-- One more request, a round trip time after the last one. -/
theorem Polite.concat {rtt : ℕ} {times : List ℕ} (h : Polite rtt times) (hfew : times.length < 10)
    {last now : ℕ} (hlast : times.getLast? = some last) (hrtt : last + rtt ≤ now) :
    Polite rtt (times ++ [now]) where
  few := by
    rw [List.length_append, List.length_singleton]
    omega
  apart := by
    refine List.pairwise_append.mpr ⟨h.apart, List.pairwise_singleton _ _, fun t ht u hu ↦ ?_⟩
    have := h.le_last hlast t ht
    rw [List.mem_singleton.mp hu]
    omega

/-- What the past says about the present list, and about every request. -/
structure Sound (rtt : BitVec 32) (hist : List NackRecord) (g : NackGenerator) : Prop where
  inv : g.Inv
  rtt_eq : g.rtt = rtt
  sent : ∀ e ∈ g.nackList, Sent e
  /-- An entry counts and dates the requests of its epoch, in which the packet did not arrive. -/
  entries : ∀ e ∈ g.nackList, ∃ pre a mid, hist = pre ++ a :: mid ∧ a.Skips e.1 ∧
    (∀ b ∈ mid, ¬b.Skips e.1 ∧ ¬b.Receives e.1) ∧
    (requestTimes e.1 (a :: mid)).length = e.2.retries.toNat ∧
    (requestTimes e.1 (a :: mid)).getLast? = some e.2.sentAtMs.toNat
  /-- Every request is in an epoch in which the packet did not arrive before. -/
  asked : ∀ pre r post seq, hist = pre ++ r :: post → r.requests seq = true →
    ∃ pre' a mid, pre ++ [r] = pre' ++ a :: mid ∧ a.Skips seq ∧ ∀ b ∈ mid, ¬b.Receives seq
  /-- In every epoch the requests are few and apart. -/
  epochs : ∀ pre a mid post seq, hist = pre ++ a :: mid ++ post → a.Skips seq →
    (∀ b ∈ mid, ¬b.Skips seq) → Polite rtt.toNat (requestTimes seq (a :: mid))

theorem sound_init (rtt : BitVec 32) : Sound rtt [] { rtt := rtt } where
  inv := inv_init rtt
  rtt_eq := rfl
  sent := by simp
  entries := by simp
  asked := by simp
  epochs := by simp

namespace Sound

variable {rtt : BitVec 32} {hist : List NackRecord} {r : NackRecord}

/-- The entries after one more event. -/
theorem entries_step (h : Sound rtt hist r.before) (hr : Explained r) :
    ∀ e ∈ r.after.nackList, ∃ pre a mid, hist ++ [r] = pre ++ a :: mid ∧ a.Skips e.1 ∧
      (∀ b ∈ mid, ¬b.Skips e.1 ∧ ¬b.Receives e.1) ∧
      (requestTimes e.1 (a :: mid)).length = e.2.retries.toNat ∧
      (requestTimes e.1 (a :: mid)).getLast? = some e.2.sentAtMs.toNat := by
  intro e' he'
  -- an old epoch is continued by the new record
  have hextend : ∀ {mid : List NackRecord} {seq : BitVec 16}, ¬r.Skips seq → ¬r.Receives seq →
      (∀ b ∈ mid, ¬b.Skips seq ∧ ¬b.Receives seq) →
      ∀ b ∈ mid ++ [r], ¬b.Skips seq ∧ ¬b.Receives seq := by
    intro mid seq hskips hreceives hmid b hb
    rcases List.mem_append.mp hb with hb | hb
    · exact hmid b hb
    · rw [List.mem_singleton.mp hb]
      exact ⟨hskips, hreceives⟩
  cases hr.carried e' he' with
  | kept hmem hskips hreceives hrequests =>
    obtain ⟨pre, a, mid, hhist, ha, hmid, hlen, hlast⟩ := h.entries e' hmem
    refine ⟨pre, a, mid ++ [r], by rw [hhist]; simp, ha, hextend hskips hreceives hmid, ?_⟩
    rw [← List.cons_append, requestTimes_append, requestTimes_singleton_false hrequests,
      List.append_nil]
    exact ⟨hlen, hlast⟩
  | again e hmem hkey hretries htime hskips hreceives hrequests =>
    obtain ⟨pre, a, mid, hhist, ha, hmid, hlen, hlast⟩ := h.entries e hmem
    rw [← hkey] at ha hmid hlen
    refine ⟨pre, a, mid ++ [r], by rw [hhist]; simp, ha, hextend hskips hreceives hmid, ?_⟩
    rw [← List.cons_append, requestTimes_append, requestTimes_singleton_true hrequests htime,
      List.length_append, hlen, hretries]
    exact ⟨rfl, List.getLast?_concat⟩
  | fresh hskips hretries htime hrequests =>
    refine ⟨hist, r, [], rfl, hskips, by simp, ?_⟩
    rw [requestTimes_singleton_true hrequests htime, hretries]
    exact ⟨rfl, rfl⟩

/-- The requests after one more event. -/
theorem asked_step (h : Sound rtt hist r.before) (hr : Explained r) :
    ∀ pre r' post seq, hist ++ [r] = pre ++ r' :: post → r'.requests seq = true →
      ∃ pre' a mid, pre ++ [r'] = pre' ++ a :: mid ∧ a.Skips seq ∧ ∀ b ∈ mid, ¬b.Receives seq := by
  intro pre r' post seq hsplit hrequests
  rcases Run.split_concat hsplit with ⟨rfl, rfl, -⟩ | ⟨post', hhist, -⟩
  · cases hr.caused seq hrequests with
    | skipped hskips => exact ⟨hist, r, [], rfl, hskips, by simp⟩
    | due e hmem hkey nowMs htime hrtt hskips hreceives =>
      obtain ⟨pre, a, mid, rfl, ha, hmid, -⟩ := h.entries e hmem
      rw [hkey] at ha hmid
      refine ⟨pre, a, mid ++ [r], by simp, ha, fun b hb ↦ ?_⟩
      rcases List.mem_append.mp hb with hb | hb
      · exact (hmid b hb).2
      · rw [List.mem_singleton.mp hb]
        exact hreceives
  · exact h.asked pre r' post' seq hhist hrequests

/-- The epochs after one more event, whose time is not before any earlier one. -/
theorem epochs_step (h : Sound rtt hist r.before) (hr : Explained r)
    (hclock : ∀ b ∈ hist, ∀ t u, b.event.time? = some t → r.event.time? = some u → t ≤ u) :
    ∀ pre a mid post seq, hist ++ [r] = pre ++ a :: mid ++ post → a.Skips seq →
      (∀ b ∈ mid, ¬b.Skips seq) → Polite rtt.toNat (requestTimes seq (a :: mid)) := by
  intro pre a mid post seq hsplit ha hmid
  rw [List.append_assoc, List.cons_append] at hsplit
  rcases Run.split_concat hsplit with ⟨rfl, rfl, hnil⟩ | ⟨rest, hhist, hrest⟩
  · -- the epoch begins with the new event
    obtain rfl : mid = [] := (List.append_eq_nil_iff.mp hnil).1
    cases hq : r.requests seq with
    | false =>
      rw [requestTimes_singleton_false hq]
      exact ⟨by decide, List.Pairwise.nil⟩
    | true =>
      obtain ⟨nowMs, htime⟩ : ∃ nowMs, r.event.time? = some nowMs := by
        cases hr.caused seq hq with
        | skipped _ nowMs htime => exact ⟨nowMs, htime⟩
        | due _ _ _ nowMs htime => exact ⟨nowMs, htime⟩
      rw [requestTimes_singleton_true hq htime]
      exact ⟨Nat.le_add_left 1 9, List.pairwise_singleton _ _⟩
  · rcases List.eq_nil_or_concat post with rfl | ⟨post', last, rfl⟩
    · -- the epoch goes on to the new event
      rw [List.append_nil] at hrest
      subst hrest
      have hold := h.epochs pre a rest [] seq (by rw [hhist, List.append_nil]) ha
        fun b hb ↦ hmid b (List.mem_append_left _ hb)
      rw [← List.cons_append, requestTimes_append]
      cases hq : r.requests seq with
      | false =>
        rw [requestTimes_singleton_false hq, List.append_nil]
        exact hold
      | true =>
        cases hr.caused seq hq with
        | skipped hskips => exact absurd hskips (hmid r (by simp))
        | due e hmem hkey nowMs htime hrtt _ _ =>
          obtain ⟨pre₂, a₂, mid₂, hhist₂, ha₂, hmid₂, hlen, hlast⟩ := h.entries e hmem
          rw [hkey] at ha₂ hmid₂ hlen hlast
          have hsame := Run.epoch_unique (hhist₂.symm.trans hhist) ha₂ ha
              (fun b hb ↦ (hmid₂ b hb).1)
            fun b hb ↦ hmid b (List.mem_append_left _ hb)
          rw [hsame] at hlen hlast
          rw [requestTimes_singleton_true hq htime]
          refine hold.concat (by rw [hlen]; exact (h.sent e hmem).retries) hlast ?_
          -- the time of the last request is one of the past
          obtain ⟨b, hb, u, hu, hut⟩ := mem_requestTimes (List.mem_of_getLast? hlast)
          have hle : e.2.sentAtMs ≤ nowMs := by
            have := hclock b (by rw [hhist]; exact List.mem_append_right _ hb) u nowMs hu htime
            rw [BitVec.le_def] at this ⊢
            omega
          rw [h.rtt_eq, BitVec.le_def, BitVec.toNat_sub_of_le hle, BitVec.toNat_setWidth,
            Nat.mod_eq_of_lt (by have := rtt.isLt; omega)] at hrtt
          rw [BitVec.le_def] at hle
          omega
    · -- the epoch is over
      rw [List.concat_eq_append, ← List.append_assoc] at hrest
      have hconcat := List.append_inj' hrest rfl
      refine h.epochs pre a mid post' seq ?_ ha hmid
      rw [hhist, ← hconcat.1, List.append_assoc, List.cons_append]

/-- **A run** under a positive clock that does not run backwards keeps the connection with the
past. -/
theorem trace (events : List NackEvent) :
    ∀ {hist : List NackRecord} {g : NackGenerator}, Sound rtt hist g →
      (∀ b ∈ hist, ∀ t, b.event.time? = some t → ∀ u ∈ events.filterMap NackEvent.time?, t ≤ u) →
      (∀ t ∈ events.filterMap NackEvent.time?, t ≠ 0) →
      (events.filterMap NackEvent.time?).Pairwise (· ≤ ·) →
      (∀ rtt', .updateRtt rtt' ∈ events → rtt' = rtt) →
      ∃ records g', g.trace events = .ok records ∧ Sound rtt (hist ++ records) g' := by
  induction events with
  | nil =>
    intro hist g h _ _ _ _
    exact ⟨[], g, rfl, by rwa [List.append_nil]⟩
  | cons event events ih =>
    intro hist g h hpast hpos hmono hrtt
    have htimes : ∀ t, event.time? = some t → t ∈ (event :: events).filterMap NackEvent.time? :=
      fun t ht ↦ List.mem_filterMap.mpr ⟨event, List.mem_cons_self, ht⟩
    have hsub : (events.filterMap NackEvent.time?).Sublist
        ((event :: events).filterMap NackEvent.time?) := (List.sublist_cons_self _ _).filterMap _
    obtain ⟨notices, g', hstep, hinv, hexplained, hsame, hupdated⟩ :=
      step_explained h.inv h.sent event fun t ht ↦ hpos t (htimes t ht)
    have hrtt' : g'.rtt = rtt := by
      by_cases hupdate : ∃ rtt', event = .updateRtt rtt'
      · obtain ⟨rtt', rfl⟩ := hupdate
        rw [hupdated rtt' rfl]
        exact hrtt rtt' List.mem_cons_self
      · rw [hsame fun rtt' hc ↦ hupdate ⟨rtt', hc⟩, h.rtt_eq]
    have hclock : ∀ b ∈ hist, ∀ t u, b.event.time? = some t → event.time? = some u → t ≤ u :=
      fun b hb t u ht hu ↦ hpast b hb t ht u (htimes u hu)
    have hsound : Sound rtt (hist ++ [⟨g, event, notices, g'⟩]) g' :=
      ⟨hinv, hrtt', hexplained.sent, entries_step h hexplained, asked_step h hexplained,
        epochs_step h hexplained hclock⟩
    have hnext : ∀ b ∈ hist ++ [⟨g, event, notices, g'⟩], ∀ t, b.event.time? = some t →
        ∀ u ∈ events.filterMap NackEvent.time?, t ≤ u := by
      intro b hb t ht u hu
      rcases List.mem_append.mp hb with hb | hb
      · exact hpast b hb t ht u (hsub.subset hu)
      · rw [List.mem_singleton.mp hb] at ht
        change event.time? = some t at ht
        rw [List.filterMap_cons_some ht] at hmono
        exact (List.pairwise_cons.mp hmono).1 u hu
    obtain ⟨records, g'', htrace, hfinal⟩ := ih hsound hnext (fun t ht ↦ hpos t (hsub.subset ht))
      (hmono.sublist hsub) fun rtt' hmem ↦ hrtt rtt' (List.mem_cons_of_mem _ hmem)
    refine ⟨⟨g, event, notices, g'⟩ :: records, g'', ?_, ?_⟩
    · rw [NackGenerator.trace, hstep]
      change (g'.trace events >>= _) = _
      rw [htrace]
      rfl
    · rwa [List.append_assoc, List.singleton_append] at hfinal

end Sound

/-- **NACK soundness.** Under a positive clock that does not run backwards and a constant round trip
time, every requested sequence number was skipped by the last sequence number and has not arrived
since; from the event that skipped it to the next one that does so, it is requested at most
`MaxNackRetries` times, at intervals of at least the round trip time. -/
theorem nack_sound (rtt : BitVec 32) (events : List NackEvent)
    (hpos : ∀ t ∈ events.filterMap NackEvent.time?, t ≠ 0)
    (hmono : (events.filterMap NackEvent.time?).Pairwise (· ≤ ·))
    (hrtt : ∀ rtt', .updateRtt rtt' ∈ events → rtt' = rtt) :
    ∃ records, trace { rtt := rtt } events = .ok records ∧
      (∀ pre r post seq, records = pre ++ r :: post → r.requests seq = true →
        ∃ pre' a mid, pre ++ [r] = pre' ++ a :: mid ∧ a.Skips seq ∧
          ∀ b ∈ mid, ¬b.Receives seq) ∧
      ∀ pre a mid post seq, records = pre ++ a :: mid ++ post → a.Skips seq →
        (∀ b ∈ mid, ¬b.Skips seq) →
        (requestTimes seq (a :: mid)).length ≤ maxNackRetries.toNat ∧
          (requestTimes seq (a :: mid)).Pairwise fun t u ↦ t + rtt.toNat ≤ u := by
  obtain ⟨records, g, htrace, hsound⟩ :=
    (sound_init rtt).trace events (by simp) hpos hmono hrtt
  refine ⟨records, htrace, hsound.asked, fun pre a mid post seq hsplit ha hmid ↦ ?_⟩
  have hpolite := hsound.epochs pre a mid post seq hsplit ha hmid
  exact ⟨hpolite.few, hpolite.apart⟩

/-- A packet is lost, requested twice, and arrives. -/
theorem nack_sound_two_requests :
    let events : List NackEvent := [.receivePacket (.linear _) 1 false false 1,
      .receivePacket (.linear _) 3 false false 2, .timer 150, .receivePacket (.linear _) 2 false
        true 160]
    ∃ records, trace { rtt := 100 } events = .ok records ∧ requestTimes 2 records = [2, 150] ∧
      ∀ pre a mid post seq, records = pre ++ a :: mid ++ post → a.Skips seq →
        (∀ b ∈ mid, ¬b.Skips seq) →
        (requestTimes seq (a :: mid)).length ≤ maxNackRetries.toNat ∧
          (requestTimes seq (a :: mid)).Pairwise fun t u ↦ t + (100 : BitVec 32).toNat ≤ u := by
  intro events
  obtain ⟨records, htrace, -, hepochs⟩ := nack_sound 100 events (by simp [events, NackEvent.time?])
    (by simp only [events, NackEvent.time?, List.filterMap]; decide) (by simp [events])
  refine ⟨records, htrace, ?_, hepochs⟩
  obtain rfl : _ = records := Except.ok.inj htrace
  rfl

/-- **A reset begins anew.** The same packet is requested twice within one millisecond, once on each
side of a `Reset`. -/
theorem requested_twice_across_reset :
    let events : List NackEvent := [.receivePacket (.linear _) 1 false false 1,
      .receivePacket (.linear _) 3 false false 1, .reset, .receivePacket (.linear _) 1 false
        false 1,
      .receivePacket (.linear _) 3 false false 1]
    ∃ records, trace { rtt := 100 } events = .ok records ∧ requestTimes 2 records = [1, 1] ∧
      ¬(requestTimes 2 records).Pairwise fun t u ↦ t + (100 : BitVec 32).toNat ≤ u := by
  intro events
  have htimes : ∃ records, trace { rtt := 100 } events = .ok records ∧
      requestTimes 2 records = [1, 1] := ⟨_, rfl, rfl⟩
  obtain ⟨records, htrace, hrequests⟩ := htimes
  refine ⟨records, htrace, hrequests, ?_⟩
  rw [hrequests]
  decide

end NackGenerator

end MediasoupSfu
