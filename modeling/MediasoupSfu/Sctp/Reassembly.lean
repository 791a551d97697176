import MediasoupSfu.Library.Run
import MediasoupSfu.Rtp.Packet

/-!
# SCTP messages in chunks

usrsctp hands a message to `OnUsrSctpReceiveSctpData` in chunks, the last of which has `MSG_EOR`.
`SctpAssociation` puts them together in one buffer. A chunk that would make the message longer than
`maxSctpMessageSize` is refused, but the chunks before it stay in the buffer, and `lastSsnReceived`
becomes zero. What comes next is taken as follows:

* a further chunk of the same message, unless its SSN is zero, finds another SSN than the last one,
  so the buffer is discarded and the rest of the message is taken for a message of its own;
* with SSN zero (unordered messages have it) a chunk is appended to what is in the buffer, even if
  it is from the next message.

The buffer with its length is an `Assembly`: the bytes that are pending, and the last SSN
(`represents_receive`). On these it is seen that all messages arrive if a message that is too long
is so by its last chunk, and is not followed by one with SSN zero unless nothing of it is in the
buffer (`messages_reassembled`). Whatever the chunks are, the buffer is not overrun.
-/

namespace MediasoupSfu

open Memory

/-! ## The code -/

/-- The arguments of `OnUsrSctpReceiveSctpData`. -/
structure SctpChunk where
  streamId : BitVec 16
  ssn : BitVec 16
  ppid : BitVec 32
  /-- `flags & MSG_EOR`. -/
  eor : Bool
  data : List Byte

/-- A call of `OnSctpAssociationMessageReceived`. -/
structure ReceivedMessage where
  streamId : BitVec 16
  ppid : BitVec 32
  msg : List Byte
  deriving DecidableEq, Repr

/-- The members of `SctpAssociation` that receiving works on. -/
structure SctpAssociation where
  maxSctpMessageSize : ℕ := 262144
  messageBuffer : Option (List Byte) := none
  messageBufferLen : ℕ := 0
  lastSsnReceived : BitVec 16 := 0

namespace SctpAssociation

/-- The begin of `OnUsrSctpReceiveSctpData`. If a message chunk is received with different SSN while
the buffer is not empty, the buffer is discarded. The last SSN received is updated. -/
def updateSsn (s : SctpAssociation) (ssn : BitVec 16) : SctpAssociation :=
  { s with
    messageBufferLen :=
      if s.messageBufferLen ≠ 0 ∧ ssn ≠ s.lastSsnReceived then 0 else s.messageBufferLen
    lastSsnReceived := ssn }

/-- Write a chunk behind the bytes in the buffer. -/
def append (s : SctpAssociation) (data : List Byte) : Except Fault (List Byte) :=
  match s.messageBuffer with
  | none => .error .nullPointer
  | some messageBuffer => writeBytes messageBuffer s.messageBufferLen data

/-- Allocate the buffer if not already done. -/
def allocate (s : SctpAssociation) : SctpAssociation :=
  match s.messageBuffer with
  | none => { s with messageBuffer := some (List.replicate s.maxSctpMessageSize 0) }
  | some _ => s

/-- The rest of `OnUsrSctpReceiveSctpData`. -/
def receiveChunk (s : SctpAssociation) (chunk : SctpChunk) :
    Except Fault (List ReceivedMessage × SctpAssociation) :=
  -- Ongoing received message exceeds max allowed message size.
  if s.maxSctpMessageSize < s.messageBufferLen + chunk.data.length then
    .ok ([], { s with lastSsnReceived := 0 })
  else if chunk.eor then
    -- If end of message and there is no buffered data, notify it directly.
    if s.messageBufferLen = 0 then .ok ([⟨chunk.streamId, chunk.ppid, chunk.data⟩], s)
    -- If end of message and there is buffered data, append data and notify buffer.
    else do
      let messageBuffer ← s.append chunk.data
      return ([⟨chunk.streamId, chunk.ppid,
          slice messageBuffer 0 (s.messageBufferLen + chunk.data.length)⟩],
        { s with messageBuffer := some messageBuffer, messageBufferLen := 0 })
  -- If non end of message, append data to the buffer.
  else do
    let messageBuffer ← s.allocate.append chunk.data
    return ([], { s with
      messageBuffer := some messageBuffer
      messageBufferLen := s.messageBufferLen + chunk.data.length })

/-- `OnUsrSctpReceiveSctpData(streamId, ssn, ppid, flags, data, len)`. -/
def onUsrSctpReceiveSctpData (s : SctpAssociation) (chunk : SctpChunk) :
    Except Fault (List ReceivedMessage × SctpAssociation) :=
  -- Ignore WebRTC DataChannel Control DATA chunks.
  if chunk.ppid = 50 then .ok ([], s) else (s.updateSsn chunk.ssn).receiveChunk chunk

/-! ## The bytes that are pending -/

/-- What an association knows of the message that it receives. -/
structure Assembly where
  pending : List Byte := []
  lastSsn : BitVec 16 := 0

namespace Assembly

/-- What a chunk with this SSN is appended to. -/
def held (a : Assembly) (ssn : BitVec 16) : List Byte :=
  if a.pending ≠ [] ∧ ssn ≠ a.lastSsn then [] else a.pending

/-- A chunk is received. -/
def receive (maxSize : ℕ) (a : Assembly) (chunk : SctpChunk) : List ReceivedMessage × Assembly :=
  if chunk.ppid = 50 then ([], a)
  else if maxSize < (a.held chunk.ssn ++ chunk.data).length then ([], ⟨a.held chunk.ssn, 0⟩)
  else if chunk.eor then
    ([⟨chunk.streamId, chunk.ppid, a.held chunk.ssn ++ chunk.data⟩], ⟨[], chunk.ssn⟩)
  else ([], ⟨a.held chunk.ssn ++ chunk.data, chunk.ssn⟩)

end Assembly

/-- The pending bytes are at the front of the buffer, which has room for a message. -/
structure Represents (maxSize : ℕ) (s : SctpAssociation) (a : Assembly) : Prop where
  maxSize_eq : s.maxSctpMessageSize = maxSize
  length_eq : s.messageBufferLen = a.pending.length
  le_maxSize : s.messageBufferLen ≤ maxSize
  lastSsn_eq : s.lastSsnReceived = a.lastSsn
  allocated : s.messageBuffer = none → s.messageBufferLen = 0
  buffer : ∀ buffer, s.messageBuffer = some buffer →
    buffer.length = maxSize ∧ slice buffer 0 s.messageBufferLen = a.pending

variable {maxSize : ℕ} {s : SctpAssociation} {a : Assembly}

theorem represents_init (maxSize : ℕ) :
    Represents maxSize { maxSctpMessageSize := maxSize } {} :=
  ⟨rfl, rfl, Nat.zero_le _, rfl, fun _ ↦ rfl, fun _ h ↦ by cases h⟩

/-- The pending bytes, after what does not belong to the message has been discarded. -/
theorem Represents.updateSsn (h : Represents maxSize s a) (ssn : BitVec 16) :
    Represents maxSize (s.updateSsn ssn) ⟨a.held ssn, ssn⟩ := by
  have hnil : s.messageBufferLen ≠ 0 ↔ a.pending ≠ [] := by
    rw [h.length_eq, ne_eq, List.length_eq_zero_iff]
  by_cases hother : a.pending ≠ [] ∧ ssn ≠ a.lastSsn
  · have hlength : (s.updateSsn ssn).messageBufferLen = 0 :=
      if_pos ⟨hnil.mpr hother.1, by rw [h.lastSsn_eq]; exact hother.2⟩
    rw [Assembly.held, if_pos hother]
    refine ⟨h.maxSize_eq, hlength, by rw [hlength]; exact Nat.zero_le _, rfl, fun _ ↦ hlength,
      fun buffer hbuffer ↦ ⟨(h.buffer buffer hbuffer).1, ?_⟩⟩
    rw [hlength, slice_zero]
  · have hlength : (s.updateSsn ssn).messageBufferLen = s.messageBufferLen :=
      if_neg fun hif ↦ hother ⟨hnil.mp hif.1, by rw [← h.lastSsn_eq]; exact hif.2⟩
    rw [Assembly.held, if_neg hother]
    refine ⟨h.maxSize_eq, hlength.trans h.length_eq, by rw [hlength]; exact h.le_maxSize, rfl,
      fun hnone ↦ hlength.trans (h.allocated hnone), fun buffer hbuffer ↦ ?_⟩
    rw [hlength]
    exact h.buffer buffer hbuffer

/-- Writing behind the pending bytes. -/
theorem Represents.append (h : Represents maxSize s a) {buffer data : List Byte}
    (hbuffer : s.messageBuffer = some buffer)
    (hfits : s.messageBufferLen + data.length ≤ maxSize) :
    ∃ buffer', s.append data = .ok buffer' ∧ buffer'.length = maxSize ∧
      slice buffer' 0 (s.messageBufferLen + data.length) = a.pending ++ data := by
  obtain ⟨hlength, hslice⟩ := h.buffer buffer hbuffer
  have hroom : s.messageBufferLen + data.length ≤ buffer.length := by omega
  refine ⟨splice buffer s.messageBufferLen data, ?_, (length_splice hroom).trans hlength, ?_⟩
  · rw [SctpAssociation.append, hbuffer]
    exact if_pos hroom
  · rw [slice_add, slice_splice_before hroom (by omega), hslice, Nat.zero_add,
      slice_splice_self hroom rfl]

theorem Represents.allocate (h : Represents maxSize s a) :
    Represents maxSize s.allocate a ∧ s.allocate.messageBufferLen = s.messageBufferLen ∧
      ∃ buffer, s.allocate.messageBuffer = some buffer := by
  unfold SctpAssociation.allocate
  cases hbuffer : s.messageBuffer with
  | none =>
    have hzero := h.allocated hbuffer
    refine ⟨⟨h.maxSize_eq, h.length_eq, h.le_maxSize, h.lastSsn_eq, nofun, ?_⟩, rfl, _, rfl⟩
    rintro buffer ⟨⟩
    have hpending : a.pending = [] :=
      List.eq_nil_of_length_eq_zero (h.length_eq.symm.trans hzero)
    refine ⟨by rw [List.length_replicate, h.maxSize_eq], ?_⟩
    rw [hpending]
    change slice _ 0 s.messageBufferLen = []
    rw [hzero, slice_zero]
  | some buffer => exact ⟨h, rfl, buffer, hbuffer⟩

/-- **A chunk** is received as the pending bytes say, within the buffer. -/
theorem represents_receive (h : Represents maxSize s a) (chunk : SctpChunk) :
    ∃ t, s.onUsrSctpReceiveSctpData chunk = .ok ((a.receive maxSize chunk).1, t) ∧
      Represents maxSize t (a.receive maxSize chunk).2 := by
  unfold onUsrSctpReceiveSctpData Assembly.receive
  by_cases hppid : chunk.ppid = 50
  · rw [if_pos hppid, if_pos hppid]
    exact ⟨s, rfl, h⟩
  rw [if_neg hppid, if_neg hppid]
  -- what does not belong to the message is gone
  have hs := h.updateSsn chunk.ssn
  generalize s.updateSsn chunk.ssn = s at hs
  generalize a.held chunk.ssn = pending at hs
  have hlength : s.messageBufferLen = pending.length := hs.length_eq
  rw [receiveChunk, List.length_append, ← hlength, hs.maxSize_eq]
  split
  · exact ⟨_, rfl, rfl, hlength, hs.le_maxSize, rfl, hs.allocated, hs.buffer⟩
  rename_i hfits
  rw [not_lt] at hfits
  cases chunk.eor with
  | true =>
    simp only [↓reduceIte]
    split
    · rename_i hzero
      obtain rfl : pending = [] := List.eq_nil_of_length_eq_zero (hlength.symm.trans hzero)
      exact ⟨s, rfl, hs⟩
    · rename_i hsome
      cases hbuffer : s.messageBuffer with
      | none => exact absurd (hs.allocated hbuffer) hsome
      | some buffer =>
        obtain ⟨buffer', happend, hlength', hslice⟩ := hs.append hbuffer hfits
        rw [happend]
        simp only [bind, Except.bind]
        rw [hslice]
        refine ⟨_, rfl, rfl, rfl, Nat.zero_le _, hs.lastSsn_eq, nofun, ?_⟩
        rintro _ ⟨⟩
        exact ⟨hlength', slice_zero _ _⟩
  | false =>
    obtain ⟨hallocated, hlen, buffer, hbuffer⟩ := hs.allocate
    obtain ⟨buffer', happend, hlength', hslice⟩ :=
      hallocated.append hbuffer (by rw [hlen]; exact hfits)
    rw [happend]
    simp only [bind, Except.bind, Bool.false_eq_true, ↓reduceIte]
    rw [hlen] at hslice
    refine ⟨_, rfl, rfl, by rw [List.length_append, ← hlength], hfits, hs.lastSsn_eq, nofun, ?_⟩
    rintro _ ⟨⟩
    exact ⟨hlength', hslice⟩

/-! ## Messages -/

/-- A user message in chunks, which is not a WebRTC DataChannel Control one. -/
structure SctpMessage where
  streamId : BitVec 16
  ssn : BitVec 16
  ppid : BitVec 32
  ppid_ne : ppid ≠ 50
  /-- The chunks before the last one. -/
  parts : List (List Byte)
  last : List Byte

namespace SctpMessage

variable (m : SctpMessage)

def data : List Byte := m.parts.flatten ++ m.last

/-- A chunk before the last one. -/
def part (data : List Byte) : SctpChunk := ⟨m.streamId, m.ssn, m.ppid, false, data⟩

/-- The calls of `OnUsrSctpReceiveSctpData`. -/
def chunks : List SctpChunk := m.parts.map m.part ++ [⟨m.streamId, m.ssn, m.ppid, true, m.last⟩]

def received : ReceivedMessage := ⟨m.streamId, m.ppid, m.data⟩

end SctpMessage

/-- The messages that the listener has to be given. -/
def expected (maxSize : ℕ) (messages : List SctpMessage) : List ReceivedMessage :=
  (messages.filter fun m ↦ m.data.length ≤ maxSize).map SctpMessage.received

/-- No message is too long before its last chunk, and after one that is too long, and of which
something is in the buffer, the SSN of the next one is not zero. -/
def Regular (maxSize : ℕ) : List SctpMessage → Prop
  | [] => True
  | m :: messages => m.parts.flatten.length ≤ maxSize ∧
      (maxSize < m.data.length → m.parts.flatten ≠ [] → ∀ next ∈ messages.head?, next.ssn ≠ 0) ∧
      Regular maxSize messages

/-- The pending bytes after some chunks. -/
def Assembly.after (maxSize : ℕ) (a : Assembly) (chunks : List SctpChunk) : Assembly :=
  chunks.foldl (fun a chunk ↦ (a.receive maxSize chunk).2) a

/-- Chunks that are not the last one are collected. -/
theorem Assembly.receive_parts (m : SctpMessage) (parts : List (List Byte)) {a : Assembly}
    (hfits : (a.held m.ssn ++ parts.flatten).length ≤ maxSize) :
    (Run.emits (Assembly.receive maxSize) a (parts.map m.part)).flatten = [] ∧
      (a.after maxSize (parts.map m.part)).held m.ssn = a.held m.ssn ++ parts.flatten := by
  induction parts generalizing a with
  | nil => exact ⟨rfl, (List.append_nil _).symm⟩
  | cons part parts ih =>
    rw [List.flatten_cons, ← List.append_assoc] at hfits ⊢
    have hpart : (a.held m.ssn ++ part).length ≤ maxSize := by
      rw [List.length_append] at hfits
      omega
    have hreceive : a.receive maxSize (m.part part) = ([], ⟨a.held m.ssn ++ part, m.ssn⟩) := by
      rw [receive, if_neg (show (m.part part).ppid ≠ 50 from m.ppid_ne)]
      exact if_neg (Nat.not_lt.mpr hpart)
    have hheld : held ⟨a.held m.ssn ++ part, m.ssn⟩ m.ssn = a.held m.ssn ++ part :=
      if_neg fun hother ↦ hother.2 rfl
    obtain ⟨hcalls, hafter⟩ := ih (by rw [hheld]; exact hfits)
    rw [hheld] at hafter
    rw [List.map_cons, Run.emits, after, List.foldl_cons, hreceive]
    exact ⟨hcalls, hafter⟩

/-- **A message** whose chunks before the last one fit. -/
theorem Assembly.receive_message (m : SctpMessage) {a : Assembly} (ha : a.held m.ssn = [])
    (hparts : m.parts.flatten.length ≤ maxSize) :
    (Run.emits (Assembly.receive maxSize) a m.chunks).flatten = expected maxSize [m] ∧
      a.after maxSize m.chunks =
        if maxSize < m.data.length then ⟨m.parts.flatten, 0⟩ else ⟨[], m.ssn⟩ := by
  have hfits : (a.held m.ssn ++ m.parts.flatten).length ≤ maxSize := by rwa [ha]
  obtain ⟨hcalls, hheld⟩ := receive_parts m m.parts hfits
  rw [ha, List.nil_append] at hheld
  have hlast : (a.after maxSize (m.parts.map m.part)).receive maxSize
      ⟨m.streamId, m.ssn, m.ppid, true, m.last⟩ =
        if maxSize < m.data.length then ([], ⟨m.parts.flatten, 0⟩)
        else ([m.received], ⟨[], m.ssn⟩) := by
    rw [receive, if_neg m.ppid_ne, hheld]
    rfl
  have hafter : a.after maxSize m.chunks = ((a.after maxSize (m.parts.map m.part)).receive maxSize
      ⟨m.streamId, m.ssn, m.ppid, true, m.last⟩).2 := by
    rw [after, SctpMessage.chunks, List.foldl_append]
    rfl
  have hemits : (Run.emits (Assembly.receive maxSize) a m.chunks).flatten =
      ((a.after maxSize (m.parts.map m.part)).receive maxSize
        ⟨m.streamId, m.ssn, m.ppid, true, m.last⟩).1 := by
    rw [SctpMessage.chunks, Run.emits_append, List.flatten_append, hcalls, List.nil_append]
    exact List.append_nil _
  rw [hafter, hemits, hlast, expected]
  by_cases hlong : maxSize < m.data.length
  · rw [if_pos hlong, if_pos hlong, List.filter_cons_of_neg (by simpa using hlong)]
    exact ⟨rfl, rfl⟩
  · rw [if_neg hlong, if_neg hlong, List.filter_cons_of_pos (by simpa using hlong)]
    exact ⟨rfl, rfl⟩

theorem expected_cons (maxSize : ℕ) (m : SctpMessage) (messages : List SctpMessage) :
    expected maxSize (m :: messages) = expected maxSize [m] ++ expected maxSize messages := by
  rw [← List.singleton_append, expected, List.filter_append, List.map_append]
  rfl

/-- **Regular messages** all arrive. -/
theorem Assembly.receive_messages {messages : List SctpMessage} (h : Regular maxSize messages)
    {a : Assembly} (ha : ∀ next ∈ messages.head?, a.held next.ssn = []) :
    (Run.emits (Assembly.receive maxSize) a (messages.flatMap SctpMessage.chunks)).flatten =
      expected maxSize messages := by
  induction messages generalizing a with
  | nil => rfl
  | cons m messages ih =>
    obtain ⟨hparts, hnext, hregular⟩ := h
    obtain ⟨hcalls, hafter⟩ := receive_message m (ha m rfl) hparts
    -- the next message finds nothing to which it would be appended
    have hready : ∀ next ∈ messages.head?, (a.after maxSize m.chunks).held next.ssn = [] := by
      intro next hmem
      rw [hafter]
      split
      · rename_i hlong
        rw [held]
        by_cases hnone : m.parts.flatten = []
        · rw [hnone]
          exact ite_self _
        · exact if_pos ⟨hnone, hnext hlong hnone next hmem⟩
      · exact ite_self _
    rw [List.flatMap_cons, Run.emits_append, List.flatten_append, hcalls]
    exact (congrArg _ (ih hregular hready)).trans (expected_cons maxSize m messages).symm

/-! ## All runs -/

/-- **Reassembly.** Whatever the chunks are, the buffer is there when it is written, is not overrun,
and never has more than `maxSctpMessageSize` bytes. The listener is given the messages that are not
too long, once, in order and as they were sent, if they are regular. -/
theorem messages_reassembled (maxSize : ℕ) (messages : List SctpMessage) :
    ∃ records, Run.trace onUsrSctpReceiveSctpData { maxSctpMessageSize := maxSize }
        (messages.flatMap SctpMessage.chunks) = .ok records ∧
      (∀ r ∈ records, r.after.messageBufferLen ≤ maxSize ∧
        (r.after.messageBuffer = none → r.after.messageBufferLen = 0)) ∧
      (Regular maxSize messages →
        records.flatMap Run.Record.output = expected maxSize messages) := by
  obtain ⟨records, htrace, houtputs, hafter⟩ := Run.trace_simulates (R := Represents maxSize)
    (fun s a chunk hs ↦ represents_receive hs chunk) (messages.flatMap SctpMessage.chunks)
    (represents_init maxSize)
  refine ⟨records, htrace, fun r hr ↦ ?_, fun hregular ↦ ?_⟩
  · obtain ⟨a, ha⟩ := hafter r hr
    exact ⟨ha.le_maxSize, ha.allocated⟩
  · rw [List.flatMap_def, houtputs]
    exact Assembly.receive_messages hregular fun _ _ ↦ rfl

/-- A message with SSN zero and another one that is too long, with room for 4 bytes. -/
def unorderedMessages : List SctpMessage :=
  [⟨1, 0, 51, by decide, [[1, 2, 3]], [4, 5]⟩, ⟨1, 0, 51, by decide, [], [6]⟩]

/-- A message that is too long, and one with another SSN. -/
def orderedMessages : List SctpMessage :=
  [⟨1, 7, 51, by decide, [[1, 2, 3]], [4, 5]⟩, ⟨1, 8, 51, by decide, [[6], [7]], [8]⟩]

/-- An application of `messages_reassembled`. -/
theorem messages_reassembled_ordered :
    ∃ records, Run.trace onUsrSctpReceiveSctpData { maxSctpMessageSize := 4 }
        (orderedMessages.flatMap SctpMessage.chunks) = .ok records ∧
      (∀ r ∈ records, r.after.messageBufferLen ≤ 4 ∧
        (r.after.messageBuffer = none → r.after.messageBufferLen = 0)) ∧
      records.flatMap Run.Record.output = [⟨1, 51, [6, 7, 8]⟩] := by
  obtain ⟨records, htrace, hbounds, houtputs⟩ := messages_reassembled 4 orderedMessages
  refine ⟨records, htrace, hbounds, (houtputs ?_).trans (by decide)⟩
  refine ⟨by decide, fun _ _ next hnext ↦ ?_, by decide, fun hlong ↦ absurd hlong (by decide),
    trivial⟩
  obtain rfl := Option.some.inj hnext
  decide

/-- **A message that is too long gets mixed up with the next one**: the listener is given its first
chunk in front of the next message. -/
theorem not_messages_reassembled :
    ¬∀ (maxSize : ℕ) (messages : List SctpMessage),
      ∃ records, Run.trace onUsrSctpReceiveSctpData { maxSctpMessageSize := maxSize }
          (messages.flatMap SctpMessage.chunks) = .ok records ∧
        records.flatMap Run.Record.output = expected maxSize messages := by
  intro h
  obtain ⟨records, htrace, houtputs⟩ := h 4 unorderedMessages
  have hcalls : (Run.trace onUsrSctpReceiveSctpData { maxSctpMessageSize := 4 }
      (unorderedMessages.flatMap SctpMessage.chunks)).map
        (fun records ↦ records.flatMap Run.Record.output) = .ok [⟨1, 51, [1, 2, 3, 6]⟩] := by
    decide
  rw [htrace] at hcalls
  have heq := (Except.ok.inj hcalls).symm.trans houtputs
  exact absurd heq (by decide)

end SctpAssociation

end MediasoupSfu
