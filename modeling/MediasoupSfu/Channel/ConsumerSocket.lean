import MediasoupSfu.Controller.Netstring
import MediasoupSfu.Library.Framing
import MediasoupSfu.Library.Window
import MediasoupSfu.Rtp.Packet

/-!
# Netstrings between the worker and its controller

The sockets of `Channel` and `PayloadChannel` have the same code. A message is sent as one
netstring, with the number of digits of its length computed by a logarithm (`sendImpl_eq`).

The consumer socket reads into the free space behind the data in its buffer and passes on the
messages that are complete. The next message starts behind the last one, so it may start anywhere;
an unfinished message is moved to the beginning of the buffer when the buffer is full. The buffer
has exactly the length of the longest netstring, therefore an unfinished message at its beginning
does not fill it, and nothing is ever discarded (`consumerSocket_deframes`).
-/

namespace MediasoupSfu

open Memory

/-! ## The code -/

/-- `NsMessageMaxLen`: the netstring length for a 4194304 bytes payload. -/
def NsMessageMaxLen : ℕ := 4194313

/-- `NsPayloadMaxLen`. -/
def NsPayloadMaxLen : ℕ := 4194304

/-- `netstring_read`: where the data of the netstring at the front of the buffer starts, and its
length. -/
def netstringSpan (buffer : List Byte) : Except NetstringError (ℕ × ℕ) :=
  match buffer with
  | c₀ :: c₁ :: _ :: _ =>
    if c₀ = 0x30 ∧ isdigit c₁ then .error .leadingZero
    else if !isdigit c₀ then .error .noLength
    else do
      let (i, len) ← readLength buffer 0 0
      if buffer.length ≤ i + len + 1 then .error .tooShort
      else if buffer[i]? ≠ some 0x3A then .error .noColon
      else if buffer[i + 1 + len]? ≠ some 0x2C then .error .noComma
      else .ok (i + 1, len)
  | _ => .error .tooShort

/-- `SendImpl(nsPayload, nsPayloadLen)`: what is written to the producer socket, and the
`WriteBuffer`. -/
def sendImpl (writeBuffer nsPayload : List Byte) : Except Fault (List Byte × List Byte) :=
  if nsPayload.length = 0 then do
    let writeBuffer ← writeBytes writeBuffer 0 [0x30, 0x3A, 0x2C]
    return (slice writeBuffer 0 3, writeBuffer)
  else do
    let nsNumLen := Nat.clog 10 (nsPayload.length + 1)
    -- `sprintf` writes a null character behind the colon.
    let writeBuffer ← writeBytes writeBuffer 0 (decimal nsPayload.length ++ [0x3A, 0x00])
    let writeBuffer ← writeBytes writeBuffer (nsNumLen + 1) nsPayload
    let writeBuffer ← writeBytes writeBuffer (nsNumLen + nsPayload.length + 1) [0x2C]
    return (slice writeBuffer 0 (nsNumLen + nsPayload.length + 2), writeBuffer)

/-- The members of `UnixStreamSocket` and `ConsumerSocket` that reading works on. -/
structure ConsumerSocket where
  bufferSize : ℕ
  buffer : List Byte
  bufferDataLen : ℕ := 0
  /-- Where the latest message starts. -/
  msgStart : ℕ := 0
  deriving DecidableEq, Repr

/-- What comes of a read. -/
structure NetstringsRead where
  /-- The messages that `OnConsumerSocketMessage` gets. -/
  messages : List (List Byte) := []
  /-- The error for which the data in the buffer is discarded. -/
  discarded : Option NetstringError := none
  deriving DecidableEq, Repr

namespace ConsumerSocket

/-- `netstring_read` on the data from `msgStart` on: the message and the length of its netstring. -/
def readMessage (s : ConsumerSocket) :
    Except Fault (Except NetstringError (List Byte × ℕ)) :=
  if s.bufferDataLen ≤ s.buffer.length then
    let data := slice s.buffer s.msgStart (s.bufferDataLen - s.msgStart)
    .ok ((netstringSpan data).map fun (msgStart, msgLen) ↦
      (slice data msgStart msgLen, msgStart + msgLen + 1))
  else .error .outOfBounds

/-- Set the beginning of the next message. -/
def passMessage (s : ConsumerSocket) (readLen : ℕ) : ConsumerSocket :=
  -- If there is no more space available in the buffer and that is because the latest parsed message
  -- filled it, then empty the full buffer.
  if s.msgStart + readLen = s.bufferSize then { s with msgStart := 0, bufferDataLen := 0 }
  else { s with msgStart := s.msgStart + readLen }

/-- What is done when there is no message. -/
def handleError (s : ConsumerSocket) (err : NetstringError) :
    Except Fault (NetstringsRead × ConsumerSocket) :=
  if err = .tooShort then
    if s.bufferDataLen = s.bufferSize then
      -- The incomplete message does not begin at position 0 of the buffer, so move it.
      if s.msgStart ≠ 0 then do
        let readLen := s.bufferDataLen - s.msgStart
        let buffer ← moveBytes s.buffer 0 s.msgStart readLen
        return ({}, { s with buffer := buffer, msgStart := 0, bufferDataLen := readLen })
      -- The message is too big, so discard it.
      else .ok ({ discarded := some err }, { s with msgStart := 0, bufferDataLen := 0 })
    -- Otherwise the buffer is not full, just wait.
    else .ok ({}, s)
  else .ok ({ discarded := some err }, { s with msgStart := 0, bufferDataLen := 0 })

theorem passMessage_lt {s : ConsumerSocket} {readLen : ℕ} (hpos : 0 < readLen)
    (h : (s.passMessage readLen).msgStart < (s.passMessage readLen).bufferDataLen) :
    (s.passMessage readLen).bufferDataLen - (s.passMessage readLen).msgStart <
      s.bufferDataLen - s.msgStart := by
  rw [passMessage] at h ⊢
  split at h
  · exact absurd h (lt_irrefl 0)
  · rename_i hspace
    rw [if_neg hspace]
    dsimp only at h ⊢
    omega

/-- The length of a netstring is not zero. -/
theorem pos_of_readMessage {s : ConsumerSocket} {message : List Byte} {readLen : ℕ}
    (h : s.readMessage = .ok (.ok (message, readLen))) : 0 < readLen := by
  rw [readMessage] at h
  split at h
  · dsimp only at h
    cases hspan : netstringSpan (slice s.buffer s.msgStart (s.bufferDataLen - s.msgStart)) with
    | error err =>
      rw [hspan] at h
      cases h
    | ok span =>
      rw [hspan] at h
      obtain ⟨-, rfl⟩ := Prod.mk.inj (Except.ok.inj (Except.ok.inj h))
      exact Nat.succ_pos _
  · cases h

/-- `UserOnUnixStreamRead()`. (The socket is open: the worker, which is the listener, does not close
it when it gets a message.) -/
def userOnUnixStreamRead (s : ConsumerSocket) : Except Fault (NetstringsRead × ConsumerSocket) :=
  match _hread : s.readMessage with
  | .error fault => .error fault
  | .ok (.error err) => s.handleError err
  | .ok (.ok (message, readLen)) =>
    -- If there is more data in the buffer after the parsed message then parse again.
    if _h : (s.passMessage readLen).msgStart < (s.passMessage readLen).bufferDataLen then do
      let (output, t) ← userOnUnixStreamRead (s.passMessage readLen)
      return ({ output with messages := message :: output.messages }, t)
    else .ok ({ messages := [message] }, s.passMessage readLen)
  termination_by s.bufferDataLen - s.msgStart
  decreasing_by exact passMessage_lt (pos_of_readMessage _hread) _h

/-- The space that `OnUvReadAlloc` offers. -/
def freeSpace (s : ConsumerSocket) : ℕ := s.bufferSize - s.bufferDataLen

/-- `OnUvRead(nread)` with the data in the space offered. -/
def onUvRead (s : ConsumerSocket) (data : List Byte) :
    Except Fault (NetstringsRead × ConsumerSocket) :=
  if data = [] then .ok ({}, s)
  else do
    let buffer ← writeBytes s.buffer s.bufferDataLen data
    userOnUnixStreamRead
      { s with buffer := buffer, bufferDataLen := s.bufferDataLen + data.length }

/-- `ConsumerSocket(fd, NsMessageMaxLen, listener)`, with what its buffer happens to hold. -/
def init (buffer : List Byte) : ConsumerSocket where
  bufferSize := buffer.length
  buffer := buffer

/-- The data fits the space offered. -/
def FitsFreeSpace (s : ConsumerSocket) (data : List Byte) : Prop := data.length ≤ s.freeSpace

end ConsumerSocket

/-! ## Reading and writing a netstring -/

section Netstrings

variable {data buffer rest : List Byte}

/-- The data is what `netstring_read` finds. -/
theorem netstringRead_eq_span (buffer : List Byte) :
    netstringRead buffer =
      (netstringSpan buffer).map fun (start, len) ↦ slice buffer start len := by
  match buffer with
  | [] => rfl
  | [_] => rfl
  | [_, _] => rfl
  | c₀ :: c₁ :: c₂ :: cs =>
    rw [netstringRead, netstringSpan]
    split
    · rfl
    · split
      · rfl
      · cases readLength (c₀ :: c₁ :: c₂ :: cs) 0 0 with
        | error err => rfl
        | ok digits =>
          dsimp only [bind, Except.bind]
          split
          · rfl
          · split
            · rfl
            · split <;> rfl

/-- The length is that of the digits at the front. -/
theorem readLength_of_span {start len : ℕ} (h : netstringSpan buffer = .ok (start, len)) :
    ∃ i, readLength buffer 0 0 = .ok (i, len) ∧ start = i + 1 := by
  match buffer, h with
  | [], h => cases h
  | [_], h => cases h
  | [_, _], h => cases h
  | c₀ :: c₁ :: c₂ :: cs, h =>
    rw [netstringSpan] at h
    split at h
    · cases h
    · split at h
      · cases h
      · cases hdigits : readLength (c₀ :: c₁ :: c₂ :: cs) 0 0 with
        | error err =>
          rw [hdigits] at h
          cases h
        | ok digits =>
          rw [hdigits] at h
          dsimp only [bind, Except.bind] at h
          split at h
          · cases h
          · split at h
            · cases h
            · split at h
              · cases h
              · obtain ⟨rfl, rfl⟩ := Prod.mk.inj (Except.ok.inj h)
                exact ⟨digits.1, rfl, rfl⟩

/-- **A netstring at the front** is found. -/
theorem netstringSpan_encode (hfew : data.length < 10 ^ 9) (rest : List Byte) :
    netstringSpan (netstringEncode data ++ rest) =
      .ok ((decimal data.length).length + 1, data.length) := by
  have hread := netstringRead_encode hfew rest
  rw [netstringRead_eq_span] at hread
  cases hspan : netstringSpan (netstringEncode data ++ rest) with
  | error err =>
    rw [hspan] at hread
    cases hread
  | ok span =>
    obtain ⟨start, len⟩ := span
    obtain ⟨i, hdigits, rfl⟩ := readLength_of_span hspan
    have hfew' : (decimal data.length).length ≤ 9 := (length_decimal_le_iff (by decide)).mpr hfew
    rw [netstringEncode, List.append_assoc, readLength_decimal hfew' (by simp; decide)] at hdigits
    obtain ⟨rfl, rfl⟩ := Prod.mk.inj (Except.ok.inj hdigits)
    rfl

/-- **The front part of a netstring** is not taken for one. -/
theorem netstringSpan_incomplete (hfew : data.length < 10 ^ 9)
    (hstarts : buffer <+: netstringEncode data)
    (hlt : buffer.length < (netstringEncode data).length) :
    netstringSpan buffer = .error .tooShort := by
  have hread := netstringRead_partial hfew hstarts hlt
  rw [netstringRead_eq_span] at hread
  cases hspan : netstringSpan buffer with
  | error err =>
    rw [hspan] at hread
    exact congrArg _ (Except.error.inj hread)
  | ok span =>
    rw [hspan] at hread
    cases hread

/-- The digits of the length of a payload. -/
theorem length_decimal_payload (h : data.length ≤ NsPayloadMaxLen) :
    (decimal data.length).length ≤ 7 :=
  (length_decimal_le_iff (by decide)).mpr (Nat.lt_of_le_of_lt h (by decide))

theorem length_netstringEncode_le (h : data.length ≤ NsPayloadMaxLen) :
    (netstringEncode data).length ≤ NsMessageMaxLen := by
  have hdigits := length_decimal_payload h
  rw [NsPayloadMaxLen] at h
  rw [length_netstringEncode, NsMessageMaxLen]
  omega

/-- The logarithm gives the number of digits. -/
theorem clog_eq_length_decimal (h : data.length ≠ 0) :
    Nat.clog 10 (data.length + 1) = (decimal data.length).length := by
  have hsize := netstringBufferSize_eq data
  rw [netstringBufferSize, if_neg h, length_netstringEncode] at hsize
  omega

/-- **Sending**: what is written is one netstring. -/
theorem sendImpl_eq {writeBuffer : List Byte} (hbuffer : writeBuffer.length = NsMessageMaxLen)
    (h : data.length ≤ NsPayloadMaxLen) :
    ∃ writeBuffer', sendImpl writeBuffer data = .ok (netstringEncode data, writeBuffer') ∧
      writeBuffer'.length = NsMessageMaxLen := by
  have hle := length_netstringEncode_le h
  rw [length_netstringEncode, ← hbuffer] at hle
  by_cases hzero : data.length = 0
  · have hroom : 0 + [(0x30 : Byte), 0x3A, 0x2C].length ≤ writeBuffer.length := by
      rw [hbuffer]
      decide
    obtain rfl := List.eq_nil_of_length_eq_zero hzero
    rw [sendImpl, if_pos hzero, writeBytes_eq_ok hroom]
    refine ⟨_, ?_, (length_splice hroom).trans hbuffer⟩
    exact congrArg (fun written ↦ Except.ok (written, _)) (slice_splice_self hroom rfl)
  · have hpos : 0 < data.length := Nat.pos_of_ne_zero hzero
    -- the length and the colon, the payload, the comma
    have hroom : 0 + (decimal data.length ++ [0x3A, 0x00]).length ≤ writeBuffer.length := by
      rw [List.length_append, List.length_cons, List.length_singleton]
      omega
    have hlength₁ := length_splice hroom
    have hroom₂ : (decimal data.length).length + 1 + data.length ≤
        (splice writeBuffer 0 (decimal data.length ++ [0x3A, 0x00])).length := by
      omega
    have hlength₂ := length_splice hroom₂
    have hroom₃ : (decimal data.length).length + data.length + 1 + [(0x2C : Byte)].length ≤
        (splice (splice writeBuffer 0 (decimal data.length ++ [0x3A, 0x00]))
          ((decimal data.length).length + 1) data).length := by
      rw [List.length_singleton]
      omega
    have hfront : slice (splice writeBuffer 0 (decimal data.length ++ [0x3A, 0x00])) 0
        ((decimal data.length).length + 1) = decimal data.length ++ [0x3A] := by
      have hself : slice (splice writeBuffer 0 (decimal data.length ++ [0x3A, 0x00])) 0
            ((decimal data.length).length + 1) ++
          slice (splice writeBuffer 0 (decimal data.length ++ [0x3A, 0x00]))
            (0 + ((decimal data.length).length + 1)) 1 =
          decimal data.length ++ [0x3A] ++ [0x00] := by
        rw [← slice_add, List.append_assoc]
        exact slice_splice_self hroom (by simp)
      exact (List.append_inj' hself (length_slice (by omega))).1
    rw [sendImpl, if_neg hzero, clog_eq_length_decimal hzero, writeBytes_eq_ok hroom]
    dsimp only [bind, Except.bind]
    rw [writeBytes_eq_ok hroom₂]
    dsimp only
    rw [writeBytes_eq_ok hroom₃]
    refine ⟨_, ?_, (length_splice hroom₃).trans (hlength₂.trans (hlength₁.trans hbuffer))⟩
    refine congrArg (fun written ↦ Except.ok (written, _)) ?_
    rw [show (decimal data.length).length + data.length + 2 =
        (decimal data.length).length + 1 + data.length + 1 by omega, slice_add, slice_add,
      slice_splice_before hroom₃ (by omega), slice_splice_before hroom₂ (by omega), hfront,
      slice_splice_before hroom₃ (by omega), Nat.zero_add, slice_splice_self hroom₂ rfl,
      show (decimal data.length).length + 1 + data.length =
        (decimal data.length).length + data.length + 1 by omega, Nat.zero_add,
      slice_splice_self hroom₃ (show 1 = [(0x2C : Byte)].length from rfl), netstringEncode]
    simp

end Netstrings

namespace ConsumerSocket

/-! ## What the buffer holds -/

/-- The data that is not parsed yet. -/
structure Holds (s : ConsumerSocket) (pending : List Byte) : Prop where
  length_eq : s.buffer.length = s.bufferSize
  window : Window.Holds s.buffer s.msgStart s.bufferDataLen pending

variable {s : ConsumerSocket} {pending rest data message : List Byte}

theorem Holds.le_size (h : s.Holds pending) : s.bufferDataLen ≤ s.bufferSize :=
  h.length_eq ▸ h.window.le_length

/-- What `netstring_read` is given. -/
theorem Holds.readMessage (h : s.Holds pending) :
    s.readMessage = .ok ((netstringSpan pending).map fun (msgStart, msgLen) ↦
      (slice pending msgStart msgLen, msgStart + msgLen + 1)) := by
  rw [ConsumerSocket.readMessage, if_pos h.window.le_length, h.window.slice_eq]

/-- **A message that is there** is found. -/
theorem Holds.readMessage_encode (h : s.Holds (netstringEncode message ++ rest))
    (hmessage : message.length ≤ NsPayloadMaxLen) :
    s.readMessage = .ok (.ok (message, (netstringEncode message).length)) := by
  have hfew : message.length < 10 ^ 9 := Nat.lt_of_le_of_lt hmessage (by decide)
  have hread := netstringRead_encode hfew rest
  rw [netstringRead_eq_span, netstringSpan_encode hfew] at hread
  rw [h.readMessage, netstringSpan_encode hfew, length_netstringEncode]
  have hslice : slice (netstringEncode message ++ rest) ((decimal message.length).length + 1)
      message.length = message := Except.ok.inj hread
  change Except.ok (Except.ok (slice (netstringEncode message ++ rest)
    ((decimal message.length).length + 1) message.length, _)) = _
  rw [hslice, show (decimal message.length).length + 1 + message.length + 1 =
    (decimal message.length).length + message.length + 2 by omega]

/-- **The front part of a message** is waited for. -/
theorem Holds.readMessage_incomplete (h : s.Holds pending)
    (hmessage : message.length ≤ NsPayloadMaxLen) (hstarts : pending <+: netstringEncode message)
    (hlt : pending.length < (netstringEncode message).length) :
    s.readMessage = .ok (.error .tooShort) := by
  have hfew : message.length < 10 ^ 9 := Nat.lt_of_le_of_lt hmessage (by decide)
  rw [h.readMessage, netstringSpan_incomplete hfew hstarts hlt]
  rfl

theorem passMessage_size (s : ConsumerSocket) (readLen : ℕ) :
    (s.passMessage readLen).bufferSize = s.bufferSize := by
  rw [passMessage]
  split <;> rfl

/-- **Behind a message** is what followed it, and there is space if nothing did. -/
theorem Holds.passMessage (h : s.Holds (netstringEncode message ++ rest)) :
    (s.passMessage (netstringEncode message).length).Holds rest ∧ (rest = [] →
      (s.passMessage (netstringEncode message).length).bufferDataLen < s.bufferSize) := by
  have hlength := h.window.length_pending
  rw [List.length_append] at hlength
  have hpos := List.length_pos_iff.mpr (netstringEncode_ne_nil message)
  have hstart := h.window.start_le
  have hsize := h.le_size
  rw [ConsumerSocket.passMessage]
  split
  · have hrest : rest = [] := List.eq_nil_of_length_eq_zero (by omega)
    subst hrest
    refine ⟨⟨h.length_eq, Window.Holds.reset _⟩, fun _ ↦ ?_⟩
    dsimp only
    omega
  · refine ⟨⟨h.length_eq, h.window.drop⟩, fun hrest ↦ ?_⟩
    rw [hrest, List.length_nil] at hlength
    dsimp only
    omega

/-- **An unfinished message** is kept, and there is space for the rest of it. -/
theorem Holds.handleError (h : s.Holds pending) (hlt : pending.length < s.bufferSize)
    (hpending : pending ≠ []) :
    ∃ t, s.handleError .tooShort = .ok ({}, t) ∧ t.Holds pending ∧ t.bufferSize = s.bufferSize ∧
      t.bufferDataLen < t.bufferSize := by
  have hlength := h.window.length_pending
  have hpos := List.length_pos_iff.mpr hpending
  have hbuffer := h.length_eq
  have hsize := h.le_size
  have hstart := h.window.start_le
  rw [ConsumerSocket.handleError, if_pos rfl]
  by_cases hfull : s.bufferDataLen = s.bufferSize
  · have hsrc : s.msgStart + (s.bufferDataLen - s.msgStart) ≤ s.buffer.length := by omega
    have hdst : 0 + (s.bufferDataLen - s.msgStart) ≤ s.buffer.length := by omega
    rw [if_pos hfull, if_pos (show s.msgStart ≠ 0 by omega)]
    dsimp only
    rw [moveBytes_eq_ok hsrc hdst]
    refine ⟨_, rfl, ⟨(length_move hsrc hdst).trans hbuffer, h.window.compact⟩, rfl, ?_⟩
    dsimp only
    omega
  · rw [if_neg hfull]
    exact ⟨s, rfl, h, rfl, by omega⟩

/-! ## Reads -/

/-- What comes of a read: the listener gets the messages that are complete, the rest is kept, and
there is free space. -/
structure Received (s : ConsumerSocket) (messages : List (List Byte)) (tail : List Byte)
    (output : NetstringsRead) (t : ConsumerSocket) : Prop where
  messages_eq : output.messages = messages
  kept : output.discarded = none
  size_eq : t.bufferSize = s.bufferSize
  holds : t.Holds tail
  space : t.bufferDataLen < t.bufferSize

/-- A round of the loop that finds a message. -/
theorem userOnUnixStreamRead_message {readLen : ℕ}
    (hmessage : s.readMessage = .ok (.ok (message, readLen))) :
    s.userOnUnixStreamRead =
      if (s.passMessage readLen).msgStart < (s.passMessage readLen).bufferDataLen then
        (fun result : NetstringsRead × ConsumerSocket ↦
          ({ result.1 with messages := message :: result.1.messages }, result.2)) <$>
          userOnUnixStreamRead (s.passMessage readLen)
      else .ok ({ messages := [message] }, s.passMessage readLen) := by
  rw [userOnUnixStreamRead]
  split
  · rename_i hread
    cases hmessage.symm.trans hread
  · rename_i hread
    cases hmessage.symm.trans hread
  · rename_i hread
    obtain ⟨rfl, rfl⟩ := Prod.mk.inj (Except.ok.inj (Except.ok.inj (hmessage.symm.trans hread)))
    by_cases hmore : (s.passMessage readLen).msgStart < (s.passMessage readLen).bufferDataLen
    · rw [if_pos hmore]
      exact dif_pos hmore
    · rw [if_neg hmore]
      exact dif_neg hmore

/-- The loop ends without a message. -/
theorem userOnUnixStreamRead_error {err : NetstringError}
    (herror : s.readMessage = .ok (.error err)) :
    s.userOnUnixStreamRead = s.handleError err := by
  rw [userOnUnixStreamRead]
  split
  · rename_i hread
    cases herror.symm.trans hread
  · rename_i hread
    rw [Except.error.inj (Except.ok.inj (herror.symm.trans hread))]
  · rename_i hread
    cases herror.symm.trans hread

/-- The loop takes the complete messages. -/
theorem received_loop {left : List (List Byte)} {tail : List Byte}
    (hincomplete : Framing.Partial netstringEncode left tail) (complete : List (List Byte))
    (hsize : s.bufferSize = NsMessageMaxLen)
    (hpayloads : ∀ payload ∈ complete ++ left, payload.length ≤ NsPayloadMaxLen)
    (h : s.Holds (complete.flatMap netstringEncode ++ tail))
    (hne : complete.flatMap netstringEncode ++ tail ≠ []) :
    ∃ output t, s.userOnUnixStreamRead = .ok (output, t) ∧ Received s complete tail output t := by
  induction complete generalizing s with
  | nil =>
    rw [List.flatMap_nil, List.nil_append] at h hne
    rcases hincomplete with rfl | ⟨message, hmessage, hstarts, hlt⟩
    · exact absurd rfl hne
    have hpayload := hpayloads message (List.mem_of_mem_head? hmessage)
    have hle := length_netstringEncode_le hpayload
    obtain ⟨t, hwait, hholds, hsize', hspace⟩ := h.handleError (by omega) hne
    refine ⟨{}, t, ?_, rfl, rfl, hsize', hholds, hspace⟩
    rw [userOnUnixStreamRead_error (h.readMessage_incomplete hpayload hstarts hlt)]
    exact hwait
  | cons message complete ih =>
    rw [List.flatMap_cons, List.append_assoc] at h
    obtain ⟨hpayload, hrest⟩ := List.forall_mem_cons.mp hpayloads
    obtain ⟨hholds, hspace⟩ := h.passMessage
    have hlength := hholds.window.length_pending
    have hsize' := passMessage_size s (netstringEncode message).length
    rw [userOnUnixStreamRead_message (h.readMessage_encode hpayload)]
    split
    · rename_i hmore
      obtain ⟨output, t, hloop, hreceived⟩ := ih (hsize'.trans hsize) hrest hholds fun hnil ↦ by
        rw [hnil, List.length_nil] at hlength
        omega
      rw [hloop]
      exact ⟨_, _, rfl, congrArg (message :: ·) hreceived.messages_eq, hreceived.kept,
        hreceived.size_eq.trans hsize', hreceived.holds, hreceived.space⟩
    · -- nothing follows
      have hnil : complete.flatMap netstringEncode ++ tail = [] :=
        List.eq_nil_of_length_eq_zero (by omega)
      obtain ⟨hcomplete, rfl⟩ := List.append_eq_nil_iff.mp hnil
      obtain rfl : complete = [] := by
        cases complete with
        | nil => rfl
        | cons m ms =>
          exact absurd (List.append_eq_nil_iff.mp hcomplete).1 (netstringEncode_ne_nil m)
      refine ⟨_, _, rfl, rfl, rfl, hsize', hholds, ?_⟩
      rw [hsize']
      exact hspace rfl

/-- **A read** in the free space. -/
theorem received_read {complete left : List (List Byte)} {tail tail' : List Byte}
    (hsize : s.bufferSize = NsMessageMaxLen)
    (hpayloads : ∀ payload ∈ complete ++ left, payload.length ≤ NsPayloadMaxLen)
    (h : s.Holds tail) (hspace : s.bufferDataLen < s.bufferSize) (hfits : s.FitsFreeSpace data)
    (hbefore : Framing.Partial netstringEncode (complete ++ left) tail)
    (hsplit : tail ++ data = complete.flatMap netstringEncode ++ tail')
    (hincomplete : Framing.Partial netstringEncode left tail') :
    ∃ output t, s.onUvRead data = .ok (output, t) ∧ Received s complete tail' output t := by
  rw [onUvRead]
  by_cases hdata : data = []
  · -- no message gets complete
    rw [hdata, List.append_nil] at hsplit
    obtain ⟨rfl, rfl⟩ := hbefore.split_unique netstringEncode_ne_nil hsplit
    rw [if_pos hdata]
    exact ⟨_, _, rfl, rfl, rfl, rfl, h, hspace⟩
  · have hroom : s.bufferDataLen + data.length ≤ s.buffer.length := by
      rw [FitsFreeSpace, freeSpace] at hfits
      have hlength := h.length_eq
      omega
    rw [if_neg hdata, writeBytes_eq_ok hroom]
    have hholds : Holds { s with
        buffer := splice s.buffer s.bufferDataLen data
        bufferDataLen := s.bufferDataLen + data.length }
        (complete.flatMap netstringEncode ++ tail') := by
      rw [← hsplit]
      exact ⟨(length_splice hroom).trans h.length_eq, h.window.append hroom⟩
    obtain ⟨output, t, hloop, hreceived⟩ := received_loop (s := { s with
        buffer := splice s.buffer s.bufferDataLen data
        bufferDataLen := s.bufferDataLen + data.length }) hincomplete complete hsize hpayloads
      hholds (by rw [← hsplit]; exact fun hnil ↦ hdata (List.append_eq_nil_iff.mp hnil).2)
    exact ⟨output, t, hloop, hreceived.messages_eq, hreceived.kept, hreceived.size_eq,
      hreceived.holds, hreceived.space⟩

/-! ## Runs -/

/-- What a run has done when some messages are complete. -/
structure RunReceived (hist : List (Run.Record ConsumerSocket (List Byte) NetstringsRead))
    (complete : List (List Byte)) (tail : List Byte) (s : ConsumerSocket) : Prop where
  messages_eq : hist.flatMap (fun r ↦ r.output.messages) = complete
  reads : ∀ r ∈ hist, r.output.discarded = none ∧ r.after.bufferDataLen < r.after.bufferSize
  size_eq : s.bufferSize = NsMessageMaxLen
  holds : s.Holds tail
  space : s.bufferDataLen < s.bufferSize

/-- **One read** of a run. -/
theorem RunReceived.onUvRead {payloads : List (List Byte)}
    (hpayloads : ∀ payload ∈ payloads, payload.length ≤ NsPayloadMaxLen)
    (hist : List (Run.Record ConsumerSocket (List Byte) NetstringsRead))
    (complete : List (List Byte)) (tail : List Byte) (s : ConsumerSocket) (data : List Byte)
    (more left : List (List Byte)) (tail' : List Byte) (hs : RunReceived hist complete tail s)
    (hfits : s.FitsFreeSpace data) (hmessages : payloads = complete ++ more ++ left)
    (hbefore : Framing.Partial netstringEncode (more ++ left) tail)
    (hsplit : tail ++ data = more.flatMap netstringEncode ++ tail')
    (hincomplete : Framing.Partial netstringEncode left tail') :
    ∃ output t, s.onUvRead data = .ok (output, t) ∧
      RunReceived (hist ++ [⟨s, data, output, t⟩]) (complete ++ more) tail' t := by
  have hmore : ∀ payload ∈ more ++ left, payload.length ≤ NsPayloadMaxLen := by
    intro payload hmem
    refine hpayloads payload ?_
    rw [hmessages, List.append_assoc]
    exact List.mem_append_right _ hmem
  obtain ⟨output, t, hread, hreceived⟩ :=
    received_read hs.size_eq hmore hs.holds hs.space hfits hbefore hsplit hincomplete
  refine ⟨output, t, hread, ?_, fun r hr ↦ ?_, hreceived.size_eq.trans hs.size_eq,
    hreceived.holds, hreceived.space⟩
  · rw [List.flatMap_append, hs.messages_eq, List.flatMap_singleton, hreceived.messages_eq]
  · rcases List.mem_append.mp hr with hr | hr
    · exact hs.reads r hr
    · rw [List.mem_singleton.mp hr]
      exact ⟨hreceived.kept, hreceived.space⟩

/-- **Deframing and framing.** However a stream of netstrings is cut into reads, the listener gets
the payloads in order, each of them once, nothing is discarded, and there is free space after every
read; and what `SendImpl` writes is one netstring that fits the buffer of the peer. -/
theorem consumerSocket_deframes :
    (∀ (buffer : List Byte) (payloads reads : List (List Byte)),
      buffer.length = NsMessageMaxLen → (∀ payload ∈ payloads, payload.length ≤ NsPayloadMaxLen) →
      reads.flatten = payloads.flatMap netstringEncode →
      Run.Obeys onUvRead FitsFreeSpace (init buffer) reads →
      ∃ records, Run.trace onUvRead (init buffer) reads = .ok records ∧
        records.flatMap (fun r ↦ r.output.messages) = payloads ∧
        ∀ r ∈ records, r.output.discarded = none ∧ r.after.bufferDataLen < r.after.bufferSize) ∧
    ∀ writeBuffer payload : List Byte,
      writeBuffer.length = NsMessageMaxLen → payload.length ≤ NsPayloadMaxLen →
      (netstringEncode payload).length ≤ NsMessageMaxLen ∧
        ∃ writeBuffer', sendImpl writeBuffer payload = .ok (netstringEncode payload, writeBuffer') ∧
          writeBuffer'.length = NsMessageMaxLen := by
  refine ⟨fun buffer payloads reads hbuffer hpayloads hstream hlegal ↦ ?_,
    fun writeBuffer payload hbuffer hpayload ↦
      ⟨length_netstringEncode_le hpayload, sendImpl_eq hbuffer hpayload⟩⟩
  have hinit : RunReceived [] [] [] (init buffer) := by
    refine ⟨rfl, fun _ hr ↦ absurd hr List.not_mem_nil, hbuffer, ⟨rfl, Window.Holds.reset _⟩, ?_⟩
    change 0 < buffer.length
    rw [hbuffer]
    decide
  obtain ⟨records, t, htrace, hrun⟩ := Framing.receives RunReceived netstringEncode_ne_nil
    (RunReceived.onUvRead hpayloads) hinit hstream hlegal
  exact ⟨records, htrace, hrun.messages_eq, hrun.reads⟩

/-- An application of `consumerSocket_deframes`: an empty message in two reads. -/
theorem consumerSocket_deframes_empty :
    ∃ records, Run.trace onUvRead (init (List.replicate NsMessageMaxLen 0))
        [[0x30, 0x3A], [0x2C]] = .ok records ∧
      records.flatMap (fun r ↦ r.output.messages) = [[]] ∧
      ∀ r ∈ records, r.output.discarded = none ∧ r.after.bufferDataLen < r.after.bufferSize := by
  have hpayload : ∀ payload ∈ ([] : List (List Byte)) ++ [[]],
      payload.length ≤ NsPayloadMaxLen := by decide
  have hinit : (init (List.replicate NsMessageMaxLen 0)).Holds [] :=
    ⟨rfl, Window.Holds.reset _⟩
  have hsize : (init (List.replicate NsMessageMaxLen 0)).bufferSize = NsMessageMaxLen :=
    List.length_replicate
  have hfirst : (init (List.replicate NsMessageMaxLen 0)).FitsFreeSpace [0x30, 0x3A] := by
    rw [FitsFreeSpace, freeSpace, hsize]
    change 2 ≤ NsMessageMaxLen - 0
    decide
  have hspace : (init (List.replicate NsMessageMaxLen 0)).bufferDataLen <
      (init (List.replicate NsMessageMaxLen 0)).bufferSize := by
    rw [hsize]
    change 0 < NsMessageMaxLen
    decide
  obtain ⟨output, t, hread, hreceived⟩ := received_read hsize hpayload hinit hspace hfirst
    (Or.inl rfl) rfl (Or.inr ⟨[], rfl, ⟨[0x2C], rfl⟩, by decide⟩)
  refine consumerSocket_deframes.1 _ [[]] [[0x30, 0x3A], [0x2C]] List.length_replicate hpayload rfl
    (Run.Obeys.cons hfirst hread ⟨?_, fun _ _ _ ↦ trivial⟩)
  have hfree := hreceived.space
  rw [FitsFreeSpace, freeSpace]
  change 1 ≤ _
  omega

end ConsumerSocket

end MediasoupSfu
