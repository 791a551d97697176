import Mathlib.Data.List.Infix
import MediasoupSfu.Controller.Netstring
import MediasoupSfu.Library.Framing

/-!
# Messages of the worker

`ChannelAgent::OnRead` and `PayloadChannelAgent::OnRead` get what the worker writes to a pipe, in
whatever pieces the pipe delivers it, and call `processMessage` with each JSON message, or
`OnRunning` when the worker says for the first time that it is running.

Before any message is taken from the buffer, two rules look at the whole of it: as long as the
worker is not running, a buffer in which the word occurs is taken to be that message and emptied;
and a buffer that is longer than the payload of a message may be is emptied. So a message is lost
when it arrives together with the running message, or behind others, or when it is nearly as long as
it may be (`not_reassembles`). Where the two rules meet nothing but what they are made for (`Fits`),
every message is passed on exactly once and in order, wherever the stream is cut (`reassembles`).

How JSON is parsed and what `processMessage` does are parameters.
-/

namespace MediasoupSfu

/-! ## The code -/

/-- What leaves `processMessage` before its end. -/
inductive MessageException
  | parseError
  | other
  deriving DecidableEq, Repr

/-- What the agent calls. -/
inductive ChannelCall (J : Type)
  | onRunning
  | processMessage (msg : J)
  deriving DecidableEq, Repr

/-- The message of a call of `processMessage`. -/
def ChannelCall.message {J : Type} : ChannelCall J → Option J
  | .onRunning => none
  | .processMessage msg => some msg

/-- The members of `ChannelAgent` that reading works on; `agent` is what `processMessage` does. -/
structure ChannelAgent (σ : Type) where
  readBuf : List Byte := []
  once : Bool := false
  agent : σ
  deriving DecidableEq, Repr

/-- JSON and what is done with it. -/
structure ChannelHandler (σ J : Type) where
  /-- `json::parse`, which throws a `parse_error` where there is no value. -/
  parse : List Byte → Option J
  processMessage : σ → J → Option MessageException × σ

/-- `NS_PAYLOAD_MAX_LEN`. -/
def nsPayloadMaxLen : ℕ := 4194304

/-- `"running"`. -/
def running : List Byte := [0x72, 0x75, 0x6E, 0x6E, 0x69, 0x6E, 0x67]

/-- The word occurs in the buffer. -/
def containsRunning (buffer : List Byte) : Bool := decide (running <:+: buffer)

namespace ChannelAgent

variable {σ J : Type}

/-- Parse more than a single message in a single chunk. -/
def parseMessages (handler : ChannelHandler σ J) (s : ChannelAgent σ) :
    Except MessageException (List (ChannelCall J) × ChannelAgent σ) :=
  match netstringRead s.readBuf with
  -- A message that is not full: just wait.
  | .error .tooShort => .ok ([], s)
  | .error _ => .ok ([], { s with readBuf := [] })
  | .ok data =>
    match handler.parse data with
    | none => .ok ([], { s with readBuf := [] })
    | some msg =>
      match handler.processMessage s.agent msg with
      -- The same `catch` as for `json::parse`.
      | (some .parseError, agent) =>
        .ok ([.processMessage msg], { s with readBuf := [], agent := agent })
      | (some .other, _) => .error .other
      | (none, agent) =>
        if data.length = s.readBuf.length then
          .ok ([.processMessage msg], { s with readBuf := [], agent := agent })
        -- `substr` throws when it starts behind the end.
        else if s.readBuf.length < netstringBufferSize data.length then .error .other
        else if _h : (s.readBuf.drop (netstringBufferSize data.length)).length = 0 then
          .ok ([.processMessage msg], { s with readBuf := [], agent := agent })
        else do
          let (calls, t) ← parseMessages handler
            { s with readBuf := s.readBuf.drop (netstringBufferSize data.length), agent := agent }
          return (.processMessage msg :: calls, t)
  termination_by s.readBuf.length
  decreasing_by
    rw [List.length_drop] at _h ⊢
    have : 0 < netstringBufferSize data.length := by
      unfold netstringBufferSize
      split <;> omega
    omega

/-- `OnRead`: what is called, in this order. -/
def onRead (handler : ChannelHandler σ J) (s : ChannelAgent σ) (data : List Byte) :
    Except MessageException (List (ChannelCall J) × ChannelAgent σ) :=
  let s := { s with readBuf := s.readBuf ++ data }
  if !s.once && containsRunning s.readBuf then
    .ok ([.onRunning], { s with once := true, readBuf := [] })
  else if nsPayloadMaxLen < s.readBuf.length then .ok ([], { s with readBuf := [] })
  else s.parseMessages handler

/-- The buffer is one complete message and nothing else. -/
def OneMessage (buffer : List Byte) : Prop :=
  ∃ data, netstringRead buffer = .ok data ∧ netstringBufferSize data.length = buffer.length

/-- The two rules in front of the parsing meet what they are made for: the running message and no
part of another, or what is small enough to be parsed. -/
def Fits (s : ChannelAgent σ) (data : List Byte) : Prop :=
  if !s.once && containsRunning (s.readBuf ++ data) then OneMessage (s.readBuf ++ data)
  else (s.readBuf ++ data).length ≤ nsPayloadMaxLen

/-- When the worker is running only the size counts. -/
theorem Fits.of_once {s : ChannelAgent σ} {data : List Byte} (honce : s.once = true)
    (hsize : (s.readBuf ++ data).length ≤ nsPayloadMaxLen) : s.Fits data := by
  rw [Fits, if_neg (by simp [honce])]
  exact hsize

/-! ## Messages -/

/-- A message of the worker: data of at most the maximal length that is JSON. -/
structure Message (handler : ChannelHandler σ J) where
  data : List Byte
  json : J
  short : data.length ≤ nsPayloadMaxLen
  valid : handler.parse data = some json

variable {handler : ChannelHandler σ J}

/-- The message as it is written to the pipe. -/
def Message.encode (m : Message handler) : List Byte := netstringEncode m.data

/-- What is called for the messages: `OnRunning` for the first one in which the word occurs,
`processMessage` for the others. -/
def callsFor : Bool → List (Message handler) → List (ChannelCall J)
  | _, [] => []
  | once, m :: messages =>
    if !once && containsRunning m.data then .onRunning :: callsFor true messages
    else .processMessage m.json :: callsFor once messages

/-- The messages that `processMessage` gets. -/
def processed (once : Bool) (messages : List (Message handler)) : List J :=
  (callsFor once messages).filterMap ChannelCall.message

/-- The agent after a message. -/
def next (handler : ChannelHandler σ J) (agent : σ) (msg : J) : σ :=
  (handler.processMessage agent msg).2

/-- `processMessage` returns for each of these messages. -/
def Returns (handler : ChannelHandler σ J) : σ → List J → Prop :=
  Run.All (next handler) fun agent msg ↦ (handler.processMessage agent msg).1 = none

variable {messages more left : List (Message handler)} {m : Message handler} {agent : σ}
  {once : Bool} {tail rest : List Byte}

theorem Message.encode_ne_nil (m : Message handler) : m.encode ≠ [] := netstringEncode_ne_nil m.data

theorem Message.short_length (m : Message handler) : m.data.length < 10 ^ 9 :=
  lt_of_le_of_lt m.short (by decide)

/-- A message at the front of the buffer. -/
theorem Message.netstringRead (m : Message handler) (rest : List Byte) :
    netstringRead (m.encode ++ rest) = .ok m.data :=
  netstringRead_encode m.short_length rest

theorem Message.netstringBufferSize (m : Message handler) :
    netstringBufferSize m.data.length = m.encode.length :=
  netstringBufferSize_eq m.data

/-- The front part of a message: the reader waits. -/
theorem netstringRead_of_partial (h : Framing.Partial Message.encode left tail) :
    netstringRead tail = .error .tooShort := by
  rcases h with rfl | ⟨m, -, hstarts, hlt⟩
  · rfl
  · exact netstringRead_partial m.short_length hstarts hlt

/-! ## Where the word occurs -/

/-- What does not contain a letter of a word can be left out in front of it. -/
theorem infix_of_infix_append {word front rest : List Byte} (hword : word ≠ [])
    (hfront : ∀ c ∈ front, c ∉ word) (h : word <:+: front ++ rest) : word <:+: rest := by
  induction front with
  | nil => exact h
  | cons c front ih =>
    rcases List.infix_cons_iff.mp h with hstarts | hinfix
    · obtain ⟨d, ds, rfl⟩ := List.exists_cons_of_ne_nil hword
      obtain ⟨more, hmore⟩ := hstarts
      obtain rfl : d = c := (List.cons.inj hmore).1
      exact absurd List.mem_cons_self (hfront d List.mem_cons_self)
    · exact ih (fun d hd ↦ hfront d (List.mem_cons_of_mem c hd)) hinfix

/-- The word occurs in a netstring if and only if it occurs in the data. -/
theorem containsRunning_netstringEncode (data : List Byte) :
    containsRunning (netstringEncode data) = containsRunning data := by
  refine decide_eq_decide.mpr ⟨fun h ↦ ?_, fun h ↦ h.trans ?_⟩
  · -- the length, the colon and the comma have none of its letters
    have hletters : ∀ c ∈ running, isdigit c = false ∧ c ≠ 0x3A ∧ c ≠ 0x2C := by decide
    have hfront : ∀ c ∈ decimal data.length ++ [0x3A], c ∉ running := by
      intro c hc hword
      obtain ⟨hdigit, hcolon, -⟩ := hletters c hword
      rcases List.mem_append.mp hc with hc | hc
      · rw [isdigit_of_mem_decimal hc] at hdigit
        cases hdigit
      · exact hcolon (List.mem_singleton.mp hc)
    have hback : ∀ c ∈ [(0x2C : Byte)], c ∉ running.reverse := by
      intro c hc hword
      exact (hletters c (List.mem_reverse.mp hword)).2.2 (List.mem_singleton.mp hc)
    rw [netstringEncode, List.append_cons] at h
    have hrest := List.reverse_infix.mpr (infix_of_infix_append (by decide) hfront h)
    rw [List.reverse_append] at hrest
    exact List.reverse_infix.mp (infix_of_infix_append (by decide) hback hrest)
  · exact ⟨decimal data.length ++ [0x3A], [0x2C], by simp [netstringEncode]⟩

/-- The word occurs in a buffer with a message in which it does. -/
theorem containsRunning_of_mem (h : m ∈ more) (hdata : containsRunning m.data = true) :
    containsRunning (more.flatMap Message.encode ++ tail) = true := by
  rw [← containsRunning_netstringEncode] at hdata
  obtain ⟨pre, post, rfl⟩ := List.append_of_mem h
  refine decide_eq_true ((of_decide_eq_true hdata).trans ?_)
  exact ⟨pre.flatMap Message.encode, post.flatMap Message.encode ++ tail, by simp [Message.encode]⟩

/-! ## What is called -/

/-- The messages behind some others. -/
theorem callsFor_append (once : Bool) (more left : List (Message handler)) :
    callsFor once (more ++ left) =
      callsFor once more ++ callsFor (once || more.any (containsRunning ·.data)) left := by
  induction more generalizing once with
  | nil =>
    rw [List.any_nil, Bool.or_false]
    rfl
  | cons m more ih =>
    rw [List.cons_append, callsFor, callsFor, List.any_cons]
    cases once <;> cases hm : containsRunning m.data <;>
      simp [ih]

theorem processed_append (once : Bool) (more left : List (Message handler)) :
    processed once (more ++ left) =
      processed once more ++ processed (once || more.any (containsRunning ·.data)) left := by
  rw [processed, callsFor_append, List.filterMap_append]
  rfl

/-- Without a first occurrence of the word every message is processed. -/
theorem callsFor_eq_map (h : ∀ m ∈ more, once = false → containsRunning m.data = false) :
    callsFor once more = more.map fun m ↦ .processMessage m.json := by
  induction more with
  | nil => rfl
  | cons m more ih =>
    have hm : (!once && containsRunning m.data) = false := by
      cases once with
      | true => rfl
      | false => exact h m List.mem_cons_self rfl
    rw [callsFor, hm, ih fun m' hm' ↦ h m' (List.mem_cons_of_mem m hm')]
    rfl

theorem processed_eq_map (h : ∀ m ∈ more, once = false → containsRunning m.data = false) :
    processed once more = more.map Message.json := by
  rw [processed, callsFor_eq_map h, List.filterMap_map]
  exact congrFun List.filterMap_eq_map more

/-! ## Reading -/

/-- **The loop** takes the complete messages from the buffer and leaves the front part of the next
one. -/
theorem parseMessages_eq (hincomplete : Framing.Partial Message.encode left tail)
    {s : ChannelAgent σ} (hbuffer : s.readBuf = more.flatMap Message.encode ++ tail)
    (hreturns : Returns handler s.agent (more.map Message.json)) :
    s.parseMessages handler = .ok (more.map fun m ↦ .processMessage m.json,
      { s with
        readBuf := tail
        agent := (more.map Message.json).foldl (next handler) s.agent }) := by
  induction more generalizing s with
  | nil =>
    have htail : s.readBuf = tail := hbuffer
    rw [parseMessages, htail, netstringRead_of_partial hincomplete]
    cases s
    cases htail
    rfl
  | cons m more ih =>
    rw [List.flatMap_cons, List.append_assoc] at hbuffer
    obtain ⟨hreturn, hreturns⟩ := hreturns
    have hprocess : handler.processMessage s.agent m.json = (none, next handler s.agent m.json) :=
      Prod.ext hreturn rfl
    have hlength := length_netstringEncode m.data
    have hdrop : s.readBuf.drop (MediasoupSfu.netstringBufferSize m.data.length) =
        more.flatMap Message.encode ++ tail := by
      rw [hbuffer, m.netstringBufferSize, List.drop_left]
    have hsize : s.readBuf.length =
        m.encode.length + (more.flatMap Message.encode ++ tail).length := by
      rw [hbuffer, List.length_append]
    rw [parseMessages, hbuffer, m.netstringRead, ← hbuffer]
    simp only [m.valid, hprocess]
    rw [if_neg (by rw [hsize, Message.encode]; omega),
      if_neg (by rw [hsize, m.netstringBufferSize]; omega)]
    split
    · -- the buffer is empty behind the message
      rename_i hempty
      rw [hdrop] at hempty
      obtain ⟨hmore, rfl⟩ := List.append_eq_nil_iff.mp (List.eq_nil_of_length_eq_zero hempty)
      obtain rfl : more = [] := by
        cases more with
        | nil => rfl
        | cons m' more => exact absurd (List.append_eq_nil_iff.mp hmore).1 m'.encode_ne_nil
      rfl
    · have hrest := ih
        (s := { s with
          readBuf := s.readBuf.drop (MediasoupSfu.netstringBufferSize m.data.length)
          agent := next handler s.agent m.json }) hdrop hreturns
      rw [hrest]
      rfl

/-- What a run has done when some messages are complete. -/
structure RunCalled (messages : List (Message handler))
    (hist : List (Run.Record (ChannelAgent σ) (List Byte) (List (ChannelCall J))))
    (complete : List (Message handler)) (tail : List Byte) (s : ChannelAgent σ) : Prop where
  calls_eq : hist.flatMap Run.Record.output = callsFor false complete
  readBuf_eq : s.readBuf = tail
  once_eq : s.once = complete.any (containsRunning ·.data)
  returns : ∀ left, messages = complete ++ left → Returns handler s.agent (processed s.once left)

/-- **One read** of a run. -/
theorem RunCalled.onRead {complete : List (Message handler)} {tail' data : List Byte}
    {hist : List (Run.Record (ChannelAgent σ) (List Byte) (List (ChannelCall J)))}
    {s : ChannelAgent σ} (h : RunCalled messages hist complete tail s) (hfits : s.Fits data)
    (hmessages : messages = complete ++ more ++ left)
    (hsplit : tail ++ data = more.flatMap Message.encode ++ tail')
    (hincomplete : Framing.Partial Message.encode left tail') :
    ∃ calls t, s.onRead handler data = .ok (calls, t) ∧
      RunCalled messages (hist ++ [⟨s, data, calls, t⟩]) (complete ++ more) tail' t := by
  have hbuffer : s.readBuf ++ data = more.flatMap Message.encode ++ tail' := by
    rw [h.readBuf_eq, hsplit]
  rw [Fits, hbuffer] at hfits
  have hreturns := h.returns (more ++ left) (by rw [hmessages, List.append_assoc])
  rw [processed_append] at hreturns
  -- what is called has to be what the messages are
  have hextend : ∀ calls t, s.onRead handler data = .ok (calls, t) →
      calls = callsFor s.once more → t.readBuf = tail' →
      t.once = (s.once || more.any (containsRunning ·.data)) →
      t.agent = (processed s.once more).foldl (next handler) s.agent →
      RunCalled messages (hist ++ [⟨s, data, calls, t⟩]) (complete ++ more) tail' t := by
    intro calls t _ hcalls hreadBuf honce hagent
    refine ⟨?_, hreadBuf, ?_, fun left' hleft ↦ ?_⟩
    · rw [List.flatMap_append, h.calls_eq, List.flatMap_singleton, hcalls, callsFor_append,
        Bool.false_or, h.once_eq]
    · rw [honce, h.once_eq, List.any_append]
    · rw [hmessages] at hleft
      obtain rfl := List.append_cancel_left hleft
      rw [hagent, honce]
      exact (Run.All.append_iff.mp hreturns).2
  cases hrunning : !s.once && containsRunning (more.flatMap Message.encode ++ tail') with
  | true =>
    have hread : s.onRead handler data =
        .ok ([.onRunning], { s with once := true, readBuf := [] }) := by
      rw [ChannelAgent.onRead]
      dsimp only
      rw [hbuffer, hrunning]
      rfl
    rw [if_pos hrunning] at hfits
    obtain ⟨payload, hpayload, hsize⟩ := hfits
    rw [Bool.and_eq_true, Bool.not_eq_true'] at hrunning
    cases more with
    | nil =>
      -- the front part of a message is not one
      rw [List.flatMap_nil, List.nil_append, netstringRead_of_partial hincomplete] at hpayload
      cases hpayload
    | cons m more =>
      rw [List.flatMap_cons, List.append_assoc] at hpayload hsize hrunning
      rw [m.netstringRead] at hpayload
      obtain rfl := Except.ok.inj hpayload
      rw [m.netstringBufferSize, List.length_append] at hsize
      obtain ⟨hmore, rfl⟩ := List.append_eq_nil_iff.mp (List.eq_nil_of_length_eq_zero
        (by omega : (more.flatMap Message.encode ++ tail').length = 0))
      obtain rfl : more = [] := by
        cases more with
        | nil => rfl
        | cons m' more => exact absurd (List.append_eq_nil_iff.mp hmore).1 m'.encode_ne_nil
      have hword : containsRunning m.data = true := by
        rw [← containsRunning_netstringEncode]
        simpa [Message.encode] using hrunning.2
      refine ⟨_, _, hread, hextend _ _ hread ?_ rfl ?_ ?_⟩
      · simp [callsFor, hrunning.1, hword]
      · simp [hword]
      · have hnone : processed s.once [m] = [] := by
          simp [processed, callsFor, hrunning.1, hword, ChannelCall.message]
        rw [hnone]
        rfl
  | false =>
    rw [if_neg (by rw [hrunning]; exact Bool.false_ne_true)] at hfits
    have hplain : ∀ m ∈ more, s.once = false → containsRunning m.data = false := by
      intro m hm honce
      by_contra hword
      rw [honce, containsRunning_of_mem hm (Bool.not_eq_false _ ▸ hword)] at hrunning
      cases hrunning
    rw [processed_eq_map hplain] at hreturns
    have hread := parseMessages_eq hincomplete (s := { s with readBuf := s.readBuf ++ data })
      hbuffer (Run.All.append_iff.mp hreturns).1
    have hread' : s.onRead handler data = .ok (more.map fun m ↦ .processMessage m.json,
        { s with
          readBuf := tail'
          agent := (more.map Message.json).foldl (next handler) s.agent }) := by
      rw [ChannelAgent.onRead]
      dsimp only
      rw [hbuffer, hrunning, if_neg Bool.false_ne_true, if_neg (by omega), ← hbuffer]
      exact hread
    refine ⟨_, _, hread', hextend _ _ hread' (callsFor_eq_map hplain).symm rfl ?_ ?_⟩
    · cases honce : s.once with
      | true => rfl
      | false =>
        rw [Bool.false_or, eq_comm, List.any_eq_false]
        exact fun m hm ↦ by simp [hplain m hm honce]
    · rw [processed_eq_map hplain]

/-- **Reassembly.** Wherever the stream of some messages is cut, as long as the two rules in front
of the parsing meet what they are made for and `processMessage` returns, each message is passed on
exactly once and in order, the first one that says that the worker is running to `OnRunning`. -/
theorem reassembles (handler : ChannelHandler σ J) (agent : σ) (messages : List (Message handler))
    (chunks : List (List Byte)) (hstream : chunks.flatten = messages.flatMap Message.encode)
    (hfits : Run.Obeys (onRead handler) Fits { agent := agent } chunks)
    (hreturns : Returns handler agent (processed false messages)) :
    ∃ records, Run.trace (onRead handler) { agent := agent } chunks = .ok records ∧
      records.flatMap Run.Record.output = callsFor false messages := by
  have hstart : RunCalled messages [] [] [] { agent := agent } :=
    ⟨rfl, rfl, rfl, fun left hleft ↦ by rwa [hleft, List.nil_append] at hreturns⟩
  obtain ⟨records, t, htrace, hrun⟩ := Framing.receives (RunCalled messages)
    Message.encode_ne_nil
    (fun _ _ _ _ _ _ _ _ hinv hfits hmessages _ hsplit hincomplete ↦
      hinv.onRead hfits hmessages hsplit hincomplete) hstart hstream hfits
  exact ⟨records, htrace, hrun.calls_eq⟩

/-! ### A worker that starts -/

/-- The texts of two messages, as the parser takes them, and an agent that only counts. -/
def twoTexts : ChannelHandler ℕ (List Byte) where
  parse data := if data ∈ [[0x22] ++ running ++ [0x22], [0x37]] then some data else none
  processMessage count _ := (none, count + 1)

/-- The running message. -/
def runningText : Message twoTexts where
  data := [0x22] ++ running ++ [0x22]
  json := [0x22] ++ running ++ [0x22]
  short := by decide
  valid := rfl

/-- Another message. -/
def otherText : Message twoTexts where
  data := [0x37]
  json := [0x37]
  short := by decide
  valid := rfl

/-- The other message arrives in two pieces, after the running message. -/
theorem reassembles_running :
    ∃ records, Run.trace (onRead twoTexts) { agent := 0 }
        [runningText.encode, [0x31, 0x3A], [0x37, 0x2C]] = .ok records ∧
      records.flatMap Run.Record.output = [.onRunning, .processMessage [0x37]] := by
  have hfirst : onRead twoTexts { agent := 0 } runningText.encode =
      .ok ([.onRunning], { once := true, agent := 0 }) := rfl
  have hsecond : onRead twoTexts { once := true, agent := 0 } [0x31, 0x3A] =
      .ok ([], { readBuf := [0x31, 0x3A], once := true, agent := 0 }) := by
    rw [onRead]
    dsimp only
    rw [parseMessages]
    rfl
  have hfits : Run.Obeys (onRead twoTexts) Fits { agent := 0 }
      [runningText.encode, [0x31, 0x3A], [0x37, 0x2C]] := by
    refine .cons ⟨runningText.data, rfl, rfl⟩ hfirst (.cons ?_ hsecond ?_)
    · exact Fits.of_once rfl (by decide)
    · exact ⟨Fits.of_once rfl (by decide), fun _ _ _ ↦ trivial⟩
  exact reassembles twoTexts 0 [runningText, otherText] _ rfl hfits ⟨rfl, trivial⟩

/-- **A lost message.** The other message is already there when the running message is. -/
theorem not_reassembles :
    ¬∀ (σ J : Type) (handler : ChannelHandler σ J) (agent : σ) (messages : List (Message handler))
      (chunks : List (List Byte)), chunks.flatten = messages.flatMap Message.encode →
      Returns handler agent (processed false messages) →
      ∃ records, Run.trace (onRead handler) { agent := agent } chunks = .ok records ∧
        records.flatMap Run.Record.output = callsFor false messages := by
  intro h
  obtain ⟨records, htrace, hcalls⟩ := h ℕ (List Byte) twoTexts 0 [runningText, otherText]
    [runningText.encode ++ otherText.encode] rfl ⟨rfl, trivial⟩
  have hrun : Run.trace (onRead twoTexts) { agent := 0 }
      [runningText.encode ++ otherText.encode] = .ok [⟨{ agent := 0 },
        runningText.encode ++ otherText.encode, [.onRunning], { once := true, agent := 0 }⟩] := rfl
  rw [hrun] at htrace
  obtain rfl := Except.ok.inj htrace
  revert hcalls
  decide

end ChannelAgent

end MediasoupSfu
