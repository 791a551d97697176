import MediasoupSfu.Consumer.Simple
import MediasoupSfu.Library.Sharing

/-!
# One packet for all consumers

`OnTransportProducerRtpPacketReceived` hands the same packet to all consumers of a producer, in the
order of a hash set. Each of them writes its MID, its SSRC and its sequence number into it, its
transport writes the values that are set on sending, and only the SSRC and the sequence number are
restored.

`relay_alone` says that this is of no consequence: whatever the order, and whatever happens to the
consumers between two packets, whoever reads the bytes that a consumer sends reads the message of
the producer under the SSRC, the number and the MID that the consumer would have used if it were the
only one. What another consumer may have left in a packet is a value that is set on sending.
-/

namespace MediasoupSfu

open RtpStreamSend

/-! ## The code -/

/-- The MID and `SendRtpPacket`, and `OnConsumerSendRtpPacket` of the transport of the consumer,
which has the last transport-wide sequence number in `transports`. What is returned is the packet
that was sent, the consumer, the transports and the packet afterwards. -/
def deliver (transportOf : ℕ → ℕ) (i : ℕ) (env : SendSurroundings) (c : SendingSimpleConsumer)
    (transports : ℕ → Option (BitVec 16)) (packet : RtpPacket) :
    Except Fault (Option RtpPacket × SendingSimpleConsumer × (ℕ → Option (BitVec 16)) ×
      RtpPacket) := do
  -- Update MID RTP extension value.
  let (_, packet) ← if c.mid ≠ [] then packet.updateMid c.mid else .ok (false, packet)
  let (result, c) ← c.sendRtpPacket env (transports (transportOf i)) packet
  match result with
  | none => return (none, c, transports, packet)
  | some result =>
    return (result.sent, c,
      Function.update transports (transportOf i) result.transportWideCcSeq, result.packet)

/-- What happens to a consumer besides packets. -/
def controlled (e : SimpleControl) (c : SendingSimpleConsumer) :
    Except Fault SendingSimpleConsumer := do
  return (← c.control e).2

/-- What can happen to the consumers of a producer: something besides packets, or
`OnTransportProducerRtpPacketReceived` with the order of the set. -/
abbrev RelayEvent := Sharing.Event ℕ SimpleControl SendSurroundings RtpPacket

/-- One event. -/
def relayStep (transportOf : ℕ → ℕ) :
    (ℕ → SendingSimpleConsumer) × (ℕ → Option (BitVec 16)) → RelayEvent →
      Except Fault ((Option RtpPacket × List (ℕ × Option RtpPacket)) ×
        ((ℕ → SendingSimpleConsumer) × (ℕ → Option (BitVec 16)))) :=
  Sharing.step controlled (deliver transportOf)

/-! ## A consumer without the others -/

/-- What decides what a consumer sends. -/
structure LoneConsumer extends SimpleMembers where
  seqState : SeqState

namespace LoneConsumer

/-- What the consumer makes of a message: nothing, or the message under its own SSRC and number. -/
def send (a : LoneConsumer) (env : SendSurroundings) (m : RtpMessage) :
    Option RtpMessage × LoneConsumer :=
  match a.number m.header env.isKeyFrame with
  | none => (none, a)
  | some (_, seq, members) =>
    let header := { m.header with
      ssrc := a.encodingSsrc
      sequenceNumber := seq.getD env.uninitializedSeq }
    let (accepted, seqState) :=
      a.seqState.receivePacket header.sequenceNumber header.timestamp env.nowMs
    (if accepted then some { m with header := header } else none,
      { toSimpleMembers := members, seqState := seqState })

/-- What it makes of a message of its producer, whose MID has this id. -/
def relay (env : SendSurroundings) (a : LoneConsumer) (m : RtpMessage × ExtensionIds) :
    Option RtpMessage × LoneConsumer :=
  a.send env { m.1 with values := RtpPacket.updatedMid m.1.values m.2.midExtensionId a.mid }

def control (e : SimpleControl) (a : LoneConsumer) : LoneConsumer :=
  { toSimpleMembers := (a.toSimpleMembers.control e).2, seqState := a.seqState }

variable {a : LoneConsumer} {env : SendSurroundings} {m : RtpMessage}

theorem send_of_ignored (h : a.number m.header env.isKeyFrame = none) :
    a.send env m = (none, a) := by
  rw [send, h]

theorem send_of_number {isSyncPacket accepted : Bool} {seq : Option (BitVec 16)}
    {members : SimpleMembers} {seqState : SeqState}
    (h : a.number m.header env.isKeyFrame = some (isSyncPacket, seq, members))
    (haccepted : a.seqState.receivePacket (seq.getD env.uninitializedSeq) m.header.timestamp
      env.nowMs = (accepted, seqState)) :
    a.send env m = (if accepted = true then some { m with header := { m.header with
        ssrc := a.encodingSsrc, sequenceNumber := seq.getD env.uninitializedSeq } } else none,
      { toSimpleMembers := members, seqState := seqState }) := by
  rw [send, h]
  dsimp only
  rw [haccepted]

end LoneConsumer

/-- The consumer for whom others are of no consequence. -/
def SendingSimpleConsumer.alone (c : SendingSimpleConsumer) : LoneConsumer :=
  { toSimpleMembers := c.toSimpleMembers, seqState := c.rtpStream.seqState }

/-- What the packet says, and the ids of its extensions. -/
def RtpPacket.message (p : RtpPacket) : RtpMessage × ExtensionIds :=
  ({ header := p.header
     csrcs := Memory.slice p.body 0 p.header.csrcListSize
     values := fun id ↦ match p.getExtensionValue id with
      | .ok value => value
      | .error _ => none
     payload := Memory.slice p.body p.payload p.payloadLength
     payloadPadding := p.payloadPadding }, p.ids)

/-! ## What a consumer sends -/

namespace SendingSimpleConsumer

variable {n : ℕ} {c : SendingSimpleConsumer} {p : RtpPacket} {m : RtpMessage}

/-- The consumers that a router has: the stream works, and the MID fits into a packet. -/
structure Working (c : SendingSimpleConsumer) : Prop where
  stream : ∃ n, IsRoom n ∧ Inv n c.rtpStream
  mid : c.mid ≠ []
  fits : c.mid.length ≤ midMaxLength

/-- **`SendRtpPacket`** on a packet that carries a message sends what the consumer makes of the
message, and restores it but for the values that are set on sending. -/
theorem sendRtpPacket_carries (hc : c.Working) (h : p.Carries m) (env : SendSurroundings)
    (transportWideCcSeq : Option (BitVec 16)) :
    (c.alone.send env m = (none, c.alone) ∧
      c.sendRtpPacket env transportWideCcSeq p = .ok (none, c)) ∨
    ∃ result t, c.sendRtpPacket env transportWideCcSeq p = .ok (some result, t) ∧ t.Working ∧
      result.packet.ids = p.ids ∧
      ((c.alone.send env m = (none, t.alone) ∧ result.sent = none ∧
          result.transportWideCcSeq = transportWideCcSeq ∧ result.packet.Carries m) ∨
        ∃ m' q, c.alone.send env m = (some m', t.alone) ∧ result.sent = some q ∧ q.ids = p.ids ∧
          m'.values = m.values ∧
          q.Carries { m' with values :=
            (RtpPacket.sentValues m.values p.ids env.sendMs transportWideCcSeq).1 } ∧
          result.packet.Carries { m with values :=
            (RtpPacket.sentValues m.values p.ids env.sendMs transportWideCcSeq).1 } ∧
          result.transportWideCcSeq =
            (RtpPacket.sentValues m.values p.ids env.sendMs transportWideCcSeq).2) := by
  obtain ⟨n, hroom, hinv⟩ := hc.stream
  obtain ⟨header, csrcs, values, payload, payloadPadding⟩ := m
  obtain rfl : p.header = header := h.header
  unfold SendingSimpleConsumer.sendRtpPacket
  cases hnumber : c.number p.header env.isKeyFrame with
  | none => exact Or.inl ⟨LoneConsumer.send_of_ignored hnumber, rfl⟩
  | some numbered =>
    obtain ⟨isSyncPacket, seq, members⟩ := numbered
    obtain ⟨-, -, -, -, -, hmembers⟩ := SimpleMembers.of_number hnumber
    right
    -- The packet as it is rewritten.
    have hrewritten : RtpPacket.Carries
        ((p.setSsrc c.encodingSsrc).setSequenceNumber (seq.getD env.uninitializedSeq))
        { header := { p.header with
            ssrc := c.encodingSsrc, sequenceNumber := seq.getD env.uninitializedSeq }
          csrcs, values, payload, payloadPadding } := h.setHeader rfl rfl rfl rfl
    obtain ⟨stream, hstream, hinv', hstate⟩ :=
      receivePacket_returns hinv hroom hrewritten.inSync.formed env.nowMs
    have hworking : Working { toSimpleMembers := members, rtpStream := stream } := by
      refine ⟨⟨n, hroom, hinv'⟩, ?_, ?_⟩
      · rw [hmembers]
        exact hc.mid
      · rw [hmembers]
        exact hc.fits
    obtain ⟨⟨accepted, seqState⟩, haccepted⟩ : ∃ r, c.rtpStream.seqState.receivePacket
        ((p.setSsrc c.encodingSsrc).setSequenceNumber
          (seq.getD env.uninitializedSeq)).getSequenceNumber
        ((p.setSsrc c.encodingSsrc).setSequenceNumber
          (seq.getD env.uninitializedSeq)).getTimestamp env.nowMs = r := ⟨_, rfl⟩
    have hlone := LoneConsumer.send_of_number (a := c.alone)
      (m := ⟨p.header, csrcs, values, payload, payloadPadding⟩) hnumber haccepted
    have halone : alone { toSimpleMembers := members, rtpStream := stream } =
        { toSimpleMembers := members, seqState := seqState } := by
      rw [alone, hstate, haccepted]
    dsimp only
    cases accepted with
    | false =>
      refine ⟨{
          isSyncPacket := isSyncPacket, seq := seq, sent := none
          packet := (((p.setSsrc c.encodingSsrc).setSequenceNumber
            (seq.getD env.uninitializedSeq)).setSsrc p.getSsrc).setSequenceNumber
              p.getSequenceNumber
          transportWideCcSeq := transportWideCcSeq }, _, ?_, hworking, rfl,
        Or.inl ⟨?_, rfl, rfl, hrewritten.setHeader rfl rfl rfl rfl⟩⟩
      · simp only [haccepted, hstream, bind, Except.bind, pure, Except.pure, Bool.false_eq_true,
          if_false]
      · rw [hlone, halone]
        rfl
    | true =>
      obtain ⟨body, hsend, hcarries⟩ :=
        hrewritten.onConsumerRetransmitRtpPacket env.sendMs transportWideCcSeq
      refine ⟨{
          isSyncPacket := isSyncPacket, seq := seq
          sent := some { (p.setSsrc c.encodingSsrc).setSequenceNumber
            (seq.getD env.uninitializedSeq) with body := body }
          packet := { p with body := body }
          transportWideCcSeq :=
            (RtpPacket.sentValues values p.ids env.sendMs transportWideCcSeq).2 },
        _, ?_, hworking, rfl,
        Or.inr ⟨_, _, ?_, rfl, rfl, rfl, hcarries, hcarries.setHeader rfl rfl rfl rfl, rfl⟩⟩
      · simp only [haccepted, hstream, bind, Except.bind, pure, Except.pure, if_true, hsend]
        rfl
      · rw [hlone, halone]
        rfl

/-- An event besides packets does what it does to a consumer without the others. -/
theorem controlled_spec (hc : c.Working) (e : SimpleControl) :
    ∃ t, controlled e c = .ok t ∧ t.Working ∧ t.alone = c.alone.control e := by
  obtain ⟨n, hroom, hinv⟩ := hc.stream
  obtain ⟨stream, hcontrol, hinv', hseq⟩ := control_returns hinv hroom e
  refine ⟨{ toSimpleMembers := (c.toSimpleMembers.control e).2, rtpStream := stream }, ?_,
    ⟨⟨n, hroom, hinv'⟩, ?_, ?_⟩, ?_⟩
  · rw [controlled, hcontrol]
    rfl
  · exact fun hmid ↦ hc.mid ((SimpleMembers.mid_control _ e).symm.trans hmid)
  · exact (congrArg List.length (SimpleMembers.mid_control _ e)).trans_le hc.fits
  · rw [alone, hseq]
    rfl

end SendingSimpleConsumer

/-! ## What others may have left -/

/-- The messages are the same but for what the values of some ids are. -/
structure RtpMessage.AgreeBut (others : Byte → Prop) (m m' : RtpMessage) : Prop where
  header : m'.header = m.header
  csrcs : m'.csrcs = m.csrcs
  payload : m'.payload = m.payload
  payloadPadding : m'.payloadPadding = m.payloadPadding
  values : ∀ id, ¬others id → m'.values id = m.values id
  isSome : ∀ id, (m'.values id).isSome = (m.values id).isSome

/-- The values that a transport sets. -/
def ExtensionIds.SetOnSending (ids : ExtensionIds) (id : Byte) : Prop :=
  id = ids.absSendTimeExtensionId ∨ id = ids.transportWideCc01ExtensionId

/-- The values that a consumer or its transport sets. -/
def ExtensionIds.SetOnTheWay (ids : ExtensionIds) (id : Byte) : Prop :=
  id = ids.midExtensionId ∨ ids.SetOnSending id

/-- The packet still says the message to the next consumer. -/
def StillSays (m : RtpMessage × ExtensionIds) (p : RtpPacket) : Prop :=
  p.ids = m.2 ∧ ∃ m', p.Carries m' ∧ m.1.AgreeBut m.2.SetOnTheWay m'

/-- Whoever parses the bytes of the packet reads the message. -/
def Receives (m : RtpMessage) (q : RtpPacket) : Prop :=
  ∃ r m', RtpPacket.parse q.bytes q.size = .ok (some r) ∧ r.Shows m' ∧
    m.AgreeBut q.ids.SetOnSending m'

namespace RtpPacket

variable {values values' : ExtensionValues} {id : Byte}

theorem isSome_updatedValue (values : ExtensionValues) (id : Byte) (value : List Byte) (j : Byte) :
    (updatedValue values id value j).isSome = (values j).isSome := by
  unfold updatedValue
  split
  · rename_i hupdatable
    by_cases hj : j = id
    · subst hj
      rw [Function.update_self]
      cases hvalue : values j with
      | none =>
        rw [IsUpdatable, hvalue] at hupdatable
        cases hupdatable
      | some value => rfl
    · rw [Function.update_of_ne hj]
  · rfl

theorem updatedValue_of_ne {j : Byte} (hj : j ≠ id) (value : List Byte) :
    updatedValue values id value j = values j := by
  unfold updatedValue
  split
  · exact Function.update_of_ne hj _ _
  · rfl

theorem isSome_updatedMid (values : ExtensionValues) (id : Byte) (mid : List Byte) (j : Byte) :
    (updatedMid values id mid j).isSome = (values j).isSome := by
  unfold updatedMid
  split
  · rename_i hupdatable
    by_cases hj : j = id
    · subst hj
      rw [Function.update_self, hupdatable.1]
      rfl
    · rw [Function.update_of_ne hj]
  · rfl

theorem updatedMid_of_ne {j : Byte} (hj : j ≠ id) (mid : List Byte) :
    updatedMid values id mid j = values j := by
  unfold updatedMid
  split
  · exact Function.update_of_ne hj _ _
  · rfl

/-- A MID that fits leaves nothing of the old one. -/
theorem updatedMid_congr {mid : List Byte} (hfits : mid.length ≤ midMaxLength)
    (hsome : (values' id).isSome = (values id).isSome) :
    updatedMid values' id mid id = updatedMid values id mid id := by
  unfold updatedMid
  rw [hsome]
  cases hvalue : values id with
  | none =>
    rw [if_neg (fun h ↦ Bool.false_ne_true h.1), if_neg (fun h ↦ Bool.false_ne_true h.1), hvalue]
    rw [hvalue] at hsome
    exact Option.not_isSome_iff_eq_none.mp (by rw [hsome]; exact Bool.false_ne_true)
  | some value =>
    rw [if_pos ⟨rfl, hfits⟩, if_pos ⟨rfl, hfits⟩, Function.update_self, Function.update_self]

/-- What is set on sending is the rest. -/
theorem sentValues_spec (values : ExtensionValues) (ids : ExtensionIds) (nowMs : BitVec 64)
    (transportWideCcSeq : Option (BitVec 16)) (j : Byte) :
    (((sentValues values ids nowMs transportWideCcSeq).1 j).isSome = (values j).isSome) ∧
      (¬ids.SetOnSending j → (sentValues values ids nowMs transportWideCcSeq).1 j = values j) := by
  cases transportWideCcSeq with
  | none =>
    exact ⟨isSome_updatedValue .., fun hj ↦ updatedValue_of_ne (mt Or.inl hj) _⟩
  | some seq =>
    refine ⟨(isSome_updatedValue ..).trans (isSome_updatedValue ..), fun hj ↦ ?_⟩
    exact (updatedValue_of_ne (mt Or.inr hj) _).trans (updatedValue_of_ne (mt Or.inl hj) _)

end RtpPacket

namespace RtpMessage.AgreeBut

variable {others others' : Byte → Prop} {m m' m'' : RtpMessage}

theorem mono (h : m.AgreeBut others m') (hle : ∀ id, others id → others' id) :
    m.AgreeBut others' m' :=
  ⟨h.header, h.csrcs, h.payload, h.payloadPadding, fun id hid ↦ h.values id (mt (hle id) hid),
    h.isSome⟩

theorem trans (h : m.AgreeBut others m') (h' : m'.AgreeBut others m'') : m.AgreeBut others m'' :=
  ⟨h'.header.trans h.header, h'.csrcs.trans h.csrcs, h'.payload.trans h.payload,
    h'.payloadPadding.trans h.payloadPadding,
    fun id hid ↦ (h'.values id hid).trans (h.values id hid),
    fun id ↦ (h'.isSome id).trans (h.isSome id)⟩

/-- What a transport sets. -/
theorem sent (m : RtpMessage) (ids : ExtensionIds) (nowMs : BitVec 64)
    (transportWideCcSeq : Option (BitVec 16)) : m.AgreeBut ids.SetOnSending
      { m with values := (RtpPacket.sentValues m.values ids nowMs transportWideCcSeq).1 } where
  header := rfl
  csrcs := rfl
  payload := rfl
  payloadPadding := rfl
  values id := (RtpPacket.sentValues_spec m.values ids nowMs transportWideCcSeq id).2
  isSome id := (RtpPacket.sentValues_spec m.values ids nowMs transportWideCcSeq id).1

/-- The MID of a consumer. -/
theorem mid (m : RtpMessage) (ids : ExtensionIds) (mid : List Byte) : m.AgreeBut ids.SetOnTheWay
    { m with values := RtpPacket.updatedMid m.values ids.midExtensionId mid } where
  header := rfl
  csrcs := rfl
  payload := rfl
  payloadPadding := rfl
  values _ hid := RtpPacket.updatedMid_of_ne (mt Or.inl hid) mid
  isSome := RtpPacket.isSome_updatedMid m.values ids.midExtensionId mid

/-- A consumer that sets its MID does not see the one of another consumer. -/
theorem updatedMid {ids : ExtensionIds} (h : m.AgreeBut ids.SetOnTheWay m') {mid : List Byte}
    (hfits : mid.length ≤ midMaxLength) : AgreeBut ids.SetOnSending
      { m with values := RtpPacket.updatedMid m.values ids.midExtensionId mid }
      { m' with values := RtpPacket.updatedMid m'.values ids.midExtensionId mid } where
  header := h.header
  csrcs := h.csrcs
  payload := h.payload
  payloadPadding := h.payloadPadding
  values id hid := by
    dsimp only
    by_cases hmid : id = ids.midExtensionId
    · subst hmid
      exact RtpPacket.updatedMid_congr hfits (h.isSome _)
    · rw [RtpPacket.updatedMid_of_ne hmid, RtpPacket.updatedMid_of_ne hmid]
      exact h.values id (not_or.mpr ⟨hmid, hid⟩)
  isSome id := by
    dsimp only
    rw [RtpPacket.isSome_updatedMid, RtpPacket.isSome_updatedMid]
    exact h.isSome id

/-- What a consumer makes of a message depends on the header. -/
theorem send (h : m.AgreeBut others m') (a : LoneConsumer) (env : SendSurroundings) :
    Option.Rel (AgreeBut others) (a.send env m).1 (a.send env m').1 ∧
      (a.send env m').2 = (a.send env m).2 := by
  unfold LoneConsumer.send
  rw [h.header]
  cases a.number m.header env.isKeyFrame with
  | none => exact ⟨.none, rfl⟩
  | some numbered =>
    refine ⟨?_, rfl⟩
    dsimp only
    split
    · exact .some ⟨rfl, h.csrcs, h.payload, h.payloadPadding, h.values, h.isSome⟩
    · exact .none

end RtpMessage.AgreeBut

/-- What the packet shows is its message. -/
theorem RtpPacket.Shows.message_eq {p : RtpPacket} {m : RtpMessage} (h : p.Shows m) :
    p.message = (m, p.ids) := by
  have hvalues : (fun id ↦ match p.getExtensionValue id with
      | .ok value => value
      | .error _ => none) = m.values := by
    funext id
    rw [h.value id]
  rw [message, hvalues, h.payload, h.payloadPadding, h.csrcs, h.header]

/-! ## Transport-wide sequence numbers -/

/-- The transport-wide sequence number in the packet, if there is an element with room for it. -/
def wideValue (q : RtpPacket) : Option (List Byte) :=
  (q.message.1.values q.ids.transportWideCc01ExtensionId).filter fun value ↦
    decide (value.length = 2)

/-- The last number of a transport before and after a packet is sent with this one. -/
def Numbers : Option (BitVec 16) → Option (List Byte) → Option (BitVec 16) → Prop
  | none, _, last' => last' = none
  | some last, none, last' => last' = some last
  | some last, some value, last' => value = Byte.set2Bytes (last + 1) ∧ last' = some (last + 1)

/-- What the packet of a consumer does to the transports. -/
structure NumbersOn (transportOf : ℕ → ℕ) (i : ℕ) (transports : ℕ → Option (BitVec 16))
    (sent : Option RtpPacket) (transports' : ℕ → Option (BitVec 16)) : Prop where
  others : ∀ t, t ≠ transportOf i → transports' t = transports t
  numbers : Numbers (transports (transportOf i)) (sent.bind wideValue) (transports' (transportOf i))

theorem Numbers.refl (last : Option (BitVec 16)) : Numbers last none last := by
  cases last with
  | none => rfl
  | some last => rfl

theorem NumbersOn.refl (transportOf : ℕ → ℕ) (i : ℕ) (transports : ℕ → Option (BitVec 16)) :
    NumbersOn transportOf i transports none transports :=
  ⟨fun _ _ ↦ rfl, .refl _⟩

theorem NumbersOn.update {transportOf : ℕ → ℕ} {i : ℕ} {transports : ℕ → Option (BitVec 16)}
    {sent : Option RtpPacket} {last : Option (BitVec 16)}
    (h : Numbers (transports (transportOf i)) (sent.bind wideValue) last) :
    NumbersOn transportOf i transports sent
      (Function.update transports (transportOf i) last) where
  others _ ht := Function.update_of_ne ht _ _
  numbers := by
    rw [Function.update_self]
    exact h

/-- What is set on sending. -/
theorem numbers_sentValues (values : ExtensionValues) (ids : ExtensionIds) (nowMs : BitVec 64)
    (last : Option (BitVec 16)) : Numbers last
      (((RtpPacket.sentValues values ids nowMs last).1 ids.transportWideCc01ExtensionId).filter
        fun value ↦ decide (value.length = 2)) (RtpPacket.sentValues values ids nowMs last).2 := by
  cases last with
  | none => rfl
  | some last =>
    unfold RtpPacket.sentValues
    dsimp only
    generalize RtpPacket.updatedValue values ids.absSendTimeExtensionId _ = values'
    unfold RtpPacket.updatedValue
    rw [Byte.length_set2Bytes]
    by_cases hupdatable : RtpPacket.IsUpdatable values' ids.transportWideCc01ExtensionId 2
    · have hlength : decide ((Byte.set2Bytes (last + 1)).length = 2) = true :=
        decide_eq_true (Byte.length_set2Bytes _)
      rw [if_pos hupdatable, if_pos hupdatable, Function.update_self, Option.filter_some,
        if_pos hlength]
      exact ⟨rfl, rfl⟩
    · rw [if_neg hupdatable, if_neg hupdatable]
      unfold RtpPacket.IsUpdatable at hupdatable
      cases hvalue : values' ids.transportWideCc01ExtensionId with
      | none => exact .refl _
      | some value =>
        rw [hvalue] at hupdatable
        have hlength : ¬decide (value.length = 2) = true := fun h ↦
          hupdatable (congrArg some (of_decide_eq_true h))
        rw [Option.filter_some, if_neg hlength]
        exact .refl _

/-- The numbers on one transport, in the order in which the packets were sent. -/
def wideValues (transportOf : ℕ → ℕ) (t : ℕ) (sent : List (ℕ × Option RtpPacket)) :
    List (List Byte) :=
  sent.filterMap fun x ↦ if transportOf x.1 = t then x.2.bind wideValue else none

/-- The numbers of a transport are consecutive. -/
theorem wideValues_of_through {transportOf : ℕ → ℕ} {t : ℕ} {sent : List (ℕ × Option RtpPacket)}
    {transports transports' : ℕ → Option (BitVec 16)} {last : BitVec 16}
    (h : Sharing.Through (NumbersOn transportOf) transports sent transports')
    (hlast : transports t = some last) :
    wideValues transportOf t sent = (List.range (wideValues transportOf t sent).length).map
      fun k ↦ Byte.set2Bytes (last + 1 + BitVec.ofNat 16 k) := by
  induction sent generalizing transports last with
  | nil => rfl
  | cons first sent ih =>
    obtain ⟨i, o⟩ := first
    obtain ⟨transports₁, hfirst, hrest⟩ := h
    unfold wideValues
    rw [List.filterMap_cons]
    dsimp only
    by_cases ht : transportOf i = t
    · subst ht
      have hnumbers := hfirst.numbers
      rw [hlast] at hnumbers
      rw [if_pos rfl]
      cases hvalue : o.bind wideValue with
      | none =>
        rw [hvalue] at hnumbers
        exact ih hrest hnumbers
      | some value =>
        rw [hvalue] at hnumbers
        obtain ⟨rfl, hnext⟩ := hnumbers
        have htail := ih hrest hnext
        unfold wideValues at htail
        dsimp only
        rw [List.length_cons, List.range_succ_eq_map, List.map_cons, List.map_map]
        refine List.cons_eq_cons.mpr ⟨?_, htail.trans (List.map_congr_left fun k _ ↦ ?_)⟩
        · rw [BitVec.add_zero]
        · rw [Function.comp_apply, Nat.succ_eq_add_one, BitVec.ofNat_add]
          congr 1
          bv_omega
    · rw [if_neg ht]
      exact ih hrest ((hfirst.others t (Ne.symm ht)).trans hlast)

/-! ## The relay -/

/-- Reading the bytes of a packet that carries the message, but for what a transport sets. -/
theorem receives_of_carries {m m' : RtpMessage} {q : RtpPacket}
    (h : m.AgreeBut q.ids.SetOnSending m') (hcarries : q.Carries m') : Receives m q := by
  obtain ⟨r, hparse, hshows⟩ := hcarries.parse_bytes
  exact ⟨r, m', hparse, hshows, h⟩

/-- One consumer leaves a packet that still says the message, and sends what it makes of it. -/
theorem deliver_spec {c : SendingSimpleConsumer} {p : RtpPacket} {m : RtpMessage × ExtensionIds}
    (transportOf : ℕ → ℕ) (i : ℕ) (env : SendSurroundings) (transports : ℕ → Option (BitVec 16))
    (hc : c.Working) (h : StillSays m p) :
    ∃ sent t transports' q, deliver transportOf i env c transports p =
        .ok (sent, t, transports', q) ∧ t.Working ∧ StillSays m q ∧
      NumbersOn transportOf i transports sent transports' ∧
      Option.Rel Receives (c.alone.relay env m).1 sent ∧ t.alone = (c.alone.relay env m).2 := by
  obtain ⟨m, ids⟩ := m
  obtain ⟨hids, m', hcarries, hagree⟩ := h
  dsimp only at hids hagree
  subst hids
  obtain ⟨updated, body, hmid, hcarries'⟩ := hcarries.updateMid hc.mid
  have hown := hagree.updatedMid hc.fits
  have hshared := (RtpMessage.AgreeBut.mid m p.ids c.mid).trans
    (hown.mono fun id ↦ Or.inr (a := id = p.ids.midExtensionId))
  -- The consumer makes the same of what it gets as of the message of the producer.
  obtain ⟨hrel, hstate⟩ := hown.send c.alone env
  change Option.Rel _ (c.alone.relay env (m, p.ids)).1 _ at hrel
  change _ = (c.alone.relay env (m, p.ids)).2 at hstate
  unfold deliver
  rw [if_pos hc.mid, hmid]
  change ∃ sent t transports' q, (c.sendRtpPacket env (transports (transportOf i))
    { p with body := body } >>= fun _ ↦ _) = _ ∧ _
  rcases SendingSimpleConsumer.sendRtpPacket_carries hc hcarries' env (transports (transportOf i))
    with ⟨hlone, hsend⟩ | ⟨result, t, hsend, ht, hpacket, hcases⟩
  · rw [hlone] at hrel hstate
    rw [hsend]
    refine ⟨none, c, transports, { p with body := body }, rfl, hc,
      ⟨rfl, _, hcarries', hshared⟩, .refl .., ?_, hstate⟩
    generalize (c.alone.relay env (m, p.ids)).1 = made at hrel
    cases hrel
    exact .none
  · rw [hsend]
    refine ⟨result.sent, t, _, result.packet, rfl, ht, ?_⟩
    rcases hcases with ⟨hlone, hsent, hlast, hrestored⟩ |
      ⟨m'', q, hlone, hsent, hq, hvalues, hqcarries, hrestored, hlast⟩
    · rw [hlone] at hrel hstate
      rw [hsent, hlast]
      refine ⟨⟨hpacket, _, hrestored, hshared⟩, .update (.refl _), ?_, hstate⟩
      generalize (c.alone.relay env (m, p.ids)).1 = made at hrel
      cases hrel
      exact .none
    · rw [hlone] at hrel hstate
      rw [hsent, hlast]
      refine ⟨⟨hpacket, _, hrestored, hshared.trans ((RtpMessage.AgreeBut.sent _ p.ids env.sendMs
        (transports (transportOf i))).mono fun id ↦ Or.inr (a := id = p.ids.midExtensionId))⟩,
        .update ?_, ?_, hstate⟩
      · rw [Option.bind_some, wideValue, hqcarries.shows.message_eq, hq]
        exact numbers_sentValues _ p.ids env.sendMs _
      · generalize (c.alone.relay env (m, p.ids)).1 = made at hrel
        cases hrel
        rename_i hagree''
        refine .some (receives_of_carries ?_ hqcarries)
        rw [hq]
        have hset := RtpMessage.AgreeBut.sent m'' p.ids env.sendMs (transports (transportOf i))
        rw [hvalues] at hset
        exact hagree''.trans hset

theorem stillSays_message {p : RtpPacket} {m : RtpMessage} (h : p.Carries m) :
    StillSays p.message p := by
  rw [h.shows.message_eq]
  exact ⟨rfl, m, h, rfl, rfl, rfl, rfl, fun _ _ ↦ rfl, fun _ ↦ rfl⟩

section

variable (transportOf : ℕ → ℕ) {consumers : ℕ → SendingSimpleConsumer}
  (transports : ℕ → Option (BitVec 16)) (hworking : ∀ i, (consumers i).Working)
  (events : List RelayEvent)
  (hcarries : ∀ p order, Sharing.Event.pass p order ∈ events → ∃ m, p.Carries m)

include hworking hcarries

/-- All that a run does. -/
theorem relay_spec :
    ∃ records, Run.trace (relayStep transportOf) (consumers, transports) events = .ok records ∧
      (∀ r ∈ records, ∀ p order, r.event = .pass p order →
        ∃ q, r.output.1 = some q ∧ StillSays p.message q) ∧
      (∃ transports', Sharing.Through (NumbersOn transportOf) transports
        (records.flatMap fun r ↦ r.output.2) transports') ∧
      ∀ i, List.Forall₂ (Option.Rel Receives)
        (Sharing.aloneRun LoneConsumer.control (fun _ env a m ↦ a.relay env m) RtpPacket.message i
          events (consumers i).alone)
        (Sharing.of i (records.flatMap fun r ↦ r.output.2)) := by
  have hown : ∀ (i : ℕ) (e : SimpleControl) (c : SendingSimpleConsumer), c.Working →
      ∃ t, controlled e c = .ok t ∧ t.Working ∧ t.alone = c.alone.control e :=
    fun _ e _ hc ↦ SendingSimpleConsumer.controlled_spec hc e
  have huse : ∀ i env c transports p m, SendingSimpleConsumer.Working c → StillSays m p →
      ∃ sent t transports' q, deliver transportOf i env c transports p =
          .ok (sent, t, transports', q) ∧ t.Working ∧ StillSays m q ∧
        NumbersOn transportOf i transports sent transports' ∧
        Option.Rel Receives (c.alone.relay env m).1 sent ∧ t.alone = (c.alone.relay env m).2 :=
    fun i env _ transports _ _ ↦ deliver_spec transportOf i env transports
  refine Sharing.run_alone hown huse events hworking fun p order hp ↦ ?_
  obtain ⟨m, hm⟩ := hcarries p order hp
  exact stillSays_message hm

end

/-- A video packet of one payload byte, with room for a header extension. -/
def spaciousPacket (seq : BitVec 16) : RtpPacket :=
  .view { version := 2, padding := false, extension := false, csrcCount := 0, marker := false
          payloadType := 96, sequenceNumber := seq, timestamp := 0, ssrc := 2222 }
    (0x10 :: List.replicate 88 0) none 0 1 0 13

theorem inSync_spaciousPacket (seq : BitVec 16) : (spaciousPacket seq).InSync := by
  have hform : ∀ type, ¬(spaciousPacket seq).hasForm type = true :=
    SendingSimpleConsumer.not_hasForm_framePacket seq
  refine ⟨⟨rfl, rfl, rfl, rfl, rfl, ?_⟩, rfl, ?_, ?_, fun h ↦ absurd rfl h, Nat.zero_le _⟩
  · exact Nat.le_add_left 13 88
  · exact (RtpPacket.found_of_not_hasForm 1 (hform 1)).symm
  · exact (RtpPacket.found_of_not_hasForm 2 (hform 2)).symm

/-- The packet as the router gets it. -/
theorem exists_mangled_spaciousPacket (seq : BitVec 16) : ∃ q m,
    ProducerMapping.orientedMapping.mangleRtpPacket ProducerMapping.orientedProducer
      (spaciousPacket seq) 0 = .ok (true, q) ∧ q.Carries m := by
  obtain ⟨m, hm⟩ := (inSync_spaciousPacket seq).exists_shows
  have hcodec : ProducerMapping.orientedMapping.codecs (spaciousPacket seq).getPayloadType =
      some 101 := rfl
  have hssrc : ProducerMapping.orientedProducer.mapRtpStreamMappedSsrc 0 = some 9000 := rfl
  obtain ⟨q, hmangle, hcarries, -⟩ := ProducerMapping.mangleRtpPacket_spec
    (inSync_spaciousPacket seq) hm (Nat.le_refl 101) hcodec hssrc
  exact ⟨q, _, hmangle, hcarries⟩

/-- Video consumers with MIDs of one byte. -/
def videoConsumers (i : ℕ) : SendingSimpleConsumer where
  kind := .video
  mid := [BitVec.ofNat 8 i]
  encodingSsrc := BitVec.ofNat 32 (1000 + i)
  supportedCodecPayloadTypes := [101]
  keyFrameSupported := true
  rtpStream := .init { ssrc := BitVec.ofNat 32 (1000 + i), payloadType := 101, clockRate := 90000,
                       useNack := false } 0

theorem working_videoConsumers (i : ℕ) : (videoConsumers i).Working :=
  ⟨⟨0, Or.inl rfl, inv_init _ 0⟩, List.cons_ne_nil _ _, show 1 ≤ 8 by decide⟩

/-- Two consumers get two packets, in different orders. -/
def relayedPackets (p q : RtpPacket) : List RelayEvent :=
  [.own 0 .transportConnected, .own 0 (.producerRtpStream 10), .pass p [(1, {}), (0, {
    isKeyFrame := true })], .own 1 .transportConnected, .own 1 (.producerRtpStream 10),
    .pass q [(0, {}), (1, { isKeyFrame := true })]]

theorem carries_relayedPackets {p q : RtpPacket} (hp : ∃ m, p.Carries m) (hq : ∃ m, q.Carries m)
    (packet : RtpPacket) (order : List (ℕ × SendSurroundings))
    (h : Sharing.Event.pass packet order ∈ relayedPackets p q) : ∃ m, packet.Carries m := by
  simp only [relayedPackets, List.mem_cons, reduceCtorEq, Sharing.Event.pass.injEq, false_or,
    List.not_mem_nil, or_false] at h
  rcases h with ⟨rfl, -⟩ | ⟨rfl, -⟩
  · exact hp
  · exact hq

end MediasoupSfu
