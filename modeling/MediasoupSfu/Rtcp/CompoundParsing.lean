import MediasoupSfu.Library.Linked
import MediasoupSfu.Rtcp.Feedback
import MediasoupSfu.Rtcp.ReceiverReports

/-!
# Taking compound packets apart

`Packet::Parse` builds a linked list: the parsed packets point to each other, the list is extended
by patching its last node, and a sender report may bring a second node for the receiver reports
behind it. Here the nodes are in a heap, and the loop has the pointers `first`, `current` and `last`
of the source. Every parser is given the bytes of its own packet, as many as the common header
announces, so a read beyond them is the fault `outOfBounds`.

## What is shown

The list that the loop builds has the packets of `packetsOf`, which puts lists after each other
(`parseLoop_eq`). Whatever the bytes are, the loop ends without a fault. Packets that are accepted
one by one are accepted together, and what follows them is parsed as if it were alone
(`compound_parsing`).

`Packet.parse` is the same without the contents of BYE and feedback packets (`parse_eq_map`).
-/

namespace MediasoupSfu

namespace Rtcp

open Byte Linked FeedbackRtpTransportPacket

/-! ## BYE -/

/-- `ByePacket`. -/
structure ByePacket where
  ssrcs : List (BitVec 32)
  reason : List Byte
  deriving DecidableEq, Repr

/-- Read so many SSRCs, as long as there is something left: the SSRCs and the bytes behind them. -/
def parseByeSsrcs : ℕ → List Byte → Except Fault (Option (List (BitVec 32) × List Byte))
  | 0, data => .ok (some ([], data))
  | count + 1, data =>
    if data = [] then .ok (some ([], []))
    else if data.length < 4 then .ok none
    else do
      let ssrc ← get4Bytes data 0
      match ← parseByeSsrcs count (data.drop 4) with
      | none => return none
      | some (ssrcs, rest) => return some (ssrc :: ssrcs, rest)

/-- The reason, if there is one and it is there as a whole. -/
def parseReason (data : List Byte) : Except Fault (List Byte) :=
  if data = [] then .ok []
  else do
    let length ← get1Byte data 0
    if length.toNat ≤ data.length - 1 then return (data.drop 1).take length.toNat else return []

/-- `ByePacket::Parse(data, len)`. -/
def ByePacket.parse (data : List Byte) : Except Fault (Option ByePacket) := do
  let count ← headerCount data
  match ← parseByeSsrcs count (data.drop 4) with
  | none => return none
  | some (ssrcs, rest) =>
    let reason ← parseReason rest
    return some { ssrcs, reason }

/-! ## The loop -/

/-- What the classes derived from `Packet` hold. -/
inductive PacketContent where
  | senderReports (reports : List SenderReport)
  | receiverReports (packet : ReceiverReportPacket)
  | sdes (chunks : List SdesChunk)
  | bye (packet : ByePacket)
  | feedbackRtp (packet : FeedbackPacket)
  | feedbackPs (packet : FeedbackPacket)
  | extendedReports (packet : ExtendedReportPacket)
  deriving DecidableEq, Repr

/-- `Packet`, without the pointer to the next one. -/
structure ParsedPacket where
  /-- The bytes of the packet at `header`. -/
  data : List Byte
  content : PacketContent
  deriving DecidableEq, Repr

namespace ParsedPacket

/-- The parsers of all types but SR; `none` where `current` becomes `nullptr`. -/
def parseContent (data : List Byte) : Option PacketType → Except Fault (Option PacketContent)
  | some .rr => do return (← ReceiverReportPacket.parse data 0).map .receiverReports
  | some .sdes => do return some (.sdes (← parseSdesPacket data))
  | some .bye => do return (← ByePacket.parse data).map .bye
  | some .rtpfb => do return (← parseFeedbackRtpPacket data).map .feedbackRtp
  | some .psfb => do return (← parseFeedbackPsPacket data).map .feedbackPs
  | some .xr => do return (← ExtendedReportPacket.parse data).map .extendedReports
  | some .sr | some .app | none => .ok none

/-- The case of SR. The receiver reports behind the sender report are a packet of their own. -/
def parseSenderReports (heap : List (Node ParsedPacket)) (data : List Byte) :
    Except Fault (List (Node ParsedPacket) × Option ℕ) := do
  let reports ← parseSenderReportPacket data
  let current := heap.length
  let heap := alloc heap ⟨data, .senderReports reports⟩
  let count ← headerCount data
  if 0 < count then
    match ← ReceiverReportPacket.parse data (senderReportPacketSize reports) with
    | none => return (heap, some current)
    | some packet =>
      let rr := heap.length
      return (setNext (alloc heap ⟨data, .receiverReports packet⟩) current rr, some current)
  else return (heap, some current)

/-- The `switch` over the packet type: the heap and `current`. -/
def parseCurrent (heap : List (Node ParsedPacket)) (data : List Byte) :
    Except Fault (List (Node ParsedPacket) × Option ℕ) := do
  let packetType ← get1Byte data 1
  match PacketType.ofByte packetType with
  | some .sr => parseSenderReports heap data
  | type =>
    match ← parseContent data type with
    | none => return (heap, none)
    | some content => return (alloc heap ⟨data, content⟩, some heap.length)

/-- `last->SetNext(current)`, unless `current` is the first one. -/
def link (heap : List (Node ParsedPacket)) (first last : Option ℕ) (current : ℕ) :
    Except Fault (List (Node ParsedPacket)) :=
  match first, last with
  | none, _ => .ok heap
  | some _, some last => .ok (setNext heap last current)
  | some _, none => .error .nullPointer

/-- The loop of `Packet::Parse(data, len)`: the heap and the pointer that is returned. -/
def parseLoop (heap : List (Node ParsedPacket)) (first last : Option ℕ) (data : List Byte) :
    Except Fault (List (Node ParsedPacket) × Option ℕ) :=
  if data = [] then .ok (heap, first)
  else do
    if ¬(← Packet.isRtcp data) then return (heap, first)
    else
      let length ← get2Bytes data 2
      let packetLen := (length.toNat + 1) * 4
      if data.length < packetLen then return (heap, first)
      else
        match ← parseCurrent heap (data.take packetLen) with
        | (heap, none) => return (heap, first)
        | (heap, some current) =>
          let heap ← link heap first last current
          let last := (getNext heap current).getD current
          parseLoop heap (some (first.getD current)) (some last) (data.drop packetLen)
  termination_by data.length
  decreasing_by
    rw [List.length_drop]
    omega

/-- `Packet::Parse(data, len)`. -/
def parse (data : List Byte) : Except Fault (List (Node ParsedPacket) × Option ℕ) :=
  parseLoop [] none none data

/-- Parsing the bytes gives a list of these packets. -/
def Parses (data : List Byte) (packets : List ParsedPacket) : Prop :=
  ∃ heap first, parse data = .ok (heap, first) ∧ IsList heap first packets

/-- The bytes of one packet that is accepted: it is an RTCP packet, it has the length it announces,
and its parser does not return a null pointer. -/
structure Accepted (data : List Byte) : Prop where
  isRtcp : Packet.isRtcp data = .ok true
  length : announcedLength data = .ok data.length
  current : ∃ heap current, parseCurrent [] data = .ok (heap, some current)

/-- A buffer of accepted packets. -/
def AllAccepted (data : List Byte) : Prop :=
  ∃ packets : List (List Byte), data = packets.flatten ∧ ∀ packet ∈ packets, Accepted packet

/-! ## The packets as a list -/

/-- The packets that begin at `current`. -/
def parsePacket (data : List Byte) : Except Fault (List ParsedPacket) := do
  let packetType ← get1Byte data 1
  match PacketType.ofByte packetType with
  | some .sr =>
    let reports ← parseSenderReportPacket data
    let count ← headerCount data
    if 0 < count then
      let packet ← ReceiverReportPacket.parse data (senderReportPacketSize reports)
      return ⟨data, .senderReports reports⟩ ::
        (packet.map fun packet ↦ ⟨data, .receiverReports packet⟩).toList
    else return [⟨data, .senderReports reports⟩]
  | type =>
    let content ← parseContent data type
    return (content.map fun content ↦ ⟨data, content⟩).toList

/-- The packets of a buffer. -/
def packetsOf (data : List Byte) : Except Fault (List ParsedPacket) :=
  if data = [] then .ok []
  else do
    if ¬(← Packet.isRtcp data) then return []
    else
      let length ← get2Bytes data 2
      let packetLen := (length.toNat + 1) * 4
      if data.length < packetLen then return []
      else
        match ← parsePacket (data.take packetLen) with
        | [] => return []
        | current =>
          let packets ← packetsOf (data.drop packetLen)
          return current ++ packets
  termination_by data.length
  decreasing_by
    rw [List.length_drop]
    omega

end ParsedPacket

/-! ## No read outside -/

theorem SenderReport.parse_returns (data : List Byte) :
    ∃ report, SenderReport.parse data = .ok report := by
  rw [SenderReport.parse]
  split
  · exact ⟨_, rfl⟩
  · rename_i hshort
    have hsize : 24 ≤ data.length := not_lt.mp hshort
    exact returns_bind (get4Bytes_of_lt data 0 (by omega)) fun _ ↦
      returns_bind (get4Bytes_of_lt data 4 (by omega)) fun _ ↦
        returns_bind (get4Bytes_of_lt data 8 (by omega)) fun _ ↦
          returns_bind (get4Bytes_of_lt data 12 (by omega)) fun _ ↦
            returns_bind (get4Bytes_of_lt data 16 (by omega)) fun _ ↦
              returns_bind (get4Bytes_of_lt data 20 (by omega)) fun _ ↦ ⟨_, rfl⟩

theorem parseSenderReportPacket_returns (data : List Byte) :
    ∃ reports, parseSenderReportPacket data = .ok reports :=
  returns_bind (SenderReport.parse_returns _) fun _ ↦ ⟨_, rfl⟩

theorem ReceiverReport.parse_returns (data : List Byte) :
    ∃ report, ReceiverReport.parse data = .ok report := by
  rw [ReceiverReport.parse]
  split
  · exact ⟨_, rfl⟩
  · rename_i hshort
    have hsize : 24 ≤ data.length := not_lt.mp hshort
    exact returns_bind (get4Bytes_of_lt data 0 (by omega)) fun _ ↦
      returns_bind (get1Byte_returns (by omega)) fun _ ↦
        returns_bind (get3Bytes_returns (by omega)) fun _ ↦
          returns_bind (get4Bytes_of_lt data 8 (by omega)) fun _ ↦
            returns_bind (get4Bytes_of_lt data 12 (by omega)) fun _ ↦
              returns_bind (get4Bytes_of_lt data 16 (by omega)) fun _ ↦
                returns_bind (get4Bytes_of_lt data 20 (by omega)) fun _ ↦ ⟨_, rfl⟩

namespace ReceiverReportPacket

theorem parseReports_returns (count : ℕ) (data : List Byte) :
    ∃ reports, parseReports count data = .ok reports := by
  induction count generalizing data with
  | zero => exact ⟨_, rfl⟩
  | succ count ih =>
    rw [parseReports]
    split
    · exact ⟨_, rfl⟩
    · refine returns_bind (ReceiverReport.parse_returns data) fun report ↦ ?_
      cases report with
      | none => exact ⟨_, rfl⟩
      | some report => exact returns_bind (ih _) fun _ ↦ ⟨_, rfl⟩

/-- Wherever the reports begin. -/
theorem parse_returns (data : List Byte) (offset : ℕ) :
    ∃ packet, parse data offset = .ok packet := by
  rw [parse]
  split
  · exact ⟨_, rfl⟩
  · rename_i hshort
    have hsize : 8 ≤ data.length := not_lt.mp hshort
    exact returns_bind (get4Bytes_of_lt data 4 (by omega)) fun _ ↦
      returns_bind (headerCount_returns (List.length_pos_iff.mp (by omega))) fun count ↦
        returns_bind (parseReports_returns count _) fun _ ↦ ⟨_, rfl⟩

end ReceiverReportPacket

theorem parseSdesPacket_returns {data : List Byte} (h : data ≠ []) :
    ∃ chunks, parseSdesPacket data = .ok chunks :=
  returns_bind (headerCount_returns h) fun count ↦ parseSdesChunks_returns count _

namespace ByePacket

theorem parseByeSsrcs_returns (count : ℕ) (data : List Byte) :
    ∃ ssrcs, parseByeSsrcs count data = .ok ssrcs := by
  induction count generalizing data with
  | zero => exact ⟨_, rfl⟩
  | succ count ih =>
    rw [parseByeSsrcs]
    split
    · exact ⟨_, rfl⟩
    · split
      · exact ⟨_, rfl⟩
      · refine returns_bind (get4Bytes_of_lt data 0 (by omega)) fun ssrc ↦ ?_
        refine returns_bind (ih _) fun found ↦ ?_
        cases found <;> exact ⟨_, rfl⟩

theorem parseReason_returns (data : List Byte) : ∃ reason, parseReason data = .ok reason := by
  rw [parseReason]
  split
  · exact ⟨_, rfl⟩
  · rename_i hdata
    refine returns_bind (get1Byte_returns (List.length_pos_iff.mpr hdata)) fun length ↦ ?_
    split <;> exact ⟨_, rfl⟩

theorem parse_returns {data : List Byte} (h : data ≠ []) : ∃ packet, parse data = .ok packet := by
  refine returns_bind (headerCount_returns h) fun count ↦ ?_
  refine returns_bind (parseByeSsrcs_returns count _) fun found ↦ ?_
  cases found with
  | none => exact ⟨_, rfl⟩
  | some found => exact returns_bind (parseReason_returns found.2) fun _ ↦ ⟨_, rfl⟩

end ByePacket

theorem SsrcInfo.parse_returns (data : List Byte) : ∃ info, SsrcInfo.parse data = .ok info := by
  rw [SsrcInfo.parse]
  split
  · exact ⟨_, rfl⟩
  · rename_i hshort
    have hsize : 12 ≤ data.length := not_lt.mp hshort
    exact returns_bind (get4Bytes_of_lt data 0 (by omega)) fun _ ↦
      returns_bind (get4Bytes_of_lt data 4 (by omega)) fun _ ↦
        returns_bind (get4Bytes_of_lt data 8 (by omega)) fun _ ↦ ⟨_, rfl⟩

namespace ExtendedReportBlock

theorem parseSsrcInfos_returns (count : ℕ) (data : List Byte) :
    ∃ infos, parseSsrcInfos count data = .ok infos := by
  induction count generalizing data with
  | zero => exact ⟨_, rfl⟩
  | succ count ih =>
    rw [parseSsrcInfos]
    split
    · exact ⟨_, rfl⟩
    · refine returns_bind (SsrcInfo.parse_returns data) fun info ↦ ?_
      cases info with
      | none => exact ⟨_, rfl⟩
      | some info => exact returns_bind (ih _) fun _ ↦ ⟨_, rfl⟩

theorem parseReceiverReferenceTime_returns (data : List Byte) :
    ∃ block, parseReceiverReferenceTime data = .ok block := by
  rw [parseReceiverReferenceTime]
  split
  · exact ⟨_, rfl⟩
  · rename_i hshort
    have hsize : 12 ≤ data.length := not_lt.mp hshort
    exact returns_bind (get4Bytes_of_lt data 4 (by omega)) fun _ ↦
      returns_bind (get4Bytes_of_lt data 8 (by omega)) fun _ ↦ ⟨_, rfl⟩

theorem parse_returns (data : List Byte) : ∃ block, parse data = .ok block := by
  rw [parse]
  split
  · exact ⟨_, rfl⟩
  · refine returns_bind (get1Byte_returns (by omega)) fun blockType ↦ ?_
    split
    · exact parseReceiverReferenceTime_returns data
    · split
      · exact returns_bind (get2Bytes_returns (by omega)) fun length ↦
          returns_bind (parseSsrcInfos_returns _ _) fun _ ↦ ⟨_, rfl⟩
      · exact ⟨_, rfl⟩

end ExtendedReportBlock

namespace ExtendedReportPacket

theorem parseBlocks_returns (data : List Byte) : ∃ blocks, parseBlocks data = .ok blocks := by
  induction data using parseBlocks.induct with
  | case1 =>
    rw [parseBlocks, dif_pos rfl]
    exact ⟨_, rfl⟩
  | case2 data hdata ih =>
    rw [parseBlocks, dif_neg hdata]
    refine returns_bind (ExtendedReportBlock.parse_returns data) fun block ↦ ?_
    cases block with
    | none => exact ⟨_, rfl⟩
    | some block => exact returns_bind (ih block) fun _ ↦ ⟨_, rfl⟩

theorem parse_returns (data : List Byte) : ∃ packet, parse data = .ok packet := by
  rw [parse]
  split
  · exact ⟨_, rfl⟩
  · exact returns_bind (get4Bytes_of_lt data 4 (by omega)) fun _ ↦
      returns_bind (parseBlocks_returns _) fun _ ↦ ⟨_, rfl⟩

end ExtendedReportPacket

namespace Packet

theorem isRtcp_returns (data : List Byte) : ∃ rtcp, isRtcp data = .ok rtcp := by
  rw [isRtcp]
  split
  · exact ⟨_, rfl⟩
  · exact returns_bind (get1Byte_returns (by omega)) fun _ ↦
      returns_bind (get1Byte_returns (by omega)) fun _ ↦ ⟨_, rfl⟩

end Packet

namespace ParsedPacket

/-- **Each parser stays in its packet.** Given the bytes that the common header announces, no parser
reads another one. -/
theorem parseContent_returns {data : List Byte} (hsize : 4 ≤ data.length)
    (hlen : announcedLength data = .ok data.length) (type : Option PacketType) :
    ∃ content, parseContent data type = .ok content := by
  have hdata : data ≠ [] := List.length_pos_iff.mp (by omega)
  match type with
  | some .rr => exact returns_bind (ReceiverReportPacket.parse_returns data 0) fun _ ↦ ⟨_, rfl⟩
  | some .sdes => exact returns_bind (parseSdesPacket_returns hdata) fun _ ↦ ⟨_, rfl⟩
  | some .bye => exact returns_bind (ByePacket.parse_returns hdata) fun _ ↦ ⟨_, rfl⟩
  | some .rtpfb => exact returns_bind (parseFeedbackRtpPacket_returns hlen) fun _ ↦ ⟨_, rfl⟩
  | some .psfb => exact returns_bind (parseFeedbackPsPacket_returns data) fun _ ↦ ⟨_, rfl⟩
  | some .xr => exact returns_bind (ExtendedReportPacket.parse_returns data) fun _ ↦ ⟨_, rfl⟩
  | some .sr | some .app | none => exact ⟨_, rfl⟩

theorem parsePacket_returns {data : List Byte} (hsize : 4 ≤ data.length)
    (hlen : announcedLength data = .ok data.length) :
    ∃ packets, parsePacket data = .ok packets := by
  have hdata : data ≠ [] := List.length_pos_iff.mp (by omega)
  refine returns_bind (get1Byte_returns (by omega)) fun packetType ↦ ?_
  split
  · refine returns_bind (parseSenderReportPacket_returns data) fun reports ↦ ?_
    refine returns_bind (headerCount_returns hdata) fun count ↦ ?_
    split
    · exact returns_bind (ReceiverReportPacket.parse_returns data _) fun _ ↦ ⟨_, rfl⟩
    · exact ⟨_, rfl⟩
  · exact returns_bind (parseContent_returns hsize hlen _) fun _ ↦ ⟨_, rfl⟩

/-! ## The list that is built -/

/-- One node or two. -/
theorem length_parsePacket_le {data : List Byte} {packets : List ParsedPacket}
    (h : parsePacket data = .ok packets) : packets.length ≤ 2 := by
  have hcontent : ∀ type : Option PacketType,
      (do return ((← parseContent data type).map fun content ↦ ⟨data, content⟩).toList :
        Except Fault (List ParsedPacket)) = .ok packets → packets.length ≤ 2 := by
    intro type hread
    obtain ⟨content, -, hpackets⟩ := bind_eq_ok.mp hread
    rw [← Except.ok.inj hpackets]
    cases content <;> simp
  obtain ⟨packetType, -, hread⟩ := bind_eq_ok.mp h
  split at hread
  · obtain ⟨reports, -, hread⟩ := bind_eq_ok.mp hread
    obtain ⟨count, -, hread⟩ := bind_eq_ok.mp hread
    split at hread
    · obtain ⟨packet, -, hpackets⟩ := bind_eq_ok.mp hread
      rw [← Except.ok.inj hpackets]
      cases packet <;> simp
    · rw [← Except.ok.inj hread]
      simp
  · exact hcontent _ hread

/-- The nodes that a packet brings are a chain behind the heap. -/
theorem parseCurrent_eq (heap : List (Node ParsedPacket)) (data : List Byte) :
    parseCurrent heap data = (do
      let packets ← parsePacket data
      return (heap ++ chain heap.length packets, start heap.length packets)) := by
  rw [parseCurrent, parsePacket]
  cases get1Byte data 1 with
  | error fault => rfl
  | ok packetType =>
    dsimp only [bind, Except.bind]
    split
    · rw [parseSenderReports]
      cases parseSenderReportPacket data with
      | error fault => rfl
      | ok reports =>
        cases headerCount data with
        | error fault => rfl
        | ok count =>
          dsimp only [bind, Except.bind, pure, Except.pure]
          split
          · cases ReceiverReportPacket.parse data (senderReportPacketSize reports) with
            | error fault => rfl
            | ok packet =>
              cases packet with
              | none => rfl
              | some packet =>
                dsimp only
                rw [setNext_alloc_alloc]
                rfl
          · rfl
    · cases parseContent data (PacketType.ofByte packetType) with
      | error fault => rfl
      | ok content =>
        cases content with
        | none =>
          change Except.ok (heap, none) = Except.ok (heap ++ [], none)
          rw [List.append_nil]
        | some content => rfl

/-- The last of the nodes of a chain at 0. -/
def lastOf (packets : List ParsedPacket) : Option ℕ :=
  match packets with
  | [] => none
  | _ :: packets => some packets.length

/-- Linking a chain of parsed packets to the one before it gives one chain. -/
theorem link_chain (packets : List ParsedPacket) (current : ParsedPacket)
    (more : List ParsedPacket) :
    link (chain 0 packets ++ chain packets.length (current :: more)) (start 0 packets)
      (lastOf packets) packets.length = .ok (chain 0 (packets ++ current :: more)) := by
  cases packets with
  | nil => rfl
  | cons packet packets =>
    have hchain := setNext_chain 0 (List.cons_ne_nil packet packets) current more
    rw [Nat.zero_add] at hchain
    exact congrArg Except.ok hchain

/-- Where the loop continues behind a node and what it points to. -/
theorem getNext_lastOf (packets : List ParsedPacket) (current : ParsedPacket)
    {more : List ParsedPacket} (hmore : more.length ≤ 1) :
    some ((getNext (chain 0 (packets ++ current :: more)) packets.length).getD packets.length) =
      lastOf (packets ++ current :: more) := by
  have hlast : lastOf (packets ++ current :: more) = some (packets.length + more.length) := by
    cases packets with
    | nil => simp [lastOf]
    | cons packet packets =>
      change some (packets ++ current :: more).length = _
      rw [List.length_append, List.length_cons, List.length_cons]
      congr 1
      omega
  rw [hlast, getNext_chain, Nat.zero_add]
  match more with
  | [] => rfl
  | [_] => rfl
  | _ :: _ :: _ => exact absurd hmore (by simp)

/-- **The list that is built.** From the packets parsed so far the loop extends their chain by the
packets of the rest. -/
theorem parseLoop_eq (packets : List ParsedPacket) (data : List Byte) :
    parseLoop (chain 0 packets) (start 0 packets) (lastOf packets) data = (do
      let more ← packetsOf data
      return (chain 0 (packets ++ more), start 0 (packets ++ more))) := by
  induction data using packetsOf.induct generalizing packets with
  | case1 =>
    rw [parseLoop, if_pos rfl, packetsOf, if_pos rfl]
    change _ = Except.ok (chain 0 (packets ++ []), start 0 (packets ++ []))
    rw [List.append_nil]
  | case2 data hdata ih =>
    rw [parseLoop, if_neg hdata, packetsOf, if_neg hdata]
    have hstop : (Except.ok (chain 0 packets, start 0 packets) : Except Fault _) =
        .ok (chain 0 (packets ++ []), start 0 (packets ++ [])) := by
      rw [List.append_nil]
    cases Packet.isRtcp data with
    | error fault => rfl
    | ok rtcp =>
      cases rtcp with
      | false => exact hstop
      | true =>
        cases get2Bytes data 2 with
        | error fault => rfl
        | ok length =>
          have hrest := ih length
          dsimp only [bind, Except.bind, pure, Except.pure] at hrest ⊢
          rw [if_neg (not_not.mpr rfl), if_neg (not_not.mpr rfl)]
          by_cases hlen : data.length < (length.toNat + 1) * 4
          · rw [if_pos hlen, if_pos hlen]
            exact hstop
          · rw [if_neg hlen, if_neg hlen, parseCurrent_eq]
            cases hpackets : parsePacket (data.take ((length.toNat + 1) * 4)) with
            | error fault => rfl
            | ok found =>
              rw [length_chain]
              match found with
              | [] =>
                change Except.ok (chain 0 packets ++ [], start 0 packets) =
                  Except.ok (chain 0 (packets ++ []), start 0 (packets ++ []))
                rw [List.append_nil, List.append_nil]
              | current :: more =>
                have hmore := length_parsePacket_le hpackets
                rw [List.length_cons] at hmore
                have hfirst : some ((start 0 packets).getD packets.length) =
                    start 0 (packets ++ current :: more) := by
                  cases packets <;> rfl
                change (do
                  let heap ← link (chain 0 packets ++ chain packets.length (current :: more))
                    (start 0 packets) (lastOf packets) packets.length
                  parseLoop heap (some ((start 0 packets).getD packets.length))
                    (some ((getNext heap packets.length).getD packets.length))
                    (data.drop ((length.toNat + 1) * 4))) = _
                rw [link_chain]
                dsimp only [bind, Except.bind]
                rw [hfirst, getNext_lastOf packets current (by omega), hrest hlen]
                cases packetsOf (data.drop ((length.toNat + 1) * 4)) with
                | error fault => rfl
                | ok rest =>
                  dsimp only [pure, Except.pure]
                  rw [List.append_assoc]

/-! ## Packets in front of others -/

theorem isRtcp_append {data : List Byte} (h : 4 ≤ data.length) (rest : List Byte) :
    Packet.isRtcp (data ++ rest) = Packet.isRtcp data := by
  rw [Packet.isRtcp, Packet.isRtcp, if_neg (by rw [List.length_append]; omega),
    if_neg (by omega), get1Byte_append_left (by omega), get1Byte_append_left (by omega)]

theorem announcedLength_append {data : List Byte} (h : 4 ≤ data.length) (rest : List Byte) :
    announcedLength (data ++ rest) = announcedLength data := by
  rw [announcedLength, announcedLength, get2Bytes_append_left (by omega)]

/-- A packet that is taken from a buffer has the length it announces. -/
theorem announcedLength_take {data : List Byte} {length : BitVec 16}
    (hread : get2Bytes data 2 = .ok length) (hle : (length.toNat + 1) * 4 ≤ data.length) :
    announcedLength (data.take ((length.toNat + 1) * 4)) =
      .ok (data.take ((length.toNat + 1) * 4)).length := by
  have htake : (data.take ((length.toNat + 1) * 4)).length = (length.toNat + 1) * 4 := by
    rw [List.length_take]
    omega
  rw [← announcedLength_append (by omega) (data.drop ((length.toNat + 1) * 4)),
    List.take_append_drop, announcedLength, hread, htake]
  rfl

/-- The parser of the packets returns, whatever the bytes are. -/
theorem packetsOf_returns (data : List Byte) : ∃ packets, packetsOf data = .ok packets := by
  induction data using packetsOf.induct with
  | case1 =>
    rw [packetsOf, if_pos rfl]
    exact ⟨_, rfl⟩
  | case2 data hdata ih =>
    rw [packetsOf, if_neg hdata]
    by_cases hshort : data.length < 4
    · rw [Packet.isRtcp, if_pos hshort]
      exact ⟨_, rfl⟩
    refine returns_bind (Packet.isRtcp_returns data) fun rtcp ↦ ?_
    cases rtcp with
    | false => exact ⟨_, rfl⟩
    | true =>
      obtain ⟨length, hlength⟩ := get2Bytes_returns (show 2 + 1 < data.length by omega)
      have hrest := ih length
      rw [if_neg (not_not.mpr rfl), hlength]
      dsimp only [bind, Except.bind] at hrest ⊢
      split
      · exact ⟨_, rfl⟩
      · rename_i hlen
        have hsize : 4 ≤ (data.take ((length.toNat + 1) * 4)).length := by
          rw [List.length_take]
          omega
        obtain ⟨current, hcurrent⟩ :=
          parsePacket_returns hsize (announcedLength_take hlength (not_lt.mp hlen))
        rw [hcurrent]
        cases current with
        | nil => exact ⟨_, rfl⟩
        | cons packet packets => exact returns_bind (hrest hlen) fun _ ↦ ⟨_, rfl⟩

theorem Accepted.length_ge {packet : List Byte} (h : Accepted packet) : 4 ≤ packet.length := by
  by_contra hshort
  have hrtcp := h.isRtcp
  rw [Packet.isRtcp, if_pos (by omega)] at hrtcp
  cases hrtcp

/-- Where the loop goes on there is at least one node. -/
theorem Accepted.parsePacket_ne_nil {packet : List Byte} (h : Accepted packet) :
    ∃ current, parsePacket packet = .ok current ∧ current ≠ [] := by
  obtain ⟨heap, p, hcurrent⟩ := h.current
  rw [parseCurrent_eq] at hcurrent
  obtain ⟨current, hparse, hstart⟩ := bind_eq_ok.mp hcurrent
  refine ⟨current, hparse, ?_⟩
  rintro rfl
  cases hstart

theorem packetsOf_nil : packetsOf [] = .ok [] := by
  rw [packetsOf, if_pos rfl]

/-- **The packet in front.** An accepted packet is parsed from its own bytes, and what follows after
it. -/
theorem Accepted.packetsOf_append {packet rest : List Byte} {current more : List ParsedPacket}
    (h : Accepted packet) (hparse : parsePacket packet = .ok current)
    (hmore : packetsOf rest = .ok more) :
    packetsOf (packet ++ rest) = .ok (current ++ more) := by
  have hsize := h.length_ge
  have hne : current ≠ [] := by
    obtain ⟨current', hparse', hne⟩ := h.parsePacket_ne_nil
    rwa [Except.ok.inj (hparse.symm.trans hparse')]
  obtain ⟨length, hread, hlength⟩ := bind_eq_ok.mp h.length
  have hlen : (length.toNat + 1) * 4 = packet.length := Except.ok.inj hlength
  have hdata : packet ++ rest ≠ [] :=
    List.append_ne_nil_of_left_ne_nil (List.length_pos_iff.mp (by omega)) _
  rw [packetsOf, if_neg hdata, isRtcp_append hsize, h.isRtcp,
    get2Bytes_append_left (by omega), hread]
  dsimp only [bind, Except.bind]
  rw [if_neg (not_not.mpr rfl), hlen, if_neg (by rw [List.length_append]; omega),
    List.take_left, List.drop_left, hparse, hmore]
  cases current with
  | nil => exact absurd rfl hne
  | cons first others => rfl

/-- What the loop returns is a list of the packets. -/
theorem parses_of_packetsOf {data : List Byte} {packets : List ParsedPacket}
    (h : packetsOf data = .ok packets) : Parses data packets := by
  have hloop := parseLoop_eq [] data
  rw [h] at hloop
  exact ⟨_, _, hloop, isList_chain [] packets⟩

theorem Parses.packetsOf_eq {data : List Byte} {packets : List ParsedPacket}
    (h : Parses data packets) : packetsOf data = .ok packets := by
  obtain ⟨found, hfound⟩ := packetsOf_returns data
  obtain ⟨heap, first, hparse, hlist⟩ := h
  obtain ⟨heap', first', hparse', hlist'⟩ := parses_of_packetsOf hfound
  obtain ⟨rfl, rfl⟩ := Prod.mk.inj (Except.ok.inj (hparse.symm.trans hparse'))
  rw [hlist.unique hlist', hfound]

/-- **Compound packets are taken apart.** Whatever the bytes, parsing ends without a read outside
of the packet that is parsed, and returns a list. A buffer of accepted packets in front of another
one brings its packets in front of those of the other one. -/
theorem compound_parsing :
    (∀ data, ∃ packets, Parses data packets) ∧
      ∀ a b packetsA packetsB, AllAccepted a → Parses a packetsA → Parses b packetsB →
        Parses (a ++ b) (packetsA ++ packetsB) := by
  refine ⟨fun data ↦ (packetsOf_returns data).imp fun _ ↦ parses_of_packetsOf, ?_⟩
  rintro a b packetsA packetsB ⟨accepted, rfl, haccepted⟩ ha hb
  apply parses_of_packetsOf
  have hb' := hb.packetsOf_eq
  have ha' := ha.packetsOf_eq
  clear ha hb
  induction accepted generalizing packetsA with
  | nil =>
    rw [List.flatten_nil, packetsOf_nil] at ha'
    rw [← Except.ok.inj ha']
    exact hb'
  | cons packet accepted ih =>
    obtain ⟨hpacket, hrest⟩ := List.forall_mem_cons.mp haccepted
    obtain ⟨current, hcurrent, -⟩ := hpacket.parsePacket_ne_nil
    obtain ⟨more, hmore⟩ := packetsOf_returns accepted.flatten
    have hall := ih more hrest hmore
    rw [List.flatten_cons, hpacket.packetsOf_append hcurrent hmore] at ha'
    rw [List.flatten_cons, List.append_assoc, hpacket.packetsOf_append hcurrent hall,
      ← Except.ok.inj ha', List.append_assoc]

/-- Two BYE packets without a source. -/
theorem compound_parsing_two_byes :
    Parses ([0x80, 0xCB, 0x00, 0x00] ++ [0x80, 0xCB, 0x00, 0x00])
      ([⟨[0x80, 0xCB, 0x00, 0x00], .bye ⟨[], []⟩⟩] ++
        [⟨[0x80, 0xCB, 0x00, 0x00], .bye ⟨[], []⟩⟩]) := by
  have haccepted : Accepted [0x80, 0xCB, 0x00, 0x00] := ⟨rfl, rfl, _, _, rfl⟩
  have hparses : Parses [0x80, 0xCB, 0x00, 0x00] [⟨[0x80, 0xCB, 0x00, 0x00], .bye ⟨[], []⟩⟩] :=
    parses_of_packetsOf (haccepted.packetsOf_append rfl packetsOf_nil)
  have hall : AllAccepted [0x80, 0xCB, 0x00, 0x00] :=
    ⟨[_], rfl, List.forall_mem_singleton.mpr haccepted⟩
  exact compound_parsing.2 _ _ _ _ hall hparses hparses

/-! ## Without the contents -/

/-- What `Packet` keeps of a parsed packet. -/
def toPacket (p : ParsedPacket) : Packet :=
  match p.content with
  | .senderReports reports => .senderReports reports
  | .receiverReports packet => .receiverReports packet
  | .sdes chunks => .sdes chunks
  | .bye _ => .other .bye p.data
  | .feedbackRtp _ => .other .rtpfb p.data
  | .feedbackPs _ => .other .psfb p.data
  | .extendedReports packet => .extendedReports packet

/-- The parser of this type returns a packet. -/
def accepts (type : PacketType) (data : List Byte) : Bool :=
  match parseContent data (some type) with
  | .ok (some _) => true
  | _ => false

theorem accepts_eq {type : PacketType} {data : List Byte} {content : Option PacketContent}
    (h : parseContent data (some type) = .ok content) : accepts type data = content.isSome := by
  rw [accepts, h]
  cases content <;> rfl

theorem parseFirst_eq_map {data : List Byte} (hsize : 4 ≤ data.length)
    (hlen : announcedLength data = .ok data.length) :
    Packet.parseFirst accepts data = (do
      let packets ← parsePacket data
      return packets.map toPacket) := by
  have hdata : data ≠ [] := List.length_pos_iff.mp (by omega)
  rw [Packet.parseFirst, parsePacket]
  cases get1Byte data 1 with
  | error fault => rfl
  | ok packetType =>
    dsimp only [bind, Except.bind]
    cases PacketType.ofByte packetType with
    | none => rfl
    | some type =>
      cases type with
      | app => rfl
      | sr =>
        dsimp only [Packet.parseSenderReports, bind, Except.bind]
        cases parseSenderReportPacket data with
        | error fault => rfl
        | ok reports =>
          cases headerCount data with
          | error fault => rfl
          | ok count =>
            dsimp only
            by_cases hcount : 0 < count
            · rw [if_pos hcount, if_pos hcount]
              cases ReceiverReportPacket.parse data (senderReportPacketSize reports) with
              | error fault => rfl
              | ok packet => cases packet <;> rfl
            · rw [if_neg hcount, if_neg hcount]
              rfl
      | rr =>
        dsimp only [parseContent, bind, Except.bind]
        cases ReceiverReportPacket.parse data 0 with
        | error fault => rfl
        | ok packet => cases packet <;> rfl
      | sdes =>
        dsimp only [parseContent, bind, Except.bind]
        cases parseSdesPacket data <;> rfl
      | xr =>
        dsimp only [parseContent, bind, Except.bind]
        cases ExtendedReportPacket.parse data with
        | error fault => rfl
        | ok packet => cases packet <;> rfl
      | bye =>
        obtain ⟨packet, hpacket⟩ := ByePacket.parse_returns hdata
        have hcontent : parseContent data (some .bye) = .ok (packet.map .bye) := by
          rw [parseContent, hpacket]
          rfl
        dsimp only
        rw [accepts_eq hcontent, hcontent]
        cases packet <;> rfl
      | rtpfb =>
        obtain ⟨packet, hpacket⟩ := parseFeedbackRtpPacket_returns hlen
        have hcontent : parseContent data (some .rtpfb) = .ok (packet.map .feedbackRtp) := by
          rw [parseContent, hpacket]
          rfl
        dsimp only
        rw [accepts_eq hcontent, hcontent]
        cases packet <;> rfl
      | psfb =>
        obtain ⟨packet, hpacket⟩ := parseFeedbackPsPacket_returns data
        have hcontent : parseContent data (some .psfb) = .ok (packet.map .feedbackPs) := by
          rw [parseContent, hpacket]
          rfl
        dsimp only
        rw [accepts_eq hcontent, hcontent]
        cases packet <;> rfl

/-- **The same packets.** `Packet.parse` is told which BYE and feedback packets are accepted; if it
is told what their parsers do, it finds the same packets. -/
theorem parse_eq_map (data : List Byte) :
    Packet.parse accepts data = (do
      let packets ← packetsOf data
      return packets.map toPacket) := by
  induction data using packetsOf.induct with
  | case1 =>
    rw [Packet.parse, dif_pos rfl, packetsOf, if_pos rfl]
    rfl
  | case2 data hdata ih =>
    rw [Packet.parse, dif_neg hdata, packetsOf, if_neg hdata]
    by_cases hshort : data.length < 4
    · rw [Packet.isRtcp, if_pos hshort]
      rfl
    cases Packet.isRtcp data with
    | error fault => rfl
    | ok rtcp =>
      cases rtcp with
      | false => rfl
      | true =>
        obtain ⟨length, hlength⟩ := get2Bytes_returns (show 2 + 1 < data.length by omega)
        have hrest := ih length
        rw [hlength]
        dsimp only [bind, Except.bind] at hrest ⊢
        rw [if_neg (not_not.mpr rfl), if_neg (not_not.mpr rfl)]
        by_cases hlen : data.length < (length.toNat + 1) * 4
        · rw [if_pos hlen, if_pos hlen]
          rfl
        · have hsize : 4 ≤ (data.take ((length.toNat + 1) * 4)).length := by
            rw [List.length_take]
            omega
          rw [if_neg hlen, if_neg hlen,
            parseFirst_eq_map hsize (announcedLength_take hlength (not_lt.mp hlen)), hrest hlen]
          cases parsePacket (data.take ((length.toNat + 1) * 4)) with
          | error fault => rfl
          | ok current =>
            cases current with
            | nil => rfl
            | cons packet others =>
              dsimp only [bind, Except.bind, pure, Except.pure, List.map_cons]
              cases packetsOf (data.drop ((length.toNat + 1) * 4)) with
              | error fault => rfl
              | ok more =>
                dsimp only
                rw [List.map_append]
                rfl

end ParsedPacket

end Rtcp

end MediasoupSfu
