import MediasoupSfu.Rtcp.Compound
import Mathlib.Data.List.Perm.Basic

/-!
# Receiver reports on the wire

All receiver reports of one `SendRtcp` end up in a single compound packet: `GetSize` is 0 until
`Serialize` has run, so the check for the MTU never splits anything. The header of that packet has
five bits for the number of reports, and `Packet::Parse` reads as many as these bits say. So the
reports arrive if there are at most 31 of them, and otherwise as many are read as the remainder
modulo 32 says.

`collecting` is what the compound packet is while the Producers are asked; from there on everything
is computed on its bytes.
-/

namespace MediasoupSfu

namespace Rtcp

open Byte

/-! ## Parsing a packet in front of others -/

theorem headerCount_commonHeader (count : ℕ) (type : PacketType) (length : ℕ) (rest : List Byte) :
    headerCount (commonHeader count type length ++ rest) = .ok (count % 2 ^ 5) := by
  have hlow : ((2 : BitVec 2) ++ (0 : BitVec 1) ++ BitVec.ofNat 5 count).setWidth 5 =
      BitVec.ofNat 5 count := by
    rw [BitVec.setWidth_append_eq_right]
  change Except.ok (((2 : BitVec 2) ++ (0 : BitVec 1) ++ BitVec.ofNat 5 count).setWidth 5).toNat = _
  rw [hlow, BitVec.toNat_ofNat]

/-- The first byte is that of an RTCP packet, whatever the count. -/
theorem version_commonHeader : ∀ count : BitVec 5,
    let b := (2 : BitVec 2) ++ (0 : BitVec 1) ++ count
    (127 < b ∧ b < 192) ∧ b >>> 6 = 2 := by
  decide

namespace Packet

theorem isRtcp_commonHeader (count : ℕ) (type : PacketType) (length : ℕ) (rest : List Byte) :
    isRtcp (commonHeader count type length ++ rest) = .ok true := by
  obtain ⟨hrange, hversion⟩ := version_commonHeader (BitVec.ofNat 5 count)
  have htype : 192 ≤ type.toByte ∧ type.toByte ≤ 223 := by cases type <;> decide
  rw [isRtcp, if_neg (by rw [List.length_append, length_commonHeader]; omega)]
  change Except.ok (decide _ && decide _ && decide _) = _
  rw [decide_eq_true hrange, decide_eq_true hversion, decide_eq_true htype]
  rfl

/-- **The packet in front.** A packet whose length field is right is parsed by itself, and the rest
after it. -/
theorem parse_append (acceptsOther : PacketType → List Byte → Bool) {count length : ℕ}
    {type : PacketType}
    {body : List Byte} (hlength : length < 2 ^ 16) (hbody : body.length = length * 4)
    (rest : List Byte)
    {current : List Packet}
    (hcurrent : parseFirst acceptsOther (commonHeader count type length ++ body) = .ok current)
    (hne : current ≠ []) :
    parse acceptsOther (commonHeader count type length ++ body ++ rest) = (do
      let packets ← parse acceptsOther rest
      return current ++ packets) := by
  have hlen : (commonHeader count type length ++ body).length = (length + 1) * 4 := by
    rw [List.length_append, length_commonHeader, hbody]
    omega
  have hget : get2Bytes (commonHeader count type length ++ body ++ rest) 2 =
      .ok (BitVec.ofNat 16 length) := by
    rw [List.append_assoc]
    exact congrArg Except.ok (join2_set2Bytes _)
  have hpacketLen : ((BitVec.ofNat 16 length).toNat + 1) * 4 = (length + 1) * 4 := by
    rw [BitVec.toNat_ofNat, Nat.mod_eq_of_lt hlength]
  have hrtcp := isRtcp_commonHeader count type length (body ++ rest)
  rw [← List.append_assoc] at hrtcp
  have hdata : commonHeader count type length ++ body ++ rest ≠ [] := List.cons_ne_nil _ _
  rw [parse, dif_neg hdata, hrtcp, hget]
  dsimp only [bind, Except.bind, pure, Except.pure]
  rw [if_neg (by simp), hpacketLen, if_neg (by rw [List.length_append, hlen]; omega),
    ← hlen, List.take_left, List.drop_left, hcurrent]
  cases current with
  | nil => exact absurd rfl hne
  | cons packet packets => rfl

end Packet

/-! ## Receiver reports -/

namespace ReceiverReport

theorem parse_serialize (r : ReceiverReport) (rest : List Byte) :
    parse (r.serialize ++ rest) = .ok (some r) := by
  have htotal : join3 ((r.totalLost.setWidth 32 >>> 16).setWidth 8)
      ((r.totalLost.setWidth 32 >>> 8).setWidth 8) ((r.totalLost.setWidth 32).setWidth 8) =
      r.totalLost.setWidth 32 := by
    refine join3_set3Bytes _ ?_
    rw [BitVec.toNat_setWidth]
    exact (Nat.mod_le _ _).trans_lt r.totalLost.isLt
  rw [parse, if_neg (by rw [List.length_append, length_serialize]; omega)]
  change Except.ok (some
    (ReceiverReport.mk (join4 _ _ _ _) r.fractionLost ((join3 _ _ _).setWidth 24)
    (join4 _ _ _ _) (join4 _ _ _ _) (join4 _ _ _ _) (join4 _ _ _ _))) = _
  rw [htotal]
  simp only [join4_set4Bytes]
  rw [BitVec.setWidth_setWidth_of_le _ (by decide), BitVec.setWidth_eq]

end ReceiverReport

namespace ReceiverReportPacket

theorem length_flatMap_serialize (reports : List ReceiverReport) :
    (reports.flatMap ReceiverReport.serialize).length = ReceiverReport.size * reports.length := by
  induction reports with
  | nil => rfl
  | cons report reports ih =>
    rw [List.flatMap_cons, List.length_append, ih, ReceiverReport.length_serialize,
      List.length_cons, Nat.mul_succ, Nat.add_comm]

/-- As many reports are read as the count says, if there are so many. -/
theorem parseReports_serialize (reports : List ReceiverReport) (count : ℕ) :
    parseReports count (reports.flatMap ReceiverReport.serialize) = .ok (reports.take count) := by
  induction count generalizing reports with
  | zero => rfl
  | succ count ih =>
    cases reports with
    | nil => rfl
    | cons report reports =>
      have hdrop := @List.drop_left _ report.serialize (reports.flatMap ReceiverReport.serialize)
      rw [ReceiverReport.length_serialize] at hdrop
      have hdata : report.serialize ++ reports.flatMap ReceiverReport.serialize ≠ [] :=
        List.cons_ne_nil _ _
      rw [List.flatMap_cons, parseReports, if_neg hdata, ReceiverReport.parse_serialize]
      dsimp only [bind, Except.bind]
      rw [hdrop, ih]
      rfl

theorem serialize_eq (p : ReceiverReportPacket) :
    p.serialize = commonHeader p.reports.length .rr (1 + 6 * p.reports.length) ++
      (set4Bytes p.ssrc ++ p.reports.flatMap ReceiverReport.serialize) := by
  have hsize : p.getSize / 4 - 1 = 1 + 6 * p.reports.length := by
    rw [getSize, ReceiverReport.size]
    omega
  rw [serialize, serializeHeader, hsize, List.append_assoc]

theorem length_serialize (p : ReceiverReportPacket) : p.serialize.length = p.getSize := by
  rw [serialize, List.length_append, List.length_append, length_serializeHeader, length_set4Bytes,
    length_flatMap_serialize, getSize]

/-- **What is read of a receiver report packet.** -/
theorem parse_serialize (p : ReceiverReportPacket) :
    parse p.serialize 0 =
      .ok (some { p with reports := p.reports.take (p.reports.length % 2 ^ 5) }) := by
  have hssrc : get4Bytes p.serialize 4 = .ok p.ssrc := by
    rw [serialize_eq]
    exact congrArg Except.ok (join4_set4Bytes _)
  have hcount : headerCount p.serialize = .ok (p.reports.length % 2 ^ 5) := by
    rw [serialize_eq]
    exact headerCount_commonHeader _ _ _ _
  have hdrop : p.serialize.drop (4 + 4) = p.reports.flatMap ReceiverReport.serialize := by
    rw [serialize_eq]
    rfl
  rw [parse, if_neg (by rw [length_serialize, getSize]; omega), hssrc, hcount]
  dsimp only [bind, Except.bind]
  rw [if_pos rfl, hdrop, parseReports_serialize]
  rfl

end ReceiverReportPacket

/-! ## The reference time -/

/-- The blocks of an extended report packet that holds at most a reference time. -/
def Reference (blocks : List ExtendedReportBlock) : Prop :=
  blocks = [] ∨ ∃ ntpSec ntpFrac, blocks = [.receiverReferenceTime ntpSec ntpFrac]

/-- The bytes that a compound packet has for extended reports. -/
def extendedReportBytes (blocks : List ExtendedReportBlock) : List Byte :=
  if blocks = [] then [] else ({ reports := blocks } : ExtendedReportPacket).serialize

theorem parseFirst_commonHeader (acceptsOther : PacketType → List Byte → Bool) (count length : ℕ)
    (type : PacketType) (body : List Byte) :
    Packet.parseFirst acceptsOther (commonHeader count type length ++ body) =
      match type with
      | .sr => Packet.parseSenderReports (commonHeader count type length ++ body)
      | .rr => do
        return ((← ReceiverReportPacket.parse (commonHeader count type length ++ body) 0).map
          Packet.receiverReports).toList
      | .sdes => do
        return [Packet.sdes (← parseSdesPacket (commonHeader count type length ++ body))]
      | .xr => do
        return ((← ExtendedReportPacket.parse (commonHeader count type length ++ body)).map
          Packet.extendedReports).toList
      | .app => .ok []
      | .bye | .rtpfb | .psfb => .ok
          (if acceptsOther type (commonHeader count type length ++ body) then
          [Packet.other type (commonHeader count type length ++ body)] else []) := by
  have htype : get1Byte (commonHeader count type length ++ body) 1 = .ok type.toByte := rfl
  rw [Packet.parseFirst, htype]
  dsimp only [bind, Except.bind]
  rw [PacketType.ofByte_toByte]
  cases type <;> rfl

theorem parse_nil (acceptsOther : PacketType → List Byte → Bool) :
    Packet.parse acceptsOther [] = .ok [] := by
  rw [Packet.parse]
  rfl

theorem parseBlocks_reference (ntpSec ntpFrac : BitVec 32) :
    ExtendedReportPacket.parseBlocks
      (ExtendedReportBlock.receiverReferenceTime ntpSec ntpFrac).serialize =
      .ok [.receiverReferenceTime ntpSec ntpFrac] := by
  have hparse : ExtendedReportBlock.parse
      (ExtendedReportBlock.receiverReferenceTime ntpSec ntpFrac).serialize =
      .ok (some (.receiverReferenceTime ntpSec ntpFrac)) := by
    change Except.ok (some
      (ExtendedReportBlock.receiverReferenceTime (join4 _ _ _ _) (join4 _ _ _ _))) = _
    simp only [join4_set4Bytes]
  have hdata : (ExtendedReportBlock.receiverReferenceTime ntpSec ntpFrac).serialize ≠ [] :=
    List.cons_ne_nil _ _
  have hnil : ExtendedReportPacket.parseBlocks [] = .ok [] := by
    rw [ExtendedReportPacket.parseBlocks]
    rfl
  have hdrop : (ExtendedReportBlock.receiverReferenceTime ntpSec ntpFrac).serialize.drop
      (ExtendedReportBlock.receiverReferenceTime ntpSec ntpFrac).getSize = [] := rfl
  rw [ExtendedReportPacket.parseBlocks, dif_neg hdata, hparse]
  dsimp only [bind, Except.bind]
  rw [hdrop, hnil]
  rfl

/-- The reference time carries no receiver reports. -/
theorem Reference.parse {blocks : List ExtendedReportBlock} (h : Reference blocks)
    (acceptsOther : PacketType → List Byte → Bool) :
    ∃ packets, Packet.parse acceptsOther (extendedReportBytes blocks) = .ok packets ∧
      packets.flatMap Packet.getReceiverReports = [] := by
  obtain rfl | ⟨ntpSec, ntpFrac, rfl⟩ := h
  · exact ⟨[], parse_nil acceptsOther, rfl⟩
  · have hcurrent : Packet.parseFirst acceptsOther (commonHeader 0 .xr 4 ++
        (set4Bytes 0 ++ (ExtendedReportBlock.receiverReferenceTime ntpSec ntpFrac).serialize)) =
        .ok [.extendedReports ⟨0, [.receiverReferenceTime ntpSec ntpFrac]⟩] := by
      rw [parseFirst_commonHeader]
      change (ExtendedReportPacket.parseBlocks
        (ExtendedReportBlock.receiverReferenceTime ntpSec ntpFrac).serialize >>= _) >>= _ = _
      rw [parseBlocks_reference]
      rfl
    have hparse := Packet.parse_append acceptsOther (by decide) rfl [] hcurrent
        (List.cons_ne_nil _ _)
    rw [parse_nil, List.append_nil] at hparse
    have hbytes : extendedReportBytes [.receiverReferenceTime ntpSec ntpFrac] =
        commonHeader 0 .xr 4 ++
        (set4Bytes 0 ++ (ExtendedReportBlock.receiverReferenceTime ntpSec ntpFrac).serialize) := by
      have hsize : ({ reports := [.receiverReferenceTime ntpSec ntpFrac] } :
          ExtendedReportPacket).getSize =
          20 := by
        rw [ExtendedReportPacket.getSize, List.map_singleton, List.sum_singleton]
        rfl
      rw [extendedReportBytes, if_neg (List.cons_ne_nil _ _), ExtendedReportPacket.serialize, hsize,
        List.flatMap_singleton, List.append_assoc]
      rfl
    rw [hbytes, hparse]
    exact ⟨_, rfl, rfl⟩

theorem Reference.length {blocks : List ExtendedReportBlock} (h : Reference blocks) :
    (extendedReportBytes blocks).length ≤ 20 ∧ (extendedReportBytes blocks).length =
      if blocks = [] then 0 else ({ reports := blocks } : ExtendedReportPacket).getSize := by
  obtain rfl | ⟨ntpSec, ntpFrac, rfl⟩ := h
  · exact ⟨Nat.zero_le _, rfl⟩
  · exact ⟨le_rfl, rfl⟩

/-! ## Collecting -/

/-- The compound packet while the Producers are asked for their reports. -/
def collecting (reports : List ReceiverReport) (blocks : List ExtendedReportBlock) :
    CompoundPacket where
  receiverReportPacket := { reports }
  xrPacket := { reports := blocks }

namespace RtcpProducer

/-- The reports that `GetRtcp` adds. -/
def addedReports (env : RtcpSurroundings) (p : RtcpProducer) : List ReceiverReport :=
  (p.getRtcp env {}).1.receiverReportPacket.reports

theorem foldl_addReports (streams : List RecvStream) (reports : List ReceiverReport)
    (blocks : List ExtendedReportBlock) :
    streams.foldl addReports (collecting reports blocks) =
      collecting (reports ++ streams.flatMap fun stream ↦
        stream.receiverReport :: stream.rtxReceiverReport.toList) blocks := by
  induction streams generalizing reports with
  | nil => rw [List.foldl_nil, List.flatMap_nil, List.append_nil]
  | cons stream streams ih =>
    have hadd : addReports (collecting reports blocks) stream =
        collecting (reports ++ stream.receiverReport :: stream.rtxReceiverReport.toList)
          blocks := by
      rw [addReports]
      cases stream.rtxReceiverReport with
      | none => rfl
      | some report =>
        change collecting (reports ++ [stream.receiverReport] ++ [report]) blocks = _
        rw [List.append_assoc]
        rfl
    rw [List.foldl_cons, hadd, ih, List.flatMap_cons, List.append_assoc]

theorem addedReports_eq (env : RtcpSurroundings) (p : RtcpProducer) :
    p.addedReports env = if p.waits env then [] else p.rtpStreams.flatMap fun stream ↦
      stream.receiverReport :: stream.rtxReceiverReport.toList := by
  rw [addedReports, getRtcp]
  cases p.waits env with
  | true => rfl
  | false =>
    have hfold := foldl_addReports p.rtpStreams [] []
    change p.rtpStreams.foldl addReports {} = _ at hfold
    rw [if_neg nofun, if_neg nofun, hfold]
    rfl

/-- **One Producer.** Its reports are added behind those collected so far. -/
theorem getRtcp_collecting (env : RtcpSurroundings) (p : RtcpProducer)
    (reports : List ReceiverReport)
    {blocks : List ExtendedReportBlock} (h : Reference blocks) :
    ∃ blocks', Reference blocks' ∧
      (p.getRtcp env (collecting reports blocks)).1 = collecting (reports ++ p.addedReports env)
      blocks' := by
  rw [addedReports_eq, getRtcp]
  cases p.waits env with
  | true => exact ⟨blocks, h, congrArg (collecting · blocks) (List.append_nil reports).symm⟩
  | false =>
    rw [if_neg nofun, if_neg nofun, foldl_addReports]
    obtain rfl | ⟨ntpSec, ntpFrac, rfl⟩ := h
    · exact ⟨_, Or.inr ⟨env.ntp.1, env.ntp.2, rfl⟩, rfl⟩
    · exact ⟨_, Or.inr ⟨ntpSec, ntpFrac, rfl⟩, rfl⟩

end RtcpProducer

/-- **The Producers.** The compound packet is never sent before the last of them was asked. -/
theorem sendReceiverReports_collecting (env : RtcpSurroundings) (producers : List RtcpProducer)
    (reports : List ReceiverReport) {blocks : List ExtendedReportBlock} (h : Reference blocks) :
    ∃ blocks' producers', Reference blocks' ∧
      sendReceiverReports env (collecting reports blocks) producers =
        if reports ++ producers.flatMap (RtcpProducer.addedReports env) = []
          then .ok ([], producers')
        else do
          let packet ← (collecting (reports ++ producers.flatMap (RtcpProducer.addedReports env))
            blocks').serialize
          return ([packet], producers') := by
  induction producers generalizing reports blocks with
  | nil =>
    refine ⟨blocks, [], h, ?_⟩
    rw [List.flatMap_nil, List.append_nil, sendReceiverReports]
    exact if_congr List.length_eq_zero_iff rfl rfl
  | cons p producers ih =>
    obtain ⟨blocks₁, hblocks₁, hadd⟩ := p.getRtcp_collecting env reports h
    obtain ⟨blocks₂, producers', hblocks₂, hsend⟩ := ih (reports ++ p.addedReports env) hblocks₁
    refine ⟨blocks₂, (p.getRtcp env (collecting reports blocks)).2 :: producers', hblocks₂, ?_⟩
    -- Nothing was serialized, so the size is still 0.
    have hsize : ¬mtuSize < (collecting (reports ++ p.addedReports env) blocks₁).getSize +
        ReceiverReport.size := show ¬1500 < 0 + 24 by decide
    rw [List.flatMap_cons, ← List.append_assoc, sendReceiverReports]
    dsimp only
    rw [hadd, if_neg hsize, hsend]
    split
    · rfl
    · cases (collecting (reports ++ p.addedReports env ++
          producers.flatMap (RtcpProducer.addedReports env)) blocks₂).serialize with
      | error fault => rfl
      | ok packet => rfl

/-! ## The collected reports on the wire -/

/-- The bytes of the collected reports. -/
def collectedBytes (reports : List ReceiverReport) (blocks : List ExtendedReportBlock) :
    List Byte :=
  ({ reports } : ReceiverReportPacket).serialize ++ extendedReportBytes blocks

theorem length_collectedBytes (reports : List ReceiverReport) {blocks : List ExtendedReportBlock}
    (h : Reference blocks) :
    8 + 24 * reports.length ≤ (collectedBytes reports blocks).length ∧
      (collectedBytes reports blocks).length ≤ 28 + 24 * reports.length := by
  have hlength := h.length.1
  have hsize := ReceiverReportPacket.length_serialize { reports }
  rw [ReceiverReportPacket.getSize, ReceiverReport.size] at hsize
  rw [collectedBytes, List.length_append, hsize]
  dsimp only
  omega

theorem CompoundPacket.serialize_eq {p : CompoundPacket} {head sdes xr bytes : List Byte}
    (hhead : p.serializeHead = .ok head)
    (hsdes : (if p.sdesChunks = [] then [] else serializeSdesPacket p.sdesChunks) = sdes)
    (hxr : (if p.xrPacket.reports = [] then [] else p.xrPacket.serialize) = xr)
    (hbytes : head ++ sdes ++ xr = bytes) (hsize : p.requiredSize = bytes.length) :
    p.serialize = if bufferSize < bytes.length then .error .outOfBounds
      else .ok { p with data := bytes, size := bytes.length } := by
  rw [CompoundPacket.serialize, hhead, hsize, ← hbytes, ← hsdes, ← hxr]
  rfl

theorem serialize_collecting (reports : List ReceiverReport) {blocks : List ExtendedReportBlock}
    (h : Reference blocks) :
    (collecting reports blocks).serialize =
      if bufferSize < (collectedBytes reports blocks).length then .error .outOfBounds
      else .ok { collecting reports blocks with
        data := collectedBytes reports blocks, size :=
          (collectedBytes reports blocks).length } := by
  have hsize : (collecting reports blocks).requiredSize =
      (collectedBytes reports blocks).length := by
    rw [collectedBytes, List.length_append, ReceiverReportPacket.length_serialize, h.length.2]
    rfl
  refine CompoundPacket.serialize_eq rfl rfl rfl ?_ hsize
  change ({ reports } : ReceiverReportPacket).serialize ++ [] ++ extendedReportBytes blocks = _
  rw [List.append_nil, collectedBytes]

/-- **What is read of the collected reports.** The count in the header is the number of reports
modulo 32. -/
theorem parse_collectedBytes (acceptsOther : PacketType → List Byte → Bool)
    {reports : List ReceiverReport}
    {blocks : List ExtendedReportBlock} (h : Reference blocks)
    (hfits : (collectedBytes reports blocks).length ≤ bufferSize) :
    ∃ packets, Packet.parse acceptsOther (collectedBytes reports blocks) = .ok packets ∧
      packets.flatMap Packet.getReceiverReports = reports.take (reports.length % 2 ^ 5) := by
  obtain ⟨packets, hparse, hnone⟩ := h.parse acceptsOther
  have hle := (length_collectedBytes reports h).1
  have hbuffer : bufferSize = 65536 := rfl
  have hbody : (set4Bytes 0 ++ reports.flatMap ReceiverReport.serialize).length =
      (1 + 6 * reports.length) * 4 := by
    rw [List.length_append, length_set4Bytes, ReceiverReportPacket.length_flatMap_serialize,
      ReceiverReport.size]
    omega
  have hcurrent : Packet.parseFirst acceptsOther
      (commonHeader reports.length .rr (1 + 6 * reports.length) ++
      (set4Bytes 0 ++ reports.flatMap ReceiverReport.serialize)) =
      .ok [.receiverReports { reports := reports.take (reports.length % 2 ^ 5) }] := by
    have hrr := ReceiverReportPacket.parse_serialize { reports }
    rw [ReceiverReportPacket.serialize_eq] at hrr
    rw [parseFirst_commonHeader]
    dsimp only
    rw [hrr]
    rfl
  have happend := Packet.parse_append acceptsOther (by omega) hbody (extendedReportBytes blocks)
      hcurrent
    (List.cons_ne_nil _ _)
  rw [hparse] at happend
  refine ⟨.receiverReports { reports := reports.take (reports.length % 2 ^ 5) } :: packets, ?_, ?_⟩
  · rw [collectedBytes, ReceiverReportPacket.serialize_eq]
    exact happend
  · rw [List.flatMap_cons, hnone, List.append_nil]
    rfl

/-! ## The Consumers -/

theorem SdesItem.parse_returns (data : List Byte) : ∃ item, SdesItem.parse data = .ok item := by
  rw [SdesItem.parse]
  split
  · exact ⟨_, rfl⟩
  · rw [get1Byte_of_lt (by omega), get1Byte_of_lt (by omega)]
    dsimp only [bind, Except.bind]
    split
    · exact ⟨_, rfl⟩
    · split <;> exact ⟨_, rfl⟩

theorem SdesChunk.parseItems_returns (data : List Byte) :
    ∃ items, SdesChunk.parseItems data = .ok items := by
  induction data using SdesChunk.parseItems.induct with
  | case1 =>
    rw [SdesChunk.parseItems, dif_pos rfl]
    exact ⟨_, rfl⟩
  | case2 data hdata ih =>
    obtain ⟨item, hitem⟩ := SdesItem.parse_returns data
    rw [SdesChunk.parseItems, dif_neg hdata, hitem]
    cases item with
    | none => exact ⟨_, rfl⟩
    | some item =>
      obtain ⟨items, hitems⟩ := ih item
      dsimp only [bind, Except.bind]
      rw [hitems]
      exact ⟨_, rfl⟩

theorem SdesChunk.parse_returns (data : List Byte) : ∃ chunk, SdesChunk.parse data = .ok chunk := by
  rw [SdesChunk.parse]
  split
  · exact ⟨_, rfl⟩
  · obtain ⟨ssrc, hssrc⟩ := get4Bytes_of_lt data 0 (by omega)
    obtain ⟨items, hitems⟩ := SdesChunk.parseItems_returns (data.drop 4)
    rw [hssrc, hitems]
    exact ⟨_, rfl⟩

theorem parseSdesChunks_returns (count : ℕ) (data : List Byte) :
    ∃ chunks, parseSdesChunks count data = .ok chunks := by
  induction count generalizing data with
  | zero => exact ⟨_, rfl⟩
  | succ count ih =>
    rw [parseSdesChunks]
    split
    · exact ⟨_, rfl⟩
    · obtain ⟨chunk, hchunk⟩ := SdesChunk.parse_returns data
      rw [hchunk]
      cases chunk with
      | none => exact ⟨_, rfl⟩
      | some chunk =>
        obtain ⟨chunks, hchunks⟩ := ih (data.drop chunk.getSize)
        dsimp only [bind, Except.bind]
        rw [hchunks]
        exact ⟨_, rfl⟩

theorem SdesItem.length_serialize (item : SdesItem) : item.serialize.length = item.getSize := by
  rw [SdesItem.serialize, SdesItem.getSize, List.length_cons, List.length_cons]
  omega

theorem SdesChunk.length_serialize (c : SdesChunk) : c.serialize.length = c.getSize := by
  have hitems : (c.items.flatMap SdesItem.serialize).length =
      (c.items.map SdesItem.getSize).sum := by
    rw [List.length_flatMap]
    congr 1
    exact List.map_congr_left fun item _ ↦ item.length_serialize
  have hsize : c.getSize = (c.unpaddedSize + 3) / 4 * 4 := rfl
  have hunpadded : c.unpaddedSize = 4 + (c.items.map SdesItem.getSize).sum := rfl
  rw [SdesChunk.serialize, List.length_append, List.length_append, length_set4Bytes, hitems,
    List.length_replicate]
  omega

/-- What makes a compound packet irrelevant for the receiver reports. -/
structure Silent (acceptsOther : PacketType → List Byte → Bool) (packet : CompoundPacket) :
    Prop where
  parsed : ∃ packets, Packet.parse acceptsOther packet.bytes = .ok packets ∧
    packets.flatMap Packet.getReceiverReports = []
  size : packet.size ≤ mtuSize

/-- The compound packet of a sender report. -/
def senderCompound (stream : SendStream) (report : SenderReport) : CompoundPacket where
  senderReports := [report]
  sdesChunks := [RtpStreamSend.getRtcpSdesChunk stream]

/-- The bytes of a source description with one chunk. -/
def sdesBytes (chunk : SdesChunk) : List Byte :=
  commonHeader 1 .sdes (chunk.getSize / 4) ++ chunk.serialize

theorem SdesChunk.getSize_div (c : SdesChunk) : c.getSize = c.getSize / 4 * 4 := by
  have hsize : c.getSize = (c.unpaddedSize + 3) / 4 * 4 := rfl
  omega

theorem sdesPacketSize_singleton (chunk : SdesChunk) :
    sdesPacketSize [chunk] = 4 + chunk.getSize := by
  rw [sdesPacketSize, List.map_singleton, List.sum_singleton]

theorem serializeSdesPacket_singleton (chunk : SdesChunk) :
    serializeSdesPacket [chunk] = sdesBytes chunk := by
  have hdiv := chunk.getSize_div
  have hfield : (4 + chunk.getSize) / 4 - 1 = chunk.getSize / 4 := by omega
  rw [serializeSdesPacket, sdesPacketSize_singleton, serializeHeader, hfield,
    List.flatMap_singleton, List.length_singleton, sdesBytes]

theorem getSize_getRtcpSdesChunk (stream : SendStream) :
    (RtpStreamSend.getRtcpSdesChunk stream).getSize ≤ 264 := by
  have hvalue : (SdesItem.make 1 stream.cname).value.length < 2 ^ 8 :=
    (List.length_take_le _ _).trans_lt (Nat.mod_lt _ (by decide))
  have hunpadded : (RtpStreamSend.getRtcpSdesChunk stream).unpaddedSize =
      4 + (2 + (SdesItem.make 1 stream.cname).value.length) := by
    change 4 + ([SdesItem.make 1 stream.cname].map SdesItem.getSize).sum = _
    rw [List.map_singleton, List.sum_singleton, SdesItem.getSize]
  rw [SdesChunk.getSize, hunpadded]
  omega

/-- The bytes of the compound packet of a sender report. -/
def senderBytes (stream : SendStream) (report : SenderReport) : List Byte :=
  commonHeader 0 .sr 6 ++ report.serialize ++ sdesBytes (RtpStreamSend.getRtcpSdesChunk stream)

theorem length_senderBytes (stream : SendStream) (report : SenderReport) :
    (senderBytes stream report).length = 32 + (RtpStreamSend.getRtcpSdesChunk stream).getSize := by
  rw [senderBytes, sdesBytes, List.length_append, List.length_append, List.length_append,
    length_commonHeader, length_commonHeader, SenderReport.length_serialize,
      SdesChunk.length_serialize,
    SenderReport.size]
  omega

theorem serialize_senderCompound (stream : SendStream) (report : SenderReport) :
    (senderCompound stream report).serialize =
      .ok { senderCompound stream report with
        data := senderBytes stream report, size := (senderBytes stream report).length } := by
  have hsmall := getSize_getRtcpSdesChunk stream
  have hlength := length_senderBytes stream report
  have hfits : ¬bufferSize < (senderBytes stream report).length := by
    rw [hlength, bufferSize]
    omega
  have hsize : senderReportPacketSize [report] = 28 := rfl
  have hrequired : (senderCompound stream report).requiredSize =
      (senderBytes stream report).length := by
    change senderReportPacketSize [report] + 0 +
      sdesPacketSize [RtpStreamSend.getRtcpSdesChunk stream] + 0 = _
    rw [sdesPacketSize_singleton, hlength, hsize]
    omega
  have hhead : (senderCompound stream report).serializeHead =
      .ok (commonHeader 0 .sr 6 ++ report.serialize) := by
    change Except.ok (serializeHeader 0 .sr (senderReportPacketSize [report]) ++
      [report].flatMap SenderReport.serialize ++ [].flatMap ReceiverReport.serialize) = _
    rw [hsize, List.flatMap_singleton, List.flatMap_nil, List.append_nil, serializeHeader]
  have hbytes : commonHeader 0 .sr 6 ++ report.serialize ++
      serializeSdesPacket [RtpStreamSend.getRtcpSdesChunk stream] ++ [] =
        senderBytes stream report := by
    rw [List.append_nil, serializeSdesPacket_singleton, senderBytes]
  rw [CompoundPacket.serialize_eq hhead (if_neg (List.cons_ne_nil _ _)) (if_pos rfl) hbytes
    hrequired,
    if_neg hfits]

/-- The source description in a sender's packet is parsed without a fault. -/
theorem parse_sdesBytes (acceptsOther : PacketType → List Byte → Bool) (chunk : SdesChunk)
    (h : chunk.getSize < 2 ^ 18) :
    ∃ chunks, Packet.parse acceptsOther (sdesBytes chunk) = .ok [.sdes chunks] := by
  obtain ⟨chunks, hchunks⟩ := parseSdesChunks_returns (1 % 2 ^ 5) chunk.serialize
  have hfirst : Packet.parseFirst acceptsOther (sdesBytes chunk) = .ok [.sdes chunks] := by
    rw [sdesBytes, parseFirst_commonHeader]
    dsimp only
    rw [parseSdesPacket, headerCount_commonHeader]
    change (parseSdesChunks (1 % 2 ^ 5) chunk.serialize >>= _) = _
    rw [hchunks]
    rfl
  have hlength := chunk.length_serialize.trans chunk.getSize_div
  have hparse := Packet.parse_append acceptsOther (by omega) hlength [] hfirst
      (List.cons_ne_nil _ _)
  rw [parse_nil, List.append_nil] at hparse
  exact ⟨chunks, hparse⟩

/-- **One sender report.** Its compound packet is parsed as a sender report and a source
description. -/
theorem parse_senderBytes (acceptsOther : PacketType → List Byte → Bool) (stream : SendStream)
    (report : SenderReport) :
    ∃ chunks, Packet.parse acceptsOther (senderBytes stream report) =
      .ok [.senderReports [report], .sdes chunks] := by
  have hsmall := getSize_getRtcpSdesChunk stream
  obtain ⟨chunks, hsdes⟩ := parse_sdesBytes acceptsOther (RtpStreamSend.getRtcpSdesChunk stream)
    (by omega)
  have hreport : SenderReport.parse ((commonHeader 0 .sr 6 ++ report.serialize).drop 4) =
      .ok (some report) := by
    change Except.ok (some (SenderReport.mk (join4 _ _ _ _) (join4 _ _ _ _) (join4 _ _ _ _)
      (join4 _ _ _ _) (join4 _ _ _ _) (join4 _ _ _ _))) = _
    simp only [join4_set4Bytes]
  have hfirst : Packet.parseFirst acceptsOther (commonHeader 0 .sr 6 ++ report.serialize) =
      .ok [.senderReports [report]] := by
    rw [parseFirst_commonHeader]
    dsimp only
    rw [Packet.parseSenderReports, parseSenderReportPacket, hreport]
    dsimp only [bind, Except.bind, pure, Except.pure]
    rw [headerCount_commonHeader]
    rfl
  have hparse := Packet.parse_append acceptsOther (by decide)
      (show report.serialize.length = 6 * 4 from rfl)
    (sdesBytes (RtpStreamSend.getRtcpSdesChunk stream)) hfirst (List.cons_ne_nil _ _)
  rw [hsdes] at hparse
  exact ⟨chunks, hparse⟩

theorem silent_sender (acceptsOther : PacketType → List Byte → Bool) (stream : SendStream)
    (report : SenderReport) :
    ∃ packet, (senderCompound stream report).serialize = .ok packet ∧
      Silent acceptsOther packet := by
  obtain ⟨chunks, hparse⟩ := parse_senderBytes acceptsOther stream report
  have hsmall := getSize_getRtcpSdesChunk stream
  have hlength := length_senderBytes stream report
  refine ⟨_, serialize_senderCompound stream report,
    ⟨⟨[.senderReports [report], .sdes chunks], ?_, rfl⟩, ?_⟩⟩
  · change Packet.parse acceptsOther
      ((senderBytes stream report).take (senderBytes stream report).length) = _
    rw [List.take_length, hparse]
  · change (senderBytes stream report).length ≤ 1500
    omega

theorem sendReports_silent (acceptsOther : PacketType → List Byte → Bool) (env : RtcpSurroundings)
    (streams : List SendStream) (c : RtcpConsumer) :
    ∃ sent c', RtcpConsumer.sendReports env streams c = .ok (sent, c') ∧
      ∀ packet ∈ sent, Silent acceptsOther packet := by
  induction streams generalizing c with
  | nil => exact ⟨[], c, rfl, nofun⟩
  | cons stream streams ih =>
    have hnone {c₁ : RtcpConsumer} (h : c.getRtcp env stream {} = .ok ({}, c₁)) :
        ∃ sent c', RtcpConsumer.sendReports env (stream :: streams) c = .ok (sent, c') ∧
          ∀ packet ∈ sent, Silent acceptsOther packet := by
      obtain ⟨sent, c', hsend, hsilent⟩ := ih c₁
      refine ⟨sent, c', ?_, hsilent⟩
      rw [RtcpConsumer.sendReports, h]
      change (RtcpConsumer.sendReports env streams c₁ >>= _) = _
      rw [hsend]
      rfl
    rw [RtcpConsumer.getRtcp] at hnone
    cases hwaits : c.waits env with
    | true => exact hnone (by rw [hwaits]; rfl)
    | false =>
      rw [hwaits, if_neg nofun] at hnone
      cases hreport : stream.senderReport with
      | none => exact hnone (by rw [hreport])
      | some report =>
        have hget : c.getRtcp env stream {} =
            .ok (senderCompound stream report, { c with lastRtcpSentTime := env.nowMs }) := by
          rw [RtcpConsumer.getRtcp, hwaits, if_neg nofun, hreport]
          rfl
        obtain ⟨packet, hserialize, hpacket⟩ := silent_sender acceptsOther stream report
        obtain ⟨sent, c', hsend, hsilent⟩ := ih { c with lastRtcpSentTime := env.nowMs }
        refine ⟨packet :: sent, c', ?_, List.forall_mem_cons.mpr ⟨hpacket, hsilent⟩⟩
        rw [RtcpConsumer.sendReports, hget]
        change ((senderCompound stream report).serialize.map ([·]) >>= _) = _
        rw [hserialize]
        change (RtcpConsumer.sendReports env streams { c with lastRtcpSentTime := env.nowMs } >>=
          _) = _
        rw [hsend]
        rfl

theorem sendSenderReports_silent (acceptsOther : PacketType → List Byte → Bool)
    (env : RtcpSurroundings)
    (consumers : List RtcpConsumer) :
    ∃ sent consumers', sendSenderReports env consumers = .ok (sent, consumers') ∧
      ∀ packet ∈ sent, Silent acceptsOther packet := by
  induction consumers with
  | nil => exact ⟨[], [], rfl, nofun⟩
  | cons c consumers ih =>
    obtain ⟨sent, c', hsend, hsilent⟩ := sendReports_silent acceptsOther env c.rtpStreams c
    obtain ⟨others, consumers', hothers, hsilents⟩ := ih
    refine ⟨sent ++ others, c' :: consumers', ?_, List.forall_mem_append.mpr ⟨hsilent, hsilents⟩⟩
    rw [sendSenderReports, hsend]
    dsimp only [bind, Except.bind]
    rw [hothers]
    rfl

/-! ## Reaching the wire -/

/-- All that is sent is parsed, each receiver report is read exactly once, and a compound packet
exceeds the MTU by no more than the reports of the Producer that was added to it last. -/
def ReportsReachWire (acceptsOther : PacketType → List Byte → Bool) (env : RtcpSurroundings)
    (consumers : List RtcpConsumer) (producers : List RtcpProducer) : Prop :=
  ∃ sent after parsed, sendRtcp env consumers producers = .ok (sent, after) ∧
    List.Forall₂ (fun packet packets ↦ Packet.parse acceptsOther packet.bytes = .ok packets) sent
      parsed ∧
    (parsed.flatten.flatMap Packet.getReceiverReports).Perm
      (producers.flatMap (RtcpProducer.addedReports env)) ∧
    ∀ packet ∈ sent, packet.size ≤ mtuSize ∨ ∃ p ∈ producers,
      p.addedReports env <:+ packet.receiverReportPacket.reports ∧
      packet.size ≤ mtuSize + ReceiverReport.size * (p.addedReports env).length

/-- The compound packet with the collected reports, as it is sent. -/
def collected (reports : List ReceiverReport) (blocks : List ExtendedReportBlock) :
    CompoundPacket :=
  { collecting reports blocks with
    data := collectedBytes reports blocks, size := (collectedBytes reports blocks).length }

/-- **What is sent.** Some sender reports, and all receiver reports in one compound packet. -/
theorem sendRtcp_spec (acceptsOther : PacketType → List Byte → Bool) (env : RtcpSurroundings)
    (consumers : List RtcpConsumer) (producers : List RtcpProducer) {reports : List ReceiverReport}
    (hreports : producers.flatMap (RtcpProducer.addedReports env) = reports) :
    ∃ sent after blocks, (∀ packet ∈ sent, Silent acceptsOther packet) ∧ Reference blocks ∧
      sendRtcp env consumers producers =
        if reports = [] then .ok (sent, after)
        else if bufferSize < (collectedBytes reports blocks).length then .error .outOfBounds
        else .ok (sent ++ [collected reports blocks], after) := by
  obtain ⟨sent, consumers', hsent, hsilent⟩ := sendSenderReports_silent acceptsOther env consumers
  obtain ⟨blocks, producers', hblocks, hreceivers⟩ :=
    sendReceiverReports_collecting env producers [] (Or.inl rfl : Reference [])
  rw [List.nil_append, hreports, serialize_collecting reports hblocks] at hreceivers
  refine ⟨sent, (consumers', producers'), blocks, hsilent, hblocks, ?_⟩
  rw [sendRtcp, hsent]
  change (sendReceiverReports env (collecting [] []) producers >>= _) = _
  rw [hreceivers]
  split
  · change Except.ok (sent ++ [], consumers', producers') = _
    rw [List.append_nil]
  · split
    · rfl
    · rfl

theorem Silent.forall₂ {acceptsOther : PacketType → List Byte → Bool} {sent : List CompoundPacket}
    (h : ∀ packet ∈ sent, Silent acceptsOther packet) :
    ∃ parsed, List.Forall₂
      (fun packet packets ↦ Packet.parse acceptsOther packet.bytes = .ok packets) sent
      parsed ∧ parsed.flatten.flatMap Packet.getReceiverReports = [] := by
  induction sent with
  | nil => exact ⟨[], .nil, rfl⟩
  | cons packet sent ih =>
    obtain ⟨hpacket, hsent⟩ := List.forall_mem_cons.mp h
    obtain ⟨packets, hparse, hnone⟩ := hpacket.parsed
    obtain ⟨parsed, hparsed, hflat⟩ := ih hsent
    refine ⟨packets :: parsed, .cons hparse hparsed, ?_⟩
    rw [List.flatten_cons, List.flatMap_append, hnone, hflat, List.append_nil]

/-- Parsing determines what is read. -/
theorem parsed_unique {acceptsOther : PacketType → List Byte → Bool} {sent : List CompoundPacket}
    {parsed parsed' : List (List Packet)}
    (h : List.Forall₂ (fun packet packets ↦ Packet.parse acceptsOther packet.bytes = .ok packets)
      sent parsed)
    (h' : List.Forall₂ (fun packet packets ↦ Packet.parse acceptsOther packet.bytes = .ok packets)
      sent
      parsed') : parsed = parsed' := by
  induction h generalizing parsed' with
  | nil => exact (List.forall₂_nil_left_iff.mp h').symm
  | cons hparse _ ih =>
    obtain ⟨packets, parsed', hparse', hparsed', rfl⟩ := List.forall₂_cons_left_iff.mp h'
    rw [Except.ok.inj (hparse.symm.trans hparse'), ih hparsed']

/-- **What is read of all that is sent.** -/
theorem parsed_sent {acceptsOther : PacketType → List Byte → Bool} {sent : List CompoundPacket}
    (hsent : ∀ packet ∈ sent, Silent acceptsOther packet) {reports : List ReceiverReport}
    {blocks : List ExtendedReportBlock} (hblocks : Reference blocks)
    (hfits : (collectedBytes reports blocks).length ≤ bufferSize) :
    ∃ parsed, List.Forall₂
      (fun packet packets ↦ Packet.parse acceptsOther packet.bytes = .ok packets)
      (sent ++ [collected reports blocks]) parsed ∧
      parsed.flatten.flatMap Packet.getReceiverReports = reports.take (reports.length % 2 ^ 5) := by
  obtain ⟨parsed, hparsed, hnone⟩ := Silent.forall₂ hsent
  obtain ⟨packets, hparse, hread⟩ := parse_collectedBytes acceptsOther hblocks hfits
  have hbytes : (collected reports blocks).bytes = collectedBytes reports blocks := List.take_length
  refine ⟨parsed ++ [packets], List.rel_append hparsed (.cons (by rw [hbytes, hparse]) .nil), ?_⟩
  rw [List.flatten_append, List.flatMap_append, hnone, List.nil_append,
    List.flatten_singleton, hread]

/-- With more than 31 reports some are lost, or the buffer overflows. -/
theorem not_reportsReachWire (acceptsOther : PacketType → List Byte → Bool) (env : RtcpSurroundings)
    (consumers : List RtcpConsumer) (producers : List RtcpProducer)
    (h : 31 < (producers.flatMap (RtcpProducer.addedReports env)).length) :
    ¬ReportsReachWire acceptsOther env consumers producers := by
  rintro ⟨sent', after', parsed', hsend', hparsed', hperm, -⟩
  obtain ⟨sent, after, blocks, hsilent, hblocks, hsend⟩ :=
    sendRtcp_spec acceptsOther env consumers producers rfl
  have hne : producers.flatMap (RtcpProducer.addedReports env) ≠ [] :=
    List.ne_nil_of_length_pos (by omega)
  rw [if_neg hne] at hsend
  split at hsend
  · exact nomatch hsend.symm.trans hsend'
  · obtain ⟨rfl, rfl⟩ := Prod.mk.inj (Except.ok.inj (hsend.symm.trans hsend'))
    obtain ⟨parsed, hparsed, hread⟩ := parsed_sent hsilent hblocks (not_lt.mp ‹_›)
    rw [parsed_unique hparsed' hparsed, hread] at hperm
    have hlength := hperm.length_eq
    rw [List.length_take] at hlength
    omega

/-- **Receiver reports reach the wire.** They do if and only if the Producers whose time has come
add at most 31 of them. -/
theorem reportsReachWire_iff (acceptsOther : PacketType → List Byte → Bool) (env : RtcpSurroundings)
    (consumers : List RtcpConsumer) (producers : List RtcpProducer) :
    ReportsReachWire acceptsOther env consumers producers ↔
      (producers.flatMap fun p ↦ if p.waits env then [] else p.rtpStreams.flatMap fun stream ↦
        stream.receiverReport :: stream.rtxReceiverReport.toList).length ≤ 31 := by
  have hadded : (producers.flatMap fun p ↦ if p.waits env then []
      else p.rtpStreams.flatMap fun stream ↦
      stream.receiverReport :: stream.rtxReceiverReport.toList) =
      producers.flatMap (RtcpProducer.addedReports env) :=
    List.flatMap_congr fun p _ ↦ (p.addedReports_eq env).symm
  rw [hadded]
  constructor
  · intro h
    by_contra hmany
    exact not_reportsReachWire acceptsOther env consumers producers (not_le.mp hmany) h
  · intro hfew
    obtain ⟨sent, after, blocks, hsilent, hblocks, hsend⟩ :=
      sendRtcp_spec acceptsOther env consumers producers rfl
    have hsizes : ∀ packet ∈ sent, packet.size ≤ mtuSize ∨ ∃ p ∈ producers,
        p.addedReports env <:+ packet.receiverReportPacket.reports ∧
        packet.size ≤ mtuSize + ReceiverReport.size * (p.addedReports env).length :=
      fun packet hmem ↦ Or.inl (hsilent packet hmem).size
    by_cases hnil : producers.flatMap (RtcpProducer.addedReports env) = []
    · obtain ⟨parsed, hparsed, hnone⟩ := Silent.forall₂ hsilent
      rw [if_pos hnil] at hsend
      refine ⟨sent, after, parsed, hsend, hparsed, ?_, hsizes⟩
      rw [hnone, hnil]
    · have hlength := (length_collectedBytes (producers.flatMap (RtcpProducer.addedReports env))
        hblocks).2
      have hbuffer : bufferSize = 65536 := rfl
      have hmtu : mtuSize = 1500 := rfl
      have hfits : (collectedBytes (producers.flatMap (RtcpProducer.addedReports env))
          blocks).length ≤
          bufferSize := by omega
      obtain ⟨parsed, hparsed, hread⟩ := parsed_sent hsilent hblocks hfits
      rw [if_neg hnil, if_neg (by omega)] at hsend
      refine ⟨_, after, parsed, hsend, hparsed, ?_, List.forall_mem_append.mpr ⟨hsizes, ?_⟩⟩
      · rw [hread, Nat.mod_eq_of_lt (by omega), List.take_length]
      · refine List.forall_mem_singleton.mpr (Or.inl ?_)
        change (collectedBytes _ blocks).length ≤ mtuSize
        omega

/-- A Producer with 32 streams. -/
theorem not_reportsReachWire_32_streams :
    ¬ReportsReachWire (fun _ _ ↦ false)
      { nowMs := 5000, ntp := (1, 0), tooEarly := fun _ _ ↦ false } []
      [{ rtpStreams := List.replicate 32 { receiverReport := ⟨1111, 0, 0, 7, 0, 0, 0⟩
                                           rtxReceiverReport := none }
         lastRtcpSentTime := 0
         maxRtcpInterval := 1000 }] := by
  refine not_reportsReachWire _ _ _ _ ?_
  rw [List.flatMap_singleton, RtcpProducer.addedReports_eq]
  decide

end Rtcp

end MediasoupSfu
