import MediasoupSfu.Rtcp.ReceiverReports
import Mathlib.Algebra.Order.BigOperators.Group.List

/-!
# Extended reports, there and back

`DelaySinceLastRr::Parse` advances its offset twice for each sub-block. So of the sub-blocks that
follow the header it reads every second one, and goes on with what follows the block when there are
no more.

The bytes of the blocks are words of 32 bits. In these terms a block with several sub-blocks is read
as it was written only if each sub-block happens to equal the words found twice as far behind the
header (`parse_serialize_iff`).
-/

namespace MediasoupSfu

namespace Rtcp

open Byte

/-! ## Words -/

/-- The bytes of words. -/
def wordBytes (words : List (BitVec 32)) : List Byte := words.flatMap set4Bytes

theorem wordBytes_cons (w : BitVec 32) (ws : List (BitVec 32)) :
    wordBytes (w :: ws) = set4Bytes w ++ wordBytes ws := List.flatMap_cons

theorem wordBytes_append (ws vs : List (BitVec 32)) :
    wordBytes (ws ++ vs) = wordBytes ws ++ wordBytes vs := List.flatMap_append

theorem length_wordBytes (ws : List (BitVec 32)) : (wordBytes ws).length = 4 * ws.length := by
  induction ws with
  | nil => rfl
  | cons w ws ih =>
    rw [wordBytes_cons, List.length_append, length_set4Bytes, ih, List.length_cons]
    omega

theorem drop_wordBytes (n : ℕ) (ws : List (BitVec 32)) :
    (wordBytes ws).drop (4 * n) = wordBytes (ws.drop n) := by
  induction n generalizing ws with
  | zero => rfl
  | succ n ih =>
    cases ws with
    | nil => rfl
    | cons w ws => exact ih ws

theorem set4Bytes_append (high low : BitVec 16) :
    set4Bytes (high ++ low) = set2Bytes high ++ set2Bytes low := by
  have hvalue : (high ++ low).toNat = high.toNat * 2 ^ 16 + low.toNat := by
    rw [BitVec.toNat_append, Nat.shiftLeft_eq, Packing.or_eq_add low.isLt]
  have h₀ : ((high ++ low) >>> 24).setWidth 8 = ((high >>> 8).setWidth 8 : Byte) := by bv_omega
  have h₁ : ((high ++ low) >>> 16).setWidth 8 = (high.setWidth 8 : Byte) := by bv_omega
  have h₂ : ((high ++ low) >>> 8).setWidth 8 = ((low >>> 8).setWidth 8 : Byte) := by bv_omega
  have h₃ : (high ++ low).setWidth 8 = (low.setWidth 8 : Byte) := by bv_omega
  rw [set4Bytes, set2Bytes, set2Bytes, h₀, h₁, h₂, h₃]
  rfl

/-! ## Sub-blocks -/

namespace SsrcInfo

/-- The words of a sub-block. -/
def words (info : SsrcInfo) : List (BitVec 32) := [info.ssrc, info.lrr, info.dlrr]

theorem parse_wordBytes (ssrc lrr dlrr : BitVec 32) (ws : List (BitVec 32)) :
    parse (wordBytes (ssrc :: lrr :: dlrr :: ws)) = .ok (some ⟨ssrc, lrr, dlrr⟩) := by
  have hlength := length_wordBytes (ssrc :: lrr :: dlrr :: ws)
  rw [List.length_cons, List.length_cons, List.length_cons] at hlength
  rw [parse, if_neg (by rw [hlength, size]; omega)]
  change Except.ok (some (SsrcInfo.mk (join4 _ _ _ _) (join4 _ _ _ _) (join4 _ _ _ _))) = _
  simp only [join4_set4Bytes]

theorem parse_short {ws : List (BitVec 32)} (h : ws.length < 3) :
    parse (wordBytes ws) = .ok none := by
  rw [parse, if_pos]
  rw [length_wordBytes, size]
  omega

end SsrcInfo

/-- The sub-blocks that are read: every second group of three words. -/
def everySecond : ℕ → List (BitVec 32) → List SsrcInfo
  | count + 1, ssrc :: lrr :: dlrr :: ws => ⟨ssrc, lrr, dlrr⟩ :: everySecond count (ws.drop 3)
  | _, _ => []

namespace ExtendedReportBlock

theorem parseSsrcInfos_wordBytes (count : ℕ) (ws : List (BitVec 32)) :
    parseSsrcInfos count (wordBytes ws) = .ok (everySecond count ws) := by
  induction count generalizing ws with
  | zero => rfl
  | succ count ih =>
    rw [parseSsrcInfos]
    match ws with
    | [] => rfl
    | [a] =>
      rw [SsrcInfo.parse_short (Nat.lt_of_sub_eq_succ rfl)]
      rfl
    | [a, b] =>
      rw [SsrcInfo.parse_short (Nat.lt_of_sub_eq_succ rfl)]
      rfl
    | ssrc :: lrr :: dlrr :: ws =>
      have hdata : wordBytes (ssrc :: lrr :: dlrr :: ws) ≠ [] := List.cons_ne_nil _ _
      have hdrop : (wordBytes (ssrc :: lrr :: dlrr :: ws)).drop (SsrcInfo.size + SsrcInfo.size) =
          wordBytes (ws.drop 3) := drop_wordBytes 6 (ssrc :: lrr :: dlrr :: ws)
      rw [if_neg hdata, SsrcInfo.parse_wordBytes, hdrop]
      dsimp only [bind, Except.bind]
      rw [ih]
      rfl

/-- The words of a block. -/
def words : ExtendedReportBlock → List (BitVec 32)
  | receiverReferenceTime ntpSec ntpFrac =>
    [(0x0400 : BitVec 16) ++ (2 : BitVec 16), ntpSec, ntpFrac]
  | delaySinceLastRr ssrcInfos =>
    ((0x0500 : BitVec 16) ++ BitVec.ofNat 16 (3 * ssrcInfos.length)) ::
      ssrcInfos.flatMap SsrcInfo.words

theorem wordBytes_ssrcInfos (ssrcInfos : List SsrcInfo) :
    wordBytes (ssrcInfos.flatMap SsrcInfo.words) = ssrcInfos.flatMap SsrcInfo.serialize := by
  induction ssrcInfos with
  | nil => rfl
  | cons info infos ih =>
    rw [List.flatMap_cons, wordBytes_append, ih]
    rfl

theorem wordBytes_words (block : ExtendedReportBlock) :
    wordBytes block.words = block.serialize := by
  cases block with
  | receiverReferenceTime ntpSec ntpFrac =>
    rw [words, wordBytes_cons, set4Bytes_append]
    rfl
  | delaySinceLastRr ssrcInfos =>
    have hlength : SsrcInfo.size * ssrcInfos.length / 4 = 3 * ssrcInfos.length := by
      rw [SsrcInfo.size]
      omega
    rw [words, wordBytes_cons, set4Bytes_append, wordBytes_ssrcInfos, serialize, hlength]
    rfl

theorem length_words (block : ExtendedReportBlock) : 4 * block.words.length = block.getSize := by
  cases block with
  | receiverReferenceTime ntpSec ntpFrac => rfl
  | delaySinceLastRr ssrcInfos =>
    have hinfos : (ssrcInfos.flatMap SsrcInfo.words).length = 3 * ssrcInfos.length := by
      induction ssrcInfos with
      | nil => rfl
      | cons info infos ih =>
        rw [List.flatMap_cons, List.length_append, ih, List.length_cons, Nat.mul_succ, Nat.add_comm]
        rfl
    rw [words, List.length_cons, hinfos, getSize, SsrcInfo.size]
    omega

end ExtendedReportBlock

/-- Every second group of three words, from the first one on, is the next one of the sub-blocks. -/
def Strides (ssrcInfos : List SsrcInfo) (ws : List (BitVec 32)) : Prop :=
  ∀ i info, ssrcInfos[i]? = some info → (ws.drop (6 * i)).take 3 = info.words

theorem strides_cons {info : SsrcInfo} {infos : List SsrcInfo} {ws : List (BitVec 32)} :
    Strides (info :: infos) ws ↔ ws.take 3 = info.words ∧ Strides infos (ws.drop 6) := by
  have hshift : ∀ i, (ws.drop 6).drop (6 * i) = ws.drop (6 * (i + 1)) := by
    intro i
    rw [List.drop_drop]
    congr 1
    omega
  constructor
  · refine fun h ↦ ⟨h 0 info rfl, fun i other hother ↦ ?_⟩
    rw [hshift]
    exact h (i + 1) other hother
  · rintro ⟨hfirst, hrest⟩ i other hother
    cases i with
    | zero =>
      cases hother
      exact hfirst
    | succ i =>
      rw [← hshift]
      exact hrest i other hother

/-- The sub-blocks are read back if they are what is found at every second place. -/
theorem everySecond_eq_iff (ssrcInfos : List SsrcInfo) (ws : List (BitVec 32)) :
    everySecond ssrcInfos.length ws = ssrcInfos ↔ Strides ssrcInfos ws := by
  induction ssrcInfos generalizing ws with
  | nil => exact iff_of_true rfl nofun
  | cons info infos ih =>
    rw [strides_cons, ← ih]
    match ws with
    | [] => exact iff_of_false nofun nofun
    | [a] => exact iff_of_false nofun nofun
    | [a, b] => exact iff_of_false nofun nofun
    | ssrc :: lrr :: dlrr :: ws =>
      rw [List.length_cons, everySecond, List.cons.injEq]
      refine and_congr_left' ⟨fun h ↦ ?_, fun h ↦ ?_⟩
      · rw [← h]
        rfl
      · obtain ⟨s, l, d⟩ := info
        cases h
        rfl

/-! ## Blocks -/

namespace ExtendedReportBlock

/-- What is read at the beginning of a block: the reference time, or every second sub-block. -/
def readBack (rest : List (BitVec 32)) : ExtendedReportBlock → ExtendedReportBlock
  | receiverReferenceTime ntpSec ntpFrac => receiverReferenceTime ntpSec ntpFrac
  | delaySinceLastRr ssrcInfos => delaySinceLastRr
    (everySecond ssrcInfos.length (ssrcInfos.flatMap SsrcInfo.words ++ rest))

theorem parse_wordBytes {block : ExtendedReportBlock} (h : block.getSize < 2 ^ 16)
    (rest : List (BitVec 32)) :
    parse (wordBytes (block.words ++ rest)) = .ok (some (block.readBack rest)) := by
  have hlength := length_wordBytes (block.words ++ rest)
  have hwords := block.length_words
  rw [List.length_append] at hlength
  cases block with
  | receiverReferenceTime ntpSec ntpFrac =>
    have hsize : getSize (receiverReferenceTime ntpSec ntpFrac) = 12 := rfl
    have htype : get1Byte (wordBytes ((receiverReferenceTime ntpSec ntpFrac).words ++ rest)) 0 =
        .ok 4 := rfl
    rw [parse, if_neg (by omega), htype]
    dsimp only [bind, Except.bind]
    rw [if_pos rfl, parseReceiverReferenceTime, if_neg (by omega)]
    change Except.ok (some (receiverReferenceTime (join4 _ _ _ _) (join4 _ _ _ _))) = _
    simp only [join4_set4Bytes]
    rfl
  | delaySinceLastRr ssrcInfos =>
    have hsize : getSize (delaySinceLastRr ssrcInfos) = 4 + 12 * ssrcInfos.length := rfl
    set data := wordBytes ((delaySinceLastRr ssrcInfos).words ++ rest) with hdata
    have hbytes : data = [5, 0] ++ set2Bytes (BitVec.ofNat 16 (3 * ssrcInfos.length)) ++
        wordBytes (ssrcInfos.flatMap SsrcInfo.words ++ rest) := by
      rw [hdata, words, List.cons_append, wordBytes_cons, set4Bytes_append]
      rfl
    have htype : get1Byte data 0 = .ok 5 := by
      rw [hbytes]
      rfl
    have hlen : get2Bytes data 2 = .ok (BitVec.ofNat 16 (3 * ssrcInfos.length)) := by
      rw [hbytes]
      exact congrArg Except.ok (join2_set2Bytes _)
    have hdrop : data.drop 4 = wordBytes (ssrcInfos.flatMap SsrcInfo.words ++ rest) := by
      rw [hbytes]
      rfl
    have hcount : (BitVec.ofNat 16 (3 * ssrcInfos.length) * 4).toNat / SsrcInfo.size =
        ssrcInfos.length := by
      rw [SsrcInfo.size]
      bv_omega
    rw [parse, if_neg (by omega), htype]
    dsimp only [bind, Except.bind]
    rw [if_neg (by decide), if_pos rfl, parseDelaySinceLastRr, hlen]
    dsimp only [bind, Except.bind]
    rw [hcount, hdrop, parseSsrcInfos_wordBytes]
    rfl

/-- When the words behind a block let it be read back. -/
def ReadableBefore (rest : List (BitVec 32)) : ExtendedReportBlock → Prop
  | receiverReferenceTime _ _ => True
  | delaySinceLastRr ssrcInfos => Strides ssrcInfos (ssrcInfos.flatMap SsrcInfo.words ++ rest)

theorem readBack_eq_iff {block : ExtendedReportBlock} {rest : List (BitVec 32)} :
    block.readBack rest = block ↔ block.ReadableBefore rest := by
  cases block with
  | receiverReferenceTime ntpSec ntpFrac => exact iff_of_true rfl trivial
  | delaySinceLastRr ssrcInfos =>
    rw [readBack, delaySinceLastRr.injEq]
    exact everySecond_eq_iff ssrcInfos _

/-- At most one sub-block is read back whatever follows. -/
theorem readableBefore_of_length_le {ssrcInfos : List SsrcInfo} (h : ssrcInfos.length ≤ 1)
    (rest : List (BitVec 32)) : (delaySinceLastRr ssrcInfos).ReadableBefore rest := by
  match ssrcInfos, h with
  | [], _ => exact nofun
  | [info], _ => exact strides_cons.mpr ⟨rfl, nofun⟩

end ExtendedReportBlock

/-! ## Packets -/

/-- Every block can be read back before those behind it. -/
def Readable : List ExtendedReportBlock → Prop
  | [] => True
  | block :: blocks =>
    block.ReadableBefore (blocks.flatMap ExtendedReportBlock.words) ∧ Readable blocks

namespace ExtendedReportPacket

theorem parseBlocks_iff {blocks : List ExtendedReportBlock}
    (h : ∀ block ∈ blocks, block.getSize < 2 ^ 16) :
    parseBlocks (wordBytes (blocks.flatMap ExtendedReportBlock.words)) = .ok blocks ↔
      Readable blocks := by
  induction blocks with
  | nil =>
    refine iff_of_true ?_ trivial
    rw [parseBlocks]
    rfl
  | cons block blocks ih =>
    have hblocks := ih fun other hother ↦ h other (List.mem_cons_of_mem block hother)
    have hlength := block.length_words
    have hpos := block.getSize_pos
    set rest := blocks.flatMap ExtendedReportBlock.words
    have hdata : wordBytes (block.words ++ rest) ≠ [] := by
      refine List.ne_nil_of_length_pos ?_
      rw [length_wordBytes, List.length_append]
      omega
    have hdrop : (wordBytes (block.words ++ rest)).drop block.getSize = wordBytes rest := by
      rw [← hlength, drop_wordBytes, List.drop_left]
    rw [Readable, ← hblocks, ← ExtendedReportBlock.readBack_eq_iff, List.flatMap_cons, parseBlocks,
      dif_neg hdata, ExtendedReportBlock.parse_wordBytes (h block List.mem_cons_self)]
    dsimp only [bind, Except.bind]
    constructor
    · intro hparse
      obtain ⟨others, hothers, hparse⟩ := bind_eq_ok.mp hparse
      obtain ⟨hsame, rfl⟩ := List.cons.inj (Except.ok.inj hparse)
      rw [hsame, hdrop] at hothers
      exact ⟨hsame, hothers⟩
    · rintro ⟨hsame, hothers⟩
      rw [hsame, hdrop, hothers]
      rfl

theorem parse_serialize {p : ExtendedReportPacket} {blocks : List ExtendedReportBlock} :
    parse p.serialize = .ok (some { p with reports := blocks }) ↔
      parseBlocks (wordBytes (p.reports.flatMap ExtendedReportBlock.words)) = .ok blocks := by
  have hblocks : p.reports.flatMap ExtendedReportBlock.serialize =
      wordBytes (p.reports.flatMap ExtendedReportBlock.words) := by
    rw [wordBytes, List.flatMap_assoc]
    exact List.flatMap_congr fun block _ ↦ (block.wordBytes_words).symm
  have hssrc : get4Bytes p.serialize 4 = .ok p.ssrc := congrArg Except.ok (join4_set4Bytes _)
  have hdrop : p.serialize.drop (4 + 4) =
      wordBytes (p.reports.flatMap ExtendedReportBlock.words) := hblocks
  have hlength : 8 ≤ p.serialize.length := by
    rw [serialize, List.length_append, List.length_append, length_serializeHeader,
      length_set4Bytes]
    omega
  rw [parse, if_neg (by omega), hssrc, hdrop]
  dsimp only [bind, Except.bind]
  constructor
  · intro hparse
    obtain ⟨others, hothers, hparse⟩ := bind_eq_ok.mp hparse
    cases hparse
    exact hothers
  · intro hparse
    rw [hparse]
    rfl

/-- **Extended reports are read back exactly if every block is readable before the others.** -/
theorem round_trip_iff {p : ExtendedReportPacket} (hsize : p.getSize < 2 ^ 16) :
    parse p.serialize = .ok (some p) ↔ Readable p.reports := by
  refine (parse_serialize (p := p)).trans (parseBlocks_iff fun block hblock ↦ ?_)
  have hle : block.getSize ≤ (p.reports.map ExtendedReportBlock.getSize).sum :=
    List.single_le_sum (fun _ _ ↦ Nat.zero_le _) _ (List.mem_map_of_mem hblock)
  rw [getSize] at hsize
  omega

/-- A reference time and one sub-block. -/
theorem round_trip_single :
    parse (serialize ⟨9, [.receiverReferenceTime 1 2, .delaySinceLastRr [⟨3, 4, 5⟩]]⟩) =
      .ok (some ⟨9, [.receiverReferenceTime 1 2, .delaySinceLastRr [⟨3, 4, 5⟩]]⟩) :=
  (round_trip_iff (by decide)).mpr
    ⟨trivial, ExtendedReportBlock.readableBefore_of_length_le (Nat.le_of_eq rfl) _, trivial⟩

/-- Of two sub-blocks the second one is not read. -/
theorem not_round_trip :
    ¬∀ p : ExtendedReportPacket, p.getSize < 2 ^ 16 → parse p.serialize = .ok (some p) := by
  intro h
  have hparse := h ⟨9, [.delaySinceLastRr [⟨3, 4, 5⟩, ⟨6, 7, 8⟩]]⟩ (by decide)
  have hblocks := (parse_serialize
    (p := ⟨9, [.delaySinceLastRr [⟨3, 4, 5⟩, ⟨6, 7, 8⟩]]⟩)).mp hparse
  have hreadable := (parseBlocks_iff fun block hblock ↦ by
    rw [List.mem_singleton.mp hblock]
    decide).mp hblocks
  have hsecond := hreadable.1 1 ⟨6, 7, 8⟩ rfl
  cases hsecond

end ExtendedReportPacket

end Rtcp

end MediasoupSfu
