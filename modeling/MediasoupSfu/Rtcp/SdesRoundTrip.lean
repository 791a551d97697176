import MediasoupSfu.Rtcp.ReceiverReports

/-!
# Source descriptions, there and back

The items of a chunk are read up to a null octet. `SdesChunk::Serialize` writes null octets only to
pad the chunk to 32 bits, so a chunk that ends on such a boundary has none, and what follows is
taken for its next item: the SSRC of the next chunk, with the high byte as the type and the second
one as the length.

So whether the chunks are read back depends on the SSRCs behind the chunks that are not padded
(`parse_serialize_iff`).
-/

namespace MediasoupSfu

namespace Rtcp

open Byte

/-! ## Items -/

namespace SdesItem

/-- An item that is no terminator and whose length fits its octet. -/
structure Valid (item : SdesItem) : Prop where
  type : item.type ≠ 0
  length : item.value.length ≤ 255

theorem parse_serialize {item : SdesItem} (h : item.Valid) (rest : List Byte) :
    parse (item.serialize ++ rest) = .ok (some item) := by
  have hlength : (BitVec.ofNat 8 item.value.length).toNat = item.value.length := by
    rw [BitVec.toNat_ofNat]
    exact Nat.mod_eq_of_lt (Nat.lt_succ_of_le h.length)
  have hsize : (item.serialize ++ rest).length = 2 + item.value.length + rest.length := by
    rw [List.length_append, length_serialize, getSize]
  have htype : get1Byte (item.serialize ++ rest) 0 = .ok item.type := rfl
  have hlen : get1Byte (item.serialize ++ rest) 1 = .ok (BitVec.ofNat 8 item.value.length) := rfl
  have hvalue : (item.serialize ++ rest).drop 2 = item.value ++ rest := rfl
  rw [parse, if_neg (by omega), htype, hlen]
  dsimp only [bind, Except.bind]
  rw [hlength, if_neg (by omega), if_neg h.type, hvalue, List.take_left]
  rfl

/-- When no item is read. -/
theorem parse_eq_none_iff {type length : Byte} {rest : List Byte} :
    parse (type :: length :: rest) = .ok none ↔ rest.length < length.toNat ∨ type = 0 := by
  have htype : get1Byte (type :: length :: rest) 0 = .ok type := rfl
  have hlen : get1Byte (type :: length :: rest) 1 = .ok length := rfl
  rw [parse, if_neg (by simp), htype, hlen]
  dsimp only [bind, Except.bind]
  rw [List.length_cons, List.length_cons]
  by_cases hshort : rest.length < length.toNat
  · rw [if_pos (by omega)]
    exact iff_of_true rfl (Or.inl hshort)
  · rw [if_neg (by omega)]
    by_cases hzero : type = 0
    · rw [if_pos hzero]
      exact iff_of_true rfl (Or.inr hzero)
    · rw [if_neg hzero]
      refine iff_of_false (fun h ↦ ?_) (not_or.mpr ⟨hshort, hzero⟩)
      exact Option.some_ne_none _ (Except.ok.inj h)

/-- A null octet ends the items. -/
theorem parse_zero (rest : List Byte) : parse (0 :: rest) = .ok none := by
  cases rest with
  | nil => rfl
  | cons length rest => exact parse_eq_none_iff.mpr (Or.inr rfl)

end SdesItem

/-! ## Chunks -/

namespace SdesChunk

theorem parseItems_eq_nil_iff {data : List Byte} :
    parseItems data = .ok [] ↔ data = [] ∨ SdesItem.parse data = .ok none := by
  rw [parseItems]
  by_cases hdata : data = []
  · rw [dif_pos hdata]
    exact iff_of_true rfl (Or.inl hdata)
  · rw [dif_neg hdata]
    obtain ⟨item, hitem⟩ := SdesItem.parse_returns data
    rw [hitem]
    cases item with
    | none => exact iff_of_true rfl (Or.inr rfl)
    | some item =>
      obtain ⟨items, hitems⟩ := parseItems_returns (data.drop item.getSize)
      dsimp only [bind, Except.bind]
      rw [hitems]
      refine iff_of_false (fun h ↦ ?_) (not_or.mpr ⟨hdata, fun h ↦ ?_⟩)
      · exact List.cons_ne_nil _ _ (Except.ok.inj h)
      · exact Option.some_ne_none _ (Except.ok.inj h)

/-- The items of a chunk are read before what follows. -/
theorem parseItems_append {items : List SdesItem} (h : ∀ item ∈ items, item.Valid)
    {rest : List Byte} {extra : List SdesItem} (hrest : parseItems rest = .ok extra) :
    parseItems (items.flatMap SdesItem.serialize ++ rest) = .ok (items ++ extra) := by
  induction items with
  | nil => exact hrest
  | cons item items ih =>
    have hdrop := @List.drop_left _ item.serialize (items.flatMap SdesItem.serialize ++ rest)
    rw [SdesItem.length_serialize] at hdrop
    have hdata : item.serialize ++ (items.flatMap SdesItem.serialize ++ rest) ≠ [] :=
      List.cons_ne_nil _ _
    rw [List.flatMap_cons, List.append_assoc, parseItems, dif_neg hdata,
      SdesItem.parse_serialize (h item List.mem_cons_self)]
    dsimp only [bind, Except.bind]
    rw [hdrop, ih fun other hother ↦ h other (List.mem_cons_of_mem _ hother)]
    rfl

/-- The null octets behind the items. -/
def padding (c : SdesChunk) : List Byte := List.replicate (c.getSize - c.unpaddedSize) 0

/-- What is read of a chunk: its items and those that are found behind it. -/
theorem parse_append {c : SdesChunk} (hc : ∀ item ∈ c.items, item.Valid) {rest : List Byte}
    {extra : List SdesItem} (hrest : parseItems (c.padding ++ rest) = .ok extra) :
    parse (c.serialize ++ rest) = .ok (some { c with items := c.items ++ extra }) := by
  have hsplit : c.serialize ++ rest = set4Bytes c.ssrc ++
      (c.items.flatMap SdesItem.serialize ++ (c.padding ++ rest)) := by
    rw [serialize, padding, List.append_assoc, List.append_assoc]
  have hssrc : get4Bytes (c.serialize ++ rest) 0 = .ok c.ssrc := by
    rw [hsplit]
    exact congrArg Except.ok (join4_set4Bytes _)
  have hdrop : (c.serialize ++ rest).drop 4 =
      c.items.flatMap SdesItem.serialize ++ (c.padding ++ rest) := by
    rw [hsplit]
    rfl
  have hlength : 4 ≤ (c.serialize ++ rest).length := by
    rw [hsplit, List.length_append, length_set4Bytes]
    omega
  rw [parse, if_neg (by omega), hssrc, hdrop, parseItems_append hc hrest]
  rfl

/-- A chunk is read back if nothing behind it is taken for an item. -/
theorem parse_serialize_iff {c : SdesChunk} (hc : ∀ item ∈ c.items, item.Valid)
    (rest : List Byte) :
    parse (c.serialize ++ rest) = .ok (some c) ↔
      (c.unpaddedSize % 4 = 0 → rest = [] ∨ SdesItem.parse rest = .ok none) := by
  obtain ⟨extra, hextra⟩ := parseItems_returns (c.padding ++ rest)
  have hsame : parse (c.serialize ++ rest) = .ok (some c) ↔ extra = [] := by
    rw [parse_append hc hextra, Except.ok.injEq, Option.some.injEq]
    constructor
    · intro h
      have hitems := congrArg SdesChunk.items h
      exact List.append_right_eq_self.mp hitems
    · rintro rfl
      rw [List.append_nil]
  have hnil : extra = [] ↔ parseItems (c.padding ++ rest) = .ok [] := by
    rw [hextra, Except.ok.injEq]
  have hsize : c.getSize = (c.unpaddedSize + 3) / 4 * 4 := rfl
  rw [hsame, hnil, parseItems_eq_nil_iff]
  by_cases hboundary : c.unpaddedSize % 4 = 0
  · have hpadding : c.padding = [] := by
      rw [padding, show c.getSize - c.unpaddedSize = 0 by omega]
      rfl
    rw [hpadding, List.nil_append]
    exact ⟨fun h _ ↦ h, fun h ↦ h hboundary⟩
  · obtain ⟨n, hn⟩ : ∃ n, c.getSize - c.unpaddedSize = n + 1 :=
      ⟨c.getSize - c.unpaddedSize - 1, by omega⟩
    have hpadding : c.padding = 0 :: List.replicate n 0 := by
      rw [padding, hn]
      rfl
    rw [hpadding]
    exact iff_of_true (Or.inr (SdesItem.parse_zero _)) fun h ↦ absurd h hboundary

end SdesChunk

/-! ## Packets -/

/-- The size of the chunks of a packet. -/
def sdesChunksSize (chunks : List SdesChunk) : ℕ := (chunks.map SdesChunk.getSize).sum

/-- The SSRC of the next chunk cannot be taken for an item: its high byte is null, or its second
byte is more than the number of bytes behind these two. -/
def IsNoItem (ssrc : BitVec 32) (size : ℕ) : Prop :=
  (ssrc >>> 24).setWidth 8 = (0 : Byte) ∨ size < 2 + ((ssrc >>> 16).setWidth 8 : Byte).toNat

/-- Each chunk that another one follows is padded, or the next SSRC cannot be taken for an item. -/
def Separated : List SdesChunk → Prop
  | [] => True
  | c :: cs =>
    (c.unpaddedSize % 4 = 0 → ∀ d ∈ cs.head?, IsNoItem d.ssrc (sdesChunksSize cs)) ∧ Separated cs

theorem length_flatMap_serialize (chunks : List SdesChunk) :
    (chunks.flatMap SdesChunk.serialize).length = sdesChunksSize chunks := by
  rw [List.length_flatMap, sdesChunksSize]
  congr 1
  exact List.map_congr_left fun c _ ↦ c.length_serialize

/-- `Serialize` writes `GetSize()` bytes. -/
theorem length_serializeSdesPacket (chunks : List SdesChunk) :
    (serializeSdesPacket chunks).length = sdesPacketSize chunks := by
  rw [serializeSdesPacket, List.length_append, length_serializeHeader, length_flatMap_serialize]
  rfl

/-- What is found behind the items of a chunk that is not padded. -/
theorem parse_chunks_eq_none_iff (chunks : List SdesChunk) :
    (chunks.flatMap SdesChunk.serialize = [] ∨
      SdesItem.parse (chunks.flatMap SdesChunk.serialize) = .ok none) ↔
    ∀ d ∈ chunks.head?, IsNoItem d.ssrc (sdesChunksSize chunks) := by
  cases chunks with
  | nil => exact iff_of_true (Or.inl rfl) nofun
  | cons d ds =>
    have hlength := length_flatMap_serialize (d :: ds)
    obtain ⟨rest, hrest⟩ : ∃ rest, (d :: ds).flatMap SdesChunk.serialize =
        (d.ssrc >>> 24).setWidth 8 :: (d.ssrc >>> 16).setWidth 8 :: rest := ⟨_, rfl⟩
    rw [hrest, List.length_cons, List.length_cons] at hlength
    rw [hrest, SdesItem.parse_eq_none_iff, List.head?_cons]
    simp only [Option.mem_def, Option.some.injEq, forall_eq', reduceCtorEq, false_or, IsNoItem]
    rw [or_comm]
    refine or_congr_right ?_
    omega

/-- So many chunks are read back if they are separated. -/
theorem parseSdesChunks_iff {chunks : List SdesChunk}
    (h : ∀ c ∈ chunks, ∀ item ∈ c.items, item.Valid) :
    parseSdesChunks chunks.length (chunks.flatMap SdesChunk.serialize) = .ok chunks ↔
      Separated chunks := by
  induction chunks with
  | nil => exact iff_of_true rfl trivial
  | cons c cs ih =>
    have hcs := ih fun d hd ↦ h d (List.mem_cons_of_mem c hd)
    have hc := SdesChunk.parse_serialize_iff (h c List.mem_cons_self)
      (cs.flatMap SdesChunk.serialize)
    rw [parse_chunks_eq_none_iff] at hc
    obtain ⟨chunk, hchunk⟩ := SdesChunk.parse_returns
      (c.serialize ++ cs.flatMap SdesChunk.serialize)
    have hdata : c.serialize ++ cs.flatMap SdesChunk.serialize ≠ [] := List.cons_ne_nil _ _
    have hdrop := @List.drop_left _ c.serialize (cs.flatMap SdesChunk.serialize)
    rw [SdesChunk.length_serialize] at hdrop
    rw [Separated, ← hc, ← hcs, hchunk, List.length_cons, List.flatMap_cons, parseSdesChunks,
      if_neg hdata, hchunk, Except.ok.injEq]
    dsimp only [bind, Except.bind]
    cases chunk with
    | none => exact iff_of_false (fun hnil ↦ by cases hnil) fun hsome ↦ by cases hsome.1
    | some chunk =>
      obtain ⟨rest, hrest⟩ := parseSdesChunks_returns cs.length
        ((c.serialize ++ cs.flatMap SdesChunk.serialize).drop chunk.getSize)
      dsimp only
      rw [hrest]
      dsimp only [pure, Except.pure]
      rw [Except.ok.injEq, List.cons.injEq, Option.some.injEq]
      refine and_congr_right fun hsame ↦ ?_
      rw [hsame, hdrop] at hrest
      rw [hrest, Except.ok.injEq]

theorem parseSdesPacket_serializeSdesPacket {chunks : List SdesChunk} (h : chunks.length ≤ 31) :
    parseSdesPacket (serializeSdesPacket chunks) =
      parseSdesChunks chunks.length (chunks.flatMap SdesChunk.serialize) := by
  rw [serializeSdesPacket, serializeHeader, parseSdesPacket, headerCount_commonHeader,
    Nat.mod_eq_of_lt (by omega)]
  rfl

/-- **Source descriptions are read back exactly if the chunks are separated.** -/
theorem serializeSdesPacket_round_trip_iff {chunks : List SdesChunk}
    (hvalid : ∀ c ∈ chunks, ∀ item ∈ c.items, item.Valid) (hcount : chunks.length ≤ 31) :
    (serializeSdesPacket chunks).length = sdesPacketSize chunks ∧
        parseSdesPacket (serializeSdesPacket chunks) = .ok chunks ↔ Separated chunks := by
  rw [parseSdesPacket_serializeSdesPacket hcount, parseSdesChunks_iff hvalid,
    and_iff_right (length_serializeSdesPacket chunks)]

/-- A chunk with a CNAME and one behind it. -/
def twoChunks (cname : List Byte) (ssrc : BitVec 32) : List SdesChunk :=
  [{ ssrc := 1, items := [⟨1, cname⟩] }, { ssrc := ssrc }]

theorem valid_twoChunks {cname : List Byte} (h : cname.length ≤ 255) (ssrc : BitVec 32) :
    ∀ c ∈ twoChunks cname ssrc, ∀ item ∈ c.items, item.Valid := by
  intro c hc item hitem
  simp only [twoChunks, List.mem_cons, List.not_mem_nil, or_false] at hc
  rcases hc with rfl | rfl
  · rw [List.mem_singleton.mp hitem]
    exact ⟨show (1 : Byte) ≠ 0 by decide, h⟩
  · exact absurd hitem List.not_mem_nil

/-- A CNAME of five characters is followed by a null octet. -/
theorem serializeSdesPacket_round_trip_padded :
    (serializeSdesPacket (twoChunks [97, 98, 99, 100, 101] 0x0A000001)).length =
        sdesPacketSize (twoChunks [97, 98, 99, 100, 101] 0x0A000001) ∧
      parseSdesPacket (serializeSdesPacket (twoChunks [97, 98, 99, 100, 101] 0x0A000001)) =
        .ok (twoChunks [97, 98, 99, 100, 101] 0x0A000001) :=
  (serializeSdesPacket_round_trip_iff (valid_twoChunks (by decide) _) (by decide)).mpr
    ⟨fun h ↦ absurd h (by decide), fun _ ↦ nofun, trivial⟩

/-- Behind a CNAME of six characters the high byte 10 of the next SSRC is taken for the type of an
item. -/
theorem not_serializeSdesPacket_round_trip :
    ¬∀ chunks : List SdesChunk, (∀ c ∈ chunks, ∀ item ∈ c.items, item.Valid) → chunks.length ≤ 31 →
      (serializeSdesPacket chunks).length = sdesPacketSize chunks ∧
        parseSdesPacket (serializeSdesPacket chunks) = .ok chunks := by
  intro h
  have hvalid := valid_twoChunks
    (show ([97, 98, 99, 100, 101, 102] : List Byte).length ≤ 255 by decide) 0x0A000001
  have hparse := (h _ hvalid (by decide)).2
  rw [parseSdesPacket_serializeSdesPacket (by decide), parseSdesChunks_iff hvalid] at hparse
  rcases hparse.1 (by decide) _ rfl with hzero | hlong
  · revert hzero
    decide
  · revert hlong
    decide

end Rtcp

end MediasoupSfu
