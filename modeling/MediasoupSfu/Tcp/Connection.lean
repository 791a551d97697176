import MediasoupSfu.Library.Framing
import MediasoupSfu.Rtp.Packet

/-!
# Frames of a TCP connection

In front of each packet that is sent over TCP there is its length, in two bytes (RFC 4571). A
connection reads into the free space of a buffer of fixed size, hands the packets that are complete
to its listener and goes on behind them. Two rules make new space: the buffer is emptied when a
frame ends exactly at its end, and an unfinished frame is moved to its beginning when the buffer is
full.

The listener may close the connection while it has a packet, so it is a parameter that tells for
which packets it does. Whatever the reads are, it gets the non-empty packets up to the first of
these (`deframes`).
-/

namespace MediasoupSfu

open Memory

/-- The members of `TcpConnection` that reading works on. -/
structure TcpConnection where
  bufferSize : ℕ
  buffer : List Byte
  bufferDataLen : ℕ := 0
  /-- Where the latest frame starts. -/
  frameStart : ℕ := 0
  closed : Bool := false
  deriving DecidableEq, Repr

/-- What comes of a read. -/
structure ReadOutput where
  /-- The packets that the listener gets. -/
  packets : List (List Byte) := []
  /-- `ErrorReceiving` is called. -/
  errorReceiving : Bool := false
  deriving DecidableEq, Repr

/-- A packet that fits a frame. -/
structure TcpFrame where
  packet : List Byte
  short : packet.length < 2 ^ 16

/-- The frame of a packet. -/
def TcpFrame.encode (frame : TcpFrame) : List Byte :=
  Byte.set2Bytes (BitVec.ofNat 16 frame.packet.length) ++ frame.packet

/-- A packet is handed to the listener unless it is empty. -/
def notified (packet : List Byte) : List (List Byte) := if packet = [] then [] else [packet]

/-- The packets up to the first one at which the listener closes the connection. -/
def untilClosed (closes : List Byte → Bool) : List (List Byte) → List (List Byte)
  | [] => []
  | packet :: packets => packet :: if closes packet then [] else untilClosed closes packets

namespace TcpConnection

/-! ## The code -/

/-- `std::memcpy` from the buffer. -/
def readBytes (buffer : List Byte) (ptr len : ℕ) : Except Fault (List Byte) :=
  if ptr + len ≤ buffer.length then .ok (slice buffer ptr len) else .error .outOfBounds

/-- The packet of the frame at `frameStart`, if we have it all. -/
def completePacket (s : TcpConnection) : Except Fault (Option (List Byte)) :=
  let dataLen := s.bufferDataLen - s.frameStart
  if dataLen < 2 then .ok none
  else do
    let packetLen ← Byte.get2Bytes s.buffer s.frameStart
    if dataLen < 2 + packetLen.toNat then return none
    else
      let packet ← readBytes s.buffer (s.frameStart + 2) packetLen.toNat
      return some packet

/-- Notify the listener of a packet and set the beginning of the next frame. -/
def passFrame (closes : List Byte → Bool) (s : TcpConnection) (packet : List Byte) :
    TcpConnection :=
  let s := { s with closed := s.closed || (notified packet).any closes }
  -- If there is no more space available in the buffer and that is because the latest parsed frame
  -- filled it, then empty the full buffer.
  if s.frameStart + 2 + packet.length = s.bufferSize then
    { s with frameStart := 0, bufferDataLen := 0 }
  else { s with frameStart := s.frameStart + (2 + packet.length) }

/-- An incomplete packet: make space for the rest of it if the buffer is full. -/
def waitForMore (s : TcpConnection) : Except Fault (ReadOutput × TcpConnection) :=
  if s.bufferDataLen = s.bufferSize then
    if s.frameStart ≠ 0 then do
      let buffer ← moveBytes s.buffer 0 s.frameStart (s.bufferSize - s.frameStart)
      return ({}, { s with
        buffer := buffer
        bufferDataLen := s.bufferSize - s.frameStart
        frameStart := 0 })
    -- The frame is too big: `ErrorReceiving` closes the connection.
    else .ok ({ errorReceiving := true }, { s with closed := true })
  else .ok ({}, s)

/-- A round of the loop leaves less data. -/
theorem passFrame_lt {closes : List Byte → Bool} {s : TcpConnection} {packet : List Byte}
    (h : (s.passFrame closes packet).frameStart < (s.passFrame closes packet).bufferDataLen) :
    (s.passFrame closes packet).bufferDataLen - (s.passFrame closes packet).frameStart <
      s.bufferDataLen - s.frameStart := by
  unfold passFrame at h ⊢
  dsimp only at h ⊢
  split at h
  · exact absurd h (lt_irrefl 0)
  · rename_i hspace
    rw [if_neg hspace]
    dsimp only at h ⊢
    omega

/-- `UserOnTcpConnectionRead()`. -/
def userOnTcpConnectionRead (closes : List Byte → Bool) (s : TcpConnection) :
    Except Fault (ReadOutput × TcpConnection) :=
  if s.closed then .ok ({}, s)
  else do
    match ← s.completePacket with
    | none => s.waitForMore
    | some packet =>
      -- If there is more data in the buffer after the parsed frame then parse again.
      if _h :
          (s.passFrame closes packet).frameStart < (s.passFrame closes packet).bufferDataLen then
        let (output, t) ← userOnTcpConnectionRead closes (s.passFrame closes packet)
        return ({ output with packets := notified packet ++ output.packets }, t)
      else return ({ packets := notified packet }, s.passFrame closes packet)
  termination_by s.bufferDataLen - s.frameStart
  decreasing_by exact passFrame_lt _h

/-- The space that `OnUvReadAlloc` offers. -/
def freeSpace (s : TcpConnection) : ℕ := s.bufferSize - s.bufferDataLen

/-- `OnUvRead(nread)` with the data in the space offered. A closed connection does not read any
more. -/
def onUvRead (closes : List Byte → Bool) (s : TcpConnection) (data : List Byte) :
    Except Fault (ReadOutput × TcpConnection) :=
  if s.closed ∨ data = [] then .ok ({}, s)
  else do
    let buffer ← writeBytes s.buffer s.bufferDataLen data
    userOnTcpConnectionRead closes
      { s with buffer := buffer, bufferDataLen := s.bufferDataLen + data.length }

/-- `TcpConnection(listener, bufferSize)`, with what its buffer happens to hold. -/
def init (buffer : List Byte) : TcpConnection where
  bufferSize := buffer.length
  buffer := buffer

/-- The data fits the space offered. -/
def FitsFreeSpace (s : TcpConnection) (data : List Byte) : Prop := data.length ≤ s.freeSpace

/-! ## What the buffer holds -/

/-- The connection is open, and the bytes that are not parsed yet are these. -/
structure Holds (s : TcpConnection) (pending : List Byte) : Prop where
  isOpen : s.closed = false
  length_eq : s.buffer.length = s.bufferSize
  start_le : s.frameStart ≤ s.bufferDataLen
  le_size : s.bufferDataLen ≤ s.bufferSize
  slice_eq : slice s.buffer s.frameStart (s.bufferDataLen - s.frameStart) = pending

variable {s t : TcpConnection} {pending rest : List Byte} {closes : List Byte → Bool}
  {frame : TcpFrame}

theorem Holds.length_pending (h : s.Holds pending) :
    pending.length = s.bufferDataLen - s.frameStart := by
  have hstart := h.start_le
  have hsize := h.le_size
  have hlength := h.length_eq
  rw [← h.slice_eq, length_slice (by omega)]

/-- The cells from `frameStart` on. -/
theorem Holds.cell (h : s.Holds pending) {j : ℕ} (hj : j < pending.length) :
    s.buffer[s.frameStart + j]? = pending[j]? := by
  have hpending := h.length_pending
  rw [← h.slice_eq, getElem?_slice, if_pos (by omega)]

/-- The first two bytes of what is pending. -/
theorem Holds.get2Bytes (h : s.Holds pending) (hlength : 2 ≤ pending.length) :
    Byte.get2Bytes s.buffer s.frameStart = Byte.get2Bytes pending 0 := by
  have h₀ := h.cell (j := 0) (by omega)
  have h₁ := h.cell (j := 1) (by omega)
  rw [Nat.add_zero] at h₀
  rw [Byte.get2Bytes, Byte.get2Bytes, Byte.get1Byte, Byte.get1Byte, Byte.get1Byte, Byte.get1Byte,
    h₀, h₁]

/-- Behind some of the bytes are the others. -/
theorem Holds.drop {front : List Byte} (h : s.Holds (front ++ rest)) :
    slice s.buffer (s.frameStart + front.length)
      (s.bufferDataLen - (s.frameStart + front.length)) = rest := by
  have hlength := h.length_pending
  rw [List.length_append] at hlength
  have hsplit : s.bufferDataLen - s.frameStart = front.length + rest.length := hlength.symm
  have hslice := h.slice_eq
  rw [hsplit, slice_add] at hslice
  have hbuffer := h.length_eq
  have hstart := h.start_le
  have hsize := h.le_size
  have hfront : (slice s.buffer s.frameStart front.length).length = front.length :=
    length_slice (by omega)
  rw [show s.bufferDataLen - (s.frameStart + front.length) = rest.length by omega]
  exact (List.append_inj hslice hfront).2

/-! ## One frame -/

theorem length_encode (frame : TcpFrame) : frame.encode.length = 2 + frame.packet.length := by
  rw [TcpFrame.encode, List.length_append, Byte.length_set2Bytes]

theorem encode_ne_nil (frame : TcpFrame) : frame.encode ≠ [] := nofun

/-- The length in front of a packet. -/
theorem get2Bytes_encode (frame : TcpFrame) (rest : List Byte) :
    Byte.get2Bytes (frame.encode ++ rest) 0 = .ok (BitVec.ofNat 16 frame.packet.length) := by
  have h := Byte.get2Bytes_append [] (frame.packet ++ rest) (BitVec.ofNat 16 frame.packet.length)
  rwa [List.nil_append, ← List.append_assoc] at h

theorem toNat_length (frame : TcpFrame) :
    (BitVec.ofNat 16 frame.packet.length).toNat = frame.packet.length := by
  rw [BitVec.toNat_ofNat, Nat.mod_eq_of_lt frame.short]

/-- A frame that is there is found. -/
theorem Holds.completePacket_encode (h : s.Holds (frame.encode ++ rest)) :
    s.completePacket = .ok (some frame.packet) := by
  have hlength := h.length_pending
  rw [List.length_append, length_encode] at hlength
  have hstart := h.start_le
  have hsize := h.le_size
  have hbuffer := h.length_eq
  have hpacket : slice s.buffer (s.frameStart + 2) frame.packet.length = frame.packet := by
    have hassoc : s.Holds (Byte.set2Bytes (BitVec.ofNat 16 frame.packet.length) ++
        (frame.packet ++ rest)) := by
      rw [← List.append_assoc]
      exact h
    have hdrop := hassoc.drop
    rw [Byte.length_set2Bytes,
      show s.bufferDataLen - (s.frameStart + 2) = frame.packet.length + rest.length by omega,
      slice_add] at hdrop
    exact (List.append_inj hdrop (length_slice (by omega))).1
  rw [completePacket, if_neg (by omega),
    h.get2Bytes (by rw [List.length_append, length_encode]; omega), get2Bytes_encode]
  change (if s.bufferDataLen - s.frameStart <
    2 + (BitVec.ofNat 16 frame.packet.length).toNat then _ else _) = _
  rw [toNat_length, if_neg (by omega), readBytes, if_pos (by omega), hpacket]
  rfl

/-- The front part of a frame is not taken for one. -/
theorem Holds.completePacket_partial (h : s.Holds pending) (hstarts : pending <+: frame.encode)
    (hlt : pending.length < frame.encode.length) : s.completePacket = .ok none := by
  have hlength := h.length_pending
  rw [length_encode] at hlt
  rw [completePacket]
  by_cases htwo : s.bufferDataLen - s.frameStart < 2
  · rw [if_pos htwo]
  · obtain ⟨cells, hcells⟩ := hstarts
    -- the length is there, and it is longer than what is there
    have hcell : ∀ j < pending.length, pending[j]? = (frame.encode ++ [])[j]? := by
      intro j hj
      rw [List.append_nil, ← hcells, List.getElem?_append_left hj]
    have hget : Byte.get2Bytes pending 0 = .ok (BitVec.ofNat 16 frame.packet.length) := by
      rw [← get2Bytes_encode frame [], Byte.get2Bytes, Byte.get2Bytes, Byte.get1Byte,
        Byte.get1Byte, Byte.get1Byte, Byte.get1Byte, hcell 0 (by omega), hcell (0 + 1) (by omega)]
    rw [if_neg htwo, h.get2Bytes (by omega), hget]
    change (if s.bufferDataLen - s.frameStart <
      2 + (BitVec.ofNat 16 frame.packet.length).toNat then _ else _) = _
    rw [toNat_length, if_pos (by omega)]
    rfl

theorem passFrame_closed (closes : List Byte → Bool) (s : TcpConnection) (packet : List Byte) :
    (s.passFrame closes packet).closed = (s.closed || (notified packet).any closes) ∧
      (s.passFrame closes packet).bufferSize = s.bufferSize := by
  unfold passFrame
  dsimp only
  split
  · exact ⟨rfl, rfl⟩
  · exact ⟨rfl, rfl⟩

/-- **Behind a frame** is what followed it, and there is space if nothing did. -/
theorem Holds.passFrame (h : s.Holds (frame.encode ++ rest))
    (hopen : (notified frame.packet).any closes = false) :
    (s.passFrame closes frame.packet).Holds rest ∧ (rest = [] →
      (s.passFrame closes frame.packet).bufferDataLen < s.bufferSize) := by
  have hlength := h.length_pending
  rw [List.length_append, length_encode] at hlength
  have hstart := h.start_le
  have hsize := h.le_size
  have hclosed : (s.closed || (notified frame.packet).any closes) = false := by
    rw [h.isOpen, hopen]
    rfl
  have hdrop := h.drop
  rw [length_encode] at hdrop
  unfold TcpConnection.passFrame
  dsimp only
  split
  · rename_i hfull
    have hrest : rest = [] := List.eq_nil_of_length_eq_zero (by omega)
    subst hrest
    refine ⟨⟨hclosed, h.length_eq, le_rfl, Nat.zero_le _, slice_zero _ _⟩, fun _ ↦ ?_⟩
    change 0 < s.bufferSize
    omega
  · rename_i hspace
    refine ⟨⟨hclosed, h.length_eq, ?_, hsize, hdrop⟩, fun hrest ↦ ?_⟩
    · change s.frameStart + (2 + frame.packet.length) ≤ s.bufferDataLen
      omega
    · change s.bufferDataLen < s.bufferSize
      rw [hrest, List.length_nil] at hlength
      omega

/-- **An unfinished frame** is kept, and there is space for the rest of it. -/
theorem Holds.waitForMore (h : s.Holds pending) (hlt : pending.length < s.bufferSize)
    (hpending : pending ≠ []) :
    ∃ t, s.waitForMore = .ok ({}, t) ∧ t.Holds pending ∧ t.bufferSize = s.bufferSize ∧
      t.bufferDataLen < t.bufferSize := by
  have hlength := h.length_pending
  have hpos := List.length_pos_iff.mpr hpending
  have hbuffer := h.length_eq
  have hsize := h.le_size
  unfold TcpConnection.waitForMore
  by_cases hfull : s.bufferDataLen = s.bufferSize
  · have hsrc : s.frameStart + (s.bufferSize - s.frameStart) ≤ s.buffer.length := by omega
    have hdst : 0 + (s.bufferSize - s.frameStart) ≤ s.buffer.length := by omega
    rw [if_pos hfull, if_pos (show s.frameStart ≠ 0 by omega), moveBytes_eq_ok hsrc hdst]
    refine ⟨_, rfl, ⟨h.isOpen, ?_, Nat.zero_le _, Nat.sub_le _ _, ?_⟩, rfl, ?_⟩
    · exact (length_move hsrc hdst).trans hbuffer
    · have hslice := h.slice_eq
      rw [hfull] at hslice
      exact (slice_move_self hsrc hdst).trans hslice
    · change s.bufferSize - s.frameStart < s.bufferSize
      omega
  · rw [if_neg hfull]
    exact ⟨s, rfl, h, rfl, by omega⟩

/-! ## Reads -/

/-- The packets of some frames that the listener is to have. -/
def nonEmptyPackets (frames : List TcpFrame) : List (List Byte) :=
  frames.flatMap fun frame ↦ notified frame.packet

/-- A frame fits the buffer. -/
def FitsBuffer (bufferSize : ℕ) (frame : TcpFrame) : Prop := frame.packet.length + 2 ≤ bufferSize

/-- What comes of a read: the listener gets the packets of the frames that are complete, and if it
leaves the connection open then the rest is kept and there is free space. -/
structure Received (closes : List Byte → Bool) (s : TcpConnection) (frames : List TcpFrame)
    (tail : List Byte) (output : ReadOutput) (t : TcpConnection) : Prop where
  packets_eq : output.packets = untilClosed closes (nonEmptyPackets frames)
  no_error : output.errorReceiving = false
  size_eq : t.bufferSize = s.bufferSize
  closed_eq : t.closed = (nonEmptyPackets frames).any closes
  keeps : t.closed = false → t.Holds tail ∧ t.bufferDataLen < t.bufferSize

theorem untilClosed_append {packets more : List (List Byte)} :
    untilClosed closes (packets ++ more) = untilClosed closes packets ++
      if packets.any closes then [] else untilClosed closes more := by
  induction packets with
  | nil => rfl
  | cons packet packets ih =>
    rw [List.cons_append, untilClosed, untilClosed, List.any_cons]
    cases hcloses : closes packet with
    | true => rfl
    | false => simp only [ih, Bool.false_eq_true, if_false, Bool.false_or, List.cons_append]

theorem untilClosed_notified (packet : List Byte) :
    untilClosed closes (notified packet) = notified packet := by
  unfold notified
  split
  · rfl
  · simp [untilClosed]

/-- A round of the loop that finds a packet. -/
theorem userOnTcpConnectionRead_frame {packet : List Byte} (hopen : s.closed = false)
    (hpacket : s.completePacket = .ok (some packet)) :
    s.userOnTcpConnectionRead closes =
      if (s.passFrame closes packet).frameStart < (s.passFrame closes packet).bufferDataLen then
        (fun result : ReadOutput × TcpConnection ↦
          ({ result.1 with packets := notified packet ++ result.1.packets }, result.2)) <$>
          userOnTcpConnectionRead closes (s.passFrame closes packet)
      else .ok ({ packets := notified packet }, s.passFrame closes packet) := by
  rw [userOnTcpConnectionRead, hopen, hpacket]
  by_cases hmore : (s.passFrame closes packet).frameStart <
      (s.passFrame closes packet).bufferDataLen
  · rw [if_pos hmore]
    exact dif_pos hmore
  · rw [if_neg hmore]
    exact dif_neg hmore

theorem untilClosed_of_open {packets : List (List Byte)} (h : packets.any closes = false) :
    untilClosed closes packets = packets := by
  induction packets with
  | nil => rfl
  | cons packet packets ih =>
    rw [List.any_cons, Bool.or_eq_false_iff] at h
    rw [untilClosed, h.1, ih h.2]
    rfl

/-- The loop takes the complete frames. -/
theorem received_loop (closes : List Byte → Bool) {left : List TcpFrame} {tail : List Byte}
    (hincomplete : Framing.Partial TcpFrame.encode left tail)
    (hleft : ∀ frame ∈ left, FitsBuffer s.bufferSize frame) (complete : List TcpFrame)
    (h : s.Holds (complete.flatMap TcpFrame.encode ++ tail))
    (hne : complete.flatMap TcpFrame.encode ++ tail ≠ []) :
    ∃ output t, s.userOnTcpConnectionRead closes = .ok (output, t) ∧
      Received closes s complete tail output t := by
  induction complete generalizing s with
  | nil =>
    rw [List.flatMap_nil, List.nil_append] at h hne
    rcases hincomplete with rfl | ⟨frame, hframe, hstarts, hlt⟩
    · exact absurd rfl hne
    have hfits := hleft frame (List.mem_of_mem_head? hframe)
    rw [FitsBuffer] at hfits
    rw [length_encode] at hlt
    obtain ⟨t, hwait, hholds, hsize, hspace⟩ := h.waitForMore (by omega) hne
    refine ⟨{}, t, ?_, rfl, rfl, hsize, hholds.isOpen, fun _ ↦ ⟨hholds, hspace⟩⟩
    rw [userOnTcpConnectionRead, h.isOpen, h.completePacket_partial hstarts
      (by rw [length_encode]; exact hlt)]
    exact hwait
  | cons frame complete ih =>
    rw [List.flatMap_cons, List.append_assoc] at h
    obtain ⟨hclosed, hsize⟩ := passFrame_closed closes s frame.packet
    rw [h.isOpen, Bool.false_or] at hclosed
    have hpackets : nonEmptyPackets (frame :: complete) =
        notified frame.packet ++ nonEmptyPackets complete := List.flatMap_cons
    rw [userOnTcpConnectionRead_frame h.isOpen h.completePacket_encode]
    by_cases hcloses : (notified frame.packet).any closes = true
    · -- the rest of the data is not looked at
      have hthen : ∀ output : ReadOutput, output.packets = notified frame.packet →
          output.errorReceiving = false → Received closes s (frame :: complete) tail output
            (s.passFrame closes frame.packet) := by
        intro output houtput herror
        refine ⟨?_, herror, hsize, ?_, fun hopen ↦ ?_⟩
        · rw [hpackets, untilClosed_append, if_pos hcloses, List.append_nil, untilClosed_notified,
            houtput]
        · rw [hclosed, hpackets, List.any_append, hcloses]
          rfl
        · rw [hclosed, hcloses] at hopen
          cases hopen
      split
      · rw [userOnTcpConnectionRead, hclosed, hcloses]
        exact ⟨_, _, rfl, hthen _ (List.append_nil _) rfl⟩
      · exact ⟨_, _, rfl, hthen _ rfl rfl⟩
    · have hopen := Bool.eq_false_of_not_eq_true hcloses
      obtain ⟨hholds, hspace⟩ := h.passFrame hopen
      have hlength := hholds.length_pending
      split
      · rename_i hmore
        obtain ⟨output, t, hloop, hreceived⟩ := ih (by rw [hsize]; exact hleft) hholds fun hnil ↦ by
          rw [hnil, List.length_nil] at hlength
          omega
        rw [hloop]
        refine ⟨_, _, rfl, ?_, hreceived.no_error, hreceived.size_eq.trans hsize, ?_,
          hreceived.keeps⟩
        · rw [hpackets, untilClosed_append, if_neg hcloses, untilClosed_notified,
            ← hreceived.packets_eq]
        · rw [hpackets, List.any_append, hopen, Bool.false_or]
          exact hreceived.closed_eq
      · -- nothing follows
        have hrest : complete.flatMap TcpFrame.encode ++ tail = [] :=
          List.eq_nil_of_length_eq_zero (by omega)
        obtain ⟨hnil, rfl⟩ := List.append_eq_nil_iff.mp hrest
        obtain rfl : complete = [] := by
          cases complete with
          | nil => rfl
          | cons m ms => exact absurd (List.append_eq_nil_iff.mp hnil).1 (encode_ne_nil m)
        refine ⟨_, _, rfl, ?_, rfl, hsize, ?_, fun _ ↦ ⟨hholds, ?_⟩⟩
        · rw [hpackets]
          change _ = untilClosed closes (notified frame.packet ++ [])
          rw [List.append_nil, untilClosed_notified]
        · rw [hclosed, hpackets]
          change _ = (notified frame.packet ++ []).any closes
          rw [List.append_nil]
        · rw [hsize]
          exact hspace rfl

/-- Data behind what is pending. -/
theorem Holds.append {data : List Byte} (h : s.Holds pending) (hfits : s.FitsFreeSpace data) :
    writeBytes s.buffer s.bufferDataLen data = .ok (splice s.buffer s.bufferDataLen data) ∧
      Holds { s with
        buffer := splice s.buffer s.bufferDataLen data
        bufferDataLen := s.bufferDataLen + data.length } (pending ++ data) := by
  have hlength := h.length_pending
  have hbuffer := h.length_eq
  have hstart := h.start_le
  have hsize := h.le_size
  rw [FitsFreeSpace, freeSpace] at hfits
  have hroom : s.bufferDataLen + data.length ≤ s.buffer.length := by omega
  refine ⟨writeBytes_eq_ok hroom, h.isOpen, (length_splice hroom).trans hbuffer,
    hstart.trans (Nat.le_add_right _ _), ?_, ?_⟩
  · change s.bufferDataLen + data.length ≤ s.bufferSize
    omega
  · change slice (splice s.buffer s.bufferDataLen data) s.frameStart
      (s.bufferDataLen + data.length - s.frameStart) = pending ++ data
    rw [show s.bufferDataLen + data.length - s.frameStart =
        s.bufferDataLen - s.frameStart + data.length by omega, slice_add,
      slice_splice_before hroom (by omega), h.slice_eq,
      show s.frameStart + (s.bufferDataLen - s.frameStart) = s.bufferDataLen by omega,
      slice_splice_self hroom rfl]

/-! ## Runs -/

/-- What a run has done when some frames are complete. -/
structure RunReceived (closes : List Byte → Bool) (bufferSize : ℕ) (frames : List TcpFrame)
    (hist : List (Run.Record TcpConnection (List Byte) ReadOutput)) (complete : List TcpFrame)
    (tail : List Byte) (s : TcpConnection) : Prop where
  packets_eq : hist.flatMap (fun r ↦ r.output.packets) =
    untilClosed closes (nonEmptyPackets complete)
  prefix_of : complete <+: frames
  reads : ∀ r ∈ hist, r.output.errorReceiving = false ∧
    (r.after.closed = true → (nonEmptyPackets frames).any closes = true) ∧
    (r.event ≠ [] → r.after.closed = false → r.after.bufferDataLen < r.after.bufferSize)
  size_eq : s.bufferSize = bufferSize
  closed_eq : s.closed = (nonEmptyPackets complete).any closes
  keeps : s.closed = false → s.Holds tail

theorem nonEmptyPackets_append (frames more : List TcpFrame) :
    nonEmptyPackets (frames ++ more) = nonEmptyPackets frames ++ nonEmptyPackets more :=
  List.flatMap_append

/-- What closes the connection is one of all packets. -/
theorem any_of_prefix {frames complete : List TcpFrame} (h : complete <+: frames)
    (hany : (nonEmptyPackets complete).any closes = true) :
    (nonEmptyPackets frames).any closes = true := by
  obtain ⟨left, rfl⟩ := h
  rw [nonEmptyPackets_append, List.any_append, hany]
  rfl

/-- **One read** of a run. -/
theorem RunReceived.onUvRead {bufferSize : ℕ} {frames complete more left : List TcpFrame}
    {hist : List (Run.Record TcpConnection (List Byte) ReadOutput)} {tail tail' data : List Byte}
    (h : RunReceived closes bufferSize frames hist complete tail s)
    (hfit : ∀ frame ∈ frames, FitsBuffer bufferSize frame) (hroom : s.FitsFreeSpace data)
    (hframes : frames = complete ++ more ++ left)
    (hbefore : Framing.Partial TcpFrame.encode (more ++ left) tail)
    (hsplit : tail ++ data = more.flatMap TcpFrame.encode ++ tail')
    (hincomplete : Framing.Partial TcpFrame.encode left tail') :
    ∃ output t, s.onUvRead closes data = .ok (output, t) ∧
      RunReceived closes bufferSize frames (hist ++ [⟨s, data, output, t⟩]) (complete ++ more)
        tail' t := by
  have hstarts : complete ++ more <+: frames := ⟨left, hframes.symm⟩
  have hpackets := nonEmptyPackets_append complete more
  -- a read that does nothing more than what is known of its result
  have hextend : ∀ output t, s.onUvRead closes data = .ok (output, t) →
      output.packets = (if s.closed then [] else untilClosed closes (nonEmptyPackets more)) →
      output.errorReceiving = false → t.bufferSize = s.bufferSize →
      t.closed = (s.closed || (nonEmptyPackets more).any closes) →
      (t.closed = false → t.Holds tail') →
      (data ≠ [] → t.closed = false → t.bufferDataLen < t.bufferSize) →
      RunReceived closes bufferSize frames (hist ++ [⟨s, data, output, t⟩]) (complete ++ more)
        tail' t := by
    intro output t _ houtput herror hsize hclosed hkeeps hspace
    have hclosed' : t.closed = (nonEmptyPackets (complete ++ more)).any closes := by
      rw [hclosed, h.closed_eq, hpackets, List.any_append]
    refine ⟨?_, hstarts, fun r hr ↦ ?_, hsize.trans h.size_eq, hclosed', hkeeps⟩
    · rw [List.flatMap_append, h.packets_eq, List.flatMap_singleton, houtput, h.closed_eq, hpackets,
        untilClosed_append]
    · rcases List.mem_append.mp hr with hr | hr
      · exact h.reads r hr
      · rw [List.mem_singleton.mp hr]
        exact ⟨herror, fun hc ↦ any_of_prefix hstarts (hclosed'.symm.trans hc), hspace⟩
  cases hclosed : s.closed with
  | true =>
    have hread : s.onUvRead closes data = .ok ({}, s) := if_pos (Or.inl hclosed)
    refine ⟨{}, s, hread, hextend _ _ hread ?_ rfl rfl ?_ ?_ ?_⟩
    · rw [hclosed]
      rfl
    · rw [hclosed]
      rfl
    · rw [hclosed]
      nofun
    · rw [hclosed]
      nofun
  | false =>
    have hholds := h.keeps hclosed
    by_cases hdata : data = []
    · -- nothing has been read, and no frame is complete that was not before
      have hread : s.onUvRead closes data = .ok ({}, s) := if_pos (Or.inr hdata)
      rw [hdata, List.append_nil] at hsplit
      obtain ⟨rfl, rfl⟩ := hbefore.split_unique encode_ne_nil hsplit
      refine ⟨{}, s, hread, hextend _ _ hread ?_ rfl rfl ?_ (fun _ ↦ hholds)
        fun hne ↦ absurd hdata hne⟩
      · rw [hclosed]
        rfl
      · rw [hclosed]
        rfl
    · obtain ⟨hwrite, hall⟩ := hholds.append hroom
      rw [hsplit] at hall
      have hne : more.flatMap TcpFrame.encode ++ tail' ≠ [] := by
        rw [← hsplit]
        simp [hdata]
      obtain ⟨output, t, hloop, hreceived⟩ := received_loop closes hincomplete
        (fun frame hframe ↦ by
          rw [hframes] at hfit
          have := hfit frame (List.mem_append_right _ hframe)
          rwa [← h.size_eq] at this) more hall hne
      have hread : s.onUvRead closes data = .ok (output, t) := by
        rw [TcpConnection.onUvRead, if_neg (by simp [hclosed, hdata]), hwrite]
        exact hloop
      refine ⟨output, t, hread, hextend _ _ hread ?_ hreceived.no_error hreceived.size_eq ?_
        (fun hopen ↦ (hreceived.keeps hopen).1) fun _ hopen ↦ (hreceived.keeps hopen).2⟩
      · rw [hclosed]
        exact hreceived.packets_eq
      · rw [hclosed]
        exact hreceived.closed_eq

/-- **RFC 4571 deframing.** However the stream of some frames that fit the buffer is cut into reads
that fit the free space, the listener gets the non-empty packets in order, up to the first one at
which it closes the connection. There is never an error, and after every read there is free space
left while the connection is open. -/
theorem deframes (closes : List Byte → Bool) (buffer : List Byte) (frames : List TcpFrame)
    (hfit : ∀ frame ∈ frames, FitsBuffer buffer.length frame) (reads : List (List Byte))
    (hstream : reads.flatten = frames.flatMap TcpFrame.encode)
    (hreads : Run.Obeys (onUvRead closes) FitsFreeSpace (init buffer) reads) :
    ∃ records, Run.trace (onUvRead closes) (init buffer) reads = .ok records ∧
      records.flatMap (fun r ↦ r.output.packets) = untilClosed closes (nonEmptyPackets frames) ∧
      (∀ r ∈ records, r.output.errorReceiving = false ∧
        (r.event ≠ [] → r.after.closed = false → r.after.bufferDataLen < r.after.bufferSize)) ∧
      ((nonEmptyPackets frames).any closes = false →
        records.flatMap (fun r ↦ r.output.packets) = nonEmptyPackets frames ∧
          ∀ r ∈ records, r.after.closed = false) := by
  have hstart : RunReceived closes buffer.length frames [] [] [] (init buffer) :=
    ⟨rfl, List.nil_prefix, nofun, rfl, rfl,
      fun _ ↦ ⟨rfl, rfl, le_rfl, Nat.zero_le _, slice_zero _ _⟩⟩
  obtain ⟨records, t, htrace, hrun⟩ := Framing.receives
    (RunReceived closes buffer.length frames) encode_ne_nil
    (fun _ _ _ _ _ _ _ _ hinv hroom hframes hbefore hsplit hincomplete ↦
      hinv.onUvRead hfit hroom hframes hbefore hsplit hincomplete) hstart hstream hreads
  refine ⟨records, htrace, hrun.packets_eq, fun r hr ↦ ?_, fun hopen ↦ ⟨?_, fun r hr ↦ ?_⟩⟩
  · exact ⟨(hrun.reads r hr).1, (hrun.reads r hr).2.2⟩
  · rw [hrun.packets_eq, untilClosed_of_open hopen]
  · exact Bool.eq_false_iff.mpr fun hclosed ↦ by
      rw [(hrun.reads r hr).2.1 hclosed] at hopen
      cases hopen

/-- Two packets and an empty one in one read, which fills the buffer. -/
theorem deframes_three :
    ∃ records, Run.trace (onUvRead fun _ ↦ false) (init (List.replicate 9 0))
        [[0, 2, 10, 11, 0, 0, 0, 1, 12]] = .ok records ∧
      records.flatMap (fun r ↦ r.output.packets) = [[10, 11], [12]] := by
  let frames : List TcpFrame := [⟨[10, 11], by decide⟩, ⟨[], by decide⟩, ⟨[12], by decide⟩]
  have hfit : ∀ frame ∈ frames, FitsBuffer (List.replicate 9 (0 : Byte)).length frame := by
    intro frame hframe
    simp only [frames, List.mem_cons, List.not_mem_nil, or_false] at hframe
    rcases hframe with rfl | rfl | rfl <;> unfold FitsBuffer <;> decide
  obtain ⟨records, htrace, -, -, hopen⟩ := deframes (fun _ ↦ false) (List.replicate 9 0) frames hfit
    [[0, 2, 10, 11, 0, 0, 0, 1, 12]] (by decide)
    ⟨by unfold FitsFreeSpace; decide, fun _ _ _ ↦ trivial⟩
  exact ⟨records, htrace, (hopen (by decide)).1.trans (by decide)⟩

end TcpConnection

end MediasoupSfu
