import MediasoupSfu.Stream.Send

/-!
# The invariant of the retransmission buffer

`Inv` is the invariant of the buffer: the table is compact, the items it points to hold well-formed
packets, the others are blank, and the entry at the start index is used unless the buffer is empty.
`storePacket_spec` says what `StorePacket` can do, and `Outcome.inv` that it keeps the invariant;
`clearBuffer_spec` is the same for `ClearBuffer`.

Keeping the start in use needs room for two packets: with a single one, evicting it leaves nothing
for the scan to find, and the start index stays at the evicted entry.
-/

namespace MediasoupSfu

open Serial Slots

/-! ## Items -/

namespace StorageItem

variable {item : StorageItem} {p : RtpPacket}

/-- The item holds the packet `p`. -/
structure Loaded (item : StorageItem) (p : RtpPacket) : Prop where
  packet : item.packet = some p
  formed : p.Formed
  located : p.Located
  length : p.body.length = storeSize
  size : p.size ≤ mtuSize + if item.rtxEncoded then 2 else 0

/-- The item holds no packet and is ready for one. -/
structure Blank (item : StorageItem) : Prop where
  eq : item = { store := item.store }
  length : item.store.length = storeSize

theorem blank_default : Blank {} := ⟨rfl, List.length_replicate⟩

theorem Loaded.reset (h : item.Loaded p) : item.reset.Blank where
  eq := rfl
  length := by
    rw [StorageItem.reset, h.packet]
    exact h.length

theorem Loaded.getPacket (h : item.Loaded p) : item.getPacket = .ok p := by
  rw [StorageItem.getPacket, h.packet]

end StorageItem

theorem itemAt_eq_ok {storage : List StorageItem} {ptr : ℕ} {item : StorageItem}
    (h : storage[ptr]? = some item) : itemAt storage ptr = .ok item := by
  rw [itemAt, h]

namespace RtpStreamSend

variable {s s' : RtpStreamSend} {n : ℕ} {packet : RtpPacket}

/-- The packet at an entry of the table. -/
def packetAt (s : RtpStreamSend) (seq : BitVec 16) : Option RtpPacket :=
  (s.buffer seq).bind fun ptr ↦ s.storage[ptr]?.bind StorageItem.packet

/-- The invariant of the buffer of a stream with room for `n` packets. -/
structure Inv (n : ℕ) (s : RtpStreamSend) : Prop where
  length : s.storage.length = n
  le : s.bufferSize ≤ n
  compact : Compact s.buffer s.bufferSize
  loaded : ∀ i < s.bufferSize, ∃ item p, s.storage[i]? = some item ∧ item.Loaded p
  blank : ∀ i item, s.bufferSize ≤ i → s.storage[i]? = some item → item.Blank
  start : 0 < s.bufferSize → s.buffer s.bufferStartIdx ≠ none

/-- An empty buffer with blank items satisfies the invariant. -/
theorem inv_of_empty (hlength : s.storage.length = n) (hblank : ∀ item ∈ s.storage, item.Blank)
    (hbuffer : s.buffer = fun _ ↦ none) (hsize : s.bufferSize = 0) : Inv n s where
  length := hlength
  le := by omega
  compact := by
    rw [hbuffer, hsize]
    exact compact_empty
  loaded _ h := by omega
  blank _ item _ hitem := hblank item (List.mem_of_getElem? hitem)
  start h := by omega

theorem inv_init (params : RtpStreamParams) (n : ℕ) : Inv n (init params n) := by
  refine inv_of_empty List.length_replicate (fun item hitem ↦ ?_) rfl rfl
  obtain ⟨-, rfl⟩ := List.mem_replicate.mp hitem
  exact StorageItem.blank_default

namespace Inv

/-- A used entry points to an item with a packet. -/
theorem item_of_used (h : Inv n s) {seq : BitVec 16} {ptr : ℕ} (hseq : s.buffer seq = some ptr) :
    ∃ item p, s.storage[ptr]? = some item ∧ item.Loaded p ∧ s.packetAt seq = some p := by
  obtain ⟨item, p, hitem, hloaded⟩ := h.loaded ptr (h.compact.lt hseq)
  refine ⟨item, p, hitem, hloaded, ?_⟩
  rw [packetAt, hseq, Option.bind_some, hitem, Option.bind_some, hloaded.packet]

/-- The invariant does not depend on the other members. -/
theorem congr (h : Inv n s) (hbuffer : s'.buffer = s.buffer)
    (hstart : s'.bufferStartIdx = s.bufferStartIdx) (hsize : s'.bufferSize = s.bufferSize)
    (hstorage : s'.storage = s.storage) : Inv n s' := by
  obtain ⟨h₁, h₂, h₃, h₄, h₅, h₆⟩ := h
  constructor <;> simp only [hbuffer, hstart, hsize, hstorage] <;> assumption

/-- A used item may be changed, as long as it holds a packet. -/
theorem set (h : Inv n s) {ptr : ℕ} {item : StorageItem} {p : RtpPacket} (hptr : ptr < s.bufferSize)
    (hloaded : item.Loaded p) : Inv n { s with storage := s.storage.set ptr item } where
  length := by
    rw [List.length_set]
    exact h.length
  le := h.le
  compact := h.compact
  loaded i hi := by
    have hlen : i < s.storage.length := by
      have := h.length
      have := h.le
      change i < s.bufferSize at hi
      omega
    by_cases hne : ptr = i
    · subst hne
      exact ⟨item, p, List.getElem?_set_self hlen, hloaded⟩
    · obtain ⟨item', p', hitem', hloaded'⟩ := h.loaded i hi
      exact ⟨item', p', by rwa [List.getElem?_set_ne hne], hloaded'⟩
  blank i item' hi hitem' := by
    have hne : ptr ≠ i := by
      change s.bufferSize ≤ i at hi
      omega
    rw [List.getElem?_set_ne hne] at hitem'
    exact h.blank i item' hi hitem'
  start := h.start

end Inv

/-! ## What `StorePacket` can do -/

/-- Where a packet is stored: the item, and the table, the start index and the number of used
entries afterwards. -/
inductive Place (s : RtpStreamSend) (seq : BitVec 16) :
    ℕ → (BitVec 16 → Option ℕ) → BitVec 16 → ℕ → Prop
  /-- The buffer was empty. -/
  | first : s.bufferSize = 0 → Place s seq 0 (Function.update s.buffer seq (some 0)) seq 1
  /-- The packet replaces one with the same sequence number. -/
  | replaced (ptr : ℕ) : 0 < s.bufferSize → s.buffer seq = some ptr → Place s seq ptr s.buffer
      (if s.bufferStartIdx = seq then nextUsed s.buffer s.bufferStartIdx else s.bufferStartIdx)
      s.bufferSize
  /-- There was room for one more. -/
  | added : 0 < s.bufferSize → s.bufferSize < s.storage.length → s.buffer seq = none →
      Place s seq s.bufferSize (Function.update s.buffer seq (some s.bufferSize)) s.bufferStartIdx
        (s.bufferSize + 1)
  /-- The packet at the start had to go. -/
  | recycled (ptr : ℕ) : 0 < s.bufferSize → s.storage.length ≤ s.bufferSize → s.buffer seq = none →
      s.buffer s.bufferStartIdx = some ptr → Place s seq ptr
        (Function.update (Function.update s.buffer s.bufferStartIdx none) seq (some ptr))
        (nextUsed (Function.update s.buffer s.bufferStartIdx none) s.bufferStartIdx) s.bufferSize

/-- What a call of `StorePacket` does. -/
inductive Outcome (s : RtpStreamSend) (packet : RtpPacket) : RtpStreamSend → Prop
  /-- The packet is too big, or one with its sequence number and timestamp is there. -/
  | ignored : (mtuSize < packet.size ∨ ∃ p, s.packetAt packet.getSequenceNumber = some p ∧
      packet.getTimestamp = p.getTimestamp) → Outcome s packet s
  /-- A clone of the packet is stored. -/
  | stored {ptr : ℕ} {buffer : BitVec 16 → Option ℕ} {start : BitVec 16} {size : ℕ}
      (store : List Byte) (q : RtpPacket) : packet.size ≤ mtuSize →
      (∀ p, s.packetAt packet.getSequenceNumber = some p →
        packet.getTimestamp ≠ p.getTimestamp) →
      Place s packet.getSequenceNumber ptr buffer start size →
      packet.clone store = .ok q → q.Formed → q.Located → q.content = packet.content →
      q.body.length = storeSize → q.size = packet.size →
      Outcome s packet { s with
        buffer := buffer
        bufferStartIdx := start
        bufferSize := size
        storage := s.storage.set ptr { packet := some q, store := store } }

/-- Cloning a packet into a blank item. -/
theorem clonePacket_of_blank (hp : packet.Formed) (hsize : packet.size ≤ mtuSize) {ptr : ℕ}
    {item : StorageItem} (hitem : s.storage[ptr]? = some item) (hblank : item.Blank) :
    ∃ q, packet.clone item.store = .ok q ∧ s.clonePacket ptr packet = .ok { s with
        storage := s.storage.set ptr { packet := some q, store := item.store } } ∧
      q.Formed ∧ q.Located ∧ q.content = packet.content ∧ q.body.length = storeSize ∧
      q.size = packet.size := by
  have hroom : packet.size ≤ RtpHeader.bytes + item.store.length := by
    rw [hblank.length]
    exact hsize.trans (by decide)
  obtain ⟨q, hclone, hq, hcontent, hlength, hsize'⟩ := RtpPacket.clone_spec hp hroom
  refine ⟨q, hclone, ?_, hq, hq.located_clone hclone, hcontent, hlength.trans hblank.length, hsize'⟩
  rw [clonePacket, itemAt_eq_ok hitem]
  change (packet.clone item.store >>= fun _ ↦ _) = _
  rw [hclone, hblank.eq]
  rfl

/-- The end of `StorePacket`, once the place is found and made ready. -/
theorem outcome_of_clonePacket (hp : packet.Formed) (hsize : packet.size ≤ mtuSize)
    (hnew : ∀ p, s.packetAt packet.getSequenceNumber = some p →
      packet.getTimestamp ≠ p.getTimestamp)
    {ptr : ℕ} {buffer : BitVec 16 → Option ℕ} {start : BitVec 16} {size : ℕ}
    (hplace : Place s packet.getSequenceNumber ptr buffer start size) {storage : List StorageItem}
    {item : StorageItem} (hitem : storage[ptr]? = some item) (hblank : item.Blank)
    (hset : ∀ x, storage.set ptr x = s.storage.set ptr x) :
    ∃ s', clonePacket { s with
        buffer := buffer
        bufferStartIdx := start
        bufferSize := size
        storage := storage } ptr packet = .ok s' ∧ Outcome s packet s' := by
  obtain ⟨q, hclone, hstored, hq, hlocated, hcontent, hlength, hsize'⟩ := clonePacket_of_blank
    (s := { s with
      buffer := buffer, bufferStartIdx := start, bufferSize := size, storage := storage })
    hp hsize hitem hblank
  refine ⟨_, hstored, ?_⟩
  dsimp only
  rw [hset]
  exact .stored item.store q hsize hnew hplace hclone hq hlocated hcontent hlength hsize'

/-- Resetting a used item makes it ready for the next packet. -/
theorem resetStorageItem_of_loaded {storage : List StorageItem} {ptr : ℕ} {item : StorageItem}
    {p : RtpPacket} (hitem : storage[ptr]? = some item) (hloaded : item.Loaded p) :
    resetStorageItem storage (some ptr) = .ok (storage.set ptr item.reset) ∧
      (storage.set ptr item.reset)[ptr]? = some item.reset ∧ item.reset.Blank ∧
      ∀ x, (storage.set ptr item.reset).set ptr x = storage.set ptr x := by
  refine ⟨?_, List.getElem?_set_self (List.getElem?_eq_some_iff.mp hitem).1, hloaded.reset,
    fun x ↦ List.set_set ..⟩
  rw [resetStorageItem, itemAt_eq_ok hitem]
  rfl

/-- **`StorePacket`** returns, and does one of the things it can do. -/
theorem storePacket_spec (h : Inv n s) (hn : 0 < n) (hp : packet.Formed) :
    ∃ s', s.storePacket packet = .ok s' ∧ Outcome s packet s' := by
  have hlength := h.length
  have hle := h.le
  unfold storePacket
  by_cases hbig : mtuSize < packet.size
  · exact ⟨s, if_pos hbig, .ignored (Or.inl hbig)⟩
  have hsize : packet.size ≤ mtuSize := Nat.le_of_not_lt hbig
  have hblankAt : s.bufferSize < n → ∃ item, s.storage[s.bufferSize]? = some item ∧ item.Blank := by
    intro hlt
    have hitem : s.storage[s.bufferSize]? = some s.storage[s.bufferSize] :=
      List.getElem?_eq_getElem (by omega)
    exact ⟨_, hitem, h.blank _ _ (Nat.le_refl _) hitem⟩
  have hnone : s.buffer packet.getSequenceNumber = none →
      ∀ p, s.packetAt packet.getSequenceNumber = some p → packet.getTimestamp ≠ p.getTimestamp := by
    intro hslot p hp
    rw [packetAt, hslot] at hp
    cases hp
  rw [if_neg hbig]
  dsimp only
  by_cases hempty : s.bufferSize = 0
  · have hslot : s.buffer packet.getSequenceNumber = none := by
      cases hslot : s.buffer packet.getSequenceNumber with
      | none => rfl
      | some ptr =>
        have := h.compact.lt hslot
        omega
    obtain ⟨item, hitem, hblank⟩ := hblankAt (by omega)
    rw [hempty] at hitem
    rw [if_pos hempty, hempty]
    exact outcome_of_clonePacket hp hsize (hnone hslot) (.first hempty) hitem hblank fun _ ↦ rfl
  rw [if_neg hempty]
  have hpos : 0 < s.bufferSize := Nat.pos_of_ne_zero hempty
  cases hslot : s.buffer packet.getSequenceNumber with
  | some ptr =>
    obtain ⟨item, p, hitem, hloaded, hat⟩ := h.item_of_used hslot
    obtain ⟨hreset, hitem', hblank, hset⟩ := resetStorageItem_of_loaded hitem hloaded
    dsimp only
    rw [itemAt_eq_ok hitem]
    change ∃ s', (item.getPacket >>= fun _ ↦ _) = _ ∧ _
    rw [hloaded.getPacket]
    change ∃ s', (if packet.getTimestamp = p.getTimestamp then _ else _) = _ ∧ _
    by_cases htimestamp : packet.getTimestamp = p.getTimestamp
    · rw [if_pos htimestamp]
      exact ⟨s, rfl, .ignored (Or.inr ⟨p, hat, htimestamp⟩)⟩
    rw [if_neg htimestamp, hreset]
    have hnew : ∀ p', s.packetAt packet.getSequenceNumber = some p' →
        packet.getTimestamp ≠ p'.getTimestamp := by
      intro p' hp'
      rw [hat] at hp'
      cases hp'
      exact htimestamp
    have hresult := outcome_of_clonePacket hp hsize hnew (.replaced ptr hpos hslot) hitem'
        hblank hset
    by_cases hstart : s.bufferStartIdx = packet.getSequenceNumber
    · rw [if_pos hstart] at hresult
      simp only [bind, Except.bind, if_pos hstart]
      exact hresult
    · rw [if_neg hstart] at hresult
      simp only [bind, Except.bind, if_neg hstart]
      exact hresult
  | none =>
    dsimp only
    by_cases hroom : s.bufferSize < s.storage.length
    · obtain ⟨item, hitem, hblank⟩ := hblankAt (by omega)
      rw [if_pos hroom]
      exact outcome_of_clonePacket hp hsize (hnone hslot) (.added hpos hroom hslot) hitem hblank
        fun _ ↦ rfl
    · rw [if_neg hroom]
      obtain ⟨ptr, hptr⟩ := Option.ne_none_iff_exists'.mp (h.start hpos)
      obtain ⟨item, p, hitem, hloaded, -⟩ := h.item_of_used hptr
      obtain ⟨hreset, hitem', hblank, hset⟩ := resetStorageItem_of_loaded hitem hloaded
      rw [hptr, hreset]
      exact outcome_of_clonePacket hp hsize (hnone hslot)
        (.recycled ptr hpos (Nat.le_of_not_lt hroom) hslot hptr) hitem' hblank hset

/-! ## The invariant is kept -/

/-- The scan finds a used entry if there is one, and the first one in its order. -/
theorem nextUsed_spec {buffer : BitVec 16 → Option ℕ} {y : BitVec 16} (hy : buffer y ≠ none)
    (seq : BitVec 16) : buffer (nextUsed buffer seq) ≠ none ∧
      ∀ z, buffer z ≠ none → pos (seq + 1) (nextUsed buffer seq) ≤ pos (seq + 1) z := by
  obtain ⟨x, hx⟩ := exists_scan (fun seq ↦ (buffer seq).isSome) (Option.isSome_iff_ne_none.mpr hy)
    (seq + 1)
  have hspec := scan_spec (fun seq ↦ (buffer seq).isSome) (2 ^ 16) (seq + 1)
  rw [hx] at hspec
  rw [nextUsed, hx, Option.getD_some]
  exact ⟨Option.isSome_iff_ne_none.mp hspec.1,
    fun z hz ↦ hspec.2 z (Option.isSome_iff_ne_none.mpr hz)⟩

namespace Place

variable {seq : BitVec 16} {ptr : ℕ} {buffer : BitVec 16 → Option ℕ} {start : BitVec 16} {size : ℕ}

theorem compact (h : Place s seq ptr buffer start size) (hinv : Inv n s) : Compact buffer size := by
  cases h with
  | first hempty =>
    have hcompact := hinv.compact
    rw [hempty] at hcompact
    refine hcompact.insert ?_
    cases hslot : s.buffer seq with
    | none => rfl
    | some ptr => exact absurd (hcompact.lt hslot) (Nat.not_lt_zero _)
  | replaced => exact hinv.compact
  | added _ _ hslot => exact hinv.compact.insert hslot
  | recycled ptr _ _ hslot hptr => exact hinv.compact.recycle hptr hslot

/-- One item is taken, a used one or the next one. -/
theorem size_spec (h : Place s seq ptr buffer start size) (hinv : Inv n s) (hn : 0 < n) :
    ptr < size ∧ s.bufferSize ≤ size ∧ size ≤ n ∧ ∀ i < size, i ≠ ptr → i < s.bufferSize := by
  have hle := hinv.le
  have hlength := hinv.length
  cases h with
  | first hempty => exact ⟨by omega, by omega, by omega, by omega⟩
  | replaced ptr _ hslot =>
    exact ⟨hinv.compact.lt hslot, Nat.le_refl _, hle, fun i hi _ ↦ hi⟩
  | added _ hroom _ => exact ⟨by omega, by omega, by omega, by omega⟩
  | recycled ptr _ _ _ hptr =>
    exact ⟨hinv.compact.lt hptr, Nat.le_refl _, hle, fun i hi _ ↦ hi⟩

/-- The entry at the start is used. -/
theorem start_used (h : Place s seq ptr buffer start size) (hinv : Inv n s) (hn : 2 ≤ n) :
    buffer start ≠ none := by
  cases h with
  | first =>
    rw [Function.update_self]
    exact nofun
  | replaced ptr hpos hslot =>
    split
    · exact (nextUsed_spec (by rw [hslot]; exact nofun) _).1
    · exact hinv.start hpos
  | added hpos _ hslot =>
    have hne : s.bufferStartIdx ≠ seq := by
      intro heq
      exact hinv.start hpos (heq ▸ hslot)
    rw [Function.update_of_ne hne]
    exact hinv.start hpos
  | recycled ptr _ hfull hslot hptr =>
    have hlength := hinv.length
    have hle := hinv.le
    obtain ⟨x, hne, hx⟩ := hinv.compact.exists_ne (by omega) s.bufferStartIdx
    have hother : Function.update s.buffer s.bufferStartIdx none x ≠ none := by
      rwa [Function.update_of_ne hne]
    have hused := (nextUsed_spec hother s.bufferStartIdx).1
    rw [Function.update_apply]
    split
    · exact nofun
    · exact hused

/-- The packet is found at its sequence number. -/
theorem buffer_self (h : Place s seq ptr buffer start size) : buffer seq = some ptr := by
  cases h with
  | first => exact Function.update_self ..
  | replaced ptr _ hslot => exact hslot
  | added => exact Function.update_self ..
  | recycled => exact Function.update_self ..

/-- The other entries stay as they are, except that one may be given up. -/
theorem buffer_of_ne (h : Place s seq ptr buffer start size) {x : BitVec 16} (hx : x ≠ seq) :
    buffer x = s.buffer x ∨ (buffer x = none ∧ x = s.bufferStartIdx) := by
  cases h with
  | first => exact Or.inl (Function.update_of_ne hx ..)
  | replaced => exact Or.inl rfl
  | added => exact Or.inl (Function.update_of_ne hx ..)
  | recycled =>
    rw [Function.update_of_ne hx, Function.update_apply]
    split
    · exact Or.inr ⟨rfl, ‹_›⟩
    · exact Or.inl rfl

/-- The packets of the other entries stay as they are. -/
theorem packetAt_of_ne (h : Place s seq ptr buffer start size) (hinv : Inv n s) {x : BitVec 16}
    (hx : x ≠ seq) (hused : buffer x ≠ none) (item : StorageItem) :
    packetAt { s with
      buffer := buffer
      bufferStartIdx := start
      bufferSize := size
      storage := s.storage.set ptr item } x = s.packetAt x := by
  have hsame : buffer x = s.buffer x := by
    rcases h.buffer_of_ne hx with hsame | ⟨hnone, -⟩
    · exact hsame
    · exact absurd hnone hused
  unfold packetAt
  dsimp only
  rw [hsame]
  cases hslot : s.buffer x with
  | none => rfl
  | some ptr' =>
    have hne : ptr ≠ ptr' := by
      rintro rfl
      exact hx ((h.compact hinv).inj (hsame.trans hslot) h.buffer_self)
    rw [Option.bind_some, Option.bind_some, List.getElem?_set_ne hne]

/-- The packet of the entry is the new one. -/
theorem packetAt_self (h : Place s seq ptr buffer start size) (hinv : Inv n s) (hn : 0 < n)
    (item : StorageItem) :
    packetAt { s with
      buffer := buffer
      bufferStartIdx := start
      bufferSize := size
      storage := s.storage.set ptr item } seq = item.packet := by
  obtain ⟨hptr, -, hle, -⟩ := h.size_spec hinv hn
  have hlt : ptr < s.storage.length := by
    rw [hinv.length]
    omega
  unfold packetAt
  dsimp only
  rw [h.buffer_self, Option.bind_some, List.getElem?_set_self hlt, Option.bind_some]

end Place

/-- `StorePacket` keeps the invariant. -/
theorem Outcome.inv (h : Outcome s packet s') (hinv : Inv n s) (hn : 2 ≤ n) : Inv n s' := by
  cases h with
  | ignored => exact hinv
  | @stored ptr buffer start size store q hsize hnew hplace hclone hq hlocated hcontent hlength
      hsize' =>
    obtain ⟨hptr, hle, hle', hold⟩ := hplace.size_spec hinv (by omega)
    have hloaded : StorageItem.Loaded { packet := some q, store := store } q :=
      ⟨rfl, hq, hlocated, hlength, by rw [hsize']; exact hsize⟩
    have hstorage := hinv.length
    refine ⟨?_, hle', hplace.compact hinv, fun i hi ↦ ?_, fun i item hi hitem ↦ ?_,
      fun _ ↦ hplace.start_used hinv hn⟩
    · rw [List.length_set]
      exact hstorage
    · by_cases hne : ptr = i
      · subst hne
        exact ⟨_, q, List.getElem?_set_self (by omega), hloaded⟩
      · obtain ⟨item, p, hitem, hloaded'⟩ := hinv.loaded i (hold i hi (Ne.symm hne))
        exact ⟨item, p, by rwa [List.getElem?_set_ne hne], hloaded'⟩
    · have hne : ptr ≠ i := by
        change size ≤ i at hi
        omega
      rw [List.getElem?_set_ne hne] at hitem
      exact hinv.blank i item (Nat.le_trans hle hi) hitem

/-! ## Clearing -/

/-- What the loop of `ClearBuffer` keeps: an item holds a packet if an entry points to it, and is
blank otherwise. -/
structure Clearing (buffer : BitVec 16 → Option ℕ) (storage : List StorageItem) : Prop where
  inj : ∀ {k k' i}, buffer k = some i → buffer k' = some i → k = k'
  loaded : ∀ {k i}, buffer k = some i → ∃ item p, storage[i]? = some item ∧ item.Loaded p
  blank : ∀ i item, (∀ k, buffer k ≠ some i) → storage[i]? = some item → item.Blank

theorem Inv.clearing (h : Inv n s) : Clearing s.buffer s.storage where
  inj := h.compact.inj
  loaded hk := h.loaded _ (h.compact.lt hk)
  blank i item hfree hitem := by
    refine h.blank i item (Nat.le_of_not_lt fun hlt ↦ ?_) hitem
    obtain ⟨k, hk⟩ := h.compact.surj i hlt
    exact hfree k hk

/-- One entry is cleared. -/
theorem Clearing.clear {buffer : BitVec 16 → Option ℕ} {storage : List StorageItem}
    (h : Clearing buffer storage) {idx : BitVec 16} {ptr : ℕ} {item : StorageItem}
    {p : RtpPacket} (hidx : buffer idx = some ptr) (hitem : storage[ptr]? = some item)
    (hloaded : item.Loaded p) :
    Clearing (Function.update buffer idx none) (storage.set ptr item.reset) := by
  have hold : ∀ {k i}, Function.update buffer idx none k = some i → k ≠ idx ∧
      buffer k = some i := by
    intro k i hk
    by_cases hne : k = idx
    · rw [hne, Function.update_self] at hk
      cases hk
    · rw [Function.update_of_ne hne] at hk
      exact ⟨hne, hk⟩
  refine ⟨fun hk hk' ↦ h.inj (hold hk).2 (hold hk').2, fun {k i} hk ↦ ?_,
    fun i item' hfree hitem' ↦ ?_⟩
  · obtain ⟨hne, hk⟩ := hold hk
    have hi : ptr ≠ i := by
      rintro rfl
      exact hne (h.inj hk hidx)
    obtain ⟨item', p', hitem', hloaded'⟩ := h.loaded hk
    exact ⟨item', p', by rwa [List.getElem?_set_ne hi], hloaded'⟩
  · by_cases hi : ptr = i
    · subst hi
      rw [List.getElem?_set_self (List.getElem?_eq_some_iff.mp hitem).1] at hitem'
      cases hitem'
      exact hloaded.reset
    · rw [List.getElem?_set_ne hi] at hitem'
      refine h.blank i item' (fun k hk ↦ ?_) hitem'
      have hne : k ≠ idx := by
        rintro rfl
        rw [hidx] at hk
        exact hi (Option.some.inj hk)
      exact hfree k (by rwa [Function.update_of_ne hne])

/-- The loop of `ClearBuffer` resets the items of the entries it walks over, and no null item. -/
theorem clearFrom_spec (h : Clearing s.buffer s.storage) (m : ℕ) (idx : BitVec 16) :
    ∃ storage buffer, s.clearFrom m idx = .ok { s with storage := storage, buffer := buffer } ∧
      Clearing buffer storage ∧ storage.length = s.storage.length ∧
      ∀ k, buffer k ≠ none → s.buffer k ≠ none ∧ m ≤ pos idx k := by
  induction m generalizing s idx with
  | zero => exact ⟨s.storage, s.buffer, rfl, h, rfl, fun _ hk ↦ ⟨hk, Nat.zero_le _⟩⟩
  | succ m ih =>
    rw [clearFrom]
    cases hidx : s.buffer idx with
    | none =>
      obtain ⟨storage, buffer, hclear, hclearing, hlength, hwalk⟩ := ih h (idx + 1)
      refine ⟨storage, buffer, hclear, hclearing, hlength, fun k hk ↦ ⟨(hwalk k hk).1, ?_⟩⟩
      have hne : k ≠ idx := by
        rintro rfl
        exact (hwalk k hk).1 hidx
      rw [pos_succ_of_ne hne]
      exact Nat.succ_le_succ (hwalk k hk).2
    | some ptr =>
      obtain ⟨item, p, hitem, hloaded⟩ := h.loaded hidx
      obtain ⟨hreset, -, -, -⟩ := resetStorageItem_of_loaded hitem hloaded
      obtain ⟨storage, buffer, hclear, hclearing, hlength, hwalk⟩ := ih
        (s := { s with
          storage := s.storage.set ptr item.reset
          buffer := Function.update s.buffer idx none }) (h.clear hidx hitem hloaded) (idx + 1)
      refine ⟨storage, buffer, ?_, hclearing, hlength.trans List.length_set, fun k hk ↦ ?_⟩
      · dsimp only
        rw [hreset]
        exact hclear
      · obtain ⟨hused, hpos⟩ := hwalk k hk
        have hne : k ≠ idx := by
          rintro rfl
          exact hused (Function.update_self ..)
        change Function.update s.buffer idx none k ≠ none at hused
        rw [Function.update_of_ne hne] at hused
        rw [pos_succ_of_ne hne]
        exact ⟨hused, Nat.succ_le_succ hpos⟩

/-- **`ClearBuffer`** empties the buffer. -/
theorem clearBuffer_spec (h : Inv n s) (hn : 0 < n) :
    ∃ storage, s.clearBuffer = .ok { s with
        storage := storage
        buffer := fun _ ↦ none
        bufferStartIdx := 0
        bufferSize := 0 } ∧ storage.length = n ∧ ∀ item ∈ storage, item.Blank := by
  have hlength := h.length
  have hnonempty : ¬s.storage.isEmpty = true := by
    rw [List.isEmpty_iff_length_eq_zero]
    omega
  obtain ⟨storage, buffer, hclear, hclearing, hstorage, hwalk⟩ :=
    clearFrom_spec h.clearing (2 ^ 16) 0
  have hnone : buffer = fun _ ↦ none := by
    funext k
    by_contra hk
    exact absurd (hwalk k hk).2 (Nat.not_le_of_lt (pos_lt 0 k))
  subst hnone
  refine ⟨storage, ?_, hstorage.trans hlength, fun item hitem ↦ ?_⟩
  · rw [clearBuffer, if_neg hnonempty, hclear]
    rfl
  · obtain ⟨i, hi⟩ := List.getElem?_of_mem hitem
    exact hclearing.blank i item nofun hi

end RtpStreamSend

end MediasoupSfu
