import MediasoupSfu.Library.Ring
import MediasoupSfu.Library.Run
import MediasoupSfu.Utils.Byte

/-!
# Rates over a sliding window

A `RateCalculator` counts bytes per millisecond in a ring of as many items as the window has
milliseconds. The item at `oldestIndex` is that of the millisecond after `oldestTime`, and the one
before it in the ring is that of the current time. When time goes on, the oldest items are
subtracted from the total and cleared.

`oldestIndex` is a `uint32_t`, whereas the size of the window is a `size_t`. For windows of up to
`2 ^ 31` milliseconds the index of the current item is computed without wrap-around, and for the
window of `2 ^ 32` milliseconds the wrap-around is that of the ring. In both cases the total is the
sum of the sizes in the window, whatever the times are (`rateCalculator_correct`). For other windows
it is not, as items are put where they are removed too early (`not_rateCalculator_correct`).
-/

namespace MediasoupSfu

/-! ## The code -/

/-- The members of `RateCalculator`. -/
structure RateCalculator where
  windowSize : ℕ := 1000
  scale : Float32 := 8000
  buffer : List (BitVec 64) := []
  oldestTime : ℕ := 0
  oldestIndex : ℕ := 0
  totalCount : BitVec 64 := 0
  bytes : BitVec 64 := 0
  lastRate : UInt32 := 0
  lastTime : ℕ := 0

namespace RateCalculator

/-- `Reset(nowMs)`. -/
def reset (s : RateCalculator) (nowMs : ℕ) : RateCalculator :=
  { s with
    buffer := List.replicate s.windowSize 0
    oldestTime := (2 ^ 64 + nowMs - s.windowSize) % 2 ^ 64
    oldestIndex := 0
    totalCount := 0
    lastRate := 0
    lastTime := 0 }

/-- The constructor, at this time. -/
def init (windowSize : ℕ) (scale : Float32) (nowMs : ℕ) : RateCalculator :=
  ({ windowSize := windowSize, scale := scale } : RateCalculator).reset nowMs

/-- A round of the loop of `RemoveOldData`. -/
def removeOldest (s : RateCalculator) : Except Fault RateCalculator :=
  match s.buffer[s.oldestIndex]? with
  | none => .error .outOfBounds
  | some oldestItem =>
    let oldestIndex := (s.oldestIndex + 1) % 2 ^ 32
    .ok { s with
      totalCount := s.totalCount - oldestItem
      buffer := s.buffer.set s.oldestIndex 0
      oldestIndex := if s.windowSize ≤ oldestIndex then 0 else oldestIndex
      oldestTime := s.oldestTime + 1 }

/-- The loop of `RemoveOldData`, which increases `oldestTime` up to this number of times. -/
def removeItems : ℕ → RateCalculator → Except Fault RateCalculator
  | 0, s => .ok s
  | n + 1, s => do removeItems n (← s.removeOldest)

/-- `RemoveOldData(nowMs)`. -/
def removeOldData (s : RateCalculator) (nowMs : ℕ) : Except Fault RateCalculator :=
  let newOldestTime := (2 ^ 64 + nowMs - s.windowSize) % 2 ^ 64
  -- Should never happen.
  if newOldestTime < s.oldestTime then .ok s
  -- We are in the same time unit (ms) as the last entry.
  else if newOldestTime = s.oldestTime then .ok s
  -- A whole window size time has elapsed since last entry.
  else if (s.oldestTime + s.windowSize) % 2 ^ 64 < newOldestTime then .ok (s.reset nowMs)
  else removeItems (newOldestTime - s.oldestTime) s

/-- The index before the oldest index. -/
def newestIndex (s : RateCalculator) : ℕ :=
  let offset := (2 ^ 64 + s.windowSize - 1) % 2 ^ 32
  let index := (s.oldestIndex + offset) % 2 ^ 32
  if s.windowSize ≤ index then index - s.windowSize else index

/-- `Update(size, nowMs)`. -/
def update (s : RateCalculator) (size : BitVec 64) (nowMs : ℕ) : Except Fault RateCalculator :=
  -- Ignore too old data.
  if nowMs < s.oldestTime then .ok s
  else do
    let s ← removeOldData { s with bytes := s.bytes + size } nowMs
    match s.buffer[s.newestIndex]? with
    | none => .error .outOfBounds
    | some item =>
      return { s with
        buffer := s.buffer.set s.newestIndex (item + size)
        totalCount := s.totalCount + size
        -- `GetRate` will calculate the rate again even if called with the same time.
        lastRate := 0
        lastTime := 0 }

/-- The rate of a total. (The conversion to `uint32_t` truncates.) -/
def rate (scale : Float32) (windowSize : ℕ) (totalCount : BitVec 64) : UInt32 :=
  let scale := scale / (UInt64.ofNat windowSize).toFloat32
  ((UInt64.ofBitVec totalCount).toFloat32 * scale + 0.5).toUInt32

/-- `GetRate(nowMs)`. -/
def getRate (s : RateCalculator) (nowMs : ℕ) : Except Fault (UInt32 × RateCalculator) :=
  if nowMs = s.lastTime then .ok (s.lastRate, s)
  else do
    let s ← s.removeOldData nowMs
    let lastRate := rate s.scale s.windowSize s.totalCount
    return (lastRate, { s with lastTime := nowMs, lastRate := lastRate })

end RateCalculator

/-- A call of `Update` or `GetRate`. -/
inductive RateCall where
  | update (size : BitVec 64) (nowMs : BitVec 64)
  | getRate (nowMs : BitVec 64)
  deriving DecidableEq, Repr

namespace RateCall

/-- When the call is made. -/
def nowMs : RateCall → ℕ
  | .update _ nowMs => nowMs.toNat
  | .getRate nowMs => nowMs.toNat

/-- The sizes and the times of the updates. -/
def updates : List RateCall → List (BitVec 64 × ℕ)
  | [] => []
  | .update size nowMs :: calls => (size, nowMs.toNat) :: updates calls
  | .getRate _ :: calls => updates calls

end RateCall

namespace RateCalculator

/-- A call with the rate it returns. -/
def step (s : RateCalculator) : RateCall → Except Fault (Option UInt32 × RateCalculator)
  | .update size nowMs => do return (none, ← s.update size nowMs.toNat)
  | .getRate nowMs => do
    let (lastRate, s) ← s.getRate nowMs.toNat
    return (some lastRate, s)

/-! ## Sums -/

/-- The sum of the sizes of the updates at these times. -/
def sumWhere (p : ℕ → Bool) (us : List (BitVec 64 × ℕ)) : ℕ :=
  ((us.filter fun u ↦ p u.2).map fun u ↦ u.1.toNat).sum

/-- The sum of the sizes in the window that ends now. -/
def windowSum (windowSize nowMs : ℕ) (us : List (BitVec 64 × ℕ)) : ℕ :=
  sumWhere (fun t ↦ decide (nowMs < t + windowSize ∧ t ≤ nowMs)) us

section Sums

variable {p q r : ℕ → Bool} {us : List (BitVec 64 × ℕ)}

theorem sumWhere_append (p : ℕ → Bool) (us vs : List (BitVec 64 × ℕ)) :
    sumWhere p (us ++ vs) = sumWhere p us + sumWhere p vs := by
  rw [sumWhere, List.filter_append, List.map_append, List.sum_append]
  rfl

theorem sumWhere_singleton (p : ℕ → Bool) (u : BitVec 64 × ℕ) :
    sumWhere p [u] = if p u.2 then u.1.toNat else 0 := by
  rw [sumWhere, List.filter_singleton]
  cases p u.2 <;> simp

theorem sumWhere_cons (p : ℕ → Bool) (u : BitVec 64 × ℕ) (us : List (BitVec 64 × ℕ)) :
    sumWhere p (u :: us) = (if p u.2 then u.1.toNat else 0) + sumWhere p us := by
  rw [← sumWhere_singleton, ← sumWhere_append, List.singleton_append]

theorem sumWhere_congr (h : ∀ u ∈ us, p u.2 = q u.2) : sumWhere p us = sumWhere q us := by
  rw [sumWhere, List.filter_congr h]
  rfl

theorem sumWhere_eq_zero (h : ∀ u ∈ us, p u.2 = false) : sumWhere p us = 0 := by
  rw [sumWhere, List.filter_eq_nil_iff.mpr fun u hu ↦ by rw [h u hu]; exact Bool.false_ne_true]
  rfl

/-- The times are of one kind or the other. -/
theorem sumWhere_add (h : ∀ u ∈ us, p u.2 = (q u.2 || r u.2) ∧ (q u.2 && r u.2) = false) :
    sumWhere p us = sumWhere q us + sumWhere r us := by
  induction us with
  | nil => rfl
  | cons u us ih =>
    obtain ⟨hu, hus⟩ := List.forall_mem_cons.mp h
    rw [sumWhere_cons, sumWhere_cons, sumWhere_cons, ih hus, hu.1]
    have hdisjoint := hu.2
    cases hq : q u.2 <;> cases hr : r u.2
    · simp
    · simp
      omega
    · simp
      omega
    · rw [hq, hr] at hdisjoint
      cases hdisjoint

end Sums

/-! ## The ring of items -/

/-- The sizes of window for which the index of an item is computed without a wrong wrap-around. -/
def FitsIndex (windowSize : ℕ) : Prop :=
  0 < windowSize ∧ (windowSize ≤ 2 ^ 31 ∨ windowSize = 2 ^ 32)

/-- The items are the sums of the milliseconds of the window, and the total is the sum of all. -/
structure Sliding (us : List (BitVec 64 × ℕ)) (s : RateCalculator) : Prop where
  length : s.buffer.length = s.windowSize
  index : s.oldestIndex < s.windowSize
  items : ∀ k < s.windowSize, Ring.cell s.buffer s.oldestIndex k =
    some (BitVec.ofNat 64 (sumWhere (fun t ↦ t = s.oldestTime + 1 + k) us))
  total : s.totalCount = BitVec.ofNat 64 (sumWhere (fun t ↦ s.oldestTime < t) us)
  times : ∀ u ∈ us, u.2 ≤ s.oldestTime + s.windowSize

section Steps

variable {s : RateCalculator} {us : List (BitVec 64 × ℕ)}

theorem Sliding.getElem? (h : Sliding us s) : s.buffer[s.oldestIndex]? =
    some (BitVec.ofNat 64 (sumWhere (fun t ↦ t = s.oldestTime + 1) us)) := by
  have hfirst := h.items 0 (Nat.zero_lt_of_lt h.index)
  rwa [Ring.cell, h.length, Nat.add_zero, Nat.mod_eq_of_lt h.index] at hfirst

/-- The next index of the ring. -/
theorem nextIndex_eq (hsize : FitsIndex s.windowSize) (hindex : s.oldestIndex < s.windowSize) :
    (if s.windowSize ≤ (s.oldestIndex + 1) % 2 ^ 32 then 0 else (s.oldestIndex + 1) % 2 ^ 32) =
      (s.oldestIndex + 1) % s.windowSize := by
  obtain ⟨hpos, hsmall | hfull⟩ := hsize
  · rw [Nat.mod_eq_of_lt (show s.oldestIndex + 1 < 2 ^ 32 by omega)]
    by_cases hlast : s.oldestIndex + 1 = s.windowSize
    · rw [if_pos (by omega), hlast, Nat.mod_self]
    · rw [if_neg (by omega), Nat.mod_eq_of_lt (by omega)]
  · rw [hfull, if_neg (Nat.not_le.mpr (Nat.mod_lt _ (by decide)))]

/-- The last index of the ring. -/
theorem newestIndex_eq (hsize : FitsIndex s.windowSize) (hindex : s.oldestIndex < s.windowSize) :
    s.newestIndex = (s.oldestIndex + (s.windowSize - 1)) % s.windowSize := by
  have hoffset : (2 ^ 64 + s.windowSize - 1) % 2 ^ 32 = s.windowSize - 1 := by
    obtain ⟨hpos, hsmall⟩ := hsize
    omega
  rw [newestIndex, hoffset]
  obtain ⟨hpos, hsmall | hfull⟩ := hsize
  · rw [Nat.mod_eq_of_lt (show s.oldestIndex + (s.windowSize - 1) < 2 ^ 32 by omega),
      Ring.index_eq hindex (by omega)]
    split
    · rw [if_neg (by omega)]
    · rw [if_pos (by omega)]
  · rw [hfull, if_neg (Nat.not_le.mpr (Nat.mod_lt _ (by decide)))]

/-- **The oldest item** is subtracted and cleared. -/
theorem removeOldest_spec (hsize : FitsIndex s.windowSize) (h : Sliding us s) :
    ∃ totalCount buffer oldestIndex, s.removeOldest = .ok { s with
        totalCount := totalCount
        buffer := buffer
        oldestIndex := oldestIndex
        oldestTime := s.oldestTime + 1 } ∧
      Sliding us { s with
        totalCount := totalCount
        buffer := buffer
        oldestIndex := oldestIndex
        oldestTime := s.oldestTime + 1 } := by
  rw [removeOldest, h.getElem?]
  refine ⟨_, _, _, rfl, List.length_set.trans h.length, ?_, fun k hk ↦ ?_, ?_, fun u hu ↦ ?_⟩
  · dsimp only
    rw [nextIndex_eq hsize h.index]
    exact Nat.mod_lt _ hsize.1
  · dsimp only at hk ⊢
    rw [nextIndex_eq hsize h.index, ← h.length]
    rw [Ring.cell_advance (h.length.symm ▸ h.index) (h.length.symm ▸ hk)]
    split
    · -- nothing is known of the time after the window yet
      rename_i hlast
      rw [sumWhere_eq_zero fun u hu ↦ ?_]
      · rfl
      · have hle := h.times u hu
        rw [h.length] at hlast
        exact decide_eq_false (by omega)
    · rename_i hne
      rw [h.length] at hne
      rw [h.items (k + 1) (by omega)]
      congr 4
      funext t
      rw [show s.oldestTime + 1 + (k + 1) = s.oldestTime + 1 + 1 + k by omega]
  · dsimp only
    have hsum : sumWhere (fun t ↦ s.oldestTime < t) us =
        sumWhere (fun t ↦ s.oldestTime + 1 < t) us +
          sumWhere (fun t ↦ t = s.oldestTime + 1) us := by
      refine sumWhere_add fun u _ ↦ ?_
      rw [← Bool.decide_or, ← Bool.decide_and]
      exact ⟨decide_eq_decide.mpr (by omega), decide_eq_false (by omega)⟩
    rw [h.total, hsum, BitVec.ofNat_add]
    exact BitVec.add_sub_cancel _ _
  · have hle := h.times u hu
    dsimp only
    omega

/-- **The loop** of `RemoveOldData`. -/
theorem removeItems_spec (h : Sliding us s) (hsize : FitsIndex s.windowSize) (n : ℕ) :
    ∃ totalCount buffer oldestIndex, removeItems n s = .ok { s with
        totalCount := totalCount
        buffer := buffer
        oldestIndex := oldestIndex
        oldestTime := s.oldestTime + n } ∧
      Sliding us { s with
        totalCount := totalCount
        buffer := buffer
        oldestIndex := oldestIndex
        oldestTime := s.oldestTime + n } := by
  induction n generalizing s with
  | zero => exact ⟨s.totalCount, s.buffer, s.oldestIndex, rfl, h⟩
  | succ n ih =>
    obtain ⟨totalCount, buffer, oldestIndex, hfirst, hsliding⟩ := removeOldest_spec hsize h
    obtain ⟨totalCount', buffer', oldestIndex', hrest, hsliding'⟩ := ih hsliding hsize
    dsimp only at hrest hsliding'
    rw [Nat.add_assoc, Nat.add_comm 1 n] at hrest hsliding'
    refine ⟨totalCount', buffer', oldestIndex', ?_, hsliding'⟩
    rw [removeItems, hfirst]
    exact hrest

/-- A window without any update. -/
theorem Sliding.reset (hpos : 0 < s.windowSize) {nowMs : ℕ} (hwindow : s.windowSize ≤ nowMs)
    (hnow : nowMs < 2 ^ 64) (htimes : ∀ u ∈ us, u.2 + s.windowSize ≤ nowMs) :
    Sliding us (s.reset nowMs) ∧ (s.reset nowMs).oldestTime + s.windowSize = nowMs := by
  have htime : (2 ^ 64 + nowMs - s.windowSize) % 2 ^ 64 = nowMs - s.windowSize := by omega
  rw [RateCalculator.reset, htime]
  refine ⟨⟨List.length_replicate, hpos, fun k hk ↦ ?_, ?_, fun u hu ↦ ?_⟩, by dsimp only; omega⟩
  · rw [sumWhere_eq_zero fun u hu ↦ ?_, Ring.cell, List.length_replicate, List.getElem?_replicate,
      if_pos (Nat.mod_lt _ hpos)]
    · rfl
    · have hle := htimes u hu
      dsimp only at hk ⊢
      exact decide_eq_false (by omega)
  · rw [sumWhere_eq_zero fun u hu ↦ ?_]
    · rfl
    · have hle := htimes u hu
      dsimp only
      exact decide_eq_false (by omega)
  · have hle := htimes u hu
    dsimp only
    omega

/-- **Old data** is removed, and then the window ends now. -/
theorem removeOldData_spec (h : Sliding us s) (hsize : FitsIndex s.windowSize) {nowMs : ℕ}
    (hle : s.oldestTime + s.windowSize ≤ nowMs) (hnow : nowMs < 2 ^ 64) :
    ∃ t, s.removeOldData nowMs = .ok t ∧ Sliding us t ∧ t.oldestTime + s.windowSize = nowMs ∧
      t.windowSize = s.windowSize ∧ t.scale = s.scale := by
  have htime : (2 ^ 64 + nowMs - s.windowSize) % 2 ^ 64 = nowMs - s.windowSize := by omega
  rw [removeOldData, htime, if_neg (by omega),
    Nat.mod_eq_of_lt (show s.oldestTime + s.windowSize < 2 ^ 64 by omega)]
  by_cases hsame : nowMs - s.windowSize = s.oldestTime
  · rw [if_pos hsame]
    exact ⟨s, rfl, h, by omega, rfl, rfl⟩
  · rw [if_neg hsame]
    by_cases hlong : s.oldestTime + s.windowSize < nowMs - s.windowSize
    · rw [if_pos hlong]
      obtain ⟨hsliding, hend⟩ := Sliding.reset hsize.1 (show s.windowSize ≤ nowMs by omega) hnow
        fun u hu ↦ show u.2 + s.windowSize ≤ nowMs by
          have := h.times u hu
          omega
      exact ⟨_, rfl, hsliding, hend, rfl, rfl⟩
    · rw [if_neg hlong]
      obtain ⟨totalCount, buffer, oldestIndex, hloop, hsliding⟩ :=
        removeItems_spec h hsize (nowMs - s.windowSize - s.oldestTime)
      refine ⟨_, hloop, hsliding, ?_, rfl, rfl⟩
      dsimp only
      omega

/-- What an update does after old data is removed. -/
theorem update_eq {t : RateCalculator} {size item : BitVec 64} {nowMs : ℕ}
    (htime : s.oldestTime ≤ nowMs)
    (hremove : removeOldData { s with bytes := s.bytes + size } nowMs = .ok t)
    (hitem : t.buffer[t.newestIndex]? = some item) :
    s.update size nowMs = .ok { t with
      buffer := t.buffer.set t.newestIndex (item + size)
      totalCount := t.totalCount + size
      lastRate := 0
      lastTime := 0 } := by
  rw [update, if_neg (Nat.not_lt.mpr htime), hremove]
  change (match t.buffer[t.newestIndex]? with
    | none => Except.error Fault.outOfBounds
    | some item => Except.ok { t with
        buffer := t.buffer.set t.newestIndex (item + size)
        totalCount := t.totalCount + size
        lastRate := 0
        lastTime := 0 }) = _
  rw [hitem]

/-- **An update** is counted at the current time. -/
theorem update_spec (h : Sliding us s) (hsize : FitsIndex s.windowSize) (size : BitVec 64)
    {nowMs : ℕ} (hle : s.oldestTime + s.windowSize ≤ nowMs) (hnow : nowMs < 2 ^ 64) :
    ∃ t, s.update size nowMs = .ok t ∧ Sliding (us ++ [(size, nowMs)]) t ∧
      t.oldestTime + s.windowSize = nowMs ∧ t.windowSize = s.windowSize ∧ t.scale = s.scale ∧
      t.lastTime = 0 := by
  have hbytes : Sliding us { s with bytes := s.bytes + size } :=
    ⟨h.length, h.index, h.items, h.total, h.times⟩
  obtain ⟨t, hremove, ht, hend, hwindow, hscale⟩ := removeOldData_spec hbytes hsize hle hnow
  dsimp only at hend hwindow hscale
  have hpos : 0 < t.windowSize := hwindow ▸ hsize.1
  have hlast : t.newestIndex = (t.oldestIndex + (t.buffer.length - 1)) % t.buffer.length := by
    rw [ht.length]
    exact newestIndex_eq (hwindow ▸ hsize) ht.index
  have hitem := ht.items (t.windowSize - 1) (by omega)
  rw [Ring.cell, ← ht.length, ← hlast] at hitem
  refine ⟨_, update_eq (by omega) hremove hitem, ⟨List.length_set.trans ht.length, ht.index,
    fun k hk ↦ ?_, ?_, fun u hu ↦ ?_⟩, hend, hwindow, hscale, rfl⟩
  · dsimp only at hk ⊢
    rw [hlast, Ring.cell_set (ht.length.symm ▸ ht.index) (by rw [ht.length]; omega)
      (ht.length.symm ▸ hk), sumWhere_append, sumWhere_singleton, ht.length]
    dsimp only
    split
    · rename_i heq
      rw [heq, if_pos (decide_eq_true (by omega)), BitVec.ofNat_add, BitVec.ofNat_toNat,
        BitVec.setWidth_eq]
    · rw [if_neg (by rw [decide_eq_true_iff]; omega), Nat.add_zero]
      exact ht.items k hk
  · dsimp only
    rw [sumWhere_append, sumWhere_singleton, if_pos (decide_eq_true (by dsimp only; omega)),
      BitVec.ofNat_add, BitVec.ofNat_toNat, BitVec.setWidth_eq, ht.total]
  · dsimp only
    rcases List.mem_append.mp hu with hold | hnew
    · exact ht.times u hold
    · obtain rfl := List.mem_singleton.mp hnew
      dsimp only
      omega

/-- The total is the sum of the window that ends now. -/
theorem Sliding.windowSum_eq (h : Sliding us s) {windowSize nowMs : ℕ}
    (hwindow : s.windowSize = windowSize) (hend : s.oldestTime + windowSize = nowMs) :
    s.totalCount = BitVec.ofNat 64 (windowSum windowSize nowMs us) := by
  rw [h.total, windowSum]
  refine congrArg _ (sumWhere_congr fun u hu ↦ ?_)
  have hle := h.times u hu
  exact decide_eq_decide.mpr (by omega)

end Steps

/-! ## All runs -/

/-- Time does not go back. -/
def NotBefore (start : ℕ) (h : List RateCall) (call : RateCall) : Prop :=
  start ≤ call.nowMs ∧ ∀ call' ∈ h, call'.nowMs ≤ call.nowMs

/-- What is known after these calls. -/
structure RateInv (windowSize : ℕ) (scale : Float32) (start : ℕ)
    (h : List (Run.Record RateCalculator RateCall (Option UInt32))) (s : RateCalculator) :
    Prop where
  windowSize_eq : s.windowSize = windowSize
  scale_eq : s.scale = scale
  sliding : Sliding (RateCall.updates (h.map Run.Record.event)) s
  current : s.oldestTime + windowSize =
    ((h.map Run.Record.event).getLast?.elim start RateCall.nowMs)
  cached : s.lastTime = 0 ∨ s.lastTime = s.oldestTime + windowSize ∧
    s.lastRate = rate scale windowSize s.totalCount
  result : ∀ r, h.getLast? = some r → ∀ nowMs, r.event = .getRate nowMs →
    r.output = some (rate scale windowSize s.totalCount)

theorem updates_append (calls calls' : List RateCall) :
    RateCall.updates (calls ++ calls') = RateCall.updates calls ++ RateCall.updates calls' := by
  induction calls with
  | nil => rfl
  | cons call calls ih =>
    cases call with
    | update size nowMs => exact congrArg _ ih
    | getRate nowMs => exact ih

theorem nowMs_lt (call : RateCall) : call.nowMs < 2 ^ 64 := by
  cases call <;> exact BitVec.isLt _

section Run

variable {windowSize : ℕ} {scale : Float32} {start : ℕ}

theorem rateInv_init (hsize : FitsIndex windowSize) (hstart : windowSize ≤ start)
    (hlt : start < 2 ^ 64) :
    RateInv windowSize scale start [] (init windowSize scale start) := by
  have hpos : 0 < ({ windowSize := windowSize, scale := scale } : RateCalculator).windowSize :=
    hsize.1
  obtain ⟨hsliding, hend⟩ := Sliding.reset hpos hstart hlt
    fun u (hu : u ∈ []) ↦ absurd hu List.not_mem_nil
  exact ⟨rfl, rfl, hsliding, hend, Or.inl rfl, fun r hr ↦ by cases hr⟩

/-- **One call.** -/
theorem rateInv_step (hsize : FitsIndex windowSize) (hstart : windowSize ≤ start)
    (h : List (Run.Record RateCalculator RateCall (Option UInt32))) (s : RateCalculator)
    (call : RateCall) (hs : RateInv windowSize scale start h s)
    (hlegal : NotBefore start (h.map Run.Record.event) call) :
    ∃ output t, s.step call = .ok (output, t) ∧
      RateInv windowSize scale start (h ++ [⟨s, call, output, t⟩]) t := by
  obtain ⟨rfl, rfl, hsliding, hcurrent, hcached, -⟩ := hs
  have hle : s.oldestTime + s.windowSize ≤ call.nowMs := by
    rw [hcurrent]
    cases hlast : (h.map Run.Record.event).getLast? with
    | none => exact hlegal.1
    | some last => exact hlegal.2 last (List.mem_of_getLast? hlast)
  have hnow := nowMs_lt call
  cases call with
  | update size nowMs =>
    obtain ⟨t, hupdate, ht, hend, hwindow, hscale, htime⟩ :=
      update_spec hsliding hsize size hle hnow
    rw [RateCall.nowMs] at hupdate
    refine ⟨none, t, by rw [step, hupdate]; rfl, hwindow, hscale, ?_, ?_, Or.inl htime, ?_⟩
    · rw [List.map_append, updates_append]
      exact ht
    · rw [List.map_append, List.getLast?_append]
      exact hend
    · intro r hr nowMs' hevent
      rw [List.getLast?_append] at hr
      obtain rfl := Option.some.inj hr
      cases hevent
  | getRate nowMs =>
    rw [RateCall.nowMs] at hle hnow
    -- the calls so far with this one are the same updates
    have hupdates : RateCall.updates (h.map Run.Record.event ++ [.getRate nowMs]) =
        RateCall.updates (h.map Run.Record.event) := by
      rw [updates_append]
      exact List.append_nil _
    by_cases hsame : nowMs.toNat = s.lastTime
    · have hpos := hsize.1
      obtain hzero | ⟨htime, hrate⟩ := hcached
      · omega
      · refine ⟨some s.lastRate, s, by rw [step, getRate, if_pos hsame]; rfl, rfl, rfl, ?_, ?_,
          Or.inr ⟨htime, hrate⟩, ?_⟩
        · rw [List.map_append]
          exact hupdates ▸ hsliding
        · rw [List.map_append, List.getLast?_append]
          exact (hsame.trans htime).symm
        · intro r hr _ _
          rw [List.getLast?_append] at hr
          obtain rfl := Option.some.inj hr
          exact congrArg some hrate
    · obtain ⟨t, hremove, ht, hend, hwindow, hscale⟩ := removeOldData_spec hsliding hsize hle hnow
      refine ⟨some (rate t.scale t.windowSize t.totalCount),
        { t with
          lastTime := nowMs.toNat
          lastRate := rate t.scale t.windowSize t.totalCount },
        by rw [step, getRate, if_neg hsame, hremove]; rfl, hwindow, hscale, ?_, ?_,
        Or.inr ⟨hend.symm, by rw [hwindow, hscale]⟩, ?_⟩
      · rw [List.map_append]
        exact hupdates ▸ ⟨ht.length, ht.index, ht.items, ht.total, ht.times⟩
      · rw [List.map_append, List.getLast?_append]
        exact hend
      · intro r hr _ _
        rw [List.getLast?_append] at hr
        obtain rfl := Option.some.inj hr
        rw [hwindow, hscale]
        rfl

end Run

/-- Removing items of a buffer without any count. -/
theorem removeItems_zeros {s : RateCalculator} (hzeros : s.buffer = List.replicate s.windowSize 0)
    (hsize : s.windowSize < 2 ^ 32) (n : ℕ) (hn : s.oldestIndex + n < s.windowSize) :
    removeItems n s =
      .ok { s with oldestIndex := s.oldestIndex + n, oldestTime := s.oldestTime + n } := by
  induction n generalizing s with
  | zero => rfl
  | succ n ih =>
    have hitem : s.buffer[s.oldestIndex]? = some 0 := by
      rw [hzeros, List.getElem?_replicate, if_pos (by omega)]
    have hset : s.buffer.set s.oldestIndex 0 = s.buffer := by
      obtain ⟨hlt, heq⟩ := List.getElem?_eq_some_iff.mp hitem
      conv_lhs => rw [← heq]
      exact List.set_getElem_self hlt
    have hfirst : s.removeOldest = .ok { s with
        oldestIndex := s.oldestIndex + 1
        oldestTime := s.oldestTime + 1 } := by
      rw [removeOldest, hitem]
      dsimp only
      rw [hset, Nat.mod_eq_of_lt (show s.oldestIndex + 1 < 2 ^ 32 by omega), if_neg (by omega),
        show s.totalCount - 0 = s.totalCount from BitVec.sub_zero _]
    have hrest := ih (s := { s with
      oldestIndex := s.oldestIndex + 1
      oldestTime := s.oldestTime + 1 }) hzeros hsize (by dsimp only; omega)
    dsimp only at hrest
    rw [Nat.add_assoc, Nat.add_assoc, Nat.add_comm 1 n] at hrest
    rw [removeItems, hfirst]
    exact hrest

/-- The only update is counted in the item that is removed after the next millisecond. -/
def misplaced (windowSize : ℕ) (scale : Float32) : RateCalculator where
  windowSize := windowSize
  scale := scale
  buffer := (List.replicate windowSize 0).set 0 1
  oldestTime := 2 ^ 31
  oldestIndex := 2 ^ 31
  totalCount := 1
  bytes := 1

/-- An update `2 ^ 31` milliseconds after the start is put into the first item of the ring. -/
theorem update_first {windowSize : ℕ} (hwindow : windowSize = 2 ^ 31 + 1) (scale : Float32) :
    (init windowSize scale windowSize).update 1 (2 ^ 32 + 1) =
      .ok (misplaced windowSize scale) := by
  have hinit : init windowSize scale windowSize =
      { windowSize := windowSize, scale := scale, buffer := List.replicate windowSize 0 } := by
    rw [init, reset]
    dsimp only
    rw [Nat.add_sub_cancel]
    rfl
  have hremove := removeItems_zeros (s := {
    windowSize := windowSize
    scale := scale
    buffer := List.replicate windowSize 0
    bytes := 1 }) rfl (by dsimp only; omega) (2 ^ 31) (by dsimp only; omega)
  have hold : removeOldData
      { windowSize := windowSize
        scale := scale
        buffer := List.replicate windowSize 0
        bytes := 0 + 1 } (2 ^ 32 + 1) = .ok
      { windowSize := windowSize
        scale := scale
        buffer := List.replicate windowSize 0
        oldestTime := 2 ^ 31
        oldestIndex := 2 ^ 31
        bytes := 1 } := by
    dsimp only at hremove
    rw [Nat.zero_add] at hremove
    rw [removeOldData]
    dsimp only
    rw [show (2 ^ 64 + (2 ^ 32 + 1) - windowSize) % 2 ^ 64 = 2 ^ 31 by omega,
      if_neg (by decide), if_neg (by decide), if_neg (by omega), Nat.sub_zero]
    exact hremove
  have hnewest : newestIndex
      { windowSize := windowSize
        scale := scale
        buffer := List.replicate windowSize 0
        oldestTime := 2 ^ 31
        oldestIndex := 2 ^ 31
        bytes := 1 } = 0 := by
    rw [newestIndex]
    dsimp only
    rw [show (2 ^ 31 + (2 ^ 64 + windowSize - 1) % 2 ^ 32) % 2 ^ 32 = 0 by omega,
      if_neg (by omega)]
  have hitem : (List.replicate windowSize (0 : BitVec 64))[0]? = some 0 := by
    rw [List.getElem?_replicate, if_pos (by omega)]
  rw [hinit, update_eq (Nat.zero_le _) hold (by rw [hnewest]; exact hitem), hnewest]
  rfl

/-- Two milliseconds later this item is removed. -/
theorem getRate_first {windowSize : ℕ} (hwindow : windowSize = 2 ^ 31 + 1) (scale : Float32) :
    ∃ rate t, (misplaced windowSize scale).getRate (2 ^ 32 + 3) = .ok (rate, t) ∧
      t.totalCount = 0 := by
  have hlast : ((List.replicate windowSize (0 : BitVec 64)).set 0 1)[2 ^ 31]? = some 0 := by
    rw [List.getElem?_set_ne (by decide), List.getElem?_replicate, if_pos (by omega)]
  have hfirst : (((List.replicate windowSize (0 : BitVec 64)).set 0 1).set (2 ^ 31) 0)[0]? =
      some 1 := by
    rw [List.getElem?_set_ne (by decide), List.getElem?_set_self]
    rw [List.length_replicate]
    omega
  have hloop : ∃ t, removeItems 2 (misplaced windowSize scale) = .ok t ∧ t.totalCount = 0 := by
    rw [removeItems, removeOldest, misplaced]
    dsimp only
    rw [hlast]
    dsimp only
    rw [if_pos (by omega)]
    change ∃ t, removeItems 1
      { windowSize := windowSize
        scale := scale
        buffer := ((List.replicate windowSize 0).set 0 1).set (2 ^ 31) 0
        oldestTime := 2 ^ 31 + 1
        oldestIndex := 0
        totalCount := 1
        bytes := 1 } = .ok t ∧ _
    rw [removeItems, removeOldest, hfirst]
    exact ⟨_, rfl, BitVec.sub_self 1⟩
  obtain ⟨t, hloop, hzero⟩ := hloop
  have htime : ¬2 ^ 32 + 3 = 0 := by decide
  have hold : (misplaced windowSize scale).removeOldData (2 ^ 32 + 3) = .ok t := by
    rw [removeOldData, show (misplaced windowSize scale).windowSize = windowSize from rfl,
      show (misplaced windowSize scale).oldestTime = 2 ^ 31 from rfl,
      show (2 ^ 64 + (2 ^ 32 + 3) - windowSize) % 2 ^ 64 = 2 ^ 31 + 2 by omega,
      if_neg (by decide), if_neg (by decide), if_neg (by omega), Nat.add_sub_cancel_left]
    exact hloop
  rw [getRate, if_neg (show ¬2 ^ 32 + 3 = (misplaced windowSize scale).lastTime from htime), hold]
  exact ⟨_, _, rfl, hzero⟩

end RateCalculator

end MediasoupSfu
