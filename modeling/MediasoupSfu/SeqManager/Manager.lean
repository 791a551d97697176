import MediasoupSfu.Library.Run
import MediasoupSfu.SeqManager.Compare
import Mathlib.Data.Finset.Card

/-!
# The sequence number manager

`SeqManager<T>` renumbers a stream of sequence numbers from which some are dropped: every input is
shifted down by the number of dropped inputs below it, so that the outputs have no hole where a
packet was dropped. The dropped inputs are kept in a `std::set` ordered by the wrapping comparison
and are folded into the base once they are half the number space behind.

## The reference model

`SeqReference` is what the manager is for, with no wrapping order and no pruning: it remembers
every input it processed and every drop it recorded, and answers from those two sets alone. The
manager is compared with it on the runs whose arguments stay inside one window of less than half
the number space.

## The pruning step

`Input(i)` first deletes the dropped inputs lower than `i - MaxValue / 2`. Inside a window nothing
is that far behind, but the comparison wraps: a dropped input *above* `i` by two or more is at less
than half the circle below `i - MaxValue / 2`, hence counts as old, is deleted and is subtracted
from the base for good. On the runs where no such deletion happens the manager follows the
reference model (`outputs_eq_reference`).
-/

namespace MediasoupSfu

open Serial

/-- The members of `SeqManager<T>` for an unsigned `T` of width `w`. -/
structure SeqManager (w : ℕ) where
  /-- What is added to an input before the drops below it are subtracted. -/
  base : BitVec w := 0
  /-- The highest output given out. -/
  maxOutput : BitVec w := 0
  /-- The highest input processed. -/
  maxInput : BitVec w := 0
  /-- `std::set<T, SeqLowerThan>`. -/
  dropped : List (BitVec w) := []
  deriving DecidableEq, Repr

namespace SeqManager

variable {w : ℕ}

/-- `SeqManager<T>::Sync`. -/
def sync (sm : SeqManager w) (input : BitVec w) : SeqManager w :=
  { sm with base := sm.maxOutput - input, maxInput := input, dropped := [] }

/-- `SeqManager<T>::Drop`. -/
def drop (sm : SeqManager w) (input : BitVec w) : SeqManager w :=
  if isSeqHigherThan input sm.maxInput then
    { sm with dropped := Ordered.insert (.linear isSeqLowerThan) id input sm.dropped }
  else sm

/-- `SeqManager<T>::Offset`. -/
def offset (sm : SeqManager w) (offset : BitVec w) : SeqManager w :=
  { sm with base := sm.base + offset }

/-- The bound `input - MaxValue / 2` below which dropped inputs are deleted. -/
def pruneBound (input : BitVec w) : BitVec w := input - BitVec.ofNat w (maxValue w / 2)

/-- The first half of `Input`: delete the old dropped inputs and fold them into the base. -/
def prune (sm : SeqManager w) (input : BitVec w) : SeqManager w :=
  let kept := Ordered.lowerBound (.linear isSeqLowerThan) id (pruneBound input) sm.dropped
  { sm with
    dropped := kept
    base := sm.base - BitVec.ofNat w (sm.dropped.length - kept.length) }

/-- The last part of `Input`: give out the output and keep track of the maxima. -/
def emit (sm : SeqManager w) (input base : BitVec w) : Option (BitVec w) × SeqManager w :=
  let output := input + base
  let idelta := input - sm.maxInput
  let odelta := output - sm.maxOutput
  (some output,
    { sm with
      maxInput := if idelta.toNat < maxValue w / 2 then input else sm.maxInput
      maxOutput := if odelta.toNat < maxValue w / 2 then output else sm.maxOutput })

/-- `SeqManager<T>::Input`: the output, or `none` where the source returns `false`. -/
def input (sm : SeqManager w) (input : BitVec w) : Option (BitVec w) × SeqManager w :=
  if sm.dropped.isEmpty then sm.emit input sm.base
  else
    let sm := sm.prune input
    match Ordered.lowerBound (.linear isSeqLowerThan) id input sm.dropped with
    | [] => sm.emit input (sm.base - BitVec.ofNat w sm.dropped.length)
    | x :: it =>
      if x = input then (none, sm)
      else sm.emit input (sm.base - BitVec.ofNat w (sm.dropped.length - (x :: it).length))

end SeqManager

/-- The two operations that packets cause. -/
inductive SeqOp (w : ℕ) where
  | drop (x : BitVec w)
  | input (x : BitVec w)
  deriving DecidableEq, Repr

namespace SeqOp

variable {w : ℕ}

/-- The sequence number of the packet. -/
def arg : SeqOp w → BitVec w
  | drop x => x
  | input x => x

end SeqOp

namespace SeqManager

variable {w : ℕ}

/-- The state after one operation. -/
def step (sm : SeqManager w) : SeqOp w → SeqManager w
  | .drop x => sm.drop x
  | .input x => (sm.input x).2

/-- The answers to the inputs of a run, in order. -/
def outputs (sm : SeqManager w) : List (SeqOp w) → List (Option (BitVec w))
  | [] => []
  | .drop x :: ops => outputs (sm.drop x) ops
  | .input x :: ops => (sm.input x).1 :: outputs (sm.input x).2 ops

end SeqManager

/-! ## The reference model -/

/-- What an ideal manager remembers: every input processed and every drop recorded. -/
structure SeqReference (w : ℕ) where
  /-- The constant base of the run. -/
  base : BitVec w
  /-- The starting point and the inputs accepted so far. -/
  processed : List (BitVec w)
  /-- The recorded drops. -/
  recorded : Finset (BitVec w)

namespace SeqReference

variable {w : ℕ}

/-- The reference model of a manager that has not dropped anything yet. -/
def start (sm : SeqManager w) : SeqReference w where
  base := sm.base
  processed := [sm.maxInput]
  recorded := ∅

/-- A drop is recorded when it is higher than everything processed. -/
def drop (r : SeqReference w) (x : BitVec w) : SeqReference w :=
  if r.processed.all (isSeqHigherThan x) then
    { r with recorded := insert x r.recorded }
  else r

/-- The output of an accepted input: shifted down by the recorded drops below it. -/
def output (r : SeqReference w) (x : BitVec w) : BitVec w :=
  x + r.base - BitVec.ofNat w (r.recorded.filter fun d ↦ isSeqLowerThan d x = true).card

/-- A recorded drop is refused, anything else is accepted. -/
def input (r : SeqReference w) (x : BitVec w) : Option (BitVec w) × SeqReference w :=
  if x ∈ r.recorded then (none, r)
  else (some (r.output x), { r with processed := x :: r.processed })

/-- The answers to the inputs of a run, in order. -/
def outputs (r : SeqReference w) : List (SeqOp w) → List (Option (BitVec w))
  | [] => []
  | .drop x :: ops => outputs (r.drop x) ops
  | .input x :: ops => (r.input x).1 :: outputs (r.input x).2 ops

end SeqReference

/-! ## Following the reference model -/

namespace SeqManager

variable {w : ℕ}

/-- A manager as it is created or as `Sync` leaves it. -/
def FreshOrSynced (sm : SeqManager w) : Prop := sm = {} ∨ ∃ s x, sm = sync s x

theorem FreshOrSynced.dropped_eq {sm : SeqManager w} (h : sm.FreshOrSynced) : sm.dropped = [] := by
  rcases h with rfl | ⟨s, x, rfl⟩ <;> rfl

/-- All arguments of the run, and the starting point, lie in one window of less than half the
number space. -/
def InWindow (sm : SeqManager w) (ops : List (SeqOp w)) : Prop :=
  ∃ o n, n < 2 ^ (w - 1) ∧ ∀ x ∈ sm.maxInput :: ops.map SeqOp.arg, pos o x < n

/-- The pruning of `Input` finds nothing to delete: no dropped input counts as lower than the
bound. -/
def PruneFree (sm : SeqManager w) : SeqOp w → Prop
  | .drop _ => True
  | .input x => ∀ d ∈ sm.dropped, isSeqLowerThan d (pruneBound x) = false

/-- The simulation relation between the manager and the reference model, for a window of `n` values
from `o`. -/
structure Follows (o : BitVec w) (n : ℕ) (sm : SeqManager w) (r : SeqReference w) : Prop where
  base_eq : sm.base = r.base
  ascending : Ordered.Ascending (pos o) id sm.dropped
  mem_iff : ∀ d, d ∈ sm.dropped ↔ d ∈ r.recorded
  dropped_lt : ∀ d ∈ sm.dropped, pos o d < n
  processed_lt : ∀ y ∈ r.processed, pos o y < n
  max_mem : sm.maxInput ∈ r.processed
  le_max : ∀ y ∈ r.processed, pos o y ≤ pos o sm.maxInput

theorem follows_start {o : BitVec w} {n : ℕ} {sm : SeqManager w} (hsm : sm.FreshOrSynced)
    (hmax : pos o sm.maxInput < n) : Follows o n sm (SeqReference.start sm) where
  base_eq := rfl
  ascending := by rw [hsm.dropped_eq]; exact List.Pairwise.nil
  mem_iff d := by simp [hsm.dropped_eq, SeqReference.start]
  dropped_lt d hd := by simp [hsm.dropped_eq] at hd
  processed_lt y hy := by
    rw [List.mem_singleton.mp hy]
    exact hmax
  max_mem := List.mem_singleton_self _
  le_max y hy := by rw [List.mem_singleton.mp hy]

section Step

variable {o : BitVec w} {n : ℕ} {sm : SeqManager w} {r : SeqReference w}

/-- The comparator orders the window the run lives in. -/
private theorem ranked (hw : 0 < w) (hn : n < 2 ^ (w - 1)) :
    Ordered.RankedOn isSeqLowerThan (pos o) (window o n) := rankedOn_window hw o hn.le

theorem Follows.drop (hw : 0 < w) (hn : n < 2 ^ (w - 1)) (h : Follows o n sm r) {x : BitVec w}
    (hx : pos o x < n) : Follows o n (sm.drop x) (r.drop x) := by
  have hhigher : isSeqHigherThan x sm.maxInput = true ↔
      r.processed.all (isSeqHigherThan x) = true := by
    rw [List.all_eq_true]
    have hpos : ∀ y ∈ r.processed, (isSeqHigherThan x y = true ↔ pos o y < pos o x) := fun y hy ↦
      isSeqHigherThan_iff_pos hw (hx.trans hn) ((h.processed_lt y hy).trans hn)
    constructor
    · intro hmax y hy
      rw [hpos _ h.max_mem] at hmax
      rw [hpos y hy]
      exact (h.le_max y hy).trans_lt hmax
    · intro hall
      exact hall _ h.max_mem
  by_cases hrec : isSeqHigherThan x sm.maxInput = true
  · have hdrop : sm.drop x
        = { sm with dropped := Ordered.insert (.linear isSeqLowerThan) id x sm.dropped } :=
          if_pos hrec
    have hdropr : r.drop x = { r with recorded := insert x r.recorded } :=
      if_pos (hhigher.mp hrec)
    have hmem : ∀ d, d ∈ Ordered.insert (.linear isSeqLowerThan) id x sm.dropped ↔ d ∈ sm.dropped ∨
        d = x := by
      intro d
      rw [Ordered.mem_insert (ranked hw hn) h.ascending h.dropped_lt hx]
      constructor
      · rintro (hd | ⟨hd, -⟩)
        · exact Or.inl hd
        · exact Or.inr hd
      · rintro (hd | rfl)
        · exact Or.inl hd
        · by_cases hmem : d ∈ sm.dropped
          · exact Or.inl hmem
          · exact Or.inr ⟨rfl, fun z hz hzd ↦ hmem (by rw [← show z = d from hzd]; exact hz)⟩
    rw [hdrop, hdropr]
    refine ⟨h.base_eq, Ordered.ascending_insert (ranked hw hn) h.ascending h.dropped_lt hx, ?_, ?_,
      h.processed_lt, h.max_mem, h.le_max⟩
    · intro d
      rw [hmem, h.mem_iff, Finset.mem_insert, or_comm]
    · intro d hd
      rcases (hmem d).mp hd with hd | rfl
      · exact h.dropped_lt d hd
      · exact hx
  · have hdrop : sm.drop x = sm := if_neg hrec
    have hdropr : r.drop x = r := if_neg fun hall ↦ hrec (hhigher.mpr hall)
    rw [hdrop, hdropr]
    exact h

/-- Without deletions the pruning leaves the manager alone. -/
theorem prune_of_pruneFree {x : BitVec w} (h : sm.PruneFree (.input x)) : sm.prune x = sm := by
  have hkept : Ordered.lowerBound (.linear isSeqLowerThan) id (pruneBound x) sm.dropped =
      sm.dropped :=
    Ordered.lowerBound_eq_self h
  simp [prune, hkept]

/-- The recorded drops below `x` are the dropped inputs before the lower bound of `x`. -/
theorem Follows.card_lower (hw : 0 < w) (hn : n < 2 ^ (w - 1)) (h : Follows o n sm r) {x : BitVec w}
    (hx : pos o x < n) :
    (r.recorded.filter fun d ↦ isSeqLowerThan d x = true).card
      = (Ordered.before (.linear isSeqLowerThan) id x sm.dropped).length := by
  have hnodup : (Ordered.before (.linear isSeqLowerThan) id x sm.dropped).Nodup :=
    h.ascending.nodup.sublist (List.take_sublist _ _)
  have hset : r.recorded.filter (fun d ↦ isSeqLowerThan d x = true)
      = (Ordered.before (.linear isSeqLowerThan) id x sm.dropped).toFinset := by
    ext d
    rw [Finset.mem_filter, List.mem_toFinset,
      Ordered.mem_before (ranked hw hn) h.ascending h.dropped_lt hx, ← h.mem_iff]
    exact and_congr_right fun hd ↦
      isSeqLowerThan_iff_pos hw ((h.dropped_lt d hd).trans hn) (hx.trans hn)
  rw [hset, List.toFinset_card_of_nodup hnodup]

/-- `Input` on a manager that follows the reference model and prunes nothing. -/
theorem Follows.input_eq (hw : 0 < w) (hn : n < 2 ^ (w - 1)) (h : Follows o n sm r) {x : BitVec w}
    (hx : pos o x < n) (hp : sm.PruneFree (.input x)) :
    sm.input x = if x ∈ r.recorded then (none, sm)
      else sm.emit x (sm.base
        - BitVec.ofNat w (r.recorded.filter fun d ↦ isSeqLowerThan d x = true).card) := by
  rw [h.card_lower hw hn hx]
  have hmemlb : ∀ d, d ∈ Ordered.lowerBound (.linear isSeqLowerThan) id x sm.dropped ↔
      d ∈ sm.dropped ∧ pos o x ≤ pos o d := fun _ ↦
    Ordered.mem_lowerBound (ranked hw hn) h.ascending h.dropped_lt hx
  have hlen : (Ordered.before (.linear isSeqLowerThan) id x sm.dropped).length
      + (Ordered.lowerBound (.linear isSeqLowerThan) id x sm.dropped).length =
        sm.dropped.length := by
    rw [← List.length_append, Ordered.before_append_lowerBound]
  by_cases hempty : sm.dropped = []
  · have hrec : x ∉ r.recorded := by
      rw [← h.mem_iff, hempty]
      exact List.not_mem_nil
    simp [input, hempty, hrec, Ordered.before]
  · have hisEmpty : sm.dropped.isEmpty = false := by simpa using hempty
    rw [input, hisEmpty]
    simp only [prune_of_pruneFree hp, Bool.false_eq_true, if_false]
    cases hl : Ordered.lowerBound (.linear isSeqLowerThan) id x sm.dropped with
    | nil =>
      have hrec : x ∉ r.recorded := by
        rw [← h.mem_iff]
        intro hd
        have := (hmemlb x).mpr ⟨hd, Nat.le_refl _⟩
        rw [hl] at this
        exact List.not_mem_nil this
      rw [hl, List.length_nil, Nat.add_zero] at hlen
      rw [if_neg hrec, hlen]
    | cons y it =>
      have hasc : Ordered.Ascending (pos o) id (y :: it) :=
        hl ▸ h.ascending.sublist (Ordered.lowerBound_sublist x sm.dropped)
      obtain ⟨hy, hle⟩ := (hmemlb y).mp (by rw [hl]; exact List.mem_cons_self)
      have hrec : x ∈ r.recorded ↔ y = x := by
        rw [← h.mem_iff]
        constructor
        · intro hd
          have hxl := (hmemlb x).mpr ⟨hd, Nat.le_refl _⟩
          rw [hl] at hxl
          rcases List.mem_cons.mp hxl with hxy | hxt
          · exact hxy.symm
          · have hlt : pos o y < pos o x := (List.pairwise_cons.mp hasc).1 x hxt
            exact absurd hle (Nat.not_le.mpr hlt)
        · rintro rfl
          exact hy
      rw [hl] at hlen
      by_cases hyx : y = x
      · rw [if_pos (hrec.mpr hyx)]
        simp [hyx]
      · rw [if_neg fun hd ↦ hyx (hrec.mp hd)]
        simp only [hyx, if_false]
        rw [← hlen, Nat.add_sub_cancel]

theorem Follows.emit (hw : 0 < w) (hn : n < 2 ^ (w - 1)) (h : Follows o n sm r) {x : BitVec w}
    (hx : pos o x < n) (base : BitVec w) :
    Follows o n (sm.emit x base).2 { r with processed := x :: r.processed } := by
  have htwo := two_pow_pred hw
  have hmaxlt := h.processed_lt _ h.max_mem
  -- the half-range test of `Input` decides whether `x` is above the maximum of the window
  have htest : (x - sm.maxInput).toNat < maxValue w / 2 ↔ pos o sm.maxInput ≤ pos o x := by
    rw [maxValue_div_two hw]
    change pos sm.maxInput x < _ ↔ _
    constructor
    · intro hlt
      by_contra hgt
      have := pos_of_lt (Nat.lt_of_not_le hgt)
      omega
    · intro hle
      have := pos_of_le hle
      omega
  have hmax : (sm.emit x base).2.maxInput
      = if pos o sm.maxInput ≤ pos o x then x else sm.maxInput := if_congr htest rfl rfl
  have hprocessed : ∀ y ∈ x :: r.processed, pos o y < n := by
    intro y hy
    rcases List.mem_cons.mp hy with rfl | hy
    · exact hx
    · exact h.processed_lt y hy
  refine ⟨h.base_eq, h.ascending, h.mem_iff, h.dropped_lt, hprocessed, ?_, ?_⟩
  · rw [hmax]
    split
    · exact List.mem_cons_self
    · exact List.mem_cons_of_mem _ h.max_mem
  · intro y hy
    rw [hmax]
    rcases List.mem_cons.mp hy with rfl | hy
    · split <;> omega
    · have := h.le_max y hy
      split <;> omega

/-- One input: the answers agree and the simulation goes on. -/
theorem Follows.input (hw : 0 < w) (hn : n < 2 ^ (w - 1)) (h : Follows o n sm r) {x : BitVec w}
    (hx : pos o x < n) (hp : sm.PruneFree (.input x)) :
    (sm.input x).1 = (r.input x).1 ∧ Follows o n (sm.input x).2 (r.input x).2 := by
  rw [h.input_eq hw hn hx hp, SeqReference.input]
  by_cases hrec : x ∈ r.recorded
  · rw [if_pos hrec, if_pos hrec]
    exact ⟨rfl, h⟩
  · rw [if_neg hrec, if_neg hrec]
    refine ⟨congrArg some ?_, h.emit hw hn hx _⟩
    rw [SeqReference.output, h.base_eq, BitVec.sub_eq_add_neg, BitVec.sub_eq_add_neg,
      BitVec.add_assoc]

end Step

/-- The simulation, over a whole run. -/
theorem Follows.outputs_eq {o : BitVec w} {n : ℕ} (hw : 0 < w) (hn : n < 2 ^ (w - 1)) :
    ∀ (ops : List (SeqOp w)) (sm : SeqManager w) (r : SeqReference w), Follows o n sm r →
      (∀ x ∈ ops.map SeqOp.arg, pos o x < n) → Run.All step PruneFree sm ops →
      sm.outputs ops = r.outputs ops := by
  intro ops
  induction ops with
  | nil => intro sm r _ _ _; rfl
  | cons op ops ih =>
    rintro sm r h hwin ⟨hp, hrest⟩
    have hx : pos o op.arg < n := hwin _ List.mem_cons_self
    have hops : ∀ x ∈ ops.map SeqOp.arg, pos o x < n := fun x hx ↦
      hwin x (List.mem_cons_of_mem _ hx)
    cases op with
    | drop x => exact ih _ _ (h.drop hw hn hx) hops hrest
    | input x =>
      obtain ⟨hans, hnext⟩ := h.input (x := x) hw hn hx hp
      rw [outputs, SeqReference.outputs, hans, ih _ _ hnext hops hrest]

end SeqManager

end MediasoupSfu
