import MediasoupSfu.SeqManager.Manager

/-!
# Runs in order

When the arguments of `Drop` and `Input` only go up, the recorded drops should never be more than
half the number space behind, because `Input` deletes the older ones. `Recent` is what this amounts
to, and on it one input is simple: whatever is deleted, the output is the input shifted by the base
less the number of recorded drops (`Recent.input`).

`Drop` does not delete, though. A drop that `Input` has just kept is more than half the number space
behind at the next `Drop` but one, and then counts as newer, so that the comparison goes round in a
circle (`dropped_cycle`). `dropped_order` says that this is the only way in which the order breaks.
-/

namespace MediasoupSfu

open Serial

namespace SeqManager

variable {w : ℕ} {last x : BitVec w} {xs : List (BitVec w)} {sm : SeqManager w} {δ : ℕ}

/-! ## One operation -/

/-- The recorded drops are in order, and none is more than `MaxValue / 2` behind. -/
structure Recent (last : BitVec w) (dropped : List (BitVec w)) : Prop where
  ascending : Ordered.Ascending (pos (pruneBound last)) id dropped
  le : ∀ d ∈ dropped, pos (pruneBound last) d ≤ maxValue w / 2

theorem recent_nil (last : BitVec w) : Recent last [] := ⟨List.Pairwise.nil, nofun⟩

theorem maxValue_div_two_lt (hw : 0 < w) : maxValue w / 2 < 2 ^ (w - 1) := by
  have hpos : 0 < 2 ^ (w - 1) := Nat.two_pow_pos _
  rw [maxValue_div_two hw]
  omega

theorem pos_pruneBound (hw : 0 < w) (x : BitVec w) : pos (pruneBound x) x = maxValue w / 2 := by
  have hlt := maxValue_div_two_lt hw
  have htwo := two_pow_pred hw
  have hx : x = pruneBound x + BitVec.ofNat w (maxValue w / 2) := (BitVec.sub_add_cancel _ _).symm
  conv_lhs => rw [hx]
  rw [pruneBound, BitVec.add_sub_cancel]
  exact pos_add_ofNat (by omega)

/-! ## The dropped set -/

theorem mem_dropped_of_mem_drop {d : BitVec w} (h : d ∈ (sm.drop x).dropped) :
    d = x ∨ d ∈ sm.dropped := by
  unfold drop at h
  split at h
  · exact Ordered.mem_of_mem_insert h
  · exact Or.inr h

/-- Deleting old drops, `Input` makes no new ones. -/
theorem dropped_input_sublist (sm : SeqManager w) (x : BitVec w) :
    (sm.input x).2.dropped.Sublist sm.dropped := by
  have hprune : (sm.prune x).dropped.Sublist sm.dropped := Ordered.lowerBound_sublist _ _
  unfold input
  split
  · exact List.Sublist.refl _
  · dsimp only
    split
    · exact hprune
    · split
      · exact hprune
      · exact hprune

/-- Only recorded numbers are refused. -/
theorem mem_of_input_eq_none (h : (sm.input x).1 = none) : x ∈ sm.dropped := by
  have hprune : (sm.prune x).dropped.Sublist sm.dropped := Ordered.lowerBound_sublist _ _
  unfold input at h
  split at h
  · cases h
  · dsimp only at h
    split at h
    · cases h
    · rename_i y it hlower
      split at h
      · rename_i hy
        rw [← hy]
        exact hprune.subset (Ordered.mem_of_mem_lowerBound (hlower ▸ List.mem_cons_self))
      · cases h

/-- A recorded number is not among the old ones at its own input. -/
theorem mem_dropped_prune (hw : 0 < w) (hx : x ∈ sm.dropped) : x ∈ (sm.prune x).dropped := by
  have hhalf := maxValue_div_two_lt hw
  have hzero : pos (pruneBound x) (pruneBound x) = 0 := by simp [pos]
  have hnot : isSeqLowerThan x (pruneBound x) = false := by
    rw [← Bool.not_eq_true, isSeqLowerThan_iff_pos (o := pruneBound x) hw
      (by rw [pos_pruneBound hw]; exact hhalf) (by rw [hzero]; exact Nat.two_pow_pos _), hzero]
    exact Nat.not_lt_zero _
  exact Ordered.mem_lowerBound_linear hx hnot

/-- While the drops are in order, every recorded number is refused. -/
theorem input_eq_none (hw : 0 < w) {o : BitVec w} (hasc : Ordered.Ascending (pos o) id sm.dropped)
    (hlt : ∀ d ∈ sm.dropped, pos o d < 2 ^ (w - 1)) (hx : x ∈ sm.dropped) :
    (sm.input x).1 = none := by
  have hprune : (sm.prune x).dropped.Sublist sm.dropped := Ordered.lowerBound_sublist _ _
  have hfind : Ordered.find? (.linear isSeqLowerThan) id x (sm.prune x).dropped = some x :=
    (Ordered.find?_eq_some_iff (rankedOn_window hw o (Nat.le_refl _)) (hasc.sublist hprune)
      (fun d hd ↦ hlt d (hprune.subset hd)) (hlt x hx)).mpr ⟨mem_dropped_prune hw hx, rfl⟩
  have hempty : sm.dropped.isEmpty = false := by
    cases hdropped : sm.dropped with
    | nil =>
      rw [hdropped] at hx
      cases hx
    | cons d ds => rfl
  unfold Ordered.find? at hfind
  rw [input, hempty]
  dsimp only [Bool.false_eq_true, if_false]
  cases hlower : Ordered.lowerBound (.linear isSeqLowerThan) id x (sm.prune x).dropped with
  | nil =>
    rw [hlower] at hfind
    cases hfind
  | cons y it =>
    rw [hlower] at hfind
    dsimp only at hfind
    split at hfind
    · cases hfind
    · obtain rfl : y = x := Option.some.inj hfind
      simp

/-- The bound moves with the argument. -/
theorem pos_pruneBound_pruneBound (last x : BitVec w) :
    pos (pruneBound last) (pruneBound x) = pos last x := by
  unfold pos pruneBound
  rw [sub_sub_sub_eq]

/-- The next argument is above the last one, by at most `MaxValue / 2`. -/
def Within (last x : BitVec w) : Prop := 0 < pos last x ∧ pos last x ≤ maxValue w / 2

namespace Recent

/-- Drops that the bound has not passed are seen from it. -/
theorem pos_of_kept (hkept : pos last x ≤ pos (pruneBound last) d) :
    pos (pruneBound x) d = pos (pruneBound last) d - pos last x := by
  rw [← pos_pruneBound_pruneBound last x] at hkept ⊢
  exact pos_of_le hkept

/-- The drops and the bound lie in one window. -/
theorem ranked (hw : 0 < w) (last : BitVec w) : Ordered.RankedOn isSeqLowerThan
    (pos (pruneBound last)) (window (pruneBound last) (2 ^ (w - 1))) :=
  rankedOn_window hw _ (Nat.le_refl _)

theorem mem_window (hw : 0 < w) (h : Recent last xs) :
    ∀ d ∈ xs, d ∈ window (pruneBound last) (2 ^ (w - 1)) :=
  fun d hd ↦ Nat.lt_of_le_of_lt (h.le d hd) (maxValue_div_two_lt hw)

theorem bound_mem_window (hw : 0 < w) (hstep : Within last x) :
    pruneBound x ∈ window (pruneBound last) (2 ^ (w - 1)) := by
  change pos (pruneBound last) (pruneBound x) < _
  rw [pos_pruneBound_pruneBound]
  exact Nat.lt_of_le_of_lt hstep.2 (maxValue_div_two_lt hw)

/-- Drops that are kept are recent at the next argument, and before it. -/
theorem shift (h : Recent last xs) (hstep : Within last x)
    (hkept : ∀ d ∈ xs, pos last x ≤ pos (pruneBound last) d) :
    Recent x xs ∧ ∀ d ∈ xs, pos (pruneBound x) d < maxValue w / 2 := by
  have hpos : ∀ d ∈ xs, pos (pruneBound x) d = pos (pruneBound last) d - pos last x :=
    fun d hd ↦ pos_of_kept (hkept d hd)
  have hlt : ∀ d ∈ xs, pos (pruneBound x) d < maxValue w / 2 := by
    intro d hd
    have hle := h.le d hd
    have hkept' := hkept d hd
    have hone := hstep.1
    rw [hpos d hd]
    omega
  refine ⟨⟨?_, fun d hd ↦ (hlt d hd).le⟩, hlt⟩
  refine List.Pairwise.imp_of_mem (fun {a b} ha hb hab ↦ ?_) h.ascending
  change pos (pruneBound last) a < pos (pruneBound last) b at hab
  change pos (pruneBound x) a < pos (pruneBound x) b
  have hkept' := hkept a ha
  rw [hpos a ha, hpos b hb]
  omega

/-- A drop at most `MaxValue / 2` behind the next argument is one that its bound has not passed. -/
theorem kept_of_pos_le (hw : 0 < w) (hstep : Within last x) {d : BitVec w}
    (hle : pos d x ≤ maxValue w / 2) : pos last x ≤ pos (pruneBound last) d := by
  by_contra hlt
  have htwo := two_pow_pred hw
  have hmax := maxValue_div_two_lt hw
  have hfar : pos (pruneBound last) x = pos last x + maxValue w / 2 := by
    rw [← pos_pruneBound hw x, ← pos_pruneBound_pruneBound last x]
    refine pos_add_pos ?_
    rw [pos_pruneBound_pruneBound, pos_pruneBound hw]
    have hshort := hstep.2
    omega
  have hpos : pos d x = pos (pruneBound last) x - pos (pruneBound last) d := pos_of_le (by omega)
  omega

/-- Drops before the argument count as lower. -/
theorem lower (hw : 0 < w) (h : ∀ d ∈ xs, pos (pruneBound x) d < maxValue w / 2) :
    ∀ d ∈ xs, isSeqLowerThan d x = true := by
  intro d hd
  have hlt := h d hd
  have hmax := maxValue_div_two_lt hw
  rw [isSeqLowerThan_iff_pos hw (hlt.trans hmax) (by rw [pos_pruneBound hw]; exact hmax),
    pos_pruneBound hw]
  exact hlt

/-- The drops that `Input` keeps. -/
theorem kept_prune (hw : 0 < w) (h : Recent last sm.dropped) (hstep : Within last x) :
    Recent x (sm.prune x).dropped ∧
      ∀ d ∈ (sm.prune x).dropped, pos (pruneBound x) d < maxValue w / 2 := by
  have hmem : ∀ d ∈ (sm.prune x).dropped, pos last x ≤ pos (pruneBound last) d := by
    intro d hd
    have hd' := (Ordered.mem_lowerBound (ranked hw last) h.ascending (h.mem_window hw)
      (bound_mem_window hw hstep)).mp hd
    rw [← pos_pruneBound_pruneBound last x]
    exact hd'.2
  have hsub : (sm.prune x).dropped.Sublist sm.dropped := Ordered.lowerBound_sublist _ _
  exact shift ⟨h.ascending.sublist hsub, fun d hd ↦ h.le d (hsub.subset hd)⟩ hstep hmem

/-- **One input in order.** The output is the input shifted by the base less the number of recorded
drops, and deleting drops changes neither this difference nor their order. -/
theorem input (hw : 0 < w) (h : Recent last sm.dropped) (hstep : sm.dropped ≠ [] → Within last x) :
    ∃ dropped base, Recent x dropped ∧
      base - BitVec.ofNat w dropped.length = sm.base - BitVec.ofNat w sm.dropped.length ∧
      sm.input x = emit { sm with dropped := dropped, base := base } x
        (sm.base - BitVec.ofNat w sm.dropped.length) := by
  by_cases hempty : sm.dropped = []
  · refine ⟨[], sm.base, recent_nil x, by rw [hempty], ?_⟩
    obtain ⟨base, maxOutput, maxInput, dropped⟩ := sm
    dsimp only at hempty
    subst hempty
    simp [SeqManager.input]
  · obtain ⟨hrecent, hlt⟩ := h.kept_prune hw (hstep hempty)
    have hlength : (sm.prune x).dropped.length ≤ sm.dropped.length :=
      (Ordered.lowerBound_sublist _ _).length_le
    have hbase : (sm.prune x).base - BitVec.ofNat w (sm.prune x).dropped.length =
        sm.base - BitVec.ofNat w sm.dropped.length := by
      have hsplit : BitVec.ofNat w sm.dropped.length =
          BitVec.ofNat w (sm.dropped.length - (sm.prune x).dropped.length) +
            BitVec.ofNat w (sm.prune x).dropped.length := by
        rw [← BitVec.ofNat_add, Nat.sub_add_cancel hlength]
      rw [hsplit]
      exact sub_sub_eq _ _ _
    refine ⟨(sm.prune x).dropped, (sm.prune x).base, hrecent, hbase, ?_⟩
    have hisEmpty : sm.dropped.isEmpty = false := by simpa using hempty
    have hlower : Ordered.lowerBound (.linear isSeqLowerThan) id x (sm.prune x).dropped = [] :=
      (Ordered.lowerBound_eq_nil (lower hw hlt)).1
    rw [SeqManager.input, hisEmpty]
    simp only [Bool.false_eq_true, if_false]
    rw [hlower, ← hbase]
    rfl

/-- A drop is recorded behind the others, if none of them is more than `MaxValue / 2` behind it. -/
theorem drop (hw : 0 < w) (h : Recent last sm.dropped) (hstep : sm.dropped ≠ [] → Within last x)
    (hdrops : ∀ d ∈ sm.dropped, pos d x ≤ maxValue w / 2) :
    Recent x (sm.drop x).dropped ∧ (sm.drop x).dropped =
      if isSeqHigherThan x sm.maxInput then sm.dropped ++ [x] else sm.dropped := by
  have hrecent : Recent x sm.dropped ∧ ∀ d ∈ sm.dropped, pos (pruneBound x) d < maxValue w / 2 := by
    by_cases hempty : sm.dropped = []
    · rw [hempty]
      exact ⟨recent_nil x, nofun⟩
    · refine h.shift (hstep hempty) fun d hd ↦ ?_
      exact kept_of_pos_le hw (hstep hempty) (hdrops d hd)
  have hlower := lower hw hrecent.2
  unfold SeqManager.drop
  split
  · have hinsert : Ordered.insert (.linear isSeqLowerThan) id x sm.dropped = sm.dropped ++ [x] :=
      Ordered.insert_eq_append hlower
    refine ⟨?_, hinsert⟩
    dsimp only
    rw [hinsert]
    refine ⟨List.pairwise_append.mpr ⟨hrecent.1.ascending, List.pairwise_singleton _ _, ?_⟩, ?_⟩
    · intro d hd y hy
      rw [List.mem_singleton.mp hy]
      change pos (pruneBound x) d < pos (pruneBound x) x
      rw [pos_pruneBound hw]
      exact hrecent.2 d hd
    · intro d hd
      rcases List.mem_append.mp hd with hd | hd
      · exact hrecent.1.le d hd
      · rw [List.mem_singleton.mp hd, pos_pruneBound hw]
  · exact ⟨hrecent.1, rfl⟩

end Recent

/-! ## The order of the dropped set -/

/-- Each argument is the successor of the one before it, the first that of `last`. -/
def Successive (last : BitVec w) : List (SeqOp w) → Prop
  | [] => True
  | op :: ops => op.arg = last + 1 ∧ Successive op.arg ops

/-- At a drop, no recorded drop is more than `MaxValue / 2` behind. -/
def DropsRecent (sm : SeqManager w) : SeqOp w → Prop
  | .drop x => ∀ d ∈ sm.dropped, (x - d).toNat ≤ maxValue w / 2
  | .input _ => True

/-- The lower bound of a key separates the lower elements from the others, whatever the search. -/
def Partitioned (k : BitVec w) (xs : List (BitVec w)) : Prop :=
  ∀ search : Ordered.Search (isSeqLowerThan (w := w)),
    Ordered.before search id k xs = xs.filter (fun d ↦ isSeqLowerThan d k) ∧
      Ordered.lowerBound search id k xs = xs.filter fun d ↦ !isSeqLowerThan d k

/-- Every lower bound that an operation looks up is a partition point. -/
def LookupsPartition (sm : SeqManager w) : SeqOp w → Prop
  | .drop x => Partitioned x sm.dropped
  | .input x => Partitioned (pruneBound x) sm.dropped ∧ Partitioned x (sm.prune x).dropped

theorem within_succ (hw : 1 < w) (last : BitVec w) : Within last (last + 1) := by
  have hone : pos last (last + 1) = 1 := pos_add_ofNat (o := last) (n := 1)
    (Nat.one_lt_two_pow (by omega))
  have hhalf : 2 ≤ 2 ^ (w - 1) := by
    calc 2 = 2 ^ 1 := rfl
      _ ≤ 2 ^ (w - 1) := Nat.pow_le_pow_right (by decide) (by omega)
  refine ⟨by omega, ?_⟩
  rw [hone, maxValue_div_two (by omega)]
  omega

theorem partitioned_of_lower (h : ∀ d ∈ xs, isSeqLowerThan d x = true) : Partitioned x xs := by
  intro search
  obtain ⟨hnil, hbefore⟩ : Ordered.lowerBound search id x xs = [] ∧
      Ordered.before search id x xs = xs := Ordered.lowerBound_eq_nil h
  have hall : xs.filter (fun d ↦ isSeqLowerThan d x) = xs := List.filter_eq_self.mpr h
  have hnone : xs.filter (fun d ↦ !isSeqLowerThan d x) = [] :=
    List.filter_eq_nil_iff.mpr fun d hd ↦ by simp [h d hd]
  rw [hnil, hbefore, hall, hnone]
  exact ⟨rfl, rfl⟩

/-- One operation in order. -/
theorem Recent.step (hw : 1 < w) (h : Recent last sm.dropped) {op : SeqOp w}
    (hop : op.arg = last + 1) (hdrops : sm.DropsRecent op) :
    Recent op.arg (sm.step op).dropped ∧ sm.LookupsPartition op := by
  have hpos : 0 < w := by omega
  cases op with
  | drop x =>
    have hstep : Within last x := by
      rw [show x = last + 1 from hop]
      exact within_succ hw last
    refine ⟨(h.drop hpos (fun _ ↦ hstep) hdrops).1, ?_⟩
    have hkept := h.shift hstep fun d hd ↦ kept_of_pos_le hpos hstep (hdrops d hd)
    exact partitioned_of_lower (lower hpos hkept.2)
  | input x =>
    have hstep : Within last x := by
      rw [show x = last + 1 from hop]
      exact within_succ hw last
    refine ⟨?_, ?_, ?_⟩
    · obtain ⟨dropped, base, hrecent, -, hinput⟩ := h.input hpos fun _ ↦ hstep
      change Recent x (sm.input x).2.dropped
      rw [hinput]
      exact hrecent
    · exact fun search ↦ Ordered.split_eq_filter (Recent.ranked hpos last) h.ascending
        (h.mem_window hpos) (bound_mem_window hpos hstep)
    · exact partitioned_of_lower (lower hpos (h.kept_prune hpos hstep).2)

/-- A run in order, from any state whose recorded drops are recent. -/
theorem Recent.run (hw : 1 < w) (ops : List (SeqOp w)) :
    ∀ (last : BitVec w) (sm : SeqManager w), Recent last sm.dropped → Successive last ops →
      Run.All SeqManager.step DropsRecent sm ops → ∀ pre post, ops = pre ++ post →
        Ordered.StrictTotalOn isSeqLowerThan {d | d ∈ (pre.foldl SeqManager.step sm).dropped} ∧
        ∀ op ∈ post.head?, (pre.foldl SeqManager.step sm).LookupsPartition op := by
  have hpos : 0 < w := by omega
  induction ops with
  | nil =>
    intro last sm h _ _ pre post hsplit
    obtain ⟨rfl, rfl⟩ := List.append_eq_nil_iff.mp hsplit.symm
    exact ⟨(ranked hpos last).strictTotalOn (h.mem_window hpos), nofun⟩
  | cons op ops ih =>
    rintro last sm h ⟨hop, hops⟩ ⟨hdrop, hdrops⟩ pre post hsplit
    obtain ⟨hnext, hlookups⟩ := h.step hw hop hdrop
    cases pre with
    | nil =>
      refine ⟨(ranked hpos last).strictTotalOn (h.mem_window hpos), fun op' hop' ↦ ?_⟩
      rw [List.nil_append] at hsplit
      rw [← hsplit] at hop'
      obtain rfl : op = op' := Option.some.inj hop'
      exact hlookups
    | cons op' pre =>
      obtain ⟨rfl, htail⟩ := List.cons.inj hsplit
      exact ih op.arg (sm.step op) hnext hops hdrops pre post htail

/-- **The order of the dropped set.** In every run in order in which no drop finds a recorded one
more than `MaxValue / 2` behind, the comparison is a strict total order on the dropped set after
every operation, and every lower bound that is looked up is the partition point. -/
theorem dropped_order (hw : 1 < w) (sm : SeqManager w) (hsm : sm.FreshOrSynced) (last : BitVec w)
    (ops : List (SeqOp w)) (hops : Successive last ops) (hdrops : Run.All step DropsRecent sm ops) :
    ∀ pre post, ops = pre ++ post →
      Ordered.StrictTotalOn isSeqLowerThan {d | d ∈ (pre.foldl step sm).dropped} ∧
      ∀ op ∈ post.head?, (pre.foldl step sm).LookupsPartition op := by
  refine Recent.run hw ops last sm ?_ hops hdrops
  rw [hsm.dropped_eq]
  exact recent_nil last

/-- The arguments from one on, of which some are dropped. -/
def consecutiveOps (w n : ℕ) (drops : List ℕ) : List (SeqOp w) :=
  (List.range n).map fun i ↦
    if i + 1 ∈ drops then .drop (BitVec.ofNat w (i + 1)) else .input (BitVec.ofNat w (i + 1))

instance decidableSuccessive : ∀ (last : BitVec w) (ops : List (SeqOp w)),
    Decidable (Successive last ops)
  | _, [] => isTrue trivial
  | last, op :: ops =>
    haveI := decidableSuccessive op.arg ops
    inferInstanceAs (Decidable (op.arg = last + 1 ∧ Successive op.arg ops))

instance (sm : SeqManager w) : ∀ op, Decidable (DropsRecent sm op)
  | .drop x => inferInstanceAs (Decidable (∀ d ∈ sm.dropped, (x - d).toNat ≤ maxValue w / 2))
  | .input _ => isTrue trivial

/-- Two drops less than half the number space apart. -/
theorem dropped_order_two_drops :
    Ordered.StrictTotalOn isSeqLowerThan
        {d | d ∈ ((consecutiveOps 8 60 [1, 50]).foldl step {}).dropped} ∧
      ((consecutiveOps 8 60 [1, 50]).foldl step {}).dropped = [1, 50] := by
  refine ⟨(dropped_order (by decide) {} (Or.inl rfl) 0 (consecutiveOps 8 60 [1, 50]) ?_ ?_ _ []
    (List.append_nil _).symm).1, ?_⟩
  · decide +kernel
  · decide +kernel
  · decide +kernel

/-- Fewer than `n` drops are consecutive, after `k` of them. -/
def dropRunsBelow (n : ℕ) : ℕ → List (SeqOp w) → Bool
  | k, [] => decide (k < n)
  | k, .drop _ :: ops => decide (k + 1 < n) && dropRunsBelow n (k + 1) ops
  | _, .input _ :: ops => dropRunsBelow n 0 ops

/-- **The order goes round in a circle.** The drop of 1 is kept by the input of 128, and counts as
newer than the drop of 129 that comes next. -/
theorem dropped_cycle :
    Successive 0 (consecutiveOps 8 129 [1, 50, 129]) ∧
      dropRunsBelow 2 0 (consecutiveOps 8 129 [1, 50, 129]) = true ∧
      ((consecutiveOps 8 129 [1, 50, 129]).foldl step {}).dropped = [129, 1, 50] ∧
      isSeqLowerThan (1 : BitVec 8) 50 = true ∧ isSeqLowerThan (50 : BitVec 8) 129 = true ∧
      isSeqLowerThan (129 : BitVec 8) 1 = true ∧
      ¬Ordered.StrictTotalOn isSeqLowerThan
        {d | d ∈ ((consecutiveOps 8 129 [1, 50, 129]).foldl step {}).dropped} := by
  have hdropped : ((consecutiveOps 8 129 [1, 50, 129]).foldl step {}).dropped = [129, 1, 50] := by
    decide +kernel
  refine ⟨by decide +kernel, by decide +kernel, hdropped, by decide, by decide, by decide,
    fun horder ↦ ?_⟩
  rw [hdropped] at horder
  have hcycle := horder.no_cycle (a := 1) (b := 50) (c := 129) (by simp) (by simp) (by simp)
    (by decide) (by decide)
  exact absurd hcycle (by decide)

end SeqManager

end MediasoupSfu
