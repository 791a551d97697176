import MediasoupSfu.SeqManager.InOrder

/-!
# Contiguous outputs

A manager whose arguments go up gives out numbers without holes: from one input to the next the
output grows by the distance of the inputs less the drops recorded in between, and after `Sync` it
goes on with the number after the greatest one.

`Renumbering` is this count in natural numbers, with nothing wrapped and nothing deleted.
`contiguous` compares the manager with it over runs of any length. Between two inputs there is no
bound on how far the outputs may be apart. After `Sync` there is one: the manager takes an output
that is `MaxValue / 2` or more above the greatest one for an old one, and then goes on from the
wrong number (`resync_after_jump`).
-/

namespace MediasoupSfu

open Serial

/-- An operation of a stream in order, with its unwrapped argument. -/
inductive StreamOp where
  | drop (i : ℕ)
  | input (i : ℕ)
  /-- `Sync(i - 1)` followed by `Input(i)`. -/
  | resync (i : ℕ)
  deriving DecidableEq, Repr

/-- The argument of an operation. -/
def StreamOp.arg : StreamOp → ℕ
  | drop i => i
  | input i => i
  | resync i => i

/-- What the outputs of a run should be. -/
structure Renumbering (w : ℕ) where
  /-- The previous input. -/
  input : ℕ := 0
  /-- The output that was given for it. -/
  given : BitVec w := 0
  /-- The drops recorded since then. -/
  drops : ℕ := 0
  /-- The output for the previous input in natural numbers. -/
  output : ℕ := 0
  /-- The greatest output so far. -/
  maxOutput : ℕ := 0

namespace Renumbering

variable {w : ℕ}

/-- The output of an input: the previous output plus the distance of the inputs less the drops in
between, or after `Sync` the number after the greatest one. -/
def answer (r : Renumbering w) : StreamOp → ℕ
  | .drop _ => 0
  | .input i => r.output + (i - r.input) - r.drops
  | .resync _ => r.maxOutput + 1

/-- The count after an operation. A drop counts if it is recorded. -/
def next (r : Renumbering w) (recorded : Bool) (given : Option (BitVec w)) :
    StreamOp → Renumbering w
  | .drop _ => if recorded then { r with drops := r.drops + 1 } else r
  | op =>
    { input := op.arg
      given := given.getD r.given
      drops := 0
      output := r.answer op
      maxOutput := max r.maxOutput (r.answer op) }

end Renumbering

namespace SeqManager

variable {w : ℕ} {sm : SeqManager w} {s : SeqManager w × Renumbering w} {last i : ℕ}
  {op : StreamOp}

/-- What the manager does for an operation: the answer to `Input`, and the manager afterwards. -/
def serve (sm : SeqManager w) : StreamOp → Option (BitVec w) × SeqManager w
  | .drop i => (none, sm.drop (BitVec.ofNat w i))
  | .input i => sm.input (BitVec.ofNat w i)
  | .resync i => (sm.sync (BitVec.ofNat w i - 1)).input (BitVec.ofNat w i)

/-- A drop that `Drop` records. -/
def records (sm : SeqManager w) : StreamOp → Bool
  | .drop i => isSeqHigherThan (BitVec.ofNat w i) sm.maxInput
  | _ => false

/-- The manager and the count side by side. -/
def advance (s : SeqManager w × Renumbering w) (op : StreamOp) : SeqManager w × Renumbering w :=
  ((s.1.serve op).2, s.2.next (s.1.records op) (s.1.serve op).1 op)

/-- The arguments go up, by less than `MaxValue / 2` in one step. -/
def StepsFrom (w last : ℕ) : List StreamOp → Prop
  | [] => True
  | op :: ops => last < op.arg ∧ op.arg < last + maxValue w / 2 ∧ StepsFrom w op.arg ops

/-- A run in order. The first argument is any number, where the sequence number zero is counted as
`2 ^ w`. -/
def InOrder (w : ℕ) : List StreamOp → Prop
  | [] => True
  | op :: ops => 0 < op.arg ∧ StepsFrom w op.arg ops

/-- At a drop, no recorded drop is more than `MaxValue / 2` behind. -/
def StreamDropsRecent (s : SeqManager w × Renumbering w) : StreamOp → Prop
  | .drop i => ∀ d ∈ s.1.dropped, (BitVec.ofNat w i - d).toNat ≤ maxValue w / 2
  | _ => True

/-- An output is less than `MaxValue / 2` above the greatest one before it. -/
def InReach (s : SeqManager w × Renumbering w) : StreamOp → Prop
  | .drop _ => True
  | op => s.2.answer op < s.2.maxOutput + maxValue w / 2

/-! ## The invariant -/

/-- The manager keeps the distances, after operations up to `last`. -/
structure Keeps (last : ℕ) (s : SeqManager w × Renumbering w) : Prop where
  recent : Recent (BitVec.ofNat w last) s.1.dropped
  base : s.1.base - BitVec.ofNat w s.1.dropped.length + BitVec.ofNat w (s.2.input + s.2.drops) =
    s.2.given
  le : s.2.input + s.2.drops ≤ last
  max_eq : s.2.maxOutput = s.2.output

/-- The manager knows the greatest output. -/
structure Tracks (s : SeqManager w × Renumbering w) : Prop where
  max_eq : s.1.maxOutput = BitVec.ofNat w s.2.maxOutput
  given_eq : s.2.given = BitVec.ofNat w s.2.output

/-- What is known about an operation before it is served. -/
structure Legal (last : ℕ) (s : SeqManager w × Renumbering w) (op : StreamOp) : Prop where
  lt : last < op.arg
  within : s.1.dropped ≠ [] → Within (BitVec.ofNat w last) (BitVec.ofNat w op.arg)
  drops : StreamDropsRecent s op

/-- Numbers that go up by less than `MaxValue / 2` do so in the number space. -/
theorem within_ofNat (hw : 0 < w) (hlt : last < i) (hle : i < last + maxValue w / 2) :
    Within (BitVec.ofNat w last) (BitVec.ofNat w i) := by
  have htwo := two_pow_pred hw
  have hmax := maxValue_div_two_lt hw
  have hpos : pos (BitVec.ofNat w last) (BitVec.ofNat w i) = i - last :=
    pos_ofNat_ofNat hlt.le (by omega)
  exact ⟨by omega, by omega⟩

theorem keeps_init (last : ℕ) : Keeps last (({}, {}) : SeqManager w × Renumbering w) :=
  ⟨recent_nil _, by simp, Nat.zero_le _, rfl⟩

/-- The output grows. -/
theorem Keeps.lt_answer (h : Keeps last s) (hop : last < op.arg) (hdrop : ∀ i, op ≠ .drop i) :
    s.2.maxOutput < s.2.answer op := by
  have hle := h.le
  have hmax := h.max_eq
  cases op with
  | drop i => exact absurd rfl (hdrop i)
  | input i =>
    change last < i at hop
    change s.2.maxOutput < s.2.output + (i - s.2.input) - s.2.drops
    omega
  | resync i => exact Nat.lt_succ_self _

/-- A drop. -/
theorem Keeps.drop (hw : 0 < w) (h : Keeps last s) (hlegal : Legal last s (.drop i)) :
    Keeps i (advance s (.drop i)) ∧ (Tracks s → Tracks (advance s (.drop i))) := by
  obtain ⟨sm, r⟩ := s
  have hlt : last < i := hlegal.lt
  obtain ⟨hrecent, hdropped⟩ :=
    h.recent.drop (x := BitVec.ofNat w i) hw hlegal.within hlegal.drops
  have hle := h.le
  have hbase := h.base
  dsimp only at hrecent hdropped hle hbase
  by_cases hrecorded : isSeqHigherThan (BitVec.ofNat w i) sm.maxInput = true
  · have hadvance : advance (sm, r) (.drop i) =
        (sm.drop (BitVec.ofNat w i), { r with drops := r.drops + 1 }) :=
      congrArg (Prod.mk _) (if_pos hrecorded)
    have hsame : (sm.drop (BitVec.ofNat w i)).base = sm.base ∧
        (sm.drop (BitVec.ofNat w i)).maxOutput = sm.maxOutput := by
      unfold SeqManager.drop
      rw [if_pos hrecorded]
      exact ⟨rfl, rfl⟩
    rw [if_pos hrecorded] at hdropped
    rw [hadvance]
    refine ⟨⟨hrecent, ?_, ?_, h.max_eq⟩,
      fun htracks ↦ ⟨hsame.2.trans htracks.max_eq, htracks.given_eq⟩⟩
    · dsimp only
      rw [hsame.1, hdropped, List.length_append, List.length_singleton, ← Nat.add_assoc,
        BitVec.ofNat_add sm.dropped.length, BitVec.ofNat_add (r.input + r.drops), ← hbase]
      generalize BitVec.ofNat w sm.dropped.length = a
      generalize BitVec.ofNat w (r.input + r.drops) = b
      grind
    · change r.input + (r.drops + 1) ≤ i
      omega
  · have hadvance : advance (sm, r) (.drop i) = (sm.drop (BitVec.ofNat w i), r) :=
      congrArg (Prod.mk _) (if_neg hrecorded)
    have hsame : sm.drop (BitVec.ofNat w i) = sm := if_neg hrecorded
    rw [hadvance]
    rw [hsame] at hrecent ⊢
    exact ⟨⟨hrecent, hbase, hle.trans hlt.le, h.max_eq⟩, id⟩

/-- The maximum follows an output that is in reach. -/
theorem maxOutput_emit (hw : 0 < w) {x base : BitVec w} {maxOutput output : ℕ}
    (hmax : sm.maxOutput = BitVec.ofNat w maxOutput) (houtput : x + base = BitVec.ofNat w output)
    (hle : maxOutput ≤ output) (hreach : output < maxOutput + maxValue w / 2) :
    (sm.emit x base).2.maxOutput = BitVec.ofNat w output := by
  have htwo := two_pow_pred hw
  have hlt := maxValue_div_two_lt hw
  have hpos : pos (BitVec.ofNat w maxOutput) (BitVec.ofNat w output) = output - maxOutput :=
    pos_ofNat_ofNat hle (by omega)
  have htest : (x + base - sm.maxOutput).toNat < maxValue w / 2 := by
    rw [houtput, hmax]
    change pos _ _ < _
    omega
  exact (if_pos htest).trans houtput

/-- **An input.** -/
theorem Keeps.input (hw : 0 < w) (h : Keeps last s) (hlegal : Legal last s (.input i)) :
    (s.1.serve (.input i)).1 =
        some (s.2.given + BitVec.ofNat w (i - s.2.input) - BitVec.ofNat w s.2.drops) ∧
      Keeps i (advance s (.input i)) ∧
      (Tracks s → InReach s (.input i) → Tracks (advance s (.input i))) := by
  obtain ⟨sm, r⟩ := s
  obtain ⟨dropped, base, hrecent, hbase, hinput⟩ :=
    h.recent.input (x := BitVec.ofNat w i) hw hlegal.within
  have hlt : last < i := hlegal.lt
  have hle := h.le
  have hgiven := h.base
  have hgrows := h.lt_answer hlegal.lt nofun
  dsimp only at hbase hinput hle hgiven hgrows ⊢
  generalize hb : sm.base - BitVec.ofNat w sm.dropped.length = b at hbase hinput hgiven
  have hwrapped : BitVec.ofNat w (i - r.input) + BitVec.ofNat w r.input = BitVec.ofNat w i := by
    rw [← BitVec.ofNat_add, Nat.sub_add_cancel (by omega)]
  have hadd : BitVec.ofNat w (r.input + r.drops) = BitVec.ofNat w r.input +
      BitVec.ofNat w r.drops :=
    BitVec.ofNat_add _ _
  have houtput : BitVec.ofNat w i + b =
      r.given + BitVec.ofNat w (i - r.input) - BitVec.ofNat w r.drops := by
    rw [hadd] at hgiven
    rw [← hgiven, ← hwrapped]
    generalize BitVec.ofNat w (i - r.input) = x
    generalize BitVec.ofNat w r.input = y
    generalize BitVec.ofNat w r.drops = z
    grind
  have hadvance : advance (sm, r) (.input i) =
      ((sm.input (BitVec.ofNat w i)).2, r.next false (sm.input (BitVec.ofNat w i)).1 (.input i)) :=
      rfl
  rw [hadvance]
  change (sm.input (BitVec.ofNat w i)).1 = _ ∧ _
  rw [hinput, ← houtput]
  refine ⟨rfl, ⟨hrecent, ?_, Nat.le_refl i, Nat.max_eq_right hgrows.le⟩, fun htracks hreach ↦ ?_⟩
  · change base - BitVec.ofNat w dropped.length + BitVec.ofNat w i = BitVec.ofNat w i + b
    rw [hbase, BitVec.add_comm]
  · have hunwrapped : BitVec.ofNat w i + b = BitVec.ofNat w (r.answer (.input i)) := by
      have hsum : r.answer (.input i) + r.drops = r.output + (i - r.input) := by
        change r.output + (i - r.input) - r.drops + r.drops = _
        omega
      have hwrappedSum := congrArg (BitVec.ofNat w) hsum
      rw [BitVec.ofNat_add, BitVec.ofNat_add, ← htracks.given_eq] at hwrappedSum
      rw [houtput, ← hwrappedSum, BitVec.add_sub_cancel]
    refine ⟨?_, hunwrapped⟩
    have hmax : max r.maxOutput (r.answer (.input i)) = r.answer (.input i) :=
      Nat.max_eq_right hgrows.le
    change _ = BitVec.ofNat w (max r.maxOutput (r.answer (.input i)))
    rw [hmax]
    exact maxOutput_emit hw htracks.max_eq hunwrapped hgrows.le hreach

/-- **An input after `Sync`.** -/
theorem Keeps.resync (hw : 0 < w) (s : SeqManager w × Renumbering w) (i : ℕ) :
    (s.1.serve (.resync i)).1 = some (s.1.maxOutput + 1) ∧ Keeps i (advance s (.resync i)) ∧
      (Tracks s → InReach s (.resync i) → Tracks (advance s (.resync i))) := by
  obtain ⟨sm, r⟩ := s
  have hinput : (sm.sync (BitVec.ofNat w i - 1)).input (BitVec.ofNat w i) =
      (sm.sync (BitVec.ofNat w i - 1)).emit (BitVec.ofNat w i)
        (sm.maxOutput - (BitVec.ofNat w i - 1)) := rfl
  have houtput : BitVec.ofNat w i + (sm.maxOutput - (BitVec.ofNat w i - 1)) = sm.maxOutput + 1 := by
    generalize BitVec.ofNat w i = x
    grind
  have hmax : max r.maxOutput (r.maxOutput + 1) = r.maxOutput + 1 :=
    Nat.max_eq_right (Nat.le_succ _)
  have hadvance : advance (sm, r) (.resync i) =
      (((sm.sync (BitVec.ofNat w i - 1)).input (BitVec.ofNat w i)).2, r.next false
        ((sm.sync (BitVec.ofNat w i - 1)).input (BitVec.ofNat w i)).1 (.resync i)) := rfl
  rw [hadvance]
  change ((sm.sync (BitVec.ofNat w i - 1)).input (BitVec.ofNat w i)).1 = _ ∧ _
  rw [hinput, ← houtput]
  refine ⟨rfl, ⟨recent_nil _, ?_, Nat.le_refl i, hmax⟩, fun htracks hreach ↦ ?_⟩
  · change sm.maxOutput - (BitVec.ofNat w i - 1) - BitVec.ofNat w 0 + BitVec.ofNat w i =
      BitVec.ofNat w i + (sm.maxOutput - (BitVec.ofNat w i - 1))
    rw [BitVec.add_comm]
    exact congrArg _ (BitVec.sub_zero _)
  · have hunwrapped : BitVec.ofNat w i + (sm.maxOutput - (BitVec.ofNat w i - 1)) =
        BitVec.ofNat w (r.maxOutput + 1) := by
      rw [houtput, htracks.max_eq, BitVec.ofNat_add]
      rfl
    refine ⟨?_, hunwrapped⟩
    change _ = BitVec.ofNat w (max r.maxOutput (r.maxOutput + 1))
    rw [hmax]
    have hsynced : (sm.sync (BitVec.ofNat w i - 1)).maxOutput = BitVec.ofNat w r.maxOutput :=
      htracks.max_eq
    exact maxOutput_emit hw hsynced hunwrapped (Nat.le_succ _) hreach

/-- **One operation.** -/
theorem Keeps.advance (hw : 0 < w) (h : Keeps last s) (hlegal : Legal last s op) :
    Keeps op.arg (advance s op) ∧ (Tracks s → InReach s op → Tracks (SeqManager.advance s op)) := by
  cases op with
  | drop i =>
    obtain ⟨hkeeps, htracks⟩ := h.drop hw hlegal
    exact ⟨hkeeps, fun ht _ ↦ htracks ht⟩
  | input i => exact (h.input hw hlegal).2
  | resync i => exact (Keeps.resync hw s i).2

/-! ## Runs -/

/-- An input goes on from the previous output, and, if the manager knows the greatest output, an
input after `Sync` goes on from that. -/
structure Contiguous (s : SeqManager w × Renumbering w) (op : StreamOp) : Prop where
  input : ∀ i, op = .input i → s.2.input + s.2.drops < i ∧ (s.1.serve op).1 =
    some (s.2.given + BitVec.ofNat w (i - s.2.input) - BitVec.ofNat w s.2.drops)
  resync : ∀ i, op = .resync i → Tracks s →
    (s.1.serve op).1 = some (BitVec.ofNat w (s.2.maxOutput + 1))

theorem Keeps.contiguous_step (hw : 0 < w) (h : Keeps last s) (hlegal : Legal last s op) :
    Contiguous s op := by
  refine ⟨?_, ?_⟩
  · rintro i rfl
    exact ⟨Nat.lt_of_le_of_lt h.le hlegal.lt, (h.input hw hlegal).1⟩
  · rintro i rfl htracks
    rw [(Keeps.resync hw s i).1, htracks.max_eq, BitVec.ofNat_add]
    rfl

/-- A run in order, from any state that keeps the distances. -/
theorem Keeps.run (hw : 0 < w) (ops : List StreamOp) :
    ∀ (last : ℕ) (s : SeqManager w × Renumbering w), Keeps last s → StepsFrom w last ops →
      Run.All SeqManager.advance StreamDropsRecent s ops →
      ∀ pre op post, ops = pre ++ op :: post → Contiguous (pre.foldl SeqManager.advance s) op ∧
        (Tracks s → Run.All SeqManager.advance InReach s pre →
          Tracks (pre.foldl SeqManager.advance s)) := by
  induction ops with
  | nil => exact fun _ _ _ _ _ pre op post hsplit ↦ absurd hsplit.symm (by simp)
  | cons op ops ih =>
    rintro last s h ⟨hlt, hle, hsteps⟩ ⟨hdrop, hdrops⟩ pre op' post hsplit
    have hlegal : Legal last s op := ⟨hlt, fun _ ↦ within_ofNat hw hlt hle, hdrop⟩
    obtain ⟨hkeeps, htracks⟩ := h.advance hw hlegal
    cases pre with
    | nil =>
      obtain ⟨rfl, -⟩ := List.cons.inj hsplit
      exact ⟨h.contiguous_step hw hlegal, fun ht _ ↦ ht⟩
    | cons op'' pre =>
      obtain ⟨rfl, htail⟩ := List.cons.inj hsplit
      obtain ⟨hcontiguous, hrest⟩ := ih op.arg _ hkeeps hsteps hdrops pre op' post htail
      exact ⟨hcontiguous, fun ht hreach ↦ hrest (htracks ht hreach.1) hreach.2⟩

/-- The manager and the count after a run of a new manager. -/
def stateAfter (w : ℕ) (ops : List StreamOp) : SeqManager w × Renumbering w :=
  ops.foldl advance ({}, {})

theorem stateAfter_run (hw : 0 < w) {ops : List StreamOp} (hops : InOrder w ops)
    (hdrops : Run.All advance StreamDropsRecent (stateAfter w []) ops) {pre post : List StreamOp}
    (hsplit : ops = pre ++ op :: post) : Contiguous (stateAfter w pre) op ∧
      (Run.All advance InReach (stateAfter w []) pre → Tracks (stateAfter w pre)) := by
  have htracks : Tracks (stateAfter w []) := ⟨rfl, rfl⟩
  cases ops with
  | nil => exact absurd hsplit.symm (by simp)
  | cons first ops =>
    obtain ⟨hpos, hsteps⟩ := hops
    have hkeeps : Keeps (first.arg - 1) (stateAfter w []) := keeps_init _
    have hlegal : Legal (first.arg - 1) (stateAfter w []) first :=
      ⟨by omega, fun hne ↦ absurd rfl hne, hdrops.1⟩
    cases pre with
    | nil =>
      obtain ⟨rfl, -⟩ := List.cons.inj hsplit
      exact ⟨hkeeps.contiguous_step hw hlegal, fun _ ↦ htracks⟩
    | cons first' pre =>
      obtain ⟨rfl, htail⟩ := List.cons.inj hsplit
      obtain ⟨hkeeps', htracks'⟩ := hkeeps.advance hw hlegal
      obtain ⟨hcontiguous, hrest⟩ :=
        Keeps.run hw ops first.arg _ hkeeps' hsteps hdrops.2 pre op post htail
      exact ⟨hcontiguous, fun hreach ↦ hrest (htracks' htracks hreach.1) hreach.2⟩

/-- **Contiguous outputs.** In every run in order whose drops find no recorded one more than
`MaxValue / 2` behind, every input outputs the previous output plus the distance from the previous
input less the drops recorded in between. An input after `Sync` outputs the number after the
greatest output, if every output before it was less than `MaxValue / 2` above the greatest one
before. -/
theorem contiguous (hw : 0 < w) (ops : List StreamOp) (hops : InOrder w ops)
    (hdrops : Run.All advance StreamDropsRecent (stateAfter w []) ops) :
    ∀ pre op post, ops = pre ++ op :: post →
      (∀ i, op = .input i →
        (stateAfter w pre).2.input + (stateAfter w pre).2.drops < i ∧
        ((stateAfter w pre).1.serve op).1 = some ((stateAfter w pre).2.given +
          BitVec.ofNat w (i - (stateAfter w pre).2.input) -
          BitVec.ofNat w (stateAfter w pre).2.drops)) ∧
      (∀ i, op = .resync i → Run.All advance InReach (stateAfter w []) pre →
        (stateAfter w pre).2.given = BitVec.ofNat w (stateAfter w pre).2.output ∧
        ((stateAfter w pre).1.serve op).1 =
          some (BitVec.ofNat w ((stateAfter w pre).2.maxOutput + 1))) := by
  intro pre op post hsplit
  obtain ⟨hcontiguous, htracks⟩ := stateAfter_run hw hops hdrops hsplit
  refine ⟨hcontiguous.input, fun i hi hreach ↦ ?_⟩
  exact ⟨(htracks hreach).given_eq, hcontiguous.resync i hi (htracks hreach)⟩

instance decidableStepsFrom (w : ℕ) : ∀ (last : ℕ) (ops : List StreamOp),
    Decidable (StepsFrom w last ops)
  | _, [] => isTrue trivial
  | last, op :: ops =>
    haveI := decidableStepsFrom w op.arg ops
    inferInstanceAs (Decidable (last < op.arg ∧ op.arg < last + maxValue w / 2 ∧ _))

instance (w : ℕ) : ∀ ops, Decidable (InOrder w ops)
  | [] => isTrue trivial
  | op :: ops => inferInstanceAs (Decidable (0 < op.arg ∧ StepsFrom w op.arg ops))

instance (s : SeqManager w × Renumbering w) : ∀ op, Decidable (StreamDropsRecent s op)
  | .drop i =>
    inferInstanceAs (Decidable (∀ d ∈ s.1.dropped, (BitVec.ofNat w i - d).toNat ≤ maxValue w / 2))
  | .input _ => isTrue trivial
  | .resync _ => isTrue trivial

instance (s : SeqManager w × Renumbering w) : ∀ op, Decidable (InReach s op)
  | .drop _ => isTrue trivial
  | .input i =>
    inferInstanceAs (Decidable (s.2.answer (.input i) < s.2.maxOutput + maxValue w / 2))
  | .resync i =>
    inferInstanceAs (Decidable (s.2.answer (.resync i) < s.2.maxOutput + maxValue w / 2))

/-- A run across the end of the number space, with a drop and a new start. -/
theorem contiguous_across_wrap :
    ((stateAfter 8 [.resync 250, .input 252, .drop 255, .input 258]).1.serve (.resync 260)).1 =
      some 9 ∧
    ((stateAfter 8 [.resync 250, .input 252, .drop 255]).1.serve (.input 258)).1 =
      some (3 + 6 - 1) := by
  have hrun := contiguous (w := 8) (by decide)
    [.resync 250, .input 252, .drop 255, .input 258, .resync 260] (by decide) (by decide)
  constructor
  · exact ((hrun [.resync 250, .input 252, .drop 255, .input 258] (.resync 260) [] rfl).2 260 rfl
      (by decide)).2
  · exact ((hrun [.resync 250, .input 252, .drop 255] (.input 258) [.resync 260] rfl).1 258 rfl).2

/-- **A jump is taken for an old output.** Every step is less than `MaxValue / 2`, but the outputs 1
and 252 are further apart, and after `Sync` the manager goes on with 2 instead of 253. -/
theorem resync_after_jump :
    InOrder 8 [.input 1, .drop 127, .input 253, .resync 254] ∧
      Run.All advance StreamDropsRecent (stateAfter 8 [])
        [.input 1, .drop 127, .input 253, .resync 254] ∧
      ((stateAfter 8 []).1.serve (.input 1)).1 = some 1 ∧
      ((stateAfter 8 [.input 1, .drop 127]).1.serve (.input 253)).1 = some 252 ∧
      (stateAfter 8 [.input 1, .drop 127, .input 253]).2.maxOutput = 252 ∧
      ((stateAfter 8 [.input 1, .drop 127, .input 253]).1.serve (.resync 254)).1 = some 2 := by
  decide

end SeqManager

end MediasoupSfu
