import MediasoupSfu.Library.Ordered
import MediasoupSfu.Library.Serial

/-!
# The wrapping comparison of sequence numbers

`SeqManager<T>::IsSeqLowerThan` and `IsSeqHigherThan` compare sequence numbers of an unsigned type
of width `w` (`BitVec w`), and every ordered container of the worker that is keyed by sequence
numbers uses the first of them as its comparator.

The comparison is half-range precedence with one more rule: of two values exactly `2 ^ (w - 1)`
apart, the numerically larger one counts as lower. On a window of at most half the circle the rule
is never used and the comparison is the order of the window.
-/

namespace MediasoupSfu

open Serial

/-- `std::numeric_limits<T>::max()`. -/
def maxValue (w : ℕ) : ℕ := 2 ^ w - 1

/-- `SeqManager<T>::SeqLowerThan`. -/
def isSeqLowerThan {w : ℕ} (lhs rhs : BitVec w) : Bool :=
  (decide (lhs < rhs) && decide ((rhs - lhs).toNat ≤ maxValue w / 2)) ||
    (decide (rhs < lhs) && decide (maxValue w / 2 < (lhs - rhs).toNat))

/-- `SeqManager<T>::SeqHigherThan`. -/
def isSeqHigherThan {w : ℕ} (lhs rhs : BitVec w) : Bool :=
  (decide (rhs < lhs) && decide ((lhs - rhs).toNat ≤ maxValue w / 2)) ||
    (decide (lhs < rhs) && decide (maxValue w / 2 < (rhs - lhs).toNat))

variable {w : ℕ}

theorem isSeqHigherThan_eq (lhs rhs : BitVec w) :
    isSeqHigherThan lhs rhs = isSeqLowerThan rhs lhs := rfl

/-- What is higher is another number. -/
theorem ne_of_isSeqHigherThan {lhs rhs : BitVec w} (h : isSeqHigherThan lhs rhs = true) :
    lhs ≠ rhs := by
  rintro rfl
  simp [isSeqHigherThan] at h

theorem maxValue_div_two (hw : 0 < w) : maxValue w / 2 = 2 ^ (w - 1) - 1 := by
  have htwo := two_pow_pred hw
  have hpos : 0 < 2 ^ (w - 1) := Nat.two_pow_pos _
  rw [maxValue]
  omega

/-- The comparison in terms of the upward distance from `a` to `b`. -/
theorem isSeqLowerThan_iff (hw : 0 < w) {a b : BitVec w} :
    isSeqLowerThan a b = true ↔
      Precedes a b ∨ (pos a b = 2 ^ (w - 1) ∧ b.toNat < a.toNat) := by
  have htwo := two_pow_pred hw
  have hpos : 0 < 2 ^ (w - 1) := Nat.two_pow_pos _
  have ha := a.isLt
  have hb := b.isLt
  simp only [isSeqLowerThan, Precedes, pos, maxValue_div_two hw, Bool.or_eq_true, Bool.and_eq_true,
    decide_eq_true_iff, BitVec.lt_def]
  rcases toNat_sub_cases b a with ⟨h1, h1'⟩ | ⟨h1, h1'⟩ <;>
    rcases toNat_sub_cases a b with ⟨h2, h2'⟩ | ⟨h2, h2'⟩ <;> omega

/-- Seen from a common origin, a window of at most half the circle is compared by position. -/
theorem isSeqLowerThan_iff_pos (hw : 0 < w) {o a b : BitVec w} (ha : pos o a < 2 ^ (w - 1))
    (hb : pos o b < 2 ^ (w - 1)) : isSeqLowerThan a b = true ↔ pos o a < pos o b := by
  have htwo := two_pow_pred hw
  rw [isSeqLowerThan_iff hw, precedes_iff_of_window hw ha hb]
  constructor
  · rintro (h | ⟨h, -⟩)
    · exact h
    · by_contra hge
      rcases Nat.lt_or_eq_of_le (Nat.le_of_not_lt hge) with h' | h'
      · have := pos_of_lt h'
        omega
      · have := pos_of_le (le_of_eq h'.symm)
        omega
  · exact Or.inl

theorem isSeqHigherThan_iff_pos (hw : 0 < w) {o a b : BitVec w} (ha : pos o a < 2 ^ (w - 1))
    (hb : pos o b < 2 ^ (w - 1)) : isSeqHigherThan a b = true ↔ pos o b < pos o a :=
  isSeqLowerThan_iff_pos hw hb ha

/-- The window of the positions below `n` from the origin `o`. -/
def window (o : BitVec w) (n : ℕ) : Set (BitVec w) := {x | pos o x < n}

theorem mem_window {o x : BitVec w} {n : ℕ} : x ∈ window o n ↔ pos o x < n := Iff.rfl

/-- The comparator is an order on every window of at most half the circle, which is what the
ordered containers need. -/
theorem rankedOn_window (hw : 0 < w) (o : BitVec w) {n : ℕ} (hn : n ≤ 2 ^ (w - 1)) :
    Ordered.RankedOn isSeqLowerThan (pos o) (window o n) where
  lt_iff _ ha _ hb := isSeqLowerThan_iff_pos hw (Nat.lt_of_lt_of_le ha hn)
    (Nat.lt_of_lt_of_le hb hn)
  inj _ _ _ _ h := pos_inj.mp h

/-! ## The comparison as an order -/

/-- Which of two numbers is lower is decided by the distance from the smaller one upwards. -/
theorem isSeqLowerThan_of_lt {a b : BitVec w} (h : a < b) :
    isSeqLowerThan a b = decide ((b - a).toNat ≤ maxValue w / 2) ∧
      isSeqLowerThan b a = decide (maxValue w / 2 < (b - a).toNat) := by
  have hge : ¬b < a := BitVec.lt_asymm h
  constructor
  · rw [isSeqLowerThan, decide_eq_true h, decide_eq_false hge, Bool.true_and, Bool.false_and,
      Bool.or_false]
  · rw [isSeqLowerThan, decide_eq_true h, decide_eq_false hge, Bool.true_and, Bool.false_and,
      Bool.false_or]

/-- One of three holds, and only one. -/
def ExactlyOne (p q r : Prop) : Prop := (p ∧ ¬q ∧ ¬r) ∨ (¬p ∧ q ∧ ¬r) ∨ (¬p ∧ ¬q ∧ r)

theorem ExactlyOne.swap {p q r : Prop} (h : ExactlyOne p q r) : ExactlyOne r q p := by
  rcases h with ⟨hp, hq, hr⟩ | ⟨hp, hq, hr⟩ | ⟨hp, hq, hr⟩
  · exact Or.inr (Or.inr ⟨hr, hq, hp⟩)
  · exact Or.inr (Or.inl ⟨hr, hq, hp⟩)
  · exact Or.inl ⟨hr, hq, hp⟩

/-- Of two numbers that differ one is lower, and not both. -/
theorem exactlyOne_of_lt {a b : BitVec w} (h : a < b) :
    ExactlyOne (isSeqLowerThan a b = true) (a = b) (isSeqLowerThan b a = true) := by
  have hne : a ≠ b := BitVec.ne_of_lt h
  obtain ⟨hab, hba⟩ := isSeqLowerThan_of_lt h
  rw [hab, hba, decide_eq_true_iff, decide_eq_true_iff]
  rcases Nat.lt_or_ge (maxValue w / 2) (b - a).toNat with hfar | hnear
  · exact Or.inr (Or.inr ⟨Nat.not_le_of_lt hfar, hne, hfar⟩)
  · exact Or.inl ⟨hnear, hne, Nat.not_lt_of_le hnear⟩

/-- **Of two numbers** either one is lower or they are equal. -/
theorem isSeqLowerThan_trichotomy (a b : BitVec w) :
    ExactlyOne (isSeqLowerThan a b = true) (a = b) (isSeqLowerThan b a = true) := by
  rcases Nat.lt_trichotomy a.toNat b.toNat with hlt | heq | hgt
  · exact exactlyOne_of_lt hlt
  · obtain rfl := BitVec.eq_of_toNat_eq heq
    have hself : ¬isSeqLowerThan a a = true := by simp [isSeqLowerThan]
    exact Or.inr (Or.inl ⟨hself, rfl, hself⟩)
  · have hone := (exactlyOne_of_lt (a := b) (b := a) hgt).swap
    rwa [@eq_comm _ b a] at hone

/-- On at most half the circle, whatever its size, the comparison is the order of the window. -/
theorem rankedOn_window_of_le (o : BitVec w) {n : ℕ} (hn : n ≤ 2 ^ (w - 1)) :
    Ordered.RankedOn isSeqLowerThan (pos o) (window o n) := by
  rcases Nat.eq_zero_or_pos w with rfl | hw
  · -- there is one number only
    refine ⟨fun a _ b _ ↦ ?_, fun a _ b _ _ ↦ Subsingleton.elim a b⟩
    obtain rfl := Subsingleton.elim a b
    simp [isSeqLowerThan]
  · exact rankedOn_window hw o hn

/-- **The wrapping comparison**, for every width. Lower and higher are converses, of two numbers
exactly one is lower or they are equal, and on every part of a window of at most half the circle the
comparison is a strict total order, that of the window. -/
theorem isSeqLowerThan_order (w : ℕ) :
    (∀ a b : BitVec w, isSeqHigherThan a b = isSeqLowerThan b a) ∧
      (∀ a b : BitVec w,
        ExactlyOne (isSeqLowerThan a b = true) (a = b) (isSeqLowerThan b a = true)) ∧
      ∀ (o : BitVec w) (n : ℕ) (s : Set (BitVec w)), n ≤ 2 ^ (w - 1) → s ⊆ window o n →
        Ordered.StrictTotalOn isSeqLowerThan s ∧
          ∀ a ∈ s, ∀ b ∈ s, (isSeqLowerThan a b = true ↔ pos o a < pos o b) := by
  refine ⟨isSeqHigherThan_eq, isSeqLowerThan_trichotomy, fun o n s hn hs ↦ ?_⟩
  have hranked := rankedOn_window_of_le o hn
  exact ⟨hranked.strictTotalOn hs, fun a ha b hb ↦ hranked.lt_iff a (hs ha) b (hs hb)⟩

/-- Numbers on both sides of the wrap. -/
theorem isSeqLowerThan_order_wrapped :
    Ordered.StrictTotalOn isSeqLowerThan ({0xFFFF, 0, 0x7FFE} : Set (BitVec 16)) ∧
      isSeqLowerThan (0xFFFF : BitVec 16) 0x7FFE = true := by
  have hwindow : ({0xFFFF, 0, 0x7FFE} : Set (BitVec 16)) ⊆ window 0xFFFF 0x8000 := by
    rintro x (rfl | rfl | rfl)
    · exact mem_window.mpr (by decide)
    · exact mem_window.mpr (by decide)
    · exact mem_window.mpr (by decide)
  obtain ⟨-, -, horder⟩ := isSeqLowerThan_order 16
  obtain ⟨htotal, hiff⟩ := horder 0xFFFF 0x8000 _ (by decide) hwindow
  exact ⟨htotal, (hiff _ (by simp) _ (by simp)).mpr (by decide)⟩

/-- **Half the circle is the most.** A window of one number more goes round in a circle. -/
theorem not_strictTotalOn_window (hw : 1 < w) :
    ¬Ordered.StrictTotalOn isSeqLowerThan (window (0 : BitVec w) (2 ^ (w - 1) + 1)) := by
  intro horder
  have htwo := two_pow_pred (show 0 < w by omega)
  have hhalf : 2 ≤ 2 ^ (w - 1) := Nat.le_self_pow (by omega) 2
  have htoNat {n : ℕ} (h : n ≤ 2 ^ (w - 1)) : (BitVec.ofNat w n).toNat = n := by
    rw [BitVec.toNat_ofNat, Nat.mod_eq_of_lt (by omega)]
  have hmem {n : ℕ} (h : n ≤ 2 ^ (w - 1)) : BitVec.ofNat w n ∈ window 0 (2 ^ (w - 1) + 1) := by
    rw [mem_window, pos_zero_left, htoNat h]
    exact Nat.lt_succ_of_le h
  have hlower {m n : ℕ} (hlt : m < n) (hn : n - m < 2 ^ (w - 1)) (h : n ≤ 2 ^ (w - 1)) :
      isSeqLowerThan (BitVec.ofNat w m) (BitVec.ofNat w n) = true := by
    have hpos : pos (BitVec.ofNat w m) (BitVec.ofNat w n) = n - m :=
      pos_ofNat_ofNat hlt.le (by omega)
    exact (isSeqLowerThan_iff (by omega)).mpr (Or.inl ⟨by omega, by omega⟩)
  have hcycle := horder.no_cycle (hmem (Nat.zero_le _)) (hmem (show 1 ≤ _ by omega))
    (hmem le_rfl) (hlower (by decide) (by omega) (by omega)) (hlower (by omega) (by omega) le_rfl)
  -- The number half the circle ahead of 0 is lower than 0.
  have hback : isSeqLowerThan (BitVec.ofNat w (2 ^ (w - 1))) (BitVec.ofNat w 0) = true := by
    refine (isSeqLowerThan_iff (by omega)).mpr (Or.inr ⟨?_, ?_⟩)
    · have hfar : pos 0 (BitVec.ofNat w 0) < pos 0 (BitVec.ofNat w (2 ^ (w - 1))) := by
        rw [pos_zero_left, pos_zero_left, htoNat (Nat.zero_le _), htoNat le_rfl]
        omega
      rw [pos_of_lt hfar, pos_zero_left, pos_zero_left, htoNat (Nat.zero_le _), htoNat le_rfl]
      omega
    · rw [htoNat (Nat.zero_le _), htoNat le_rfl]
      omega
  rw [hback] at hcycle
  cases hcycle

/-- The search of a container of 16-bit sequence numbers. -/
abbrev SeqSearch := Ordered.Search (isSeqLowerThan (w := 16))

end MediasoupSfu
