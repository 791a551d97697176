import Mathlib.Data.List.TakeWhile
import Mathlib.Data.List.Pairwise
import Mathlib.Data.Set.Defs
import Mathlib.Tactic.Common

/-!
# Ordered containers over a comparator

The sorted associative containers of systems languages take a comparator `lt` and promise order
only where `lt` really is an order. This file models such a container as the list of its elements
in iteration order and transcribes the operations by their documented meaning: `lowerBound k` is
the range that starts at the first element *not less than* `k`, everything else is derived from it.

Nothing is assumed about `lt` in the definitions. Where the elements are not partitioned by the
comparison with the key, the place at which a search ends depends on the shape of the tree; it is
left open as a `Search`, which is determined on partitioned lists only.

The lemmas are stated for a set `S` of keys on which `lt` is represented by a rank (`RankedOn`),
which is how a comparator that is an order only inside a window is used: as long as the stored keys
and the key looked up lie in `S`, the container behaves like the finite map it is meant to be,
whatever the search.
-/

namespace Ordered

variable {α β : Type}

/-- Where a search for a key ends: the number of stored keys before the lower bound. -/
structure Search (lt : α → α → Bool) where
  cut : α → List α → ℕ
  /-- The search ends at a key that is not less than the one looked up, or at the end. -/
  not_lower : ∀ (k : α) (keys : List α) (x : α),
    (keys.drop (cut k keys)).head? = some x → lt x k = false
  /-- A partitioned list has one lower bound. -/
  cut_eq : ∀ (k : α) (keys : List α), (∀ x ∈ keys.dropWhile (lt · k), lt x k = false) →
    cut k keys = (keys.takeWhile (lt · k)).length

theorem take_length_takeWhile (p : β → Bool) (xs : List β) :
    xs.take (xs.takeWhile p).length = xs.takeWhile p := by
  conv_lhs => rw [← List.takeWhile_append_dropWhile (p := p) (l := xs)]
  rw [List.takeWhile_append_dropWhile, ← List.prefix_iff_eq_take.mp (List.takeWhile_prefix p)]

theorem drop_length_takeWhile (p : β → Bool) (xs : List β) :
    xs.drop (xs.takeWhile p).length = xs.dropWhile p := by
  have h := List.take_append_drop (xs.takeWhile p).length xs
  rw [take_length_takeWhile] at h
  exact List.append_cancel_left (h.trans (List.takeWhile_append_dropWhile).symm)

/-- The search from the first element on. -/
def Search.linear (lt : α → α → Bool) : Search lt where
  cut k keys := (keys.takeWhile (lt · k)).length
  not_lower k keys x h := by
    rw [drop_length_takeWhile] at h
    have := List.head?_dropWhile_not (lt · k) keys
    rw [h] at this
    simpa using this
  cut_eq _ _ _ := rfl

/-- A search through elements that are partitioned by their keys. -/
theorem Search.cut_map {lt : α → α → Bool} (search : Search lt) {key : β → α} {k : α} {xs : List β}
    (h : ∀ x ∈ xs.dropWhile (fun x ↦ lt (key x) k), lt (key x) k = false) :
    search.cut k (xs.map key) = (xs.takeWhile fun x ↦ lt (key x) k).length := by
  rw [search.cut_eq, List.takeWhile_map, List.length_map]
  · rfl
  · intro a ha
    rw [List.dropWhile_map] at ha
    obtain ⟨x, hx, rfl⟩ := List.mem_map.mp ha
    exact h x hx

section Operations

variable {lt : α → α → Bool} (search : Search lt) (key : β → α)

/-- The elements before the lower bound of `k`. -/
def before (k : α) (xs : List β) : List β := xs.take (search.cut k (xs.map key))

/-- The range from the first element not less than `k` to the end. -/
def lowerBound (k : α) (xs : List β) : List β := xs.drop (search.cut k (xs.map key))

/-- The element equivalent to `k`, if the lower bound is one. -/
def find? (k : α) (xs : List β) : Option β :=
  match lowerBound search key k xs with
  | [] => none
  | x :: _ => if lt k (key x) then none else some x

/-- Insertion at the lower bound; an equivalent element keeps its place. -/
def insert (x : β) (xs : List β) : List β :=
  match find? search key (key x) xs with
  | some _ => xs
  | none => before search key (key x) xs ++ x :: lowerBound search key (key x) xs

/-- Removal of the element equivalent to `k`, if there is one. -/
def erase (k : α) (xs : List β) : List β :=
  match find? search key k xs with
  | some _ => before search key k xs ++ (lowerBound search key k xs).tail
  | none => xs

end Operations

variable {lt : α → α → Bool} {search : Search lt} {key : β → α}

theorem before_append_lowerBound (search : Search lt) (key : β → α) (k : α)
    (xs : List β) : before search key k xs ++ lowerBound search key k xs = xs := by
  rw [before, lowerBound, List.take_append_drop]

theorem lowerBound_suffix (k : α) (xs : List β) : lowerBound search key k xs <:+ xs :=
  List.drop_suffix _ _

theorem lowerBound_sublist (k : α) (xs : List β) : (lowerBound search key k xs).Sublist xs :=
  List.drop_sublist _ _

theorem mem_of_mem_lowerBound {k : α} {xs : List β} {x : β}
    (h : x ∈ lowerBound search key k xs) : x ∈ xs := (lowerBound_sublist k xs).subset h

theorem lowerBound_eq_self {k : α} {xs : List β} (h : ∀ x ∈ xs, lt (key x) k = false) :
    lowerBound search key k xs = xs := by
  have hdrop : xs.takeWhile (fun x ↦ lt (key x) k) = [] := by
    cases xs with
    | nil => rfl
    | cons x xs => rw [List.takeWhile_cons, h x List.mem_cons_self]; rfl
  have hcut : search.cut k (xs.map key) = 0 := by
    rw [search.cut_map fun x hx ↦ h x ((List.dropWhile_sublist _).subset hx), hdrop]
    rfl
  rw [lowerBound, hcut, List.drop_zero]

/-- An element that is not lower than the key is in the range that a linear search finds. -/
theorem mem_lowerBound_linear {k : α} {xs : List β} {x : β} (hx : x ∈ xs)
    (hk : lt (key x) k = false) : x ∈ lowerBound (.linear lt) key k xs := by
  have hsplit : x ∈ before (.linear lt) key k xs ∨ x ∈ lowerBound (.linear lt) key k xs := by
    rw [← List.mem_append, before_append_lowerBound]
    exact hx
  refine hsplit.resolve_left fun hbefore ↦ ?_
  have hcut : (Search.linear lt).cut k (xs.map key) =
      (xs.takeWhile fun x ↦ lt (key x) k).length := by
    change ((xs.map key).takeWhile (lt · k)).length = _
    rw [List.takeWhile_map, List.length_map]
    rfl
  rw [before, hcut, take_length_takeWhile] at hbefore
  have hlower := List.mem_takeWhile_imp hbefore
  rw [hk] at hlower
  cases hlower

/-- A key above every element is searched to the end. -/
theorem lowerBound_eq_nil {k : α} {xs : List β} (h : ∀ x ∈ xs, lt (key x) k = true) :
    lowerBound search key k xs = [] ∧ before search key k xs = xs := by
  have htake : xs.takeWhile (fun x ↦ lt (key x) k) = xs := List.takeWhile_eq_self_iff.mpr h
  have hdrop : xs.dropWhile (fun x ↦ lt (key x) k) = [] := List.dropWhile_eq_nil_iff.mpr h
  have hcut : search.cut k (xs.map key) = xs.length := by
    rw [search.cut_map (by rw [hdrop]; simp), htake]
  exact ⟨by rw [lowerBound, hcut, List.drop_length], by rw [before, hcut, List.take_length]⟩

theorem find?_eq_none_of_lower {k : α} {xs : List β} (h : ∀ x ∈ xs, lt (key x) k = true) :
    find? search key k xs = none := by
  rw [find?, (lowerBound_eq_nil h).1]

/-- An element above every other is appended. -/
theorem insert_eq_append {y : β} {xs : List β} (h : ∀ x ∈ xs, lt (key x) (key y) = true) :
    insert search key y xs = xs ++ [y] := by
  rw [insert, find?_eq_none_of_lower h]
  dsimp only
  rw [(lowerBound_eq_nil h).1, (lowerBound_eq_nil h).2]

/-- A found element is in the container and not apart from the key. -/
theorem mem_of_find?_eq_some {k : α} {xs : List β} {x : β}
    (h : find? search key k xs = some x) :
    x ∈ xs ∧ lt k (key x) = false ∧ lt (key x) k = false := by
  unfold find? at h
  cases hl : lowerBound search key k xs with
  | nil => rw [hl] at h; cases h
  | cons y ys =>
    rw [hl] at h
    dsimp only at h
    split at h
    · cases h
    · rename_i hnlt
      obtain rfl : y = x := Option.some.inj h
      refine ⟨mem_of_mem_lowerBound (hl ▸ List.mem_cons_self), Bool.not_eq_true _ ▸ hnlt, ?_⟩
      refine search.not_lower k (xs.map key) (key y) ?_
      rw [← List.map_drop, ← lowerBound.eq_def, hl]
      rfl

/-- Whatever the search, an insertion adds at most the new element. -/
theorem mem_of_mem_insert {xs : List β} {x y : β} (h : x ∈ insert search key y xs) :
    x = y ∨ x ∈ xs := by
  unfold insert at h
  split at h
  · exact Or.inr h
  · rcases List.mem_append.mp h with h | h
    · exact Or.inr (List.take_subset _ _ h)
    · rcases List.mem_cons.mp h with h | h
      · exact Or.inl h
      · exact Or.inr (List.drop_subset _ _ h)

/-! ## Ranks -/

/-- On the keys of `S` the comparator is the order of the ranks. -/
structure RankedOn (lt : α → α → Bool) (rank : α → ℕ) (S : Set α) : Prop where
  /-- The comparator decides the order of the ranks. -/
  lt_iff : ∀ a ∈ S, ∀ b ∈ S, (lt a b = true ↔ rank a < rank b)
  /-- Distinct keys have distinct ranks. -/
  inj : ∀ a ∈ S, ∀ b ∈ S, rank a = rank b → a = b

/-- On the keys of `S` the comparator is a strict total order, as the containers require. -/
structure StrictTotalOn (lt : α → α → Bool) (S : Set α) : Prop where
  irrefl : ∀ a ∈ S, lt a a = false
  trans : ∀ a ∈ S, ∀ b ∈ S, ∀ c ∈ S, lt a b = true → lt b c = true → lt a c = true
  total : ∀ a ∈ S, ∀ b ∈ S, a = b ∨ lt a b = true ∨ lt b a = true

theorem RankedOn.strictTotalOn {lt : α → α → Bool} {rank : α → ℕ} {S T : Set α}
    (h : RankedOn lt rank S) (hsub : ∀ a ∈ T, a ∈ S) : StrictTotalOn lt T where
  irrefl a ha := by
    rw [← Bool.not_eq_true, h.lt_iff a (hsub a ha) a (hsub a ha)]
    exact Nat.lt_irrefl _
  trans a ha b hb c hc hab hbc := by
    rw [h.lt_iff a (hsub a ha) b (hsub b hb)] at hab
    rw [h.lt_iff b (hsub b hb) c (hsub c hc)] at hbc
    exact (h.lt_iff a (hsub a ha) c (hsub c hc)).mpr (hab.trans hbc)
  total a ha b hb := by
    rw [h.lt_iff a (hsub a ha) b (hsub b hb), h.lt_iff b (hsub b hb) a (hsub a ha)]
    rcases Nat.lt_trichotomy (rank a) (rank b) with hlt | heq | hgt
    · exact Or.inr (Or.inl hlt)
    · exact Or.inl (h.inj a (hsub a ha) b (hsub b hb) heq)
    · exact Or.inr (Or.inr hgt)

/-- A strict total order has no cycle of three. -/
theorem StrictTotalOn.no_cycle {lt : α → α → Bool} {S : Set α} (h : StrictTotalOn lt S) {a b c : α}
    (ha : a ∈ S) (hb : b ∈ S) (hc : c ∈ S) (hab : lt a b = true) (hbc : lt b c = true) :
    lt c a = false := by
  rw [← Bool.not_eq_true]
  intro hca
  have hloop := h.trans a ha c hc a ha (h.trans a ha b hb c hc hab hbc) hca
  rw [h.irrefl a ha] at hloop
  cases hloop

/-- The elements are stored in strictly increasing rank. -/
def Ascending (rank : α → ℕ) (key : β → α) (xs : List β) : Prop :=
  xs.Pairwise fun x y ↦ rank (key x) < rank (key y)

theorem Ascending.sublist {rank : α → ℕ} {xs ys : List β} (h : Ascending rank key ys)
    (hs : xs.Sublist ys) : Ascending rank key xs := List.Pairwise.sublist hs h

theorem Ascending.nodup {rank : α → ℕ} {xs : List β} (h : Ascending rank key xs) : xs.Nodup :=
  List.Pairwise.imp (fun hlt heq ↦ by rw [heq] at hlt; exact absurd hlt (Nat.lt_irrefl _)) h

/-- Ascending storage pins an element by its key. -/
theorem Ascending.eq_of_key_eq {rank : α → ℕ} {xs : List β} (h : Ascending rank key xs) {x y : β}
    (hx : x ∈ xs) (hy : y ∈ xs) (hk : key x = key y) : x = y := by
  induction xs with
  | nil => simp at hx
  | cons z zs ih =>
    obtain ⟨hz, hzs⟩ := List.pairwise_cons.mp h
    rcases List.mem_cons.mp hx with hxz | hxt <;> rcases List.mem_cons.mp hy with hyz | hyt
    · rw [hxz, hyz]
    · exact absurd (hz y hyt) (by rw [← hxz, hk]; exact Nat.lt_irrefl _)
    · exact absurd (hz x hxt) (by rw [← hyz, hk]; exact Nat.lt_irrefl _)
    · exact ih hzs hxt hyt

/-- Splitting an ascending list at the first rank that reaches `n` is filtering by rank. -/
theorem Ascending.takeWhile_eq_filter {rank : α → ℕ} {xs : List β} (h : Ascending rank key xs)
    {p : β → Bool} {n : ℕ} (hp : ∀ x ∈ xs, (p x = true ↔ rank (key x) < n)) :
    xs.takeWhile p = xs.filter p ∧ xs.dropWhile p = xs.filter (fun x ↦ !p x) := by
  induction xs with
  | nil => exact ⟨rfl, rfl⟩
  | cons x xs ih =>
    obtain ⟨hx, hxs⟩ := List.pairwise_cons.mp h
    have hp' : ∀ y ∈ xs, (p y = true ↔ rank (key y) < n) := fun y hy ↦
      hp y (List.mem_cons_of_mem _ hy)
    have hpx := hp x List.mem_cons_self
    obtain ⟨ih1, ih2⟩ := ih hxs hp'
    cases hb : p x with
    | true => exact ⟨by simp [hb, ih1], by simp [hb, ih2]⟩
    | false =>
      have hge : n ≤ rank (key x) := by
        rw [hb] at hpx
        simpa using hpx
      have hall : ∀ y ∈ xs, p y = false := by
        intro y hy
        have hlt := hx y hy
        have hpy := hp' y hy
        cases hby : p y with
        | false => rfl
        | true =>
          have := hpy.mp hby
          omega
      have hnil : xs.filter p = [] := List.filter_eq_nil_iff.mpr fun y hy ↦ by
        rw [hall y hy]
        simp
      have hself : xs.filter (fun y ↦ !p y) = xs := List.filter_eq_self.mpr fun y hy ↦ by
        rw [hall y hy]
        rfl
      exact ⟨by simp [hb, hnil], by simp [hb, hself]⟩

section Ranked

variable {rank : α → ℕ} {S : Set α} {xs : List β} {k : α}

/-- On ranked keys the lower bound separates the lower ranks from the others. -/
theorem split_eq_filter (hr : RankedOn lt rank S) (ha : Ascending rank key xs)
    (hS : ∀ x ∈ xs, key x ∈ S) (hk : k ∈ S) :
    before search key k xs = xs.filter (fun x ↦ lt (key x) k) ∧
      lowerBound search key k xs = xs.filter (fun x ↦ !lt (key x) k) := by
  obtain ⟨htake, hdrop⟩ := ha.takeWhile_eq_filter fun y hy ↦ hr.lt_iff _ (hS y hy) _ hk
  have hcut : search.cut k (xs.map key) = (xs.takeWhile fun x ↦ lt (key x) k).length := by
    refine search.cut_map fun x hx ↦ ?_
    rw [hdrop, List.mem_filter] at hx
    simpa using hx.2
  rw [before, lowerBound, hcut, take_length_takeWhile, drop_length_takeWhile]
  exact ⟨htake, hdrop⟩

theorem mem_before (hr : RankedOn lt rank S) (ha : Ascending rank key xs)
    (hS : ∀ x ∈ xs, key x ∈ S) (hk : k ∈ S) {x : β} :
    x ∈ before search key k xs ↔ x ∈ xs ∧ rank (key x) < rank k := by
  rw [(split_eq_filter hr ha hS hk).1, List.mem_filter]
  exact and_congr_right fun hx ↦ hr.lt_iff _ (hS x hx) _ hk

theorem mem_lowerBound (hr : RankedOn lt rank S) (ha : Ascending rank key xs)
    (hS : ∀ x ∈ xs, key x ∈ S) (hk : k ∈ S) {x : β} :
    x ∈ lowerBound search key k xs ↔ x ∈ xs ∧ rank k ≤ rank (key x) := by
  rw [(split_eq_filter hr ha hS hk).2, List.mem_filter]
  refine and_congr_right fun hx ↦ ?_
  rw [Bool.not_eq_true', ← Bool.not_eq_true, hr.lt_iff _ (hS x hx) _ hk, Nat.not_lt]

theorem find?_eq_some_iff (hr : RankedOn lt rank S) (ha : Ascending rank key xs)
    (hS : ∀ x ∈ xs, key x ∈ S) (hk : k ∈ S) {x : β} :
    find? search key k xs = some x ↔ x ∈ xs ∧ key x = k := by
  have hmem : ∀ y, y ∈ lowerBound search key k xs ↔ y ∈ xs ∧ rank k ≤ rank (key y) :=
    fun _ ↦ mem_lowerBound hr ha hS hk
  unfold find?
  cases hl : lowerBound search key k xs with
  | nil =>
    rw [hl] at hmem
    constructor
    · intro h
      simp at h
    · rintro ⟨hx, rfl⟩
      exact absurd ((hmem x).mpr ⟨hx, Nat.le_refl _⟩) (by simp)
  | cons y ys =>
    rw [hl] at hmem
    obtain ⟨hy, hle⟩ := (hmem y).mp List.mem_cons_self
    have hlt := hr.lt_iff k hk (key y) (hS y hy)
    have hasc : Ascending rank key (y :: ys) := hl ▸ ha.sublist (lowerBound_sublist k xs)
    constructor
    · intro h
      simp only at h
      split at h
      · simp at h
      · rename_i hnlt
        have : ¬rank k < rank (key y) := fun h ↦ hnlt (hlt.mpr h)
        obtain rfl : y = x := Option.some.inj h
        exact ⟨hy, hr.inj _ (hS y hy) _ hk (by omega)⟩
    · rintro ⟨hx, rfl⟩
      have hxl : x ∈ y :: ys := (hmem x).mpr ⟨hx, Nat.le_refl _⟩
      have hxy : x = y := by
        rcases List.mem_cons.mp hxl with rfl | hxt
        · rfl
        · have := (List.pairwise_cons.mp hasc).1 x hxt
          omega
      subst hxy
      have : lt (key x) (key x) = false := by
        rw [← Bool.not_eq_true, hlt]
        exact Nat.lt_irrefl _
      simp [this]

theorem find?_eq_none_iff (hr : RankedOn lt rank S) (ha : Ascending rank key xs)
    (hS : ∀ x ∈ xs, key x ∈ S) (hk : k ∈ S) :
    find? search key k xs = none ↔ ∀ x ∈ xs, key x ≠ k := by
  rw [Option.eq_none_iff_forall_ne_some]
  constructor
  · intro h x hx hkx
    exact h x ((find?_eq_some_iff hr ha hS hk).mpr ⟨hx, hkx⟩)
  · intro h x hx
    obtain ⟨hmem, hkx⟩ := (find?_eq_some_iff hr ha hS hk).mp hx
    exact h x hmem hkx

theorem mem_insert (hr : RankedOn lt rank S) (ha : Ascending rank key xs)
    (hS : ∀ x ∈ xs, key x ∈ S) {y : β} (hy : key y ∈ S) {x : β} :
    x ∈ insert search key y xs ↔ x ∈ xs ∨ (x = y ∧ ∀ z ∈ xs, key z ≠ key y) := by
  unfold insert
  cases hf : find? search key (key y) xs with
  | some z =>
    obtain ⟨hz, hkz⟩ := (find?_eq_some_iff hr ha hS hy).mp hf
    constructor
    · exact Or.inl
    · rintro (hx | ⟨-, hne⟩)
      · exact hx
      · exact absurd hkz (hne z hz)
  | none =>
    have hne := (find?_eq_none_iff hr ha hS hy).mp hf
    have hsplit : x ∈ xs ↔ x ∈ before search key (key y) xs ∨
        x ∈ lowerBound search key (key y) xs := by
      conv_lhs => rw [← before_append_lowerBound search key (key y) xs]
      exact List.mem_append
    simp only [List.mem_append, List.mem_cons]
    rw [hsplit]
    constructor
    · rintro (h | rfl | h)
      · exact Or.inl (Or.inl h)
      · exact Or.inr ⟨rfl, hne⟩
      · exact Or.inl (Or.inr h)
    · rintro ((h | h) | ⟨rfl, -⟩)
      · exact Or.inl h
      · exact Or.inr (Or.inr h)
      · exact Or.inr (Or.inl rfl)

theorem ascending_insert (hr : RankedOn lt rank S) (ha : Ascending rank key xs)
    (hS : ∀ x ∈ xs, key x ∈ S) {y : β} (hy : key y ∈ S) :
    Ascending rank key (insert search key y xs) := by
  unfold insert
  cases hf : find? search key (key y) xs with
  | some z => exact ha
  | none =>
    have hne := (find?_eq_none_iff hr ha hS hy).mp hf
    have hsplit : Ascending rank key
        (before search key (key y) xs ++ lowerBound search key (key y) xs) := by
      rw [before_append_lowerBound]
      exact ha
    obtain ⟨h1, h2, h3⟩ := List.pairwise_append.mp hsplit
    refine List.pairwise_append.mpr ⟨h1, List.pairwise_cons.mpr ⟨?_, h2⟩, ?_⟩
    · intro z hz
      obtain ⟨hzx, hle⟩ := (mem_lowerBound hr ha hS hy).mp hz
      have hrne : rank (key y) ≠ rank (key z) := fun h ↦
        hne z hzx (hr.inj _ hy _ (hS z hzx) h).symm
      omega
    · intro a hab b hb
      rcases List.mem_cons.mp hb with rfl | hb
      · exact ((mem_before hr ha hS hy).mp hab).2
      · exact h3 a hab b hb

theorem erase_sublist (k : α) (xs : List β) : (erase search key k xs).Sublist xs := by
  unfold erase
  cases find? search key k xs with
  | none => exact List.Sublist.refl _
  | some z =>
    conv_rhs => rw [← before_append_lowerBound search key k xs]
    exact (List.Sublist.refl _).append (List.tail_sublist _)

theorem mem_erase (hr : RankedOn lt rank S) (ha : Ascending rank key xs)
    (hS : ∀ x ∈ xs, key x ∈ S) (hk : k ∈ S) {x : β} :
    x ∈ erase search key k xs ↔ x ∈ xs ∧ key x ≠ k := by
  unfold erase
  cases hf : find? search key k xs with
  | none =>
    have hne := (find?_eq_none_iff hr ha hS hk).mp hf
    exact ⟨fun hx ↦ ⟨hx, hne x hx⟩, fun h ↦ h.1⟩
  | some z =>
    obtain ⟨hz, hkz⟩ := (find?_eq_some_iff hr ha hS hk).mp hf
    cases hl : lowerBound search key k xs with
    | nil =>
      unfold find? at hf
      rw [hl] at hf
      simp at hf
    | cons y ys =>
      have hyz : y = z := by
        unfold find? at hf
        rw [hl] at hf
        simp only at hf
        split at hf
        · simp at hf
        · exact Option.some.inj hf
      subst hyz
      have hxs : xs = before search key k xs ++ y :: ys := by
        rw [← hl, before_append_lowerBound]
      have hnodup : (before search key k xs ++ y :: ys).Nodup := hxs ▸ ha.nodup
      have hsplit : x ∈ xs ↔ x ∈ before search key k xs ∨ x = y ∨ x ∈ ys := by
        conv_lhs => rw [hxs]
        rw [List.mem_append, List.mem_cons]
      have hxy : x ∈ xs → (key x ≠ k ↔ x ≠ y) := by
        intro hx
        rw [not_iff_not, ← hkz]
        exact ⟨ha.eq_of_key_eq hx hz, fun h ↦ congrArg key h⟩
      rw [List.tail_cons, List.mem_append]
      constructor
      · intro h
        have hx : x ∈ xs := hsplit.mpr (h.imp_right Or.inr)
        refine ⟨hx, (hxy hx).mpr ?_⟩
        rintro rfl
        rcases h with h | h
        · exact (List.nodup_append.mp hnodup).2.2 _ h _ List.mem_cons_self rfl
        · exact (List.nodup_cons.mp (List.nodup_append.mp hnodup).2.1).1 h
      · rintro ⟨hx, hne⟩
        rcases hsplit.mp hx with h | h | h
        · exact Or.inl h
        · exact absurd h ((hxy hx).mp hne)
        · exact Or.inr h

end Ranked

end Ordered
