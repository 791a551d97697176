import Mathlib.Data.Finset.Card
import Mathlib.Data.Finset.Dedup
import Mathlib.Data.Finset.Image
import Mathlib.Data.List.Nodup

/-!
# Rankings

A *ranking* lists the `n` best elements of a finite set with their values, or all of them if there
are less. A *selection* keeps one element for each value, as a map does whose keys are the values.

The first `n` entries of a selection are a ranking if nothing better is lost with the elements that
have the same value. `forall_isRanking_iff` says exactly when, for a selection from one set with one
valuation that is to rank another set with another valuation, and whichever elements are kept.
-/

namespace Ranking

variable {α β : Type*} [LinearOrder β]

/-- The `n` best elements of `S` with their values `f`. -/
structure IsRanking (n : ℕ) (S : Finset α) (f : α → β) (l : List (α × β)) : Prop where
  length : l.length = min n S.card
  nodup : (l.map Prod.fst).Nodup
  mem : ∀ e ∈ l, e.1 ∈ S
  value : ∀ e ∈ l, e.2 = f e.1
  sorted : (l.map Prod.snd).Pairwise (· ≥ ·)
  best : ∀ e ∈ l, ∀ a ∈ S, a ∉ l.map Prod.fst → f a ≤ e.2

/-- One element of `S` for each value, in the order of the values. -/
structure IsSelection (S : Finset α) (g : α → β) (l : List (α × β)) : Prop where
  mem : ∀ e ∈ l, e.1 ∈ S
  value : ∀ e ∈ l, e.2 = g e.1
  sorted : (l.map Prod.snd).Pairwise (· > ·)
  complete : ∀ a ∈ S, g a ∈ l.map Prod.snd

/-- How many values are greater. -/
def above (S : Finset α) (g : α → β) (v : β) : ℕ := ((S.image g).filter (v < ·)).card

/-- The best elements of `T` by `g` are those of `S` by `f`. -/
structure Agrees (n : ℕ) (S : Finset α) (f : α → β) (T : Finset α) (g : α → β) : Prop where
  /-- What may be listed is to be listed, and with this value. -/
  value : ∀ a ∈ T, above T g (g a) < n → a ∈ S ∧ g a = f a
  /-- Elements have the same value only in the last place, or behind it. -/
  ties : ∀ a ∈ T, ∀ b ∈ T, a ≠ b → g a = g b → n ≤ above T g (g a) + 1
  /-- An element that is not among the best has enough values that are not less. -/
  missed : ∀ a ∈ S, (a ∈ T ∧ above T g (g a) < n) ∨ n ≤ ((T.image g).filter (f a ≤ ·)).card

/-! ## The first entries -/

/-- The first entries are those that have few greater values before them. -/
theorem mem_take_iff {l : List (α × β)} (h : (l.map Prod.snd).Pairwise (· > ·)) {e : α × β}
    {n : ℕ} :
    e ∈ l.take n ↔ e ∈ l ∧ ((l.map Prod.snd).filter fun v ↦ e.2 < v).length < n := by
  induction l generalizing n with
  | nil => simp
  | cons x l ih =>
    obtain ⟨hx, hl⟩ := List.pairwise_cons.mp h
    cases n with
    | zero => simp
    | succ n =>
      rw [List.take_succ_cons, List.mem_cons, List.mem_cons, ih hl, List.map_cons,
        List.filter_cons]
      constructor
      · rintro (rfl | ⟨hmem, hlt⟩)
        · have hnone : (l.map Prod.snd).filter (fun v ↦ e.2 < v) = [] :=
            List.filter_eq_nil_iff.mpr fun v hv ↦ by simpa using (hx v hv).le
          refine ⟨Or.inl rfl, ?_⟩
          rw [if_neg (by simp), hnone]
          exact n.succ_pos
        · refine ⟨Or.inr hmem, ?_⟩
          rw [if_pos (by simpa using hx e.2 (List.mem_map_of_mem hmem))]
          exact Nat.succ_lt_succ hlt
      · rintro ⟨rfl | hmem, hlt⟩
        · exact Or.inl rfl
        · rw [if_pos (by simpa using hx e.2 (List.mem_map_of_mem hmem))] at hlt
          exact Or.inr ⟨hmem, Nat.lt_of_succ_lt_succ hlt⟩

namespace IsSelection

variable {T : Finset α} {g : α → β} {l : List (α × β)} {n : ℕ}

theorem nodup_snd (h : IsSelection T g l) : (l.map Prod.snd).Nodup :=
  h.sorted.imp fun hlt ↦ hlt.ne'

theorem image_eq (h : IsSelection T g l) : T.image g = (l.map Prod.snd).toFinset := by
  ext v
  rw [Finset.mem_image, List.mem_toFinset]
  constructor
  · rintro ⟨a, ha, rfl⟩
    exact h.complete a ha
  · intro hv
    obtain ⟨e, he, rfl⟩ := List.mem_map.mp hv
    exact ⟨e.1, h.mem e he, (h.value e he).symm⟩

/-- There are as many entries as values. -/
theorem length_eq (h : IsSelection T g l) : l.length = (T.image g).card := by
  rw [h.image_eq, List.toFinset_card_of_nodup h.nodup_snd, List.length_map]

theorem above_eq (h : IsSelection T g l) (v : β) :
    above T g v = ((l.map Prod.snd).filter fun w ↦ v < w).length := by
  rw [above, h.image_eq, ← List.toFinset_card_of_nodup (h.nodup_snd.filter _), List.toFinset_filter]
  simp

theorem mem_take_iff (h : IsSelection T g l) {e : α × β} :
    e ∈ l.take n ↔ e ∈ l ∧ above T g e.2 < n := by
  rw [h.above_eq]
  exact Ranking.mem_take_iff h.sorted

/-- Each value has an entry. -/
theorem exists_mem (h : IsSelection T g l) {a : α} (ha : a ∈ T) : ∃ b, (b, g a) ∈ l := by
  obtain ⟨e, he, hvalue⟩ := List.mem_map.mp (h.complete a ha)
  exact ⟨e.1, by rwa [← hvalue]⟩

theorem value_unique (h : IsSelection T g l) {a b : α} {v : β} (ha : (a, v) ∈ l)
    (hb : (b, v) ∈ l) : a = b :=
  congrArg Prod.fst (List.inj_on_of_nodup_map h.nodup_snd ha hb rfl)

/-- No element has two entries. -/
theorem nodup_fst (h : IsSelection T g l) : (l.map Prod.fst).Nodup := by
  have hpairwise : l.Pairwise fun e e' ↦ e.2 > e'.2 := List.pairwise_map.mp h.sorted
  refine List.pairwise_map.mpr (hpairwise.imp_of_mem fun he he' hlt heq ↦ ?_)
  rw [h.value _ he, h.value _ he', heq] at hlt
  exact lt_irrefl _ hlt

end IsSelection

/-! ## Counting values -/

section Above

variable {T : Finset α} {g : α → β}

theorem above_lt_card {a : α} (ha : a ∈ T) : above T g (g a) < (T.image g).card :=
  Finset.card_lt_card
    (Finset.filter_ssubset.mpr ⟨g a, Finset.mem_image_of_mem g ha, lt_irrefl _⟩)

theorem above_lt_above {a : α} (ha : a ∈ T) {v : β} (hv : v < g a) :
    above T g (g a) < above T g v := by
  refine Finset.card_lt_card ((Finset.ssubset_iff_of_subset ?_).mpr ⟨g a, ?_, ?_⟩)
  · exact Finset.monotone_filter_right _ fun w _ hw ↦ hv.trans hw
  · exact Finset.mem_filter.mpr ⟨Finset.mem_image_of_mem g ha, hv⟩
  · exact fun hmem ↦ lt_irrefl _ (Finset.mem_filter.mp hmem).2

theorem card_le_above {v w : β} (hv : v < w) : ((T.image g).filter (w ≤ ·)).card ≤ above T g v :=
  Finset.card_le_card (Finset.monotone_filter_right _ fun _ _ hw ↦ hv.trans_le hw)

theorem card_le_above_add_one (v : β) :
    ((T.image g).filter (v ≤ ·)).card ≤ above T g v + 1 := by
  refine (Finset.card_le_card fun w hw ↦ ?_).trans (Finset.card_insert_le v _)
  obtain ⟨hmem, hle⟩ := Finset.mem_filter.mp hw
  rcases hle.eq_or_lt with rfl | hlt
  · exact Finset.mem_insert_self _ _
  · exact Finset.mem_insert_of_mem (Finset.mem_filter.mpr ⟨hmem, hlt⟩)

end Above

/-! ## When a selection is a ranking -/

namespace IsRanking

variable {n : ℕ} {S : Finset α} {f : α → β} {l : List (α × β)}

/-- A ranking that is shorter than it may be lists everything. -/
theorem mem_of_length_lt (h : IsRanking n S f l) (hlt : l.length < n) {a : α} (ha : a ∈ S) :
    a ∈ l.map Prod.fst := by
  classical
  have hcard : S.card ≤ (l.map Prod.fst).toFinset.card := by
    rw [List.toFinset_card_of_nodup h.nodup, List.length_map]
    have := h.length
    omega
  have hsub : (l.map Prod.fst).toFinset ⊆ S := by
    intro b hb
    obtain ⟨e, he, rfl⟩ := List.mem_map.mp (List.mem_toFinset.mp hb)
    exact h.mem e he
  rw [← Finset.eq_of_subset_of_card_le hsub hcard] at ha
  exact List.mem_toFinset.mp ha

/-- What is not listed has as many values that are not less as there is room for. -/
theorem le_card_of_notMem {T : Finset α} {g : α → β} (hl : IsSelection T g l)
    (h : IsRanking n S f (l.take n)) {a : α} (ha : a ∈ S) (hnot : a ∉ (l.take n).map Prod.fst) :
    n ≤ ((T.image g).filter (f a ≤ ·)).card := by
  have hlength : n ≤ (l.take n).length :=
    not_lt.mp fun hlt ↦ hnot (h.mem_of_length_lt hlt ha)
  have hnodup : ((l.take n).map Prod.snd).Nodup :=
    hl.nodup_snd.sublist ((List.take_sublist n l).map Prod.snd)
  refine hlength.trans ?_
  rw [← List.length_map (f := Prod.snd), ← List.toFinset_card_of_nodup hnodup]
  refine Finset.card_le_card fun v hv ↦ ?_
  obtain ⟨e, he, rfl⟩ := List.mem_map.mp (List.mem_toFinset.mp hv)
  refine Finset.mem_filter.mpr ⟨?_, h.best e he a ha hnot⟩
  rw [hl.image_eq, List.mem_toFinset]
  exact List.mem_map_of_mem (List.mem_of_mem_take he)

end IsRanking

section Agrees

variable {n : ℕ} {S T : Finset α} {f g : α → β}

/-- If the values are fewer than the places, every element has its own. -/
theorem Agrees.card_eq (h : Agrees n S f T g) (hlt : (T.image g).card < n) :
    S.card = (T.image g).card := by
  have hbest : ∀ a ∈ T, above T g (g a) < n := fun a ha ↦ (above_lt_card ha).trans hlt
  have hinj : Set.InjOn g T := by
    intro a ha b hb hab
    by_contra hne
    have := h.ties a ha b hb hne hab
    have := above_lt_card (g := g) ha
    omega
  have hsub : T ⊆ S := fun a ha ↦ (h.value a ha (hbest a ha)).1
  have hsup : S ⊆ T := by
    intro a ha
    rcases h.missed a ha with ⟨haT, -⟩ | hle
    · exact haT
    · have := Finset.card_filter_le (T.image g) (f a ≤ ·)
      omega
  rw [Finset.card_image_of_injOn hinj, hsub.antisymm hsup]

/-- A selection of elements that agree starts with a ranking. -/
theorem IsSelection.isRanking {l : List (α × β)} (hl : IsSelection T g l)
    (h : Agrees n S f T g) : IsRanking n S f (l.take n) := by
  classical
  have hlisted : ∀ e ∈ l.take n, e.1 ∈ S ∧ e.2 = f e.1 := by
    intro e he
    obtain ⟨hmem, hlt⟩ := hl.mem_take_iff.mp he
    rw [hl.value e hmem] at hlt ⊢
    exact h.value e.1 (hl.mem e hmem) hlt
  have hnodup : ((l.take n).map Prod.fst).Nodup :=
    hl.nodup_fst.sublist ((List.take_sublist n l).map Prod.fst)
  refine ⟨?_, hnodup, fun e he ↦ (hlisted e he).1, fun e he ↦ (hlisted e he).2, ?_, ?_⟩
  · rw [List.length_take, hl.length_eq]
    rcases lt_or_ge (T.image g).card n with hlt | hge
    · rw [h.card_eq hlt]
    · have hsub : ((l.take n).map Prod.fst).toFinset ⊆ S := by
        intro a ha
        obtain ⟨e, he, rfl⟩ := List.mem_map.mp (List.mem_toFinset.mp ha)
        exact (hlisted e he).1
      have hcard := Finset.card_le_card hsub
      rw [List.toFinset_card_of_nodup hnodup, List.length_map, List.length_take,
        hl.length_eq] at hcard
      omega
  · exact (hl.sorted.sublist ((List.take_sublist n l).map Prod.snd)).imp le_of_lt
  · intro e he a ha hnot
    by_contra hlt
    rw [not_le] at hlt
    obtain ⟨-, habove⟩ := hl.mem_take_iff.mp he
    rcases h.missed a ha with ⟨haT, hfew⟩ | hmany
    · -- Another element was kept for the value of `a`, which is the last one listed.
      obtain ⟨b, hb⟩ := hl.exists_mem haT
      have hlistedb : (b, g a) ∈ l.take n := hl.mem_take_iff.mpr ⟨hb, hfew⟩
      have hne : a ≠ b := by
        rintro rfl
        exact hnot (List.mem_map_of_mem hlistedb)
      have hties := h.ties a haT b (hl.mem _ hb) hne (hl.value _ hb)
      rw [← (h.value a haT hfew).2] at hlt
      have := above_lt_above haT hlt
      omega
    · have := card_le_above (T := T) (g := g) hlt
      omega

/-- **When selections are rankings.** Whichever element is kept for a value, the first entries of
the selection are a ranking if and only if the best elements agree. -/
theorem forall_isRanking_iff {Kept : List (α × β) → Prop}
    (hkept : ∀ l, Kept l → IsSelection T g l) (hsome : ∃ l, Kept l)
    (hany : ∀ a ∈ T, ∃ l, Kept l ∧ (a, g a) ∈ l) :
    (∀ l, Kept l → IsRanking n S f (l.take n)) ↔ Agrees n S f T g := by
  constructor
  · intro h
    have hvalue : ∀ a ∈ T, above T g (g a) < n → a ∈ S ∧ g a = f a := by
      intro a ha hlt
      obtain ⟨l, hl, hmem⟩ := hany a ha
      have hlisted : (a, g a) ∈ l.take n := (hkept l hl).mem_take_iff.mpr ⟨hmem, hlt⟩
      exact ⟨(h l hl).mem _ hlisted, (h l hl).value _ hlisted⟩
    refine ⟨hvalue, fun a ha b hb hne hab ↦ ?_, fun a ha ↦ ?_⟩
    · by_contra hlt
      rw [not_le] at hlt
      obtain ⟨l, hl, hmem⟩ := hany a ha
      obtain ⟨hbS, hvalueb⟩ := hvalue b hb (by rw [← hab]; omega)
      have hnot : b ∉ (l.take n).map Prod.fst := by
        intro hlisted
        obtain ⟨e, he, rfl⟩ := List.mem_map.mp hlisted
        have he := List.mem_of_mem_take he
        have hsame : e.2 = g a := ((hkept l hl).value e he).trans hab.symm
        exact hne ((hkept l hl).value_unique (v := g a) hmem (by rwa [← hsame]))
      have hmany := IsRanking.le_card_of_notMem (hkept l hl) (h l hl) hbS hnot
      rw [← hvalueb, ← hab] at hmany
      have := card_le_above_add_one (T := T) (g := g) (g a)
      omega
    · obtain ⟨l, hl⟩ := hsome
      by_cases hlisted : a ∈ (l.take n).map Prod.fst
      · obtain ⟨e, he, rfl⟩ := List.mem_map.mp hlisted
        obtain ⟨hmem, hlt⟩ := (hkept l hl).mem_take_iff.mp he
        rw [(hkept l hl).value e hmem] at hlt
        exact Or.inl ⟨(hkept l hl).mem e hmem, hlt⟩
      · exact Or.inr (IsRanking.le_card_of_notMem (hkept l hl) (h l hl) ha hlisted)
  · exact fun h l hl ↦ (hkept l hl).isRanking h

end Agrees

end Ranking
