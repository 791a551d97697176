import Mathlib.Data.Set.Card

/-!
# Slot tables

A pool of numbered slots is handed out through a table that tells for every key which slot holds its
entry. The table is *compact* when it uses the slots `0, …, n - 1`, each for exactly one key; then
it has exactly `n` keys in use (`Compact.ncard`), and a new entry can take the slot `n`, or the slot
of a key that is given up (`Compact.insert`, `Compact.recycle`).
-/

namespace Slots

variable {κ : Type*} {table : κ → Option ℕ} {n i : ℕ} {k k' : κ}

/-- The slots in use are the first `n` ones, each for one key. -/
structure Compact (table : κ → Option ℕ) (n : ℕ) : Prop where
  lt : ∀ {k i}, table k = some i → i < n
  inj : ∀ {k k' i}, table k = some i → table k' = some i → k = k'
  surj : ∀ i < n, ∃ k, table k = some i

theorem compact_empty : Compact (fun _ : κ ↦ none) 0 :=
  ⟨nofun, nofun, fun _ h ↦ absurd h (Nat.not_lt_zero _)⟩

namespace Compact

/-- A new key takes the next slot. -/
theorem insert [DecidableEq κ] (h : Compact table n) (hk : table k = none) :
    Compact (Function.update table k (some n)) (n + 1) := by
  have hold : ∀ {k' i}, k' ≠ k → Function.update table k (some n) k' = some i →
      table k' = some i := by
    intro k' i hne hi
    rwa [Function.update_of_ne hne] at hi
  refine ⟨fun {k' i} hi ↦ ?_, fun {k₁ k₂ i} h₁ h₂ ↦ ?_, fun i hi ↦ ?_⟩
  · by_cases hne : k' = k
    · subst hne
      rw [Function.update_self, Option.some.injEq] at hi
      omega
    · exact Nat.lt_succ_of_lt (h.lt (hold hne hi))
  · by_cases hne₁ : k₁ = k <;> by_cases hne₂ : k₂ = k
    · rw [hne₁, hne₂]
    · subst hne₁
      rw [Function.update_self, Option.some.injEq] at h₁
      have := h.lt (hold hne₂ h₂)
      omega
    · subst hne₂
      rw [Function.update_self, Option.some.injEq] at h₂
      have := h.lt (hold hne₁ h₁)
      omega
    · exact h.inj (hold hne₁ h₁) (hold hne₂ h₂)
  · rcases Nat.lt_succ_iff_lt_or_eq.mp hi with hlt | rfl
    · obtain ⟨k', hk'⟩ := h.surj i hlt
      have hne : k' ≠ k := by
        rintro rfl
        rw [hk] at hk'
        cases hk'
      exact ⟨k', by rwa [Function.update_of_ne hne]⟩
    · exact ⟨k, Function.update_self ..⟩

/-- A new key takes the slot of a key that is given up. -/
theorem recycle [DecidableEq κ] (h : Compact table n) (hk : table k = some i)
    (hk' : table k' = none) :
    Compact (Function.update (Function.update table k none) k' (some i)) n := by
  have hne : k' ≠ k := by
    rintro rfl
    rw [hk] at hk'
    cases hk'
  have hcases : ∀ {x j}, Function.update (Function.update table k none) k' (some i) x = some j →
      (x = k' ∧ j = i) ∨ (x ≠ k ∧ table x = some j) := by
    intro x j hj
    by_cases hx' : x = k'
    · subst hx'
      rw [Function.update_self, Option.some.injEq] at hj
      exact Or.inl ⟨rfl, hj.symm⟩
    · rw [Function.update_of_ne hx'] at hj
      by_cases hx : x = k
      · subst hx
        rw [Function.update_self] at hj
        cases hj
      · rw [Function.update_of_ne hx] at hj
        exact Or.inr ⟨hx, hj⟩
  refine ⟨fun hj ↦ ?_, fun {x y j} hx hy ↦ ?_, fun j hj ↦ ?_⟩
  · rcases hcases hj with ⟨-, rfl⟩ | ⟨-, hj⟩
    · exact h.lt hk
    · exact h.lt hj
  · rcases hcases hx with ⟨rfl, rfl⟩ | ⟨hxk, hx'⟩ <;> rcases hcases hy with ⟨rfl, hj⟩ | ⟨hyk, hy'⟩
    · rfl
    · exact absurd (h.inj hy' hk) hyk
    · subst hj
      exact absurd (h.inj hx' hk) hxk
    · exact h.inj hx' hy'
  · obtain ⟨x, hx⟩ := h.surj j hj
    by_cases hxk : x = k
    · subst hxk
      rw [hk] at hx
      exact ⟨k', by rw [Function.update_self]; exact hx⟩
    · have hxk' : x ≠ k' := by
        rintro rfl
        rw [hk'] at hx
        cases hx
      exact ⟨x, by rwa [Function.update_of_ne hxk', Function.update_of_ne hxk]⟩

/-- As many keys as slots are in use. -/
theorem ncard (h : Compact table n) : {k | table k ≠ none}.ncard = n := by
  have hcard : {k | table k ≠ none}.ncard = ((Finset.range n : Finset ℕ) : Set ℕ).ncard := by
    refine Set.ncard_congr (fun k hk ↦ (table k).get (Option.isSome_iff_ne_none.mpr hk)) ?_ ?_ ?_
    · intro k hk
      rw [Finset.coe_range, Set.mem_Iio]
      exact h.lt (Option.some_get _).symm
    · intro k k' hk hk' heq
      exact h.inj (Option.some_get _).symm (by rw [heq]; exact (Option.some_get _).symm)
    · intro i hi
      rw [Finset.coe_range, Set.mem_Iio] at hi
      obtain ⟨k, hk⟩ := h.surj i hi
      refine ⟨k, by simp [hk], ?_⟩
      simp only [hk, Option.get_some]
  rw [hcard, Set.ncard_coe_finset, Finset.card_range]

/-- With two slots in use, there is another key besides any given one. -/
theorem exists_ne (h : Compact table n) (hn : 2 ≤ n) (k : κ) : ∃ k' ≠ k, table k' ≠ none := by
  obtain ⟨k₀, h₀⟩ := h.surj 0 (by omega)
  obtain ⟨k₁, h₁⟩ := h.surj 1 (by omega)
  by_cases hk : k₀ = k
  · refine ⟨k₁, ?_, by rw [h₁]; exact nofun⟩
    rintro rfl
    rw [hk, h₁] at h₀
    cases h₀
  · exact ⟨k₀, hk, by rw [h₀]; exact nofun⟩

end Compact

end Slots
