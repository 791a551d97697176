import Mathlib.Data.List.AList
import Mathlib.Tactic.Common

/-!
# Indexes of objects

Objects are kept at addresses, `objects : ι → Option α`, and a table finds the address of an object
by a key that belongs to it. `Indexes find (Held objects R)` says that the table is exact: it finds
`i` under `k` if and only if there is an object at `i` to which `k` belongs. Then no key belongs to
two objects, and nothing is found that is not there.

A set of keys in every object is the special case in which the keys are the members: the table is
the converse of the relation that the sets make up.

The rules say what has to be done to the table when an object is created, deleted or replaced, and
when one key is added to an object or taken from it. How the table is kept does not matter;
`Directory` is one way.
-/

namespace Index

variable {ι κ α : Type}

/-- The table finds exactly the pairs of the relation. -/
def Indexes (find : κ → Option ι) (P : ι → κ → Prop) : Prop := ∀ k i, find k = some i ↔ P i k

/-- The key belongs to the object at this address. -/
def Held (objects : ι → Option α) (R : α → κ → Prop) (i : ι) (k : κ) : Prop :=
  ∃ x, objects i = some x ∧ R x k

section Rules

variable {find find' : κ → Option ι} {P : ι → κ → Prop} {objects : ι → Option α} {R : α → κ → Prop}
  {i j : ι} {k : κ} {x y : α}

theorem Indexes.unique (h : Indexes find P) (hi : P i k) (hj : P j k) : i = j :=
  Option.some.inj (((h k i).mpr hi).symm.trans ((h k j).mpr hj))

theorem Indexes.find_eq_none_iff (h : Indexes find P) : find k = none ↔ ∀ i, ¬P i k := by
  rw [Option.eq_none_iff_forall_ne_some]
  exact forall_congr' fun i ↦ not_congr (h k i)

/-- The table depends on the relation only. -/
theorem Indexes.congr (h : Indexes find P) {Q : ι → κ → Prop} (hQ : ∀ i k, Q i k ↔ P i k) :
    Indexes find Q := fun k i ↦ (h k i).trans (hQ i k).symm

theorem Held.intro (hi : objects i = some x) (hk : R x k) : Held objects R i k := ⟨x, hi, hk⟩

theorem held_iff (hi : objects i = some x) : Held objects R i k ↔ R x k := by
  constructor
  · rintro ⟨y, hy, hk⟩
    rwa [Option.some.inj (hi.symm.trans hy)]
  · exact Held.intro hi

/-- Objects to which no key belongs may be deleted. -/
theorem Indexes.forget {objects' : ι → Option α} (h : Indexes find (Held objects R)) {l : List ι}
    (hgone : ∀ i ∈ l, objects' i = none) (hkept : ∀ i, i ∉ l → objects' i = objects i)
    (hnone : ∀ i x k, objects i = some x → R x k → i ∉ l) : Indexes find (Held objects' R) := by
  refine h.congr fun i k ↦ ⟨?_, ?_⟩
  · rintro ⟨x, hx, hk⟩
    have hl : i ∉ l := by
      intro hl
      rw [hgone i hl] at hx
      cases hx
    rw [hkept i hl] at hx
    exact ⟨x, hx, hk⟩
  · rintro ⟨x, hx, hk⟩
    refine ⟨x, ?_, hk⟩
    rw [hkept i (hnone i x k hx hk)]
    exact hx

/-- If no key belongs to an object, nothing is found. -/
theorem indexes_none (hnone : ∀ i x k, objects i = some x → ¬R x k) :
    Indexes (fun _ ↦ none) (Held objects R) := by
  intro k i
  refine iff_of_false (Option.some_ne_none i).symm ?_
  rintro ⟨x, hx, hk⟩
  exact hnone i x k hx hk

variable [DecidableEq ι]

/-- Two tables with the same addresses have the same addresses after an update of both. -/
theorem update_eq_none_iff {β : Type} {f : ι → Option α} {g : ι → Option β}
    (h : ∀ i, f i = none ↔ g i = none) {o : Option α} {o' : Option β} (ho : o = none ↔ o' = none)
    (i j : ι) : Function.update f i o j = none ↔ Function.update g i o' j = none := by
  by_cases hj : j = i
  · rw [hj, Function.update_self, Function.update_self]
    exact ho
  · rw [Function.update_of_ne hj, Function.update_of_ne hj]
    exact h j

theorem some_eq_none_iff {β : Type} (x : α) (y : β) : some x = none ↔ some y = none :=
  iff_of_false (Option.some_ne_none x) (Option.some_ne_none y)

/-- An update of a table where there is something already. -/
theorem update_some_eq_none_iff {f : ι → Option α} (hi : f i = some x) (y : α) (j : ι) :
    Function.update f i (some y) j = none ↔ f j = none := by
  by_cases hj : j = i
  · rw [hj, Function.update_self, hi]
    exact some_eq_none_iff y x
  · rw [Function.update_of_ne hj]

/-- Elsewhere nothing changes. -/
theorem held_update_of_ne (hj : j ≠ i) (o : Option α) :
    Held (Function.update objects i o) R j k ↔ Held objects R j k := by
  rw [Held, Held, Function.update_of_ne hj]

theorem held_update_some : Held (Function.update objects i (some x)) R i k ↔ R x k :=
  held_iff (Function.update_self i (some x) objects)

theorem not_held_update_none : ¬Held (Function.update objects i none) R i k := by
  rintro ⟨x, hx, -⟩
  rw [Function.update_self] at hx
  cases hx

/-- A new object: its keys, which were free, lead to it. -/
theorem Indexes.create (h : Indexes find (Held objects R)) (hi : objects i = none)
    (hfree : ∀ k, R x k → find k = none) (hnew : ∀ k, R x k → find' k = some i)
    (hold : ∀ k, ¬R x k → find' k = find k) :
    Indexes find' (Held (Function.update objects i (some x)) R) := by
  intro k j
  by_cases hk : R x k
  · rw [hnew k hk]
    by_cases hj : j = i
    · subst hj
      exact iff_of_true rfl (held_update_some.mpr hk)
    · rw [held_update_of_ne hj]
      exact iff_of_false (fun heq ↦ hj (Option.some.inj heq).symm)
        (h.find_eq_none_iff.mp (hfree k hk) j)
  · rw [hold k hk]
    by_cases hj : j = i
    · subst hj
      rw [held_update_some, h k j]
      refine iff_of_false ?_ hk
      rintro ⟨y, hy, -⟩
      rw [hi] at hy
      cases hy
    · rw [held_update_of_ne hj]
      exact h k j

/-- An object is deleted: its keys lead nowhere. -/
theorem Indexes.delete (h : Indexes find (Held objects R)) (hi : objects i = some x)
    (hgone : ∀ k, R x k → find' k = none) (hkept : ∀ k, ¬R x k → find' k = find k) :
    Indexes find' (Held (Function.update objects i none) R) := by
  intro k j
  by_cases hk : R x k
  · rw [hgone k hk]
    refine iff_of_false nofun fun hj ↦ ?_
    by_cases hji : j = i
    · subst hji
      exact not_held_update_none hj
    · rw [held_update_of_ne hji] at hj
      exact hji (h.unique hj (Held.intro hi hk))
  · rw [hkept k hk]
    by_cases hji : j = i
    · subst hji
      rw [h k j, held_iff hi]
      exact iff_of_false hk not_held_update_none
    · rw [held_update_of_ne hji]
      exact h k j

/-- An object is replaced by one with the same keys. -/
theorem Indexes.replace (h : Indexes find (Held objects R)) (hi : objects i = some x)
    (hkeys : ∀ k, R y k ↔ R x k) : Indexes find (Held (Function.update objects i (some y)) R) := by
  intro k j
  by_cases hji : j = i
  · subst hji
    rw [h k j, held_iff hi, held_update_some, hkeys]
  · rw [held_update_of_ne hji]
    exact h k j

variable [DecidableEq κ]

/-- A free key is added to an object. -/
theorem Indexes.link (h : Indexes find (Held objects R)) (hi : objects i = some x)
    (hk : find k = none) (hkeys : ∀ k', R y k' ↔ k' = k ∨ R x k') :
    Indexes (Function.update find k (some i)) (Held (Function.update objects i (some y)) R) := by
  intro k' j
  by_cases hk' : k' = k
  · subst hk'
    rw [Function.update_self]
    by_cases hji : j = i
    · subst hji
      exact iff_of_true rfl (held_update_some.mpr ((hkeys _).mpr (Or.inl rfl)))
    · rw [held_update_of_ne hji]
      exact iff_of_false (fun heq ↦ hji (Option.some.inj heq).symm) (h.find_eq_none_iff.mp hk j)
  · rw [Function.update_of_ne hk']
    by_cases hji : j = i
    · subst hji
      rw [h k' j, held_iff hi, held_update_some, hkeys, or_iff_right hk']
    · rw [held_update_of_ne hji]
      exact h k' j

/-- A key is taken from the object to which it belongs. -/
theorem Indexes.unlink (h : Indexes find (Held objects R)) (hi : objects i = some x)
    (hk : find k = some i) (hkeys : ∀ k', R y k' ↔ k' ≠ k ∧ R x k') :
    Indexes (Function.update find k none) (Held (Function.update objects i (some y)) R) := by
  intro k' j
  by_cases hk' : k' = k
  · subst hk'
    rw [Function.update_self]
    refine iff_of_false nofun fun hj ↦ ?_
    by_cases hji : j = i
    · subst hji
      exact ((hkeys k').mp (held_update_some.mp hj)).1 rfl
    · rw [held_update_of_ne hji] at hj
      exact hji (h.unique hj ((h k' i).mp hk))
  · rw [Function.update_of_ne hk']
    by_cases hji : j = i
    · subst hji
      rw [h k' j, held_iff hi, held_update_some, hkeys, and_iff_right hk']
    · rw [held_update_of_ne hji]
      exact h k' j

end Rules

/-! ## Directories -/

/-- A table that can be gone through. -/
abbrev Directory (κ : Type) := AList fun _ : κ ↦ ℕ

namespace Directory

/-- The addresses in a directory. -/
def addresses (m : Directory κ) : List ℕ := m.entries.map Sigma.snd

variable [DecidableEq κ] {m : Directory κ} {P : ℕ → κ → Prop} {k : κ} {p q : ℕ}

/-- The addresses in a directory are those of the objects it indexes. -/
theorem mem_addresses (h : Indexes m.lookup P) : p ∈ m.addresses ↔ ∃ k, P p k := by
  constructor
  · intro hp
    obtain ⟨⟨k, q⟩, hentry, rfl⟩ := List.mem_map.mp hp
    exact ⟨k, (h k q).mp (AList.mem_lookup_iff.mpr hentry)⟩
  · rintro ⟨k, hk⟩
    exact List.mem_map.mpr ⟨⟨k, p⟩, AList.mem_lookup_iff.mp ((h k p).mpr hk), rfl⟩

/-- No address occurs twice if an object has one key. -/
theorem nodup_addresses (h : Indexes m.lookup P) (hkey : ∀ p k k', P p k → P p k' → k = k') :
    m.addresses.Nodup := by
  refine List.Nodup.map_on ?_ m.nodupKeys.nodup
  rintro ⟨k, p⟩ hp ⟨k', q⟩ hq (rfl : p = q)
  have hk := (h k p).mp (AList.mem_lookup_iff.mpr hp)
  have hk' := (h k' p).mp (AList.mem_lookup_iff.mpr hq)
  rw [hkey p k k' hk hk']

variable {α : Type} {objects : ℕ → Option α} {R : α → κ → Prop} {x : α}

/-- A new object is entered under its key. -/
theorem indexes_insert (h : Indexes m.lookup (Held objects R)) (hp : objects p = none)
    (hk : m.lookup k = none) (hkey : ∀ k', R x k' ↔ k' = k) :
    Indexes (m.insert k p).lookup (Held (Function.update objects p (some x)) R) := by
  refine h.create hp ?_ ?_ ?_
  · intro k' hk'
    rwa [(hkey k').mp hk']
  · intro k' hk'
    rw [(hkey k').mp hk']
    exact AList.lookup_insert m
  · intro k' hk'
    exact AList.lookup_insert_ne (mt (hkey k').mpr hk')

/-- A deleted object is erased. -/
theorem indexes_erase (h : Indexes m.lookup (Held objects R)) (hp : objects p = some x)
    (hkey : ∀ k', R x k' ↔ k' = k) :
    Indexes (m.erase k).lookup (Held (Function.update objects p none) R) := by
  refine h.delete hp ?_ ?_
  · intro k' hk'
    rw [(hkey k').mp hk']
    exact AList.lookup_erase k m
  · intro k' hk'
    exact AList.lookup_erase_ne (mt (hkey k').mpr hk')

end Directory

end Index
