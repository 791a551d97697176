import Mathlib.Logic.Function.Basic
import Mathlib.Tactic.Common

/-!
# Maps that own what they point to

A map from keys to pointers, with the live objects on the heap, each of which knows its key. Objects
are created and deleted apart from the entries, so a pointer may dangle and an object may outlive
its entry. `Owns` excludes both: every entry points to a live object with its key, and every live
object is the one that the entry for its key points to.

For such a map what counts is `lookup`, the value that a key leads to. The operations come as they
are combined by a program that owns its objects: `insert` for a key that has none, `replace`,
`remove` and `set`.
-/

namespace Owned

variable {κ ν : Type}

/-- A map of pointers and the heap they point into. -/
structure Map (κ ν : Type) where
  entries : κ → Option ℕ := fun _ ↦ none
  /-- The live objects, with their keys. -/
  objects : ℕ → Option (κ × ν) := fun _ ↦ none
  /-- No object has been created at this address or a higher one. -/
  fresh : ℕ := 0

namespace Map

/-! ## Operations -/

/-- Create an object and point the entry for its key to it. -/
def create [DecidableEq κ] (m : Map κ ν) (k : κ) (v : ν) : Map κ ν where
  entries := Function.update m.entries k (some m.fresh)
  objects := Function.update m.objects m.fresh (some (k, v))
  fresh := m.fresh + 1

/-- Delete an object. -/
def delete (m : Map κ ν) (p : ℕ) : Map κ ν := { m with objects := Function.update m.objects p none }

/-- Erase an entry. -/
def erase [DecidableEq κ] (m : Map κ ν) (k : κ) : Map κ ν :=
  { m with entries := Function.update m.entries k none }

/-- Change the value of an object. -/
def set (m : Map κ ν) (p : ℕ) (k : κ) (v : ν) : Map κ ν :=
  { m with objects := Function.update m.objects p (some (k, v)) }

/-- The value that a key leads to. -/
def lookup (m : Map κ ν) (k : κ) : Option ν :=
  (m.entries k).bind fun p ↦ (m.objects p).map Prod.snd

/-- The map owns its objects. -/
structure Owns (m : Map κ ν) : Prop where
  object_of_entry : ∀ {k p}, m.entries k = some p → ∃ v, m.objects p = some (k, v)
  entry_of_object : ∀ {k p v}, m.objects p = some (k, v) → m.entries k = some p
  fresh : ∀ {p}, m.fresh ≤ p → m.objects p = none

variable {m : Map κ ν} {k k' : κ} {p q : ℕ} {v w : ν}

theorem owns_empty : Owns ({} : Map κ ν) := ⟨nofun, nofun, fun _ ↦ rfl⟩

/-! ## Lookups -/

theorem Owns.lookup_of_object (h : m.Owns) (hp : m.objects p = some (k, v)) :
    m.lookup k = some v := by
  rw [lookup, h.entry_of_object hp, Option.bind_some, hp, Option.map_some]

theorem lookup_of_no_entry (h : m.entries k = none) : m.lookup k = none := by
  rw [lookup, h, Option.bind_none]

theorem Owns.lookup_eq_none_iff (h : m.Owns) : m.lookup k = none ↔ m.entries k = none := by
  refine ⟨fun hnone ↦ ?_, lookup_of_no_entry⟩
  cases hentry : m.entries k with
  | none => rfl
  | some p =>
    obtain ⟨v, hv⟩ := h.object_of_entry hentry
    rw [h.lookup_of_object hv] at hnone
    cases hnone

/-- A key that leads to a value has an object. -/
theorem Owns.exists_object (h : m.Owns) (hlookup : m.lookup k = some v) :
    ∃ p, m.entries k = some p ∧ m.objects p = some (k, v) := by
  cases hentry : m.entries k with
  | none =>
    rw [lookup_of_no_entry hentry] at hlookup
    cases hlookup
  | some p =>
    obtain ⟨w, hw⟩ := h.object_of_entry hentry
    rw [h.lookup_of_object hw] at hlookup
    cases hlookup
    exact ⟨p, rfl, hw⟩

/-! ## A key without an object -/

variable [DecidableEq κ]

/-- Create an object for a key that has none. -/
theorem Owns.create (h : m.Owns) (hnone : m.entries k = none) (v : ν) :
    (m.create k v).Owns ∧
      ∀ k', (m.create k v).lookup k' = if k' = k then some v else m.lookup k' := by
  have hfresh : ∀ {k' q}, m.entries k' = some q → q ≠ m.fresh := by
    rintro k' q hq rfl
    obtain ⟨w, hw⟩ := h.object_of_entry hq
    rw [h.fresh (Nat.le_refl _)] at hw
    cases hw
  have hobject : ∀ {q}, q ≠ m.fresh → (m.create k v).objects q = m.objects q :=
    fun hq ↦ Function.update_of_ne hq _ _
  have hcreated : (m.create k v).objects m.fresh = some (k, v) := Function.update_self _ _ _
  have hentry : ∀ {k'}, k' ≠ k → (m.create k v).entries k' = m.entries k' :=
    fun hk ↦ Function.update_of_ne hk _ _
  have hadded : (m.create k v).entries k = some m.fresh := Function.update_self _ _ _
  refine ⟨⟨fun {k' q} hq ↦ ?_, fun {k' q w} hq ↦ ?_, fun {q} hq ↦ ?_⟩, fun k' ↦ ?_⟩
  · by_cases hk : k' = k
    · rw [hk, hadded] at hq
      cases hq
      rw [hk]
      exact ⟨v, hcreated⟩
    · rw [hentry hk] at hq
      rw [hobject (hfresh hq)]
      exact h.object_of_entry hq
  · by_cases hnew : q = m.fresh
    · rw [hnew, hcreated] at hq
      cases hq
      rw [hnew]
      exact hadded
    · rw [hobject hnew] at hq
      have hold := h.entry_of_object hq
      rw [hentry fun hk ↦ ?_]
      · exact hold
      · rw [hk, hnone] at hold
        cases hold
  · change m.fresh + 1 ≤ q at hq
    rw [hobject (by omega)]
    exact h.fresh (by omega)
  · by_cases hk : k' = k
    · rw [if_pos hk, hk, lookup, hadded, Option.bind_some, hcreated, Option.map_some]
    · rw [if_neg hk, lookup, lookup, hentry hk]
      cases hq : m.entries k' with
      | none => rfl
      | some q => rw [Option.bind_some, Option.bind_some, hobject (hfresh hq)]

/-! ## A key with an object -/

/-- Change the value of an object. -/
theorem Owns.set (h : m.Owns) (hp : m.objects p = some (k, w)) (v : ν) :
    (m.set p k v).Owns ∧
      ∀ k', (m.set p k v).lookup k' = if k' = k then some v else m.lookup k' := by
  have hpk := h.entry_of_object hp
  have hobject : ∀ {q}, q ≠ p → (m.set p k v).objects q = m.objects q :=
    fun hq ↦ Function.update_of_ne hq _ _
  have hself : (m.set p k v).objects p = some (k, v) := Function.update_self _ _ _
  have howns : (m.set p k v).Owns := by
    refine ⟨fun {k' q} hq ↦ ?_, fun {k' q w'} hq ↦ ?_, fun {q} hq ↦ ?_⟩
    · by_cases hqp : q = p
      · subst hqp
        obtain ⟨w', hw'⟩ := h.object_of_entry hq
        rw [hp] at hw'
        cases hw'
        exact ⟨v, hself⟩
      · rw [hobject hqp]
        exact h.object_of_entry hq
    · by_cases hqp : q = p
      · subst hqp
        rw [hself] at hq
        cases hq
        exact hpk
      · rw [hobject hqp] at hq
        exact h.entry_of_object hq
    · have hnone := h.fresh hq
      rw [hobject ?_]
      · exact hnone
      · rintro rfl
        rw [hp] at hnone
        cases hnone
  refine ⟨howns, fun k' ↦ ?_⟩
  by_cases hk : k' = k
  · rw [if_pos hk, hk]
    exact howns.lookup_of_object hself
  · rw [if_neg hk, lookup, lookup]
    change (m.entries k').bind _ = _
    cases hq : m.entries k' with
    | none => rfl
    | some q =>
      rw [Option.bind_some, Option.bind_some, hobject ?_]
      rintro rfl
      obtain ⟨w', hw'⟩ := h.object_of_entry hq
      rw [hp] at hw'
      cases hw'
      exact hk rfl

/-- Delete an object and erase its entry. -/
theorem Owns.remove (h : m.Owns) (hp : m.objects p = some (k, w)) :
    ((m.delete p).erase k).Owns ∧
      ∀ k', ((m.delete p).erase k).lookup k' = if k' = k then none else m.lookup k' := by
  have hobject : ∀ {q}, q ≠ p → ((m.delete p).erase k).objects q = m.objects q :=
    fun hq ↦ Function.update_of_ne hq _ _
  have hgone : ((m.delete p).erase k).objects p = none := Function.update_self _ _ _
  have hentry : ∀ {k'}, k' ≠ k → ((m.delete p).erase k).entries k' = m.entries k' :=
    fun hk ↦ Function.update_of_ne hk _ _
  have herased : ((m.delete p).erase k).entries k = none := Function.update_self _ _ _
  -- another entry points to another object
  have hother : ∀ {k' q}, k' ≠ k → m.entries k' = some q → q ≠ p := by
    rintro k' q hk hq rfl
    obtain ⟨w', hw'⟩ := h.object_of_entry hq
    rw [hp] at hw'
    cases hw'
    exact hk rfl
  refine ⟨⟨fun {k' q} hq ↦ ?_, fun {k' q w'} hq ↦ ?_, fun {q} hq ↦ ?_⟩, fun k' ↦ ?_⟩
  · by_cases hk : k' = k
    · rw [hk, herased] at hq
      cases hq
    · rw [hentry hk] at hq
      rw [hobject (hother hk hq)]
      exact h.object_of_entry hq
  · by_cases hqp : q = p
    · rw [hqp, hgone] at hq
      cases hq
    · rw [hobject hqp] at hq
      have hold := h.entry_of_object hq
      rw [hentry fun hk ↦ ?_]
      · exact hold
      · rw [hk, h.entry_of_object hp] at hold
        exact hqp (Option.some.inj hold).symm
  · by_cases hqp : q = p
    · rw [hqp, hgone]
    · rw [hobject hqp]
      exact h.fresh hq
  · by_cases hk : k' = k
    · rw [if_pos hk, hk, lookup, herased, Option.bind_none]
    · rw [if_neg hk, lookup, lookup, hentry hk]
      cases hq : m.entries k' with
      | none => rfl
      | some q => rw [Option.bind_some, Option.bind_some, hobject (hother hk hq)]

/-- Delete an object and create another one for its key. -/
theorem Owns.replace (h : m.Owns) (hp : m.objects p = some (k, w)) (v : ν) :
    ((m.delete p).create k v).Owns ∧
      ∀ k', ((m.delete p).create k v).lookup k' = if k' = k then some v else m.lookup k' := by
  obtain ⟨howns, hlookup⟩ := h.remove hp
  obtain ⟨howns', hlookup'⟩ := howns.create (Function.update_self _ _ _) v
  -- the entry need not be erased in between
  have hsame : ((m.delete p).erase k).create k v = (m.delete p).create k v := by
    rw [Map.create, Map.create]
    congr 1
    exact Function.update_idem _ _ _
  rw [hsame] at howns' hlookup'
  refine ⟨howns', fun k' ↦ (hlookup' k').trans ?_⟩
  by_cases hk : k' = k
  · rw [if_pos hk, if_pos hk]
  · rw [if_neg hk, if_neg hk, hlookup, if_neg hk]

end Map

end Owned
