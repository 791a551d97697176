import Mathlib.Data.List.Basic
import Mathlib.Tactic.Common

/-!
# Singly linked lists

A heap of nodes is the list of them: the address of a node is its place in the list, and a null
pointer is `none`. `IsList heap p xs` says that `p` leads through the values `xs` to a null pointer.
Such a list is finite and there is only one.

`chain k xs` are nodes for `xs` at the addresses from `k` on, each linked to the next one. What
appends to a linked list by patching the last node keeps this form (`setNext_chain`).
-/

namespace Linked

variable {α : Type*}

/-- A node with the pointer to the next one. -/
structure Node (α : Type*) where
  value : α
  next : Option ℕ := none
  deriving DecidableEq, Repr

/-- The heap with a new node, whose address is the length of the old heap. -/
def alloc (heap : List (Node α)) (x : α) : List (Node α) := heap ++ [{ value := x }]

/-- The heap in which the node at `p` points to `q`. -/
def setNext (heap : List (Node α)) (p q : ℕ) : List (Node α) :=
  heap.modify p fun node ↦ { node with next := some q }

/-- The pointer in the node at `p`. -/
def getNext (heap : List (Node α)) (p : ℕ) : Option ℕ := heap[p]?.bind Node.next

/-- The pointer leads through these values to a null pointer. -/
inductive IsList (heap : List (Node α)) : Option ℕ → List α → Prop where
  | nil : IsList heap none []
  | cons {p : ℕ} {next : Option ℕ} {x : α} {xs : List α} :
      heap[p]? = some ⟨x, next⟩ → IsList heap next xs → IsList heap (some p) (x :: xs)

/-- What a pointer leads through is determined by the heap. -/
theorem IsList.unique {heap : List (Node α)} {p : Option ℕ} {xs ys : List α}
    (hxs : IsList heap p xs) (hys : IsList heap p ys) : xs = ys := by
  induction hxs generalizing ys with
  | nil =>
    cases hys
    rfl
  | cons hnode _ ih =>
    cases hys with
    | cons hnode' hrest' =>
      obtain ⟨rfl, rfl⟩ := Node.mk.inj (Option.some.inj (hnode.symm.trans hnode'))
      rw [ih hrest']

/-! ## Chains -/

/-- The address of the first of the nodes from `k` on. -/
def start (k : ℕ) : List α → Option ℕ
  | [] => none
  | _ :: _ => some k

/-- Nodes at the addresses from `k` on, each linked to the next one. -/
def chain (k : ℕ) : List α → List (Node α)
  | [] => []
  | x :: xs => ⟨x, start (k + 1) xs⟩ :: chain (k + 1) xs

@[simp] theorem length_chain (k : ℕ) (xs : List α) : (chain k xs).length = xs.length := by
  induction xs generalizing k with
  | nil => rfl
  | cons x xs ih => rw [chain, List.length_cons, ih, List.length_cons]

/-- A chain behind other nodes is a list. -/
theorem isList_chain (heap : List (Node α)) (xs : List α) :
    IsList (heap ++ chain heap.length xs) (start heap.length xs) xs := by
  induction xs generalizing heap with
  | nil => exact .nil
  | cons x xs ih =>
    have hrest := ih (heap ++ [⟨x, start (heap.length + 1) xs⟩])
    rw [List.length_append, List.length_singleton, List.append_assoc, List.singleton_append]
      at hrest
    refine .cons ?_ hrest
    rw [List.getElem?_append_right (Nat.le_refl _), Nat.sub_self]
    rfl

/-- The node behind the first `xs.length` nodes of a chain. -/
theorem getElem?_chain (k : ℕ) (xs : List α) (y : α) (ys : List α) :
    (chain k (xs ++ y :: ys))[xs.length]? = some ⟨y, start (k + xs.length + 1) ys⟩ := by
  induction xs generalizing k with
  | nil => rfl
  | cons x xs ih =>
    rw [List.cons_append, chain, List.length_cons, List.getElem?_cons_succ, ih,
      show k + 1 + xs.length = k + (xs.length + 1) by omega]

theorem getNext_chain (k : ℕ) (xs : List α) (y : α) (ys : List α) :
    getNext (chain k (xs ++ y :: ys)) xs.length = start (k + xs.length + 1) ys := by
  rw [getNext, getElem?_chain]
  rfl

/-- Linking the last node of a chain to the chain behind it gives one chain. -/
theorem setNext_chain (k : ℕ) {xs : List α} (hxs : xs ≠ []) (y : α) (ys : List α) :
    setNext (chain k xs ++ chain (k + xs.length) (y :: ys)) (xs.length - 1) (k + xs.length) =
      chain k (xs ++ y :: ys) := by
  induction xs generalizing k with
  | nil => exact absurd rfl hxs
  | cons x xs ih =>
    cases xs with
    | nil => rfl
    | cons x' xs =>
      have hrest := ih (k + 1) (List.cons_ne_nil _ _)
      rw [show k + 1 + (x' :: xs).length = k + (x :: x' :: xs).length by
        simp only [List.length_cons]; omega] at hrest
      change _ = ⟨x, some (k + 1)⟩ :: chain (k + 1) (x' :: xs ++ y :: ys)
      rw [← hrest]
      rfl

/-- Two new nodes, the first one linked to the second one. -/
theorem setNext_alloc_alloc (heap : List (Node α)) (x y : α) :
    setNext (alloc (alloc heap x) y) heap.length (alloc heap x).length =
      heap ++ chain heap.length [x, y] := by
  have hmodify : ∀ (f : Node α → Node α) (ys : List (Node α)),
      (heap ++ ys).modify heap.length f = heap ++ ys.modify 0 f := by
    intro f ys
    induction heap with
    | nil => rfl
    | cons node heap ih => exact congrArg (node :: ·) ih
  rw [setNext, alloc, alloc, List.append_assoc, hmodify, List.length_append]
  rfl

end Linked
