import Mathlib.Algebra.Order.Ring.Nat
import Mathlib.Data.List.Forall2
import Mathlib.Tactic.Common
import MediasoupSfu.Library.Packing

/-!
# Bytes in network order

`Utils::Byte` reads and writes unsigned integers in network byte order. A pointer with a length is
modelled as the list of the bytes it may be used for, so that a read beyond the length is visible:
it is the fault `outOfBounds`. The same type `Fault` carries the two other ways in which the worker
stops: a failed `MS_ASSERT` and the exception of a checked container access.
-/

namespace MediasoupSfu

/-- The ways in which the worker aborts instead of returning. -/
inductive Fault where
  /-- `MS_ASSERT` failed with this text. -/
  | assertion (text : String)
  /-- `std::vector::at` or `std::map::at` threw `std::out_of_range`. -/
  | outOfRange
  /-- Memory outside the given buffer was accessed. -/
  | outOfBounds
  /-- A null pointer was dereferenced. -/
  | nullPointer
  /-- An integer was divided by zero. -/
  | divisionByZero
  deriving DecidableEq, Repr

/-- `MS_ASSERT(condition, text)`. -/
def msAssert (condition : Bool) (text : String) : Except Fault Unit :=
  if condition then .ok () else .error (.assertion text)

@[simp] theorem msAssert_true (text : String) : msAssert true text = .ok () := rfl

@[simp] theorem msAssert_eq_ok {c : Bool} {text : String} {u : Unit} :
    msAssert c text = .ok u ↔ c = true := by
  cases c <;> simp [msAssert]

/-- A computation that may fault returns through a bind exactly when both parts return. -/
theorem bind_eq_ok {φ α β : Type} {x : Except φ α} {f : α → Except φ β} {b : β} :
    x >>= f = .ok b ↔ ∃ a, x = .ok a ∧ f a = .ok b := by
  cases x with
  | error e => simp [bind, Except.bind]
  | ok a => simp [bind, Except.bind]

/-- It faults through a bind exactly when one of the parts does. -/
theorem bind_eq_error {φ α β : Type} {x : Except φ α} {f : α → Except φ β} {e : φ} :
    x >>= f = .error e ↔ x = .error e ∨ ∃ a, x = .ok a ∧ f a = .error e := by
  cases x with
  | error e => simp [bind, Except.bind]
  | ok a => simp [bind, Except.bind]

/-- Whether a computation returns something with a decidable property can be computed. -/
instance decidableReturns {φ α : Type} (x : Except φ α) (P : α → Prop) [DecidablePred P] :
    Decidable (∃ a, x = .ok a ∧ P a) :=
  match x with
  | .ok a => decidable_of_iff (P a) (by simp)
  | .error _ => .isFalse (by simp)

/-- So can be whether it faults in a given way. -/
instance (priority := low) decidableFaults {φ α : Type} [DecidableEq φ] (x : Except φ α) (f : φ) :
    Decidable (x = .error f) :=
  match x with
  | .ok _ => .isFalse (by simp)
  | .error e => decidable_of_iff (e = f) (by simp)

/-- A loop over a list returns exactly when it returns for every element. -/
theorem mapM_eq_ok {φ α β : Type} {f : α → Except φ β} {xs : List α} {ys : List β} :
    xs.mapM f = .ok ys ↔ List.Forall₂ (fun x y ↦ f x = .ok y) xs ys := by
  induction xs generalizing ys with
  | nil =>
    rw [List.mapM_nil, List.forall₂_nil_left_iff]
    exact ⟨fun h ↦ (Except.ok.inj h).symm, fun h ↦ congrArg Except.ok h.symm⟩
  | cons x xs ih =>
    rw [List.mapM_cons, List.forall₂_cons_left_iff]
    constructor
    · intro h
      obtain ⟨y, hx, h⟩ := bind_eq_ok.mp h
      obtain ⟨ys', hxs, h⟩ := bind_eq_ok.mp h
      exact ⟨y, ys', hx, ih.mp hxs, (Except.ok.inj h).symm⟩
    · rintro ⟨y, ys', hx, hxs, rfl⟩
      exact bind_eq_ok.mpr ⟨y, hx, bind_eq_ok.mpr ⟨ys', ih.mpr hxs, rfl⟩⟩

/-- `uint8_t`. -/
abbrev Byte := BitVec 8

instance : LawfulBEq Byte := inferInstanceAs (LawfulBEq (BitVec 8))

namespace Byte

/-! ## Words from bytes -/

/-- The 16-bit word with the given high and low byte. -/
def join2 (b₀ b₁ : Byte) : BitVec 16 := b₁.setWidth 16 ||| b₀.setWidth 16 <<< 8

/-- The 24-bit word of three bytes, in 32 bits. -/
def join3 (b₀ b₁ b₂ : Byte) : BitVec 32 :=
  b₂.setWidth 32 ||| b₁.setWidth 32 <<< 8 ||| b₀.setWidth 32 <<< 16

/-- The 32-bit word of four bytes. -/
def join4 (b₀ b₁ b₂ b₃ : Byte) : BitVec 32 :=
  b₃.setWidth 32 ||| b₂.setWidth 32 <<< 8 ||| b₁.setWidth 32 <<< 16 ||| b₀.setWidth 32 <<< 24

/-- `Utils::Byte::Get1Byte`. -/
def get1Byte (data : List Byte) (i : ℕ) : Except Fault Byte :=
  match data[i]? with
  | some b => .ok b
  | none => .error .outOfBounds

/-- `Utils::Byte::Get2Bytes`. -/
def get2Bytes (data : List Byte) (i : ℕ) : Except Fault (BitVec 16) := do
  let b₀ ← get1Byte data i
  let b₁ ← get1Byte data (i + 1)
  return join2 b₀ b₁

/-- `Utils::Byte::Get3Bytes`. -/
def get3Bytes (data : List Byte) (i : ℕ) : Except Fault (BitVec 32) := do
  let b₀ ← get1Byte data i
  let b₁ ← get1Byte data (i + 1)
  let b₂ ← get1Byte data (i + 2)
  return join3 b₀ b₁ b₂

/-- `Utils::Byte::Get4Bytes`. -/
def get4Bytes (data : List Byte) (i : ℕ) : Except Fault (BitVec 32) := do
  let b₀ ← get1Byte data i
  let b₁ ← get1Byte data (i + 1)
  let b₂ ← get1Byte data (i + 2)
  let b₃ ← get1Byte data (i + 3)
  return join4 b₀ b₁ b₂ b₃

/-- `Utils::Byte::Get8Bytes`. -/
def get8Bytes (data : List Byte) (i : ℕ) : Except Fault (BitVec 64) := do
  let high ← get4Bytes data i
  let low ← get4Bytes data (i + 4)
  return high.setWidth 64 <<< 32 ||| low.setWidth 64

/-- The number that bytes in network order spell. -/
def valueOf (bytes : List Byte) : ℕ := bytes.foldl (fun value b ↦ value * 256 + b.toNat) 0

/-! ## Bytes from words -/

/-- The bytes written by `Utils::Byte::Set2Bytes`. -/
def set2Bytes (value : BitVec 16) : List Byte :=
  [(value >>> 8).setWidth 8, value.setWidth 8]

/-- The bytes written by `Utils::Byte::Set3Bytes`. -/
def set3Bytes (value : BitVec 32) : List Byte :=
  [(value >>> 16).setWidth 8, (value >>> 8).setWidth 8, value.setWidth 8]

/-- The bytes written by `Utils::Byte::Set4Bytes`. -/
def set4Bytes (value : BitVec 32) : List Byte :=
  [(value >>> 24).setWidth 8, (value >>> 16).setWidth 8, (value >>> 8).setWidth 8,
    value.setWidth 8]

/-- The bytes written by `Utils::Byte::Set8Bytes`. -/
def set8Bytes (value : BitVec 64) : List Byte :=
  [(value >>> 56).setWidth 8, (value >>> 48).setWidth 8, (value >>> 40).setWidth 8,
    (value >>> 32).setWidth 8, (value >>> 24).setWidth 8, (value >>> 16).setWidth 8,
    (value >>> 8).setWidth 8, value.setWidth 8]

/-- A number in `n` bytes in network order. -/
def bytesOf : ℕ → ℕ → List Byte
  | 0, _ => []
  | n + 1, value => bytesOf n (value / 256) ++ [BitVec.ofNat 8 value]

@[simp] theorem length_set2Bytes (v : BitVec 16) : (set2Bytes v).length = 2 := rfl

@[simp] theorem length_set3Bytes (v : BitVec 32) : (set3Bytes v).length = 3 := rfl

@[simp] theorem length_set4Bytes (v : BitVec 32) : (set4Bytes v).length = 4 := rfl

@[simp] theorem length_set8Bytes (v : BitVec 64) : (set8Bytes v).length = 8 := rfl

@[simp] theorem length_bytesOf (n value : ℕ) : (bytesOf n value).length = n := by
  induction n generalizing value with
  | zero => rfl
  | succ n ih => rw [bytesOf, List.length_append, ih, List.length_singleton]

/-- `Utils::Byte::PadTo4Bytes(uint16_t)`. -/
def padTo4Bytes (size : BitVec 16) : BitVec 16 :=
  if size &&& 0x03 ≠ 0 then (size &&& 0xFFFC) + 4 else size

/-! ## Round trips -/

theorem join2_toNat (b₀ b₁ : Byte) : (join2 b₀ b₁).toNat = b₀.toNat * 256 + b₁.toNat := by
  have h₀ := b₀.isLt
  have h₁ := b₁.isLt
  simp only [join2, BitVec.toNat_or, BitVec.toNat_setWidth, BitVec.toNat_shiftLeft,
    Nat.shiftLeft_eq]
  rw [Nat.mod_eq_of_lt (by omega), Nat.mod_eq_of_lt (by omega), Nat.mod_eq_of_lt (by omega),
    Nat.or_comm, Packing.or_eq_add h₁]
  rfl

theorem join2_set2Bytes (v : BitVec 16) :
    join2 ((v >>> 8).setWidth 8) (v.setWidth 8) = v := by
  apply BitVec.eq_of_toNat_eq
  have hv := v.isLt
  rw [join2_toNat]
  simp only [BitVec.toNat_setWidth, BitVec.toNat_ushiftRight, Nat.shiftRight_eq_div_pow]
  omega

/-- A word is made up of its two lowest bits and the others. -/
theorem and_add_and_three (x : BitVec 16) : (x &&& 0xFFFC) + (x &&& 0x03) = x := by
  rw [BitVec.add_eq_or_of_and_eq_zero, ← BitVec.and_or_distrib_left]
  · exact BitVec.and_allOnes
  · rw [BitVec.and_assoc, BitVec.and_comm x 3, ← BitVec.and_assoc 0xFFFC 3 x]
    exact (congrArg (x &&& ·) BitVec.zero_and).trans BitVec.and_zero

/-- Padding rounds up to a multiple of four. -/
theorem padTo4Bytes_toNat {n : ℕ} (h : n + 3 < 2 ^ 16) :
    (padTo4Bytes (BitVec.ofNat 16 n)).toNat = (n + 3) / 4 * 4 := by
  have hn : (BitVec.ofNat 16 n).toNat = n := by
    rw [BitVec.toNat_ofNat, Nat.mod_eq_of_lt (by omega)]
  have hlow : (BitVec.ofNat 16 n &&& 0x03).toNat = n % 4 := by
    rw [Packing.toNat_and_mask (k := 2) _ rfl, hn]
    rfl
  have hsplit := congrArg BitVec.toNat (and_add_and_three (BitVec.ofNat 16 n))
  unfold padTo4Bytes
  split
  · bv_omega
  · rename_i heq
    have : n % 4 = 0 := by rw [← hlow, not_not.mp heq]; rfl
    omega

theorem join3_toNat (b₀ b₁ b₂ : Byte) :
    (join3 b₀ b₁ b₂).toNat = b₀.toNat * 65536 + b₁.toNat * 256 + b₂.toNat := by
  have h₀ := b₀.isLt
  have h₁ := b₁.isLt
  have h₂ := b₂.isLt
  simp only [join3, BitVec.toNat_or, BitVec.toNat_setWidth, BitVec.toNat_shiftLeft,
    Nat.shiftLeft_eq]
  rw [Nat.mod_eq_of_lt (by omega), Nat.mod_eq_of_lt (by omega), Nat.mod_eq_of_lt (by omega),
    Nat.mod_eq_of_lt (by omega), Nat.mod_eq_of_lt (by omega), Nat.or_comm b₂.toNat,
    Packing.or_eq_add h₂, Nat.or_comm, Packing.or_eq_add (Packing.add_lt h₁ h₂)]
  omega

/-- Three bytes carry the low 24 bits of a word. -/
theorem join3_set3Bytes (v : BitVec 32) (h : v.toNat < 2 ^ 24) :
    join3 ((v >>> 16).setWidth 8) ((v >>> 8).setWidth 8) (v.setWidth 8) = v := by
  apply BitVec.eq_of_toNat_eq
  rw [join3_toNat]
  simp only [BitVec.toNat_setWidth, BitVec.toNat_ushiftRight, Nat.shiftRight_eq_div_pow]
  omega

theorem join4_toNat (b₀ b₁ b₂ b₃ : Byte) : (join4 b₀ b₁ b₂ b₃).toNat
    = b₀.toNat * 16777216 + b₁.toNat * 65536 + b₂.toNat * 256 + b₃.toNat := by
  have h₀ := b₀.isLt
  have h₁ := b₁.isLt
  have h₂ := b₂.isLt
  have h₃ := b₃.isLt
  simp only [join4, BitVec.toNat_or, BitVec.toNat_setWidth, BitVec.toNat_shiftLeft,
    Nat.shiftLeft_eq]
  rw [Nat.mod_eq_of_lt (by omega), Nat.mod_eq_of_lt (by omega), Nat.mod_eq_of_lt (by omega),
    Nat.mod_eq_of_lt (by omega), Nat.mod_eq_of_lt (by omega), Nat.mod_eq_of_lt (by omega),
    Nat.mod_eq_of_lt (by omega), Nat.or_comm b₃.toNat, Packing.or_eq_add h₃,
    Nat.or_comm _ (b₁.toNat * 2 ^ 16), Packing.or_eq_add (Packing.add_lt h₂ h₃),
    Nat.or_comm _ (b₀.toNat * 2 ^ 24),
    Packing.or_eq_add (Packing.add_lt h₁ (Packing.add_lt h₂ h₃))]
  omega

theorem join4_set4Bytes (v : BitVec 32) :
    join4 ((v >>> 24).setWidth 8) ((v >>> 16).setWidth 8) ((v >>> 8).setWidth 8) (v.setWidth 8)
      = v := by
  apply BitVec.eq_of_toNat_eq
  have hv := v.isLt
  rw [join4_toNat]
  simp only [BitVec.toNat_setWidth, BitVec.toNat_ushiftRight, Nat.shiftRight_eq_div_pow]
  omega

/-- A word of eight bytes is two words of four. -/
theorem set8Bytes_eq (v : BitVec 64) :
    set8Bytes v = set4Bytes ((v >>> 32).setWidth 32) ++ set4Bytes (v.setWidth 32) := by
  have hv := v.isLt
  simp only [set8Bytes, set4Bytes, List.cons_append, List.nil_append, List.cons.injEq, and_true]
  refine ⟨?_, ?_, ?_, ?_, ?_, ?_, ?_, ?_⟩ <;>
  · apply BitVec.eq_of_toNat_eq
    simp only [BitVec.toNat_setWidth, BitVec.toNat_ushiftRight, Nat.shiftRight_eq_div_pow]
    omega

theorem join8 (v : BitVec 64) :
    ((v >>> 32).setWidth 32).setWidth 64 <<< 32 ||| (v.setWidth 32).setWidth 64 = v := by
  apply BitVec.eq_of_toNat_eq
  have hv := v.isLt
  have hlow : v.toNat % 2 ^ 32 < 2 ^ 32 := Nat.mod_lt _ (by decide)
  simp only [BitVec.toNat_or, BitVec.toNat_setWidth, BitVec.toNat_shiftLeft,
    BitVec.toNat_ushiftRight, Nat.shiftRight_eq_div_pow, Nat.shiftLeft_eq]
  rw [Nat.mod_eq_of_lt (show v.toNat / 2 ^ 32 < 2 ^ 32 by omega),
    Nat.mod_eq_of_lt (show v.toNat / 2 ^ 32 < 2 ^ 64 by omega),
    Nat.mod_eq_of_lt (show v.toNat / 2 ^ 32 * 2 ^ 32 < 2 ^ 64 by omega),
    Nat.mod_eq_of_lt (show v.toNat % 2 ^ 32 < 2 ^ 64 by omega), Packing.or_eq_add hlow]
  omega

/-- The bytes of a number spell it. -/
theorem valueOf_bytesOf (n value : ℕ) : valueOf (bytesOf n value) = value % 256 ^ n := by
  induction n generalizing value with
  | zero => rw [pow_zero, Nat.mod_one]; rfl
  | succ n ih =>
    rw [bytesOf, valueOf, List.foldl_append, ← valueOf, ih, pow_succ', Nat.mod_mul]
    change value / 256 % 256 ^ n * 256 + (BitVec.ofNat 8 value).toNat = _
    rw [BitVec.toNat_ofNat]
    omega

/-! ## Reading what was written -/

theorem get1Byte_append (pre post : List Byte) (b : Byte) :
    get1Byte (pre ++ b :: post) pre.length = .ok b := by
  rw [get1Byte, List.getElem?_append_right le_rfl, Nat.sub_self]
  rfl

theorem get1Byte_append_left {data : List Byte} {i : ℕ} (h : i < data.length) (rest : List Byte) :
    get1Byte (data ++ rest) i = get1Byte data i := by
  rw [get1Byte, get1Byte, List.getElem?_append_left h]

theorem get2Bytes_append_left {data : List Byte} {i : ℕ} (h : i + 1 < data.length)
    (rest : List Byte) : get2Bytes (data ++ rest) i = get2Bytes data i := by
  rw [get2Bytes, get2Bytes, get1Byte_append_left (by omega), get1Byte_append_left h]

theorem get2Bytes_append (pre post : List Byte) (v : BitVec 16) :
    get2Bytes (pre ++ (set2Bytes v ++ post)) pre.length = .ok v := by
  have h := get1Byte_append (pre ++ [(v >>> 8).setWidth 8]) post (v.setWidth 8)
  rw [List.length_append, List.length_singleton, List.append_assoc] at h
  rw [get2Bytes, set2Bytes]
  change (get1Byte (pre ++ (v >>> 8).setWidth 8 :: v.setWidth 8 :: post) pre.length >>= _) = _
  rw [get1Byte_append]
  change (get1Byte (pre ++ ([(v >>> 8).setWidth 8] ++ v.setWidth 8 :: post)) (pre.length + 1) >>= _)
    = _
  rw [h]
  exact congrArg Except.ok (join2_set2Bytes v)

end Byte

/-! ## Reading inside the buffer -/

theorem get1Byte_of_lt {data : List Byte} {i : ℕ} (h : i < data.length) :
    Byte.get1Byte data i = .ok (data.getD i 0) := by
  rw [Byte.get1Byte, List.getD_eq_getElem?_getD, List.getElem?_eq_getElem h]
  rfl

theorem get4Bytes_of_lt (data : List Byte) (i : ℕ) (h : i + 3 < data.length) :
    ∃ value, Byte.get4Bytes data i = .ok value := by
  rw [Byte.get4Bytes, get1Byte_of_lt (by omega), get1Byte_of_lt (by omega),
    get1Byte_of_lt (by omega), get1Byte_of_lt h]
  exact ⟨_, rfl⟩

/-- A computation returns if its first part does and the second one does for every value. -/
theorem returns_bind {φ α β : Type} {x : Except φ α} {f : α → Except φ β}
    (hx : ∃ a, x = .ok a) (hf : ∀ a, ∃ b, f a = .ok b) : ∃ b, x >>= f = .ok b := by
  obtain ⟨a, rfl⟩ := hx
  exact hf a

/-- A loop over a list returns if it does for every element. -/
theorem mapM_returns {φ α β : Type} {f : α → Except φ β} {xs : List α}
    (h : ∀ x ∈ xs, ∃ y, f x = .ok y) : ∃ ys, xs.mapM f = .ok ys := by
  induction xs with
  | nil => exact ⟨[], rfl⟩
  | cons x xs ih =>
    obtain ⟨hx, hxs⟩ := List.forall_mem_cons.mp h
    rw [List.mapM_cons]
    exact returns_bind hx fun _ ↦ returns_bind (ih hxs) fun _ ↦ ⟨_, rfl⟩

theorem get1Byte_returns {data : List Byte} {i : ℕ} (h : i < data.length) :
    ∃ value, Byte.get1Byte data i = .ok value := ⟨_, get1Byte_of_lt h⟩

theorem get2Bytes_returns {data : List Byte} {i : ℕ} (h : i + 1 < data.length) :
    ∃ value, Byte.get2Bytes data i = .ok value :=
  returns_bind (get1Byte_returns (by omega)) fun _ ↦
    returns_bind (get1Byte_returns h) fun _ ↦ ⟨_, rfl⟩

theorem get3Bytes_returns {data : List Byte} {i : ℕ} (h : i + 2 < data.length) :
    ∃ value, Byte.get3Bytes data i = .ok value :=
  returns_bind (get1Byte_returns (by omega)) fun _ ↦
    returns_bind (get1Byte_returns (by omega)) fun _ ↦
      returns_bind (get1Byte_returns h) fun _ ↦ ⟨_, rfl⟩

end MediasoupSfu
