import Mathlib.Data.Nat.Log
import MediasoupSfu.Library.Memory
import MediasoupSfu.Utils.Byte

/-!
# Netstrings

The format of the messages between the controller and the worker: the length of the data in decimal
digits, a colon, the data and a comma. The code is that of the vendored library.

A reader is given what has been received so far. It finds the data at the front of a buffer that
starts with a netstring, whatever follows (`netstringRead_encode`), and asks for more when the
buffer is the front part of one (`netstringRead_partial`). `netstring_buffer_size`, which computes
the number of digits by a logarithm, is the length of the netstring (`netstringBufferSize_eq`).
-/

namespace MediasoupSfu

open Memory

/-! ## The code -/

/-- The errors of `netstring_read`. -/
inductive NetstringError
  | tooLong
  | noColon
  | tooShort
  | noComma
  | leadingZero
  | noLength
  deriving DecidableEq, Repr

/-- `isdigit()`. -/
def isdigit (c : Byte) : Bool := 0x30 ≤ c && c ≤ 0x39

/-- Read the number of bytes: the index behind the digits, and the number. -/
def readLength : List Byte → ℕ → ℕ → Except NetstringError (ℕ × ℕ)
  | [], i, len => .ok (i, len)
  | c :: cs, i, len =>
    if isdigit c then
      -- Error if more than 9 digits.
      if 9 ≤ i then .error .tooLong else readLength cs (i + 1) (len * 10 + (c.toNat - 0x30))
    else .ok (i, len)

/-- `netstring_read`: the data of the netstring at the front of the buffer. -/
def netstringRead (buffer : List Byte) : Except NetstringError (List Byte) :=
  match buffer with
  | c₀ :: c₁ :: _ :: _ =>
    -- No leading zeros allowed, and the netstring must start with a number.
    if c₀ = 0x30 ∧ isdigit c₁ then .error .leadingZero
    else if !isdigit c₀ then .error .noLength
    else do
      let (i, len) ← readLength buffer 0 0
      if buffer.length ≤ i + len + 1 then .error .tooShort
      else if buffer[i]? ≠ some 0x3A then .error .noColon
      else if buffer[i + 1 + len]? ≠ some 0x2C then .error .noComma
      else .ok (slice buffer (i + 1) len)
  -- The minimum size is 3.
  | _ => .error .tooShort

/-- `netstring_buffer_size`: the length of a netstring with this number of bytes. -/
def netstringBufferSize (dataLength : ℕ) : ℕ :=
  if dataLength = 0 then 3 else Nat.clog 10 (dataLength + 1) + dataLength + 2

/-- The digits that `sprintf` writes. -/
def decimal (n : ℕ) : List Byte := (Nat.toDigits 10 n).map fun c ↦ BitVec.ofNat 8 c.toNat

/-- `netstring_encode_new`. -/
def netstringEncode (data : List Byte) : List Byte :=
  decimal data.length ++ 0x3A :: (data ++ [0x2C])

/-! ## The digits of the length -/

variable {data rest : List Byte} {n k : ℕ}

theorem decimal_ne_nil (n : ℕ) : decimal n ≠ [] := by simp [decimal]

theorem length_decimal (n : ℕ) : (decimal n).length = (Nat.toDigits 10 n).length :=
  List.length_map _

/-- A number has few digits if and only if it is small. -/
theorem length_decimal_le_iff (hk : 0 < k) : (decimal n).length ≤ k ↔ n < 10 ^ k := by
  rw [length_decimal, Nat.length_toDigits_le_iff (by decide) hk]

theorem toNat_of_isDigit {c : Char} (h : c.isDigit) :
    (BitVec.ofNat 8 c.toNat : Byte).toNat = c.toNat ∧ 0x30 ≤ c.toNat ∧ c.toNat ≤ 0x39 := by
  have hrange : 0x30 ≤ c.toNat ∧ c.toNat ≤ 0x39 := by
    simp only [Char.isDigit, Bool.and_eq_true, decide_eq_true_eq] at h
    exact ⟨h.1, h.2⟩
  exact ⟨by rw [BitVec.toNat_ofNat, Nat.mod_eq_of_lt (by omega)], hrange⟩

theorem isdigit_of_mem_decimal {c : Byte} (h : c ∈ decimal n) : isdigit c = true := by
  obtain ⟨d, hd, rfl⟩ := List.mem_map.mp h
  obtain ⟨hvalue, hrange⟩ := toNat_of_isDigit
    (Nat.isDigit_of_mem_toDigits (by decide) (by decide) hd)
  simp only [isdigit, BitVec.le_def, hvalue, Bool.and_eq_true, decide_eq_true_eq]
  exact hrange

/-- Only the number zero starts with the digit zero. -/
theorem head_decimal_ne_zero (h : n ≠ 0) : (decimal n).head? ≠ some 0x30 := by
  induction n using Nat.strongRecOn with
  | ind n ih =>
    by_cases hn : n < 10
    · rw [decimal, Nat.toDigits_of_lt_base hn, List.map_cons, List.head?_cons,
        Nat.toNat_digitChar_of_lt_ten hn]
      intro hzero
      have hvalue := congrArg BitVec.toNat (Option.some.inj hzero)
      rw [BitVec.toNat_ofNat, Nat.mod_eq_of_lt (by omega)] at hvalue
      exact h (Nat.add_left_cancel (hvalue : 48 + n = 48 + 0))
    · have hdiv := ih (n / 10) (by omega) (by omega)
      have hne := decimal_ne_nil (n / 10)
      rw [decimal] at hdiv hne
      rw [decimal, Nat.toDigits_of_base_le (by decide) (by omega), List.map_append,
        List.head?_append_of_ne_nil _ hne]
      exact hdiv

/-! ## Reading the length -/

/-- Reading some digits. -/
theorem readLength_digits (cs : List Char) (rest : List Byte) (i len : ℕ)
    (hdigits : ∀ c ∈ cs, c.isDigit) (hfew : i + cs.length ≤ 9) :
    readLength (cs.map (fun c ↦ BitVec.ofNat 8 c.toNat) ++ rest) i len =
      readLength rest (i + cs.length) (Nat.ofDigitChars 10 cs len) := by
  induction cs generalizing i len with
  | nil => rfl
  | cons c cs ih =>
    obtain ⟨hvalue, hlow, hhigh⟩ := toNat_of_isDigit (hdigits c List.mem_cons_self)
    have hdigit : isdigit (BitVec.ofNat 8 c.toNat) = true := by
      simp only [isdigit, BitVec.le_def, hvalue, Bool.and_eq_true, decide_eq_true_eq]
      exact ⟨hlow, hhigh⟩
    rw [List.length_cons] at hfew ⊢
    rw [List.map_cons, List.cons_append, readLength, if_pos hdigit, if_neg (by omega), hvalue,
      ih _ _ (fun d hd ↦ hdigits d (List.mem_cons_of_mem _ hd)) (by omega), Nat.ofDigitChars_cons,
      Nat.mul_comm]
    congr 1
    omega

/-- The length is read up to what is not a digit. -/
theorem readLength_decimal (hfew : (decimal n).length ≤ 9)
    (hrest : ∀ c ∈ rest.head?, isdigit c = false) :
    readLength (decimal n ++ rest) 0 0 = .ok ((decimal n).length, n) := by
  have hread := readLength_digits (Nat.toDigits 10 n) rest 0 0
    (fun c hc ↦ Nat.isDigit_of_mem_toDigits (by decide) (by decide) hc)
    (by rw [← length_decimal]; omega)
  rw [decimal, hread, Nat.ofDigitChars_ten_toDigits, Nat.zero_add, List.length_map]
  cases rest with
  | nil => rfl
  | cons c cs => rw [readLength, if_neg (by simp [hrest c rfl])]

/-! ## Reading a netstring -/

theorem length_netstringEncode (data : List Byte) :
    (netstringEncode data).length = (decimal data.length).length + data.length + 2 := by
  simp only [netstringEncode, List.length_append, List.length_cons, List.length_nil]
  omega

theorem netstringEncode_ne_nil (data : List Byte) : netstringEncode data ≠ [] := by
  simp [netstringEncode]

/-- `netstring_buffer_size` is the length of the netstring. -/
theorem netstringBufferSize_eq (data : List Byte) :
    netstringBufferSize data.length = (netstringEncode data).length := by
  rw [length_netstringEncode, netstringBufferSize]
  split
  · rename_i hzero
    rw [hzero]
    rfl
  · have hdigits : Nat.clog 10 (data.length + 1) = (decimal data.length).length := by
      have hpos := List.length_pos_iff.mpr (decimal_ne_nil data.length)
      apply le_antisymm
      · exact Nat.clog_le_of_le_pow ((length_decimal_le_iff hpos).mp le_rfl)
      · have hclog : 0 < Nat.clog 10 (data.length + 1) := Nat.clog_pos (by decide) (by omega)
        exact (length_decimal_le_iff hclog).mpr (Nat.le_pow_clog (by decide) _)
    rw [hdigits]

/-- The first checks pass on the front part of a netstring that is long enough. -/
theorem netstringRead_of_front {buffer : List Byte}
    (hstarts : buffer <+: netstringEncode data ++ rest) (hlength : 3 ≤ buffer.length) :
    netstringRead buffer = (readLength buffer 0 0).bind fun (i, len) ↦
      if buffer.length ≤ i + len + 1 then .error .tooShort
      else if buffer[i]? ≠ some 0x3A then .error .noColon
      else if buffer[i + 1 + len]? ≠ some 0x2C then .error .noComma
      else .ok (slice buffer (i + 1) len) := by
  match buffer, hlength with
  | c₀ :: c₁ :: c₂ :: cs, _ =>
    obtain ⟨d, ds, hdecimal⟩ := List.exists_cons_of_ne_nil (decimal_ne_nil data.length)
    obtain ⟨more, hsplit⟩ := hstarts
    rw [netstringEncode, hdecimal, List.append_assoc] at hsplit
    simp only [List.cons_append, List.cons.injEq] at hsplit
    obtain ⟨rfl, hsplit⟩ := hsplit
    have hdigit : isdigit c₀ = true :=
      isdigit_of_mem_decimal (n := data.length) (by rw [hdecimal]; exact List.mem_cons_self)
    have hzero : ¬(c₀ = 0x30 ∧ isdigit c₁ = true) := by
      rintro ⟨rfl, hnext⟩
      have hdata : data.length = 0 := by
        by_contra hne
        exact head_decimal_ne_zero hne (by rw [hdecimal]; rfl)
      -- behind the only digit is the colon
      rw [hdata] at hdecimal
      obtain ⟨-, rfl⟩ := List.cons.inj (hdecimal.symm.trans (show decimal 0 = [0x30] from rfl))
      rw [(List.cons.inj hsplit).1] at hnext
      exact absurd hnext (by decide)
    rw [netstringRead, if_neg hzero, hdigit]
    rfl

/-- **A netstring at the front** of the buffer is read, whatever follows. -/
theorem netstringRead_encode (hfew : data.length < 10 ^ 9) (rest : List Byte) :
    netstringRead (netstringEncode data ++ rest) = .ok data := by
  have hfew' : (decimal data.length).length ≤ 9 := (length_decimal_le_iff (by decide)).mpr hfew
  have hlength := length_netstringEncode data
  have hpos := List.length_pos_iff.mpr (decimal_ne_nil data.length)
  have hsplit : netstringEncode data ++ rest =
      decimal data.length ++ ([0x3A] ++ (data ++ ([0x2C] ++ rest))) := by
    simp [netstringEncode]
  have hall : (netstringEncode data ++ rest).length =
      (decimal data.length).length + data.length + 2 + rest.length := by
    rw [List.length_append, hlength]
  rw [netstringRead_of_front List.prefix_rfl (by omega), hsplit,
    readLength_decimal hfew' (by simp; decide), ← hsplit]
  simp only [Except.bind]
  rw [if_neg (by omega), if_neg, if_neg, hsplit]
  · rw [show (decimal data.length).length + 1 = (decimal data.length ++ [0x3A]).length by simp,
      ← List.append_assoc, slice_append]
  · rw [hsplit, List.getElem?_append_right (by omega), List.getElem?_append_right (by simp; omega),
      List.getElem?_append_right (by simp; omega)]
    simp [show (decimal data.length).length + 1 + data.length - (decimal data.length).length - 1 -
      data.length = 0 by omega]
  · rw [hsplit, List.getElem?_append_right le_rfl]
    simp

/-- **The front part of a netstring**: the reader has to wait. -/
theorem netstringRead_partial (hfew : data.length < 10 ^ 9) {buffer : List Byte}
    (hstarts : buffer <+: netstringEncode data)
    (hlt : buffer.length < (netstringEncode data).length) :
    netstringRead buffer = .error .tooShort := by
  have hfew' : (decimal data.length).length ≤ 9 := (length_decimal_le_iff (by decide)).mpr hfew
  rw [length_netstringEncode] at hlt
  by_cases hlength : 3 ≤ buffer.length
  · have hfront : buffer <+: netstringEncode data ++ [] := by rwa [List.append_nil]
    rw [netstringRead_of_front hfront hlength]
    rcases le_total buffer.length (decimal data.length).length with hle | hle
    · -- the buffer ends within the digits
      obtain ⟨cs, hcs, rfl⟩ := List.prefix_map_iff.mp
        (List.prefix_of_prefix_length_le hstarts (List.prefix_append (decimal _) _) hle)
      have hread := readLength_digits cs [] 0 0
        (fun c hc ↦ Nat.isDigit_of_mem_toDigits (by decide) (by decide) (hcs.subset hc))
        (by rw [List.length_map] at hle; omega)
      rw [List.append_nil] at hread
      rw [hread]
      simp only [Except.bind, readLength]
      rw [List.length_map, if_pos (by omega)]
    · obtain ⟨cells, rfl⟩ := List.prefix_of_prefix_length_le (List.prefix_append _ _) hstarts hle
      rw [netstringEncode, List.prefix_append_right_inj] at hstarts
      have hcolon : ∀ c ∈ cells.head?, isdigit c = false := by
        cases cells with
        | nil => nofun
        | cons c cells =>
          obtain ⟨more, hmore⟩ := hstarts
          obtain ⟨rfl, -⟩ : c = 0x3A ∧ _ := List.cons.inj hmore
          rintro c ⟨⟩
          decide
      rw [readLength_decimal hfew' hcolon]
      simp only [Except.bind]
      rw [if_pos (by omega)]
  · match buffer, hlength with
    | [], _ => rfl
    | [_], _ => rfl
    | [_, _], _ => rfl
    | _ :: _ :: _ :: _, hlength => exact absurd (by simp) hlength

end MediasoupSfu
