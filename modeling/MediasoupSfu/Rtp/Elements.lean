import MediasoupSfu.Rtp.ExtensionValues

/-!
# Parsing header extension elements again

The packet keeps a map of pointers to the elements of its header extension, and the operations that
change the elements keep the map up to date by hand. Whoever receives the packet only has its bytes,
and finds the elements with the loops of `ParseExtensions`.

The two loops, for the one-byte and for the two-bytes form, are the same walk over the elements:
`visit` is what happens at one place, and `walk` goes on behind it. Padding bytes are skipped by the
inner loop or by the outer one, which makes no difference (`walk_skipPadding`). Two facts about the
walk are used by the operations: it finds elements that are written one behind the other
(`walk_writeExtensions`), and it does not notice that a value gets shorter or longer if what is left
of its room is padding (`walk_resize`).
-/

namespace MediasoupSfu

open Memory

namespace RtpPacket

open GenericExtension (totalSize)

/-! ## The walk -/

/-- What the loop of `ParseExtensions` for this type does at `ptr`. Unless it ends there, the id of
the element, or none of a padding byte, and the place behind it. -/
def visit (type : Byte) (body : List Byte) (stop ptr : ℕ) : Option (Option Byte × ℕ) :=
  if type = 1 then
    let b := body.getD ptr 0
    let id := (b &&& 0xF0) >>> 4
    let next := ptr + 1 + ((b &&& 0x0F).toNat + 1)
    if stop ≤ ptr then none
    else if id = 15 then none
    else if id = 0 then some (none, ptr + 1)
    else if stop < next then none
    else some (some id, next)
  else
    let id := body.getD ptr 0
    let next := ptr + 2 + (body.getD (ptr + 1) 0).toNat
    if stop ≤ ptr + 1 then none
    else if id = 0 then some (none, ptr + 1)
    else if stop < next then none
    else some (some id, next)

/-- The map with the element at `ptr`, if there is one. -/
def record (map : ExtensionMap) (found : Option Byte) (ptr : ℕ) : ExtensionMap :=
  match found with
  | none => map
  | some id => Function.update map id (some ptr)

variable {type : Byte} {body body' : List Byte} {stop ptr next : ℕ} {found : Option Byte}
  {map : ExtensionMap}

theorem lt_of_visit (h : visit type body stop ptr = some (found, next)) :
    ptr < next ∧ next ≤ stop := by
  unfold visit at h
  dsimp only at h
  repeat' split at h
  all_goals cases h
  all_goals omega

/-- The map after the elements from `ptr` on. -/
def walk (type : Byte) (body : List Byte) (stop ptr : ℕ) (map : ExtensionMap) : ExtensionMap :=
  match _h : visit type body stop ptr with
  | none => map
  | some (found, next) => walk type body stop next (record map found ptr)
termination_by stop - ptr
decreasing_by
  have hlt := lt_of_visit _h
  exact Nat.sub_lt_sub_left (Nat.lt_of_lt_of_le hlt.1 hlt.2) hlt.1

theorem walk_of_none (h : visit type body stop ptr = none) (map : ExtensionMap) :
    walk type body stop ptr map = map := by
  rw [walk]
  split
  · rfl
  · rename_i hsome
    rw [h] at hsome
    cases hsome

theorem walk_of_some (h : visit type body stop ptr = some (found, next)) (map : ExtensionMap) :
    walk type body stop ptr map = walk type body stop next (record map found ptr) := by
  rw [walk]
  split
  · rename_i hnone
    rw [h] at hnone
    cases hnone
  · rename_i hsome
    rw [h] at hsome
    cases hsome
    rfl

theorem visit_of_le (h : stop ≤ ptr) : visit type body stop ptr = none := by
  unfold visit
  dsimp only
  by_cases htype : type = 1
  · rw [if_pos htype, if_pos h]
  · rw [if_neg htype, if_pos (Nat.le_succ_of_le h)]

theorem walk_of_le (h : stop ≤ ptr) (map : ExtensionMap) : walk type body stop ptr map = map :=
  walk_of_none (visit_of_le h) map

/-! ## Padding -/

/-- A padding byte is passed over. -/
theorem walk_zero (hlt : ptr < stop) (hzero : body[ptr]? = some 0) (map : ExtensionMap) :
    walk type body stop ptr map = walk type body stop (ptr + 1) map := by
  have hget : body.getD ptr 0 = 0 := by rw [List.getD_eq_getElem?_getD, hzero]; rfl
  by_cases hend : type ≠ 1 ∧ stop ≤ ptr + 1
  · rw [walk_of_none, walk_of_le hend.2]
    unfold visit
    rw [if_neg hend.1, if_pos hend.2]
  · have hvisit : visit type body stop ptr = some (none, ptr + 1) := by
      unfold visit
      dsimp only
      rw [hget]
      split
      · rw [if_neg (by omega), if_neg (by decide), if_pos (by decide)]
      · rename_i htype
        rw [if_neg fun hle ↦ hend ⟨htype, hle⟩, if_pos rfl]
    exact walk_of_some hvisit map

theorem walk_zeros (n : ℕ) : ∀ {ptr : ℕ} {map : ExtensionMap}, ptr + n ≤ stop →
    (∀ j < n, body[ptr + j]? = some 0) →
    walk type body stop ptr map = walk type body stop (ptr + n) map := by
  induction n with
  | zero => exact fun _ _ ↦ rfl
  | succ n ih =>
    intro ptr map hle hzeros
    have hrest : ∀ j < n, body[ptr + 1 + j]? = some 0 := by
      intro j hj
      rw [Nat.add_assoc, Nat.add_comm 1]
      exact hzeros (j + 1) (by omega)
    have hfirst : body[ptr]? = some 0 := hzeros 0 (Nat.succ_pos n)
    rw [walk_zero (by omega) hfirst, ih (by omega) hrest, Nat.add_assoc, Nat.add_comm 1]

/-- It does not matter which loop skips the padding. -/
theorem walk_skipPadding (ptr : ℕ) (map : ExtensionMap) :
    walk type body stop (skipPadding body stop ptr) map = walk type body stop ptr map := by
  have hprefix := List.takeWhile_prefix (l := slice body ptr (stop - ptr)) fun b ↦ decide (b = 0)
  have hlength := hprefix.length_le
  have hslice : (slice body ptr (stop - ptr)).length ≤ stop - ptr := by
    rw [slice, List.length_take]
    exact Nat.min_le_left _ _
  by_cases hle : ptr ≤ stop
  · refine (walk_zeros _ (by omega) fun j hj ↦ ?_).symm
    have hcell := hprefix.getElem hj
    have hall := List.all_eq_true.mp List.all_takeWhile _ (List.getElem_mem hj)
    rw [of_decide_eq_true hall] at hcell
    have hget : (slice body ptr (stop - ptr))[j]? = some 0 := by
      rw [List.getElem?_eq_getElem (by omega), ← hcell]
    rw [getElem?_slice] at hget
    split at hget
    · exact hget
    · cases hget
  · rw [walk_of_le (by have := le_skipPadding body stop ptr; omega), walk_of_le (by omega)]

/-! ## The loops of `ParseExtensions` -/

/-- The loop for the one-byte form is the walk. -/
theorem parseOneByteExtensions_eq (h : stop ≤ body.length) (ptr : ℕ) (map : ExtensionMap) :
    parseOneByteExtensions body stop ptr map = .ok (walk 1 body stop ptr map) := by
  induction ptr, map using parseOneByteExtensions.induct body stop with
  | case1 ptr map hlt ih₁ ih₂ =>
    rw [parseOneByteExtensions, dif_pos hlt, get1Byte_of_lt (by omega)]
    simp only [bind, Except.bind]
    generalize hb : body.getD ptr 0 = b at *
    have hvisit : visit 1 body stop ptr = if (b &&& 0xF0) >>> 4 = 15 then none
        else if (b &&& 0xF0) >>> 4 = 0 then some (none, ptr + 1)
        else if stop < ptr + 1 + ((b &&& 0x0F).toNat + 1) then none
        else some (some ((b &&& 0xF0) >>> 4), ptr + 1 + ((b &&& 0x0F).toNat + 1)) := by
      unfold visit
      rw [if_pos rfl, hb]
      exact if_neg (by omega)
    split
    · rename_i hid
      rw [walk_of_none (by rw [hvisit, if_pos hid])]
      rfl
    · rename_i hid
      rw [if_neg hid] at hvisit
      split
      · rename_i hne
        rw [if_neg hne] at hvisit
        split
        · rename_i hshort
          rw [walk_of_none (by rw [hvisit, if_pos hshort])]
          rfl
        · rename_i hfits
          rw [if_neg hfits] at hvisit
          rw [ih₁ b, walk_skipPadding, walk_of_some hvisit, Nat.add_assoc]
          rfl
      · rename_i hzero
        rw [if_pos (not_not.mp hzero)] at hvisit
        rw [ih₂, walk_skipPadding, walk_of_some hvisit]
        rfl
  | case2 ptr map hge =>
    rw [parseOneByteExtensions, dif_neg hge, walk_of_le (by omega)]

/-- The loop for the two-bytes form is the walk. -/
theorem parseTwoBytesExtensions_eq (htype : type ≠ 1) (h : stop ≤ body.length) (ptr : ℕ)
    (map : ExtensionMap) :
    parseTwoBytesExtensions body stop ptr map = .ok (walk type body stop ptr map) := by
  induction ptr, map using parseTwoBytesExtensions.induct body stop with
  | case1 ptr map hlt ih₁ ih₂ =>
    rw [parseTwoBytesExtensions, dif_pos hlt, get1Byte_of_lt (by omega), get1Byte_of_lt (by omega)]
    simp only [bind, Except.bind]
    generalize hid : body.getD ptr 0 = id at *
    generalize hlen : body.getD (ptr + 1) 0 = len at *
    have hvisit : visit type body stop ptr = if id = 0 then some (none, ptr + 1)
        else if stop < ptr + 2 + len.toNat then none
        else some (some id, ptr + 2 + len.toNat) := by
      unfold visit
      rw [if_neg htype, hid, hlen]
      dsimp only
      rw [if_neg (by omega)]
    split
    · rename_i hne
      rw [if_neg hne] at hvisit
      split
      · rename_i hshort
        rw [walk_of_none (by rw [hvisit, if_pos hshort])]
        rfl
      · rename_i hfits
        rw [if_neg hfits] at hvisit
        rw [ih₁ id len, walk_skipPadding, walk_of_some hvisit, Nat.add_assoc]
        rfl
    · rename_i hzero
      rw [if_pos (not_not.mp hzero)] at hvisit
      rw [ih₂, walk_skipPadding, walk_of_some hvisit]
      rfl
  | case2 ptr map hge =>
    rw [parseTwoBytesExtensions, dif_neg hge, walk_of_none]
    unfold visit
    rw [if_neg htype, if_pos (by omega)]

/-! ## What the walk reads -/

theorem getD_congr {j : ℕ} (h : body'[j]? = body[j]?) : body'.getD j 0 = body.getD j 0 := by
  rw [List.getD_eq_getElem?_getD, h, List.getD_eq_getElem?_getD]

theorem visit_congr (h : ∀ j, ptr ≤ j → j < stop → body'[j]? = body[j]?) :
    visit type body' stop ptr = visit type body stop ptr := by
  by_cases hle : stop ≤ ptr
  · rw [visit_of_le hle, visit_of_le hle]
  · unfold visit
    rw [getD_congr (h ptr le_rfl (by omega))]
    by_cases htype : type = 1
    · rw [if_pos htype, if_pos htype]
    · rw [if_neg htype, if_neg htype]
      dsimp only
      by_cases hend : stop ≤ ptr + 1
      · rw [if_pos hend, if_pos hend]
      · rw [getD_congr (h (ptr + 1) (by omega) (by omega))]

/-- What happens at one place depends on what is in front of the next one. -/
theorem visit_of_front (hvisit : visit type body stop ptr = some (found, next))
    (h : ∀ j, ptr ≤ j → j < next → body'[j]? = body[j]?) :
    visit type body' stop ptr = some (found, next) := by
  have hlt := (lt_of_visit hvisit).1
  rw [← hvisit]
  unfold visit at hvisit ⊢
  rw [getD_congr (h ptr le_rfl hlt)]
  by_cases htype : type = 1
  · rw [if_pos htype, if_pos htype]
  · rw [if_neg htype] at hvisit ⊢
    rw [if_neg htype]
    dsimp only at hvisit ⊢
    by_cases hid : body.getD ptr 0 = 0
    · rw [if_pos hid, if_pos hid]
    · rw [if_neg hid] at hvisit
      split at hvisit
      · cases hvisit
      · split at hvisit
        · cases hvisit
        · cases hvisit
          rw [getD_congr (h (ptr + 1) (by omega) (by omega))]

/-- The walk from one place on reads what is behind that place. -/
theorem walk_congr (ptr : ℕ) (map : ExtensionMap)
    (h : ∀ j, ptr ≤ j → j < stop → body'[j]? = body[j]?) :
    walk type body' stop ptr map = walk type body stop ptr map := by
  induction ptr, map using walk.induct type body stop with
  | case1 ptr map hnone => rw [walk_of_none hnone, walk_of_none ((visit_congr h).trans hnone)]
  | case2 ptr map found next hsome ih =>
    have hlt := (lt_of_visit hsome).1
    rw [walk_of_some hsome, walk_of_some ((visit_congr h).trans hsome)]
    exact ih fun j hj ↦ h j (by omega)

theorem of_record {id : Byte} {q : ℕ} (h : record map found ptr id = some q) :
    map id = some q ∨ found = some id ∧ q = ptr := by
  cases found with
  | none => exact Or.inl h
  | some id' =>
    rw [record, Function.update_apply] at h
    split at h
    · rename_i hid
      exact Or.inr ⟨congrArg some hid.symm, (Option.some.inj h).symm⟩
    · exact Or.inl h

/-- The walk does not find what is in front of it. -/
theorem of_walk_of_lt {id : Byte} {q : ℕ} (h : walk type body stop ptr map id = some q)
    (hlt : q < ptr) : map id = some q := by
  induction ptr, map using walk.induct type body stop with
  | case1 ptr map hnone => rwa [walk_of_none hnone] at h
  | case2 ptr map found next hsome ih =>
    rw [walk_of_some hsome] at h
    rcases of_record (ih h (hlt.trans (lt_of_visit hsome).1)) with hold | ⟨-, rfl⟩
    · exact hold
    · exact absurd hlt (lt_irrefl _)

/-- The walk comes to every element that it finds, whatever is behind the start of that element. -/
theorem walk_reaches {id : Byte} {q : ℕ} (h : walk type body stop ptr map id = some q)
    (hnew : map id ≠ some q) :
    ptr ≤ q ∧ (∃ next, visit type body stop q = some (some id, next)) ∧ ∃ map', ∀ body' : List Byte,
      (∀ j, ptr ≤ j → j < q → body'[j]? = body[j]?) →
      walk type body' stop ptr map = walk type body' stop q map' := by
  induction ptr, map using walk.induct type body stop with
  | case1 ptr map hnone =>
    rw [walk_of_none hnone] at h
    exact absurd h hnew
  | case2 ptr map found next hsome ih =>
    have hlt := (lt_of_visit hsome).1
    rw [walk_of_some hsome] at h
    by_cases hq : q = ptr
    · subst hq
      rcases of_record (of_walk_of_lt h hlt) with hold | ⟨rfl, -⟩
      · exact absurd hold hnew
      · exact ⟨le_rfl, ⟨next, hsome⟩, map, fun _ _ ↦ rfl⟩
    · have hnew' : record map found ptr id ≠ some q := fun hrecord ↦
        (of_record hrecord).elim hnew fun hnow ↦ hq hnow.2
      obtain ⟨hle, hvisit, map', hwalk⟩ := ih h hnew'
      refine ⟨by omega, hvisit, map', fun body' hsame ↦ ?_⟩
      rw [walk_of_some (visit_of_front hsome fun j hj hj' ↦ hsame j hj (by omega))]
      exact hwalk body' fun j hj hj' ↦ hsame j (by omega) hj'

/-! ## Elements -/

/-- The id in the head of an element of the one-byte form. -/
theorem highNibble_eq {id : Byte} (hid : id ≤ 14) (len : ℕ) :
    (((id <<< 4) ||| (BitVec.ofNat 8 (len - 1) &&& 0x0F)) &&& 0xF0) >>> 4 = id := by
  have hhigh : ((id <<< 4) ||| (BitVec.ofNat 8 (len - 1) &&& (0x0F : Byte))) &&& (0xF0 : Byte) =
      id <<< 4 := by
    ext i hi
    simp only [BitVec.getElem_and, BitVec.getElem_or, BitVec.getElem_shiftLeft, getElem_lowMask,
      getElem_highMask]
    cases decide (i < 4) <;> simp
  have hshift : ∀ id : Byte, id ≤ 14 → (id <<< 4) >>> 4 = id := by decide
  rw [hhigh, hshift id hid]

/-- A head of the one-byte form is made up of its id and its length. -/
theorem nibbles_eq : ∀ b : Byte, b =
    (((b &&& 0xF0) >>> 4) <<< 4) ||| (BitVec.ofNat 8 ((b &&& 0x0F).toNat + 1 - 1) &&& 0x0F) := by
  decide

theorem slice_one {i : ℕ} (h : i < body.length) : slice body i 1 = [body.getD i 0] := by
  apply List.ext_getElem?
  intro j
  rw [getElem?_slice]
  cases j with
  | zero =>
    rw [if_pos Nat.one_pos, Nat.add_zero, List.getD_eq_getElem?_getD, List.getElem?_eq_getElem h]
    rfl
  | succ j =>
    rw [if_neg (by omega)]
    rfl

theorem getD_of_slice {bytes : List Byte} {i n j : ℕ} {b : Byte} (h : slice body i n = bytes)
    (hj : bytes[j]? = some b) : body.getD (i + j) 0 = b := by
  rw [← h, getElem?_slice] at hj
  split at hj
  · rw [List.getD_eq_getElem?_getD, hj]
    rfl
  · cases hj

/-- An element that is there is found. -/
theorem visit_element {id : Byte} {len : ℕ} (hvalid : IsValid type id len)
    (hhead : slice body ptr (formOf type).headerSize = elementHead type id len)
    (hin : ptr + (formOf type).headerSize + len ≤ stop) :
    visit type body stop ptr = some (some id, ptr + (formOf type).headerSize + len) := by
  unfold visit
  obtain ⟨hid, hlen⟩ := hvalid
  by_cases htype : type = 1
  · subst htype
    rw [if_pos rfl] at hlen
    obtain ⟨hid', hne, hle⟩ := hlen
    change ptr + 1 + len ≤ stop at hin
    have hbyte : body.getD ptr 0 = (id <<< 4) ||| (BitVec.ofNat 8 (len - 1) &&& 0x0F) :=
      getD_of_slice (j := 0) hhead rfl
    have hid15 : id ≠ 15 := by
      rintro rfl
      exact absurd hid' (by decide)
    rw [if_pos rfl, hbyte]
    dsimp only
    rw [highNibble_eq hid', lowNibble_eq id hne hle, if_neg (by omega), if_neg hid15, if_neg hid,
      if_neg (by omega)]
    rfl
  · rw [if_neg htype] at hlen
    rw [formOf, if_neg htype] at hhead hin ⊢
    rw [elementHead, if_neg htype] at hhead
    change ptr + 2 + len ≤ stop at hin
    have hbyte : body.getD ptr 0 = id := getD_of_slice (j := 0) hhead rfl
    have hlength : body.getD (ptr + 1) 0 = BitVec.ofNat 8 len := getD_of_slice (j := 1) hhead rfl
    rw [if_neg htype, hbyte, hlength]
    dsimp only
    rw [BitVec.toNat_ofNat, Nat.mod_eq_of_lt hlen, if_neg (by omega), if_neg hid,
      if_neg (by omega)]
    rfl

/-- What is found is an element. -/
theorem element_of_visit {id : Byte} (hvisit : visit type body stop ptr = some (some id, next))
    (hstop : stop ≤ body.length) : ∃ len, IsValid type id len ∧
      slice body ptr (formOf type).headerSize = elementHead type id len ∧
      next = ptr + (formOf type).headerSize + len := by
  have hlt := lt_of_visit hvisit
  unfold visit at hvisit
  unfold IsValid formOf elementHead
  by_cases htype : type = 1
  · simp only [htype, if_true] at hvisit ⊢
    generalize hb : body.getD ptr 0 = b at hvisit
    split at hvisit
    · cases hvisit
    split at hvisit
    · cases hvisit
    rename_i h15
    split at hvisit
    · cases hvisit
    rename_i hzero
    split at hvisit
    · cases hvisit
    cases hvisit
    have hmask : (b &&& 0x0F).toNat < 16 := by
      rw [Packing.toNat_and_mask (k := 4) _ rfl]
      exact Nat.mod_lt _ (by decide)
    have hid : ∀ b : Byte, (b &&& 0xF0) >>> 4 ≠ 15 → (b &&& 0xF0) >>> 4 ≤ 14 := by decide
    refine ⟨(b &&& 0x0F).toNat + 1, ⟨hzero, hid b h15, Nat.succ_ne_zero _, by omega⟩, ?_, rfl⟩
    change slice body ptr 1 = _
    rw [slice_one (by omega), hb, ← nibbles_eq b]
  · simp only [htype, if_false] at hvisit ⊢
    generalize hlen : body.getD (ptr + 1) 0 = len at hvisit
    split at hvisit
    · cases hvisit
    split at hvisit
    · cases hvisit
    rename_i hzero
    split at hvisit
    · cases hvisit
    cases hvisit
    refine ⟨len.toNat, ⟨hzero, len.isLt⟩, ?_, rfl⟩
    change slice body ptr 2 = _
    rw [slice_two (by omega), hlen, BitVec.ofNat_toNat, BitVec.setWidth_eq]

/-- A value may get shorter or longer: what is left of its room is padding before and after. -/
theorem walk_resize {start room cur len : ℕ} {id : Byte} (hnew : map id ≠ some ptr)
    (hfound : walk type body stop start map id = some ptr)
    (hin : ptr + (formOf type).headerSize + room ≤ stop) (hcur : cur ≤ room) (hlen : len ≤ room)
    (hvalid : IsValid type id cur) (hvalid' : IsValid type id len)
    (hhead : slice body ptr (formOf type).headerSize = elementHead type id cur)
    (hhead' : slice body' ptr (formOf type).headerSize = elementHead type id len)
    (hzeros : ∀ j, cur ≤ j → j < room → body[ptr + (formOf type).headerSize + j]? = some 0)
    (hzeros' : ∀ j, len ≤ j → j < room → body'[ptr + (formOf type).headerSize + j]? = some 0)
    (hbefore : ∀ j < ptr, body'[j]? = body[j]?)
    (hafter : ∀ j, ptr + (formOf type).headerSize + room ≤ j → body'[j]? = body[j]?) :
    walk type body' stop start map = walk type body stop start map := by
  obtain ⟨-, -, map', hwalk⟩ := walk_reaches hfound hnew
  have hpast : ∀ {body : List Byte} {n : ℕ}, n ≤ room → IsValid type id n →
      slice body ptr (formOf type).headerSize = elementHead type id n →
      (∀ j, n ≤ j → j < room → body[ptr + (formOf type).headerSize + j]? = some 0) →
      walk type body stop ptr map' = walk type body stop (ptr + (formOf type).headerSize + room)
        (record map' (some id) ptr) := by
    intro body n hn hvalid hhead hzeros
    rw [walk_of_some (visit_element hvalid hhead (by omega)), walk_zeros (room - n) (by omega)]
    · congr 1
      omega
    · intro j hj
      rw [Nat.add_assoc _ n j]
      exact hzeros (n + j) (by omega) (by omega)
  rw [hwalk body' fun j _ hj ↦ hbefore j hj, hwalk body fun _ _ _ ↦ rfl,
    hpast hlen hvalid' hhead' hzeros', hpast hcur hvalid hhead hzeros]
  exact walk_congr _ _ fun j hj _ ↦ hafter j hj

/-! ## Elements that are written -/

variable {p p' : RtpPacket} {extensions : List GenericExtension} {ptr' : ℕ}

/-- The map of the form that is not of this type. -/
def otherElements (p : RtpPacket) (type : Byte) : ExtensionMap :=
  if type = 1 then p.mapTwoBytesExtensions else p.mapOneByteExtensions

theorem otherElements_storeElement (p : RtpPacket) (type id : Byte) (ptr : ℕ) :
    (p.storeElement type id ptr).otherElements type = p.otherElements type := by
  unfold storeElement otherElements
  split <;> rfl

/-- The loop of `SetExtensions` leaves what is in front of it and the other map alone. -/
theorem writeExtensions_frame (es : List GenericExtension) :
    ∀ {p : RtpPacket} {ptr : ℕ}, writeExtensions type es p ptr = .ok (p', ptr') →
      ptr ≤ ptr' ∧ (∀ j < ptr, p'.body[j]? = p.body[j]?) ∧
        p'.otherElements type = p.otherElements type := by
  induction es with
  | nil =>
    intro p ptr h
    cases h
    exact ⟨le_rfl, fun _ _ ↦ rfl, rfl⟩
  | cons e es ih =>
    intro p ptr h
    rw [writeExtensions] at h
    split at h
    · exact ih h
    · obtain ⟨hbody, -⟩ := storeElement_frame p type e.id ptr
      dsimp only at h
      rw [hbody] at h
      obtain ⟨body, hwrite, hrest⟩ := bind_eq_ok.mp h
      obtain ⟨hroom, rfl⟩ := of_writeBytes hwrite
      obtain ⟨hle, hcells, hother⟩ := ih hrest
      refine ⟨by omega, fun j hj ↦ ?_, hother.trans (otherElements_storeElement p type e.id ptr)⟩
      exact (hcells j (by omega)).trans (getElem?_splice_of_lt hroom hj)

/-- The walk finds the elements where `SetExtensions` has written them. -/
theorem walk_writeExtensions (es : List GenericExtension) :
    ∀ {p : RtpPacket} {ptr : ℕ}, writeExtensions type es p ptr = .ok (p', ptr') →
      ptr' ≤ stop → (∀ j, ptr ≤ j → j < ptr' → body[j]? = p'.body[j]?) →
      (∀ j, ptr' ≤ j → j < stop → body[j]? = some 0) →
      walk type body stop ptr (p.elements type) = p'.elements type := by
  induction es with
  | nil =>
    intro p ptr h hle _ hzeros
    cases h
    rw [walk_zeros (stop - ptr') (by omega) fun j hj ↦ hzeros _ (by omega) (by omega),
      walk_of_le (by omega)]
  | cons e es ih =>
    intro p ptr h hle hcells hzeros
    rw [writeExtensions] at h
    cases hskipped : e.isSkipped type with
    | true =>
      rw [hskipped, if_pos rfl] at h
      exact ih h hle hcells hzeros
    | false =>
      obtain ⟨hbody, -⟩ := storeElement_frame p type e.id ptr
      rw [hskipped, if_neg Bool.false_ne_true] at h
      dsimp only at h
      rw [hbody] at h
      obtain ⟨written, hwrite, hrest⟩ := bind_eq_ok.mp h
      obtain ⟨hroom, rfl⟩ := of_writeBytes hwrite
      obtain ⟨hle', hkept, -⟩ := writeExtensions_frame es hrest
      have hlength : (e.element type).length = (formOf type).headerSize + e.len := by
        rw [element_eq, List.length_append, length_elementHead, GenericExtension.len]
      have hwritten : ∀ j < (e.element type).length, body[ptr + j]? = (e.element type)[j]? := by
        intro j hj
        rw [hcells _ (by omega) (by omega), hkept _ (by omega), getElem?_splice_inside hroom hj]
      have hhead : slice body ptr (formOf type).headerSize = elementHead type e.id e.len := by
        have hhead := length_elementHead type e.id e.len
        apply List.ext_getElem?
        intro j
        rw [getElem?_slice]
        split
        · rw [hwritten j (by omega), element_eq, List.getElem?_append_left (by omega)]
        · exact (List.getElem?_eq_none (by omega)).symm
      rw [walk_of_some (visit_element (isValid_of_not_isSkipped hskipped) hhead (by omega)),
        record, ← elements_storeElement, Nat.add_assoc, ← hlength]
      have hwalk := ih hrest hle (fun j hj ↦ hcells j (by omega)) hzeros
      exact hwalk

/-- The elements that `SetExtensions` leaves are those that are found. -/
theorem elements_fillHeaderExtension {start : ℕ}
    (h : p.fillHeaderExtension type extensions start = .ok p')
    (hone : p.mapOneByteExtensions = fun _ ↦ none) (htwo : p.mapTwoBytesExtensions = fun _ ↦ none) :
    p'.elements type = walk type p'.body p'.payload (start + 4) (fun _ ↦ none) ∧
      p'.otherElements type = fun _ ↦ none := by
  obtain ⟨⟨q, ptr⟩, hwrite, h⟩ := bind_eq_ok.mp h
  obtain ⟨body, hpadding, h⟩ := bind_eq_ok.mp h
  obtain ⟨⟨⟩, hend, h⟩ := bind_eq_ok.mp h
  cases h
  obtain ⟨hroom, rfl⟩ := of_writeBytes hpadding
  have hend := of_decide_eq_true (msAssert_eq_ok.mp hend)
  have hnone : p.elements type = (fun _ ↦ none) ∧ p.otherElements type = fun _ ↦ none := by
    rw [elements, otherElements, hone, htwo]
    split <;> exact ⟨rfl, rfl⟩
  obtain ⟨hle, -, hother⟩ := writeExtensions_frame extensions hwrite
  refine ⟨?_, hother.trans hnone.2⟩
  change q.elements type = walk type _ q.payload (start + 4) fun _ ↦ none
  rw [← hnone.1]
  refine (walk_writeExtensions extensions hwrite (by omega) (fun j _ hj ↦ ?_)
    fun j hj hj' ↦ ?_).symm
  · exact getElem?_splice_of_lt hroom hj
  · obtain ⟨k, rfl⟩ := Nat.exists_eq_add_of_le hj
    rw [getElem?_splice_inside hroom (by rw [List.length_replicate]; omega),
      List.getElem?_replicate, if_pos (by omega)]

end RtpPacket

end MediasoupSfu
