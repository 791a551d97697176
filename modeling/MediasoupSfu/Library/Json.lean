import Mathlib.Algebra.Order.Field.Rat
import Mathlib.Data.Rat.Floor
import Mathlib.Tactic.Common

/-!
# JSON values

A JSON value with the operations of a library that converts implicitly: a conversion to the wrong
type throws an exception with a number, and reading a key that is not there is an error of the
caller that the library does not report.

An object is a list of fields whose keys are taken to be distinct and in ascending order, as in an
ordered map. `ofOptions` makes an object of fields of which some are absent, and
`find?_ofOptions_cons` finds a field in it one field at a time.
-/

/-- A JSON value. Numbers that have a fraction or an exponent are kept apart from integers. -/
inductive Json where
  | null
  | boolean (b : Bool)
  | number (n : ℤ)
  | decimal (q : ℚ)
  | string (s : String)
  | array (elements : List Json)
  | object (fields : List (String × Json))
  deriving Inhabited

namespace Json

/-- What can go wrong in a program that works on JSON values. -/
inductive Failure where
  /-- An exception of the library, with its number. -/
  | exception (id : ℕ)
  /-- A precondition does not hold. What happens then is undefined. -/
  | undefined
  /-- An exception of the program, with its text. -/
  | thrown (text : String)
  deriving DecidableEq, Repr

/-! ## Kinds -/

def isString : Json → Bool
  | string _ => true
  | _ => false

def isBoolean : Json → Bool
  | boolean _ => true
  | _ => false

def isNumberInteger : Json → Bool
  | number _ => true
  | _ => false

def isNumber : Json → Bool
  | number _ => true
  | decimal _ => true
  | _ => false

def isNull : Json → Bool
  | null => true
  | _ => false

def isArray : Json → Bool
  | array _ => true
  | _ => false

def isObject : Json → Bool
  | object _ => true
  | _ => false

/-! ## Conversions -/

/-- The conversion to a string. -/
def getString : Json → Except Failure String
  | string s => .ok s
  | _ => .error (.exception 302)

theorem eq_string_of_getString {j : Json} {s : String} (h : j.getString = .ok s) :
    j = string s := by
  cases j with
  | string t => cases h; rfl
  | _ => cases h

/-- The conversion to a Boolean. -/
def getBoolean : Json → Except Failure Bool
  | boolean b => .ok b
  | _ => .error (.exception 302)

/-- The integer that a conversion to an integral type starts from. A number with a fraction is cut
off. -/
def getInteger : Json → Except Failure ℤ
  | number n => .ok n
  | boolean b => .ok b.toInt
  | decimal q => .ok (if 0 ≤ q then ⌊q⌋ else ⌈q⌉)
  | _ => .error (.exception 302)

/-- The conversion to a signed type of 32 bits. -/
def getInt32 (j : Json) : Except Failure ℤ := do
  return (BitVec.ofInt 32 (← j.getInteger)).toInt

/-- The conversion to an unsigned type of 8 bits. -/
def getUInt8 (j : Json) : Except Failure ℕ := do
  return (BitVec.ofInt 8 (← j.getInteger)).toNat

/-! ## Equality -/

mutual

/-- Values are equal by value: an integer may be equal to a number with a fraction. -/
def equal : Json → Json → Bool
  | null, null => true
  | boolean a, boolean b => a == b
  | number a, number b => a == b
  | number a, decimal b => (a : ℚ) == b
  | decimal a, number b => a == (b : ℚ)
  | decimal a, decimal b => a == b
  | string a, string b => a == b
  | array a, array b => equalList a b
  | object a, object b => equalFields a b
  | _, _ => false

def equalList : List Json → List Json → Bool
  | [], [] => true
  | a :: as, b :: bs => equal a b && equalList as bs
  | _, _ => false

def equalFields : List (String × Json) → List (String × Json) → Bool
  | [], [] => true
  | (k, a) :: as, (k', b) :: bs => k == k' && equal a b && equalFields as bs
  | _, _ => false

end

@[simp] theorem equal_number (a b : ℤ) : equal (number a) (number b) = (a == b) := by
  rw [equal]

@[simp] theorem equal_string (a b : String) : equal (string a) (string b) = (a == b) := by
  rw [equal]

/-! ## Objects -/

/-- The value of a key, if there is one. -/
def find? (j : Json) (key : String) : Option Json :=
  match j with
  | object fields => fields.lookup key
  | _ => none

/-- The value that a search for a key is taken to have found. The end of an array or of an object
has none, and elsewhere it is an invalid iterator. -/
def found (j : Json) (key : String) : Except Failure Json :=
  match j with
  | object fields =>
    match fields.lookup key with
    | some value => .ok value
    | none => .error .undefined
  | array _ => .error .undefined
  | _ => .error (.exception 214)

/-- Whether there is a value of a key. -/
def contains (j : Json) (key : String) : Bool := (j.find? key).isSome

/-- The value of a key of a constant object. There has to be one. -/
def index (j : Json) (key : String) : Except Failure Json :=
  match j with
  | object fields =>
    match fields.lookup key with
    | some value => .ok value
    | none => .error .undefined
  | _ => .error (.exception 305)

/-- Put a field into the fields of an object, in place of one with the same key. -/
def setField (key : String) (value : Json) : List (String × Json) → List (String × Json)
  | [] => [(key, value)]
  | (k, v) :: fields =>
    if k = key then (key, value) :: fields
    else if key < k then (key, value) :: (k, v) :: fields
    else (k, v) :: setField key value fields

/-- Set the value of a key of an object. -/
def set (j : Json) (key : String) (value : Json) : Json :=
  match j with
  | object fields => object (setField key value fields)
  | j => j

/-- The value of a key of an object that can be changed, and the object afterwards. If there is none
it becomes `null`. -/
def access (j : Json) (key : String) : Except Failure (Json × Json) :=
  match j with
  | object fields =>
    match fields.lookup key with
    | some value => .ok (value, j)
    | none => .ok (null, j.set key null)
  | null => .ok (null, object [(key, null)])
  | _ => .error (.exception 305)

/-- Erase a key of an object. -/
def erase (j : Json) (key : String) : Json :=
  match j with
  | object fields => object (fields.filter fun field ↦ field.1 != key)
  | j => j

theorem find?_of_found {j : Json} {key : String} {value : Json} (h : j.found key = .ok value) :
    j.find? key = some value := by
  unfold found at h
  split at h
  · split at h
    · next hlookup => exact hlookup.trans (congrArg some (Except.ok.inj h))
    · cases h
  all_goals cases h

theorem found_of_find? {j : Json} {key : String} {value : Json} (h : j.find? key = some value) :
    j.found key = .ok value := by
  cases j with
  | object fields => simp only [find?] at h; simp only [found, h]
  | _ => cases h

theorem find?_of_index {j : Json} {key : String} {value : Json} (h : j.index key = .ok value) :
    j.find? key = some value := by
  unfold index at h
  split at h
  · split at h
    · next hlookup => exact hlookup.trans (congrArg some (Except.ok.inj h))
    · cases h
  · cases h

theorem index_of_find? {j : Json} {key : String} {value : Json} (h : j.find? key = some value) :
    j.index key = .ok value := by
  cases j with
  | object fields => simp only [find?] at h; simp only [index, h]
  | _ => cases h

theorem access_of_find? {j : Json} {key : String} {value : Json} (h : j.find? key = some value) :
    j.access key = .ok (value, j) := by
  cases j with
  | object fields => simp only [find?] at h; simp only [access, h]
  | _ => cases h

/-- What is read of a key that can be changed. -/
theorem eq_of_access {j j' : Json} {key : String} {value : Json}
    (h : j.access key = .ok (value, j')) :
    value = (j.find? key).getD null := by
  unfold access at h
  split at h
  · split at h
    · next hlookup => cases h; simp [find?, hlookup]
    · next hlookup => cases h; simp [find?, hlookup]
  · cases h; rfl
  · cases h

/-- A value other than `null` is there, and reading it changes nothing. -/
theorem find?_of_access {j j' : Json} {key : String} {value : Json}
    (h : j.access key = .ok (value, j'))
    (hvalue : value ≠ null) : j.find? key = some value ∧ j' = j := by
  have heq := eq_of_access h
  cases hfind : j.find? key with
  | none =>
    rw [hfind] at heq
    exact absurd heq hvalue
  | some found =>
    rw [hfind] at heq
    obtain rfl : value = found := heq
    cases (access_of_find? hfind).symm.trans h
    exact ⟨rfl, rfl⟩

theorem eq_exception_of_access {j : Json} {key : String} {failure : Failure}
    (h : j.access key = .error failure) : failure = .exception 305 := by
  unfold access at h
  split at h
  · split at h <;> cases h
  · cases h
  · exact (Except.error.inj h).symm

theorem lookup_setField (key : String) (value : Json) (fields : List (String × Json)) (k : String) :
    (setField key value fields).lookup k = if k = key then some value else fields.lookup k := by
  induction fields with
  | nil =>
    by_cases hk : k = key
    · simp [setField, hk]
    · simp [setField, List.lookup_cons, beq_eq_false_iff_ne.mpr hk, hk]
  | cons field fields ih =>
    obtain ⟨k₀, v⟩ := field
    unfold setField
    by_cases hk : k = key
    · subst hk
      split
      · simp
      · next hne =>
        split
        · simp
        · simp [List.lookup_cons, beq_eq_false_iff_ne.mpr (Ne.symm hne), ih]
    · split
      · next heq =>
        subst heq
        simp [List.lookup_cons, beq_eq_false_iff_ne.mpr hk]
      · split
        · simp [List.lookup_cons, beq_eq_false_iff_ne.mpr hk]
        · simp only [List.lookup_cons, ih, hk, if_false]

/-- **What is found in an object after a key is set.** -/
theorem find?_set {j : Json} (hobject : j.isObject = true) (key : String) (value : Json)
    (k : String) :
    (j.set key value).find? k = if k = key then some value else j.find? k := by
  cases j with
  | object fields => exact lookup_setField key value fields k
  | _ => cases hobject

/-- Setting a key leaves the other keys alone. -/
theorem find?_set_of_ne {j : Json} (hobject : j.isObject = true) {key k : String} (hk : k ≠ key)
    (value : Json) : (j.set key value).find? k = j.find? k := by
  rw [find?_set hobject, if_neg hk]

/-- What is set is found. -/
theorem find?_set_self {j : Json} (hobject : j.isObject = true) (key : String) (value : Json) :
    (j.set key value).find? key = some value := by
  rw [find?_set hobject, if_pos rfl]

@[simp] theorem isObject_set (j : Json) (key : String) (value : Json) :
    (j.set key value).isObject = j.isObject := by
  cases j <;> rfl

theorem lookup_filter_ne (key : String) (fields : List (String × Json)) {k : String}
    (hk : k ≠ key) :
    (fields.filter fun field ↦ field.1 != key).lookup k = fields.lookup k := by
  induction fields with
  | nil => rfl
  | cons field fields ih =>
    obtain ⟨k₀, v⟩ := field
    by_cases hfield : k₀ = key
    · subst hfield
      simp [List.lookup_cons, beq_eq_false_iff_ne.mpr hk, ih]
    · simp [hfield, List.lookup_cons, ih]

/-- Erasing a key leaves the other keys alone. -/
theorem find?_erase (j : Json) {key k : String} (hk : k ≠ key) :
    (j.erase key).find? k = j.find? k := by
  cases j with
  | object fields => exact lookup_filter_ne key fields hk
  | _ => rfl

@[simp] theorem isObject_erase (j : Json) (key : String) : (j.erase key).isObject = j.isObject := by
  cases j <;> rfl

theorem lookup_filter_self (key : String) (fields : List (String × Json)) :
    (fields.filter fun field ↦ field.1 != key).lookup key = none := by
  induction fields with
  | nil => rfl
  | cons field fields ih =>
    obtain ⟨k, v⟩ := field
    by_cases hfield : k = key
    · simp [hfield, ih]
    · simp [hfield, List.lookup_cons, beq_eq_false_iff_ne.mpr (Ne.symm hfield), ih]

/-- An erased key is not there. -/
theorem find?_erase_self (j : Json) (key : String) : (j.erase key).find? key = none := by
  cases j with
  | object fields => exact lookup_filter_self key fields
  | _ => rfl

/-! ## Objects that differ in one key -/

/-- Two objects that differ at most in the value of a key. -/
structure SameBut (key : String) (j j' : Json) : Prop where
  isObject_left : j.isObject = true
  isObject_right : j'.isObject = true
  find?_eq : ∀ k, k ≠ key → j'.find? k = j.find? k

namespace SameBut

variable {key : String} {j j' : Json}

/-- An object before and after a key is set. -/
theorem of_set (hobject : j.isObject = true) (key : String) (value : Json) :
    SameBut key j (j.set key value) where
  isObject_left := hobject
  isObject_right := by rw [isObject_set, hobject]
  find?_eq k hk := by rw [find?_set hobject, if_neg hk]

/-- The same value is set in both. -/
theorem set (h : SameBut key j j') (k : String) (value : Json) :
    SameBut key (j.set k value) (j'.set k value) where
  isObject_left := by rw [isObject_set, h.isObject_left]
  isObject_right := by rw [isObject_set, h.isObject_right]
  find?_eq k' hk' := by
    rw [find?_set h.isObject_left, find?_set h.isObject_right, h.find?_eq k' hk']

/-- The same key is erased in both. -/
theorem erase (h : SameBut key j j') (k : String) : SameBut key (j.erase k) (j'.erase k) where
  isObject_left := by rw [isObject_erase, h.isObject_left]
  isObject_right := by rw [isObject_erase, h.isObject_right]
  find?_eq k' hk' := by
    by_cases hk : k' = k
    · rw [hk, find?_erase_self, find?_erase_self]
    · rw [find?_erase j hk, find?_erase j' hk, h.find?_eq k' hk']

theorem contains_eq (h : SameBut key j j') {k : String} (hk : k ≠ key) :
    j'.contains k = j.contains k := by
  rw [contains, contains, h.find?_eq k hk]

theorem index_eq (h : SameBut key j j') {k : String} (hk : k ≠ key) : j'.index k = j.index k := by
  have hfind := h.find?_eq k hk
  obtain ⟨hobject, hobject', -⟩ := h
  cases j with
  | object fields =>
    cases j' with
    | object fields' =>
      simp only [find?] at hfind
      simp only [index, hfind]
    | _ => cases hobject'
  | _ => cases hobject

end SameBut

/-! ## Settled keys

A key that was set stays where it is when other keys are set or erased, so setting it again changes
nothing. -/

/-- Setting the key to the value changes nothing. -/
structure Settled (key : String) (value j : Json) : Prop where
  isObject : j.isObject = true
  set_eq : j.set key value = j

theorem setField_setField (key : String) (value : Json) (fields : List (String × Json)) :
    setField key value (setField key value fields) = setField key value fields := by
  induction fields with
  | nil => simp [setField]
  | cons field fields ih =>
    obtain ⟨k, v⟩ := field
    by_cases hk : k = key
    · simp [setField, hk]
    · by_cases hlt : key < k
      · simp [setField, hk, hlt]
      · simp [setField, hk, hlt, ih]

/-- A settled list of fields has the key, in its head or after it. -/
theorem setField_cons_eq_self {key k : String} {value v : Json} {fields : List (String × Json)}
    (h : setField key value ((k, v) :: fields) = (k, v) :: fields) :
    k = key ∧ v = value ∨ k ≠ key ∧ ¬key < k ∧ setField key value fields = fields := by
  unfold setField at h
  split at h
  · next hk => exact Or.inl ⟨hk, (congrArg Prod.snd (List.cons.inj h).1).symm⟩
  next hk =>
  split at h
  · exact absurd (congrArg List.length h) (by simp)
  · next hlt => exact Or.inr ⟨hk, hlt, (List.cons.inj h).2⟩

theorem setField_setField_of_ne {key k : String} (hne : k ≠ key) {value : Json} (other : Json)
    {fields : List (String × Json)} (h : setField key value fields = fields) :
    setField key value (setField k other fields) = setField k other fields := by
  induction fields with
  | nil => exact absurd (congrArg List.length h) (by simp [setField])
  | cons field fields ih =>
    obtain ⟨k₀, v⟩ := field
    rcases setField_cons_eq_self h with ⟨rfl, rfl⟩ | ⟨hk₀, hlt₀, hrest⟩
    · -- The key is the first one.
      by_cases hlt : k < k₀
      · simp [setField, hne.symm, hlt, hne, String.lt_asymm hlt]
      · simp [setField, hne.symm, hlt]
    · by_cases hk : k₀ = k
      · subst hk
        simp [setField, hk₀, hlt₀, hrest]
      · by_cases hlt : k < k₀
        · have hnot : ¬key < k := fun hkey ↦ hlt₀ (String.lt_trans hkey hlt)
          simp [setField, hk, hlt, hne, hnot, hk₀, hlt₀, hrest]
        · simp [setField, hk, hlt, hk₀, hlt₀, ih hrest]

theorem setField_filter_of_ne {key k : String} (hne : k ≠ key) {value : Json}
    {fields : List (String × Json)} (h : setField key value fields = fields) :
    setField key value (fields.filter fun field ↦ field.1 != k) =
      fields.filter fun field ↦ field.1 != k := by
  induction fields with
  | nil => exact h
  | cons field fields ih =>
    obtain ⟨k₀, v⟩ := field
    rcases setField_cons_eq_self h with ⟨rfl, rfl⟩ | ⟨hk₀, hlt₀, hrest⟩
    · simp [hne.symm, setField]
    · by_cases hk : k₀ = k
      · simpa [hk] using ih hrest
      · simp [hk, setField, hk₀, hlt₀, ih hrest]

namespace Settled

variable {key : String} {value j : Json}

/-- A key is settled after it is set. -/
theorem of_set (hobject : j.isObject = true) (key : String) (value : Json) :
    Settled key value (j.set key value) where
  isObject := (isObject_set _ _ _).trans hobject
  set_eq := by
    cases j with
    | object fields => exact congrArg object (setField_setField key value fields)
    | _ => cases hobject

theorem find?_eq (h : Settled key value j) : j.find? key = some value := by
  rw [← h.set_eq, find?_set_self h.isObject]

theorem set (h : Settled key value j) {k : String} (hk : k ≠ key) (other : Json) :
    Settled key value (j.set k other) where
  isObject := (isObject_set _ _ _).trans h.isObject
  set_eq := by
    obtain ⟨hobject, hset⟩ := h
    cases j with
    | object fields =>
      exact congrArg object (setField_setField_of_ne hk other (object.inj hset))
    | _ => cases hobject

theorem erase (h : Settled key value j) {k : String} (hk : k ≠ key) :
    Settled key value (j.erase k) where
  isObject := (isObject_erase _ _).trans h.isObject
  set_eq := by
    obtain ⟨hobject, hset⟩ := h
    cases j with
    | object fields => exact congrArg object (setField_filter_of_ne hk (object.inj hset))
    | _ => cases hobject

end Settled

/-- Erasing a key that is not there changes nothing. -/
theorem erase_eq_self {j : Json} {key : String} (h : j.find? key = none) : j.erase key = j := by
  cases j with
  | object fields =>
    refine congrArg object (List.filter_eq_self.mpr fun field hfield ↦ ?_)
    have hne := List.lookup_eq_none_iff.mp h field hfield
    exact bne_iff_ne.mpr fun heq ↦ by simp [heq] at hne
  | _ => rfl

/-! ## Objects with fields that may be absent -/

/-- The object with the fields that are present. -/
def ofOptions (fields : List (String × Option Json)) : Json :=
  object (fields.filterMap fun field ↦ field.2.map (field.1, ·))

@[simp] theorem find?_ofOptions_nil (key : String) : (ofOptions []).find? key = none := rfl

@[simp] theorem find?_ofOptions_cons (k : String) (value : Option Json)
    (fields : List (String × Option Json)) (key : String) :
    (ofOptions ((k, value) :: fields)).find? key =
      if key = k then value <|> (ofOptions fields).find? key else (ofOptions fields).find? key := by
  cases value with
  | none => simp [ofOptions, find?]
  | some v =>
    by_cases hkey : key = k
    · simp [ofOptions, find?, hkey]
    · have hbeq : (key == k) = false := beq_eq_false_iff_ne.mpr hkey
      simp [ofOptions, find?, List.lookup_cons, hkey, hbeq]

@[simp] theorem index_ofOptions (fields : List (String × Option Json)) (key : String) :
    (ofOptions fields).index key =
      match (ofOptions fields).find? key with
      | some value => .ok value
      | none => .error .undefined := rfl

@[simp] theorem found_ofOptions (fields : List (String × Option Json)) (key : String) :
    (ofOptions fields).found key =
      match (ofOptions fields).find? key with
      | some value => .ok value
      | none => .error .undefined := rfl

@[simp] theorem access_ofOptions (fields : List (String × Option Json)) (key : String) :
    (ofOptions fields).access key =
      match (ofOptions fields).find? key with
      | some value => .ok (value, ofOptions fields)
      | none => .ok (null, (ofOptions fields).set key null) := rfl

end Json
