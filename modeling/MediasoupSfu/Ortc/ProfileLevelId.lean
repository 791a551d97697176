import MediasoupSfu.Library.Json

/-!
# H264 profile and level

The `profile-level-id` parameter of a H264 codec is a string of three bytes in hexadecimal form: the
profile, the constraint flags and the level. Two codecs can be used together if the profiles are the
same. The levels only decide which `profile-level-id` an answer carries.

The text is read with `strtol`, so that leading blanks, a sign and a `0x` count among its six
characters.
-/

namespace MediasoupSfu

namespace Ortc

namespace H264

inductive Profile where
  | constrainedBaseline
  | baseline
  | main
  | constrainedHigh
  | high
  deriving DecidableEq, Repr

inductive Level where
  | level1_b
  | level1
  | level1_1
  | level1_2
  | level1_3
  | level2
  | level2_1
  | level2_2
  | level3
  | level3_1
  | level3_2
  | level4
  | level4_1
  | level4_2
  | level5
  | level5_1
  | level5_2
  deriving DecidableEq, Repr

/-- All values are equal to ten times the level number, except level 1b which is special. -/
def Level.value : Level → ℕ
  | .level1_b => 0
  | .level1 => 10
  | .level1_1 => 11
  | .level1_2 => 12
  | .level1_3 => 13
  | .level2 => 20
  | .level2_1 => 21
  | .level2_2 => 22
  | .level3 => 30
  | .level3_1 => 31
  | .level3_2 => 32
  | .level4 => 40
  | .level4_1 => 41
  | .level4_2 => 42
  | .level5 => 50
  | .level5_1 => 51
  | .level5_2 => 52

/-- The levels that a `level_idc` can stand for. Level 1b has none of its own. -/
def Level.ofIdc? (level_idc : ℕ) : Option Level :=
  [.level1, .level1_1, .level1_2, .level1_3, .level2, .level2_1, .level2_2, .level3, .level3_1,
    .level3_2, .level4, .level4_1, .level4_2, .level5, .level5_1, .level5_2].find?
      fun level ↦ level.value == level_idc

/-- Compare H264 levels and handle the level 1b case. -/
def isLess (a b : Level) : Bool :=
  if a = .level1_b then b ≠ .level1 && b ≠ .level1_b
  else if b = .level1_b then a = .level1
  else a.value < b.value

/-- `Min`. -/
def minLevel (a b : Level) : Level :=
  if isLess a b then a else b

structure ProfileLevelId where
  profile : Profile
  level : Level
  deriving DecidableEq, Repr

/-! ## Reading a profile and level -/

/-- The byte in which the positions of a character in a pattern are set. -/
def byteMaskString (c : Char) (str : String) : BitVec 8 :=
  str.toList.foldl (fun mask d ↦ mask <<< 1 ||| if d = c then 1#8 else 0#8) 0#8

/-- Whether a byte matches a pattern such as `x1xx0000`, in which `x` is any bit. -/
def BitPattern.isMatch (str : String) (value : BitVec 8) : Bool :=
  byteMaskString '1' str == value &&& ~~~(byteMaskString 'x' str)

/-- Table for converting between `profile_idc` and `profile_iop` and a profile. -/
def kProfilePatterns : List (BitVec 8 × String × Profile) :=
  [(0x42, "x1xx0000", .constrainedBaseline),
   (0x4D, "1xxx0000", .constrainedBaseline),
   (0x58, "11xx0000", .constrainedBaseline),
   (0x42, "x0xx0000", .baseline),
   (0x58, "10xx0000", .baseline),
   (0x4D, "0x0x0000", .main),
   (0x64, "00000000", .high),
   (0x64, "00001100", .constrainedHigh)]

/-- The value of a hexadecimal digit. -/
def hexDigit? (c : Char) : Option ℕ :=
  if '0' ≤ c ∧ c ≤ '9' then some (c.toNat - '0'.toNat)
  else if 'a' ≤ c ∧ c ≤ 'f' then some (c.toNat - 'a'.toNat + 10)
  else if 'A' ≤ c ∧ c ≤ 'F' then some (c.toNat - 'A'.toNat + 10)
  else none

/-- The number that hexadecimal digits stand for, up to the first other character. -/
def hexNumber (value : ℕ) : List Char → ℕ
  | [] => value
  | c :: rest =>
    match hexDigit? c with
    | some digit => hexNumber (value * 16 + digit) rest
    | none => value

/-- The magnitude of a number in hexadecimal form. A prefix is skipped if a digit follows. -/
def hexMagnitude : List Char → ℕ
  | '0' :: x :: d :: rest =>
    if (x = 'x' ∨ x = 'X') ∧ (hexDigit? d).isSome then hexNumber 0 (d :: rest)
    else hexNumber 0 ('0' :: x :: d :: rest)
  | chars => hexNumber 0 chars

/-- `strtol` with base 16, for a text of at most six characters. -/
def strtol16 (chars : List Char) : ℤ :=
  match chars.dropWhile fun c ↦ c = ' ' ∨ ('\t' ≤ c ∧ c ≤ '\r') with
  | '-' :: rest => -(hexMagnitude rest : ℤ)
  | '+' :: rest => hexMagnitude rest
  | rest => hexMagnitude rest

/-- Parse level based on `level_idc` and constraint set 3 flag. For `level_idc` 11 the flag
specifies if level 1b or level 1.1 is used. -/
def parseLevel (level_idc profile_iop : BitVec 8) : Option Level :=
  (Level.ofIdc? level_idc.toNat).map fun level ↦
    if level = .level1_1 ∧ profile_iop &&& 0x10#8 ≠ 0#8 then .level1_b else level

/-- Parse `profile_idc` and `profile_iop` into a profile. -/
def parseProfile (profile_idc profile_iop : BitVec 8) : Option Profile :=
  (kProfilePatterns.find? fun (idc, iop, _) ↦
    profile_idc == idc && BitPattern.isMatch iop profile_iop).map fun pattern ↦ pattern.2.2

/-- `ParseProfileLevelId`. The text ends at its first zero character. -/
def parseProfileLevelId (str : String) : Option ProfileLevelId := do
  let chars := str.toList.takeWhile (· ≠ '\x00')
  -- The string should consist of 3 bytes in hexadecimal format.
  if (String.ofList chars).utf8ByteSize ≠ 6 then none else
  let profile_level_id_numeric := BitVec.ofInt 32 (strtol16 chars)
  if profile_level_id_numeric = 0#32 then none else
  let level_idc := profile_level_id_numeric.truncate 8
  let profile_iop := (profile_level_id_numeric >>> 8).truncate 8
  let profile_idc := (profile_level_id_numeric >>> 16).truncate 8
  let level ← parseLevel level_idc profile_iop
  let profile ← parseProfile profile_idc profile_iop
  return ⟨profile, level⟩

/-- SDP codec parameters. -/
abbrev CodecParameterMap := List (String × String)

/-- `ParseSdpProfileLevelId`. -/
def parseSdpProfileLevelId (params : CodecParameterMap) : Option ProfileLevelId :=
  match params.lookup "profile-level-id" with
  | none => some ⟨.constrainedBaseline, .level3_1⟩
  | some str => parseProfileLevelId str

/-! ## Profiles in an answer -/

/-- A number below 256 as two hexadecimal digits. -/
def twoHexDigits (n : ℕ) : String :=
  String.ofList [Nat.digitChar (n / 16), Nat.digitChar (n % 16)]

/-- `ProfileLevelIdToString`. Level 1b is not allowed for the high profiles. -/
def profileLevelIdToString (id : ProfileLevelId) : Option String :=
  if id.level = .level1_b then
    match id.profile with
    | .constrainedBaseline => some "42f00b"
    | .baseline => some "42100b"
    | .main => some "4d100b"
    | _ => none
  else
    let profile_idc_iop_string :=
      match id.profile with
      | .constrainedBaseline => "42e0"
      | .baseline => "4200"
      | .main => "4d00"
      | .constrainedHigh => "640c"
      | .high => "6400"
    some (profile_idc_iop_string ++ twoHexDigits id.level.value)

/-- `IsLevelAsymmetryAllowed`. -/
def isLevelAsymmetryAllowed (params : CodecParameterMap) : Bool :=
  params.lookup "level-asymmetry-allowed" == some "1"

/-- Determine answer level. When level asymmetry is not allowed, level upgrade is not allowed. -/
def answerLevel (level_asymmetry_allowed : Bool) (localLevel remoteLevel : Level) : Level :=
  if level_asymmetry_allowed then localLevel else minLevel localLevel remoteLevel

/-- `GenerateProfileLevelIdForAnswer`. It uses the profiles and the text of the answer without
asking whether there is one. -/
def generateProfileLevelIdForAnswer (localParams remoteParams : CodecParameterMap) :
    Except Json.Failure CodecParameterMap :=
  if localParams.lookup "profile-level-id" = none ∧ remoteParams.lookup "profile-level-id" =
    none then
    .ok []
  else
    match parseSdpProfileLevelId localParams, parseSdpProfileLevelId remoteParams with
    | some localId, some remoteId =>
      let level_asymmetry_allowed :=
        isLevelAsymmetryAllowed localParams && isLevelAsymmetryAllowed remoteParams
      let answer_level := answerLevel level_asymmetry_allowed localId.level remoteId.level
      match profileLevelIdToString ⟨localId.profile, answer_level⟩ with
      | some str => .ok [("profile-level-id", str)]
      | none => .error .undefined
    | _, _ => .error .undefined

/-- `IsSameH264Profile`. Compare H264 profiles, but not levels. -/
def isSameH264Profile (params1 params2 : CodecParameterMap) : Bool :=
  match parseSdpProfileLevelId params1, parseSdpProfileLevelId params2 with
  | some id1, some id2 => id1.profile = id2.profile
  | _, _ => false

example : parseProfileLevelId "42e01f" = some ⟨.constrainedBaseline, .level3_1⟩ := by decide +kernel

example : profileLevelIdToString ⟨.high, .level4⟩ = some "640028" := by decide +kernel

/-! ## What an answer needs -/

/-- Codecs of the same profile have a profile each. -/
theorem exists_of_isSameH264Profile {params1 params2 : CodecParameterMap}
    (h : isSameH264Profile params1 params2 = true) :
    ∃ id1 id2, parseSdpProfileLevelId params1 = some id1 ∧
      parseSdpProfileLevelId params2 = some id2 ∧ id1.profile = id2.profile := by
  unfold isSameH264Profile at h
  split at h
  · next id1 id2 h1 h2 => exact ⟨id1, id2, h1, h2, by simpa using h⟩
  · cases h

/-- A profile that has level 1b. -/
def Profile.HasLevel1b (profile : Profile) : Prop :=
  profile ≠ .high ∧ profile ≠ .constrainedHigh

theorem profileLevelIdToString_isSome {id : ProfileLevelId}
    (h : id.level = .level1_b → id.profile.HasLevel1b) :
    (profileLevelIdToString id).isSome := by
  obtain ⟨profile, level⟩ := id
  by_cases hlevel : level = .level1_b
  · obtain ⟨hhigh, hconstrained⟩ := h hlevel
    cases profile <;> simp_all [profileLevelIdToString]
  · simp [profileLevelIdToString, hlevel]

theorem answerLevel_eq_or (allowed : Bool) (a b : Level) :
    answerLevel allowed a b = a ∨ answerLevel allowed a b = b := by
  unfold answerLevel minLevel
  split
  · exact .inl rfl
  · split
    · exact .inl rfl
    · exact .inr rfl

/-- The patterns of the high profiles have no constraint set 3 flag. -/
theorem flag_of_isMatch_high : ∀ profile_iop : BitVec 8,
    BitPattern.isMatch "00000000" profile_iop = true ∨
      BitPattern.isMatch "00001100" profile_iop = true → profile_iop &&& 0x10#8 = 0#8 := by
  decide +kernel

theorem hasLevel1b_of_parseProfile {profile_idc profile_iop : BitVec 8} {profile : Profile}
    (h : parseProfile profile_idc profile_iop = some profile)
    (hflag : profile_iop &&& 0x10#8 ≠ 0#8) : profile.HasLevel1b := by
  obtain ⟨pattern, hfind, rfl⟩ := Option.map_eq_some_iff.mp h
  have hmem := List.mem_of_find?_eq_some hfind
  have hmatch := List.find?_some hfind
  simp only [Bool.and_eq_true] at hmatch
  have hhigh := mt (flag_of_isMatch_high profile_iop) hflag
  simp only [kProfilePatterns, List.mem_cons, List.not_mem_nil, or_false] at hmem
  rcases hmem with rfl | rfl | rfl | rfl | rfl | rfl | rfl | rfl
  case inr.inr.inr.inr.inr.inr.inl => exact (hhigh (.inl hmatch.2)).elim
  case inr.inr.inr.inr.inr.inr.inr => exact (hhigh (.inr hmatch.2)).elim
  all_goals simp [Profile.HasLevel1b]

/-- Level 1b is only read where the flag is set. -/
theorem flag_of_parseLevel {level_idc profile_iop : BitVec 8}
    (h : parseLevel level_idc profile_iop = some .level1_b) : profile_iop &&& 0x10#8 ≠ 0#8 := by
  obtain ⟨level, hofIdc, hlevel⟩ := Option.map_eq_some_iff.mp h
  split at hlevel
  · next hflag => exact hflag.2
  · subst hlevel
    exact absurd (List.mem_of_find?_eq_some hofIdc) (by decide)

/-- **A text with level 1b has a profile that has it.** -/
theorem hasLevel1b_of_parseProfileLevelId {str : String} {id : ProfileLevelId}
    (h : parseProfileLevelId str = some id) (hlevel : id.level = .level1_b) :
    id.profile.HasLevel1b := by
  dsimp only [parseProfileLevelId] at h
  split at h
  · cases h
  split at h
  · cases h
  obtain ⟨level, hparseLevel, h⟩ := Option.bind_eq_some_iff.mp h
  obtain ⟨profile, hparseProfile, h⟩ := Option.bind_eq_some_iff.mp h
  cases h
  subst hlevel
  exact hasLevel1b_of_parseProfile hparseProfile (flag_of_parseLevel hparseLevel)

theorem hasLevel1b_of_parseSdpProfileLevelId {params : CodecParameterMap} {id : ProfileLevelId}
    (h : parseSdpProfileLevelId params = some id) (hlevel : id.level = .level1_b) :
    id.profile.HasLevel1b := by
  unfold parseSdpProfileLevelId at h
  split at h
  · cases h
    cases hlevel
  · exact hasLevel1b_of_parseProfileLevelId h hlevel

/-- **An answer can be made for codecs of the same profile**, whatever their levels are. -/
theorem generateProfileLevelIdForAnswer_of_isSame {localParams remoteParams : CodecParameterMap}
    (h : isSameH264Profile localParams remoteParams = true) :
    ∃ answer, generateProfileLevelIdForAnswer localParams remoteParams = .ok answer := by
  obtain ⟨localId, remoteId, hlocal, hremote, hprofile⟩ := exists_of_isSameH264Profile h
  unfold generateProfileLevelIdForAnswer
  split
  · exact ⟨_, rfl⟩
  simp only [hlocal, hremote]
  generalize hlevel : answerLevel _ localId.level remoteId.level = answer_level
  have hof : answer_level = localId.level ∨ answer_level = remoteId.level :=
    hlevel ▸ answerLevel_eq_or _ _ _
  have hisSome : (profileLevelIdToString ⟨localId.profile, answer_level⟩).isSome := by
    refine profileLevelIdToString_isSome fun (h1b : answer_level = .level1_b) ↦ ?_
    show localId.profile.HasLevel1b
    rcases hof with h | h
    · exact hasLevel1b_of_parseSdpProfileLevelId hlocal (h.symm.trans h1b)
    · exact hprofile ▸ hasLevel1b_of_parseSdpProfileLevelId hremote (h.symm.trans h1b)
  obtain ⟨str, hstr⟩ := Option.isSome_iff_exists.mp hisSome
  exact ⟨_, by rw [hstr]⟩

end H264

end Ortc

end MediasoupSfu
