import MediasoupSfu.Ortc.ProfileLevelId
import MediasoupSfu.Ortc.RtpParameters
import MediasoupSfu.Utils.Byte

/-!
# Matching codecs

Two codecs match if they have the same MIME type, up to case, and the same clock rate, and if they
agree in what else is critical for the type: the channels of Opus, the packetization mode and the
profile of H264, the profile of VP9. The profiles only count in a strict match.

The code reads members without asking whether they are there. A member of the first codec that is
not there is inserted as `null`. One of the second codec, which is constant, leaves the behaviour
undefined.

## Main results

* `matchCodecs_of_returns` : what two matching codecs have in common.
* `matchCodecs_returns` : a match that is not strict always has an answer for well-formed codecs.
-/

namespace MediasoupSfu

namespace Ortc

open Json (Failure find?_of_index find?_of_found index_of_find? found_of_find? access_of_find?
  eq_of_access eq_string_of_getString)

/-- A computation that is evaluated to a value. -/
theorem exists_ok_of_isOk {α : Type} {x : Except Failure α} (h : x.isOk = true) :
    ∃ a, x = .ok a := by
  cases x with
  | ok a => exact ⟨a, rfl⟩
  | error e => cases h

/-- `std::transform` with `tolower`. -/
def lowerCase (s : String) : String :=
  String.ofList (s.toList.map Char.toLower)

/-- Whether a MIME type matches `^(audio|video)/rtx$` when case is ignored. -/
def isRtxMimeType (mimeType : String) : Bool :=
  lowerCase mimeType = "audio/rtx" || lowerCase mimeType = "video/rtx"

/-- `isRtxCodec`. -/
def isRtxCodec (codec : Json) : Except Failure Bool := do
  let mimeType ← (← codec.index "mimeType").getString
  return isRtxMimeType mimeType

/-- The value of an integer parameter in a byte, 0 if there is none. -/
def getH264Integer (key : String) (codec : Json) : Except Failure ℕ := do
  let parameters ← codec.index "parameters"
  match parameters.find? key with
  | none => return 0
  | some value => if value.isNumberInteger then value.getUInt8 else return 0

/-- `getH264PacketizationMode`. -/
def getH264PacketizationMode : Json → Except Failure ℕ := getH264Integer "packetization-mode"

/-- `getH264LevelAssimetryAllowed`. -/
def getH264LevelAssimetryAllowed : Json → Except Failure ℕ :=
  getH264Integer "level-asymmetry-allowed"

/-- The text of a parameter that may be given as a number. -/
def getTextParameter (key default : String) (codec : Json) : Except Failure String := do
  let parameters ← codec.index "parameters"
  match parameters.find? key with
  | none => return default
  | some value => if value.isNumber then return toString (← value.getInt32) else value.getString

/-- `getH264ProfileLevelId`. -/
def getH264ProfileLevelId : Json → Except Failure String := getTextParameter "profile-level-id" ""

/-- `getVP9ProfileId`. -/
def getVP9ProfileId : Json → Except Failure String := getTextParameter "profile-id" "0"

/-- The SDP parameters by which H264 codecs are compared. -/
def h264Parameters (codec : Json) (packetizationMode : ℕ) :
    Except Failure H264.CodecParameterMap := do
  let levelAssimetryAllowed ← getH264LevelAssimetryAllowed codec
  let profileLevelId ← getH264ProfileLevelId codec
  return [("level-asymmetry-allowed", toString levelAssimetryAllowed),
    ("packetization-mode", toString packetizationMode), ("profile-level-id", profileLevelId)]

/-- Take over the `profile-level-id` of an answer. -/
def setProfileLevelId (codec : Json) (newParameters : H264.CodecParameterMap) :
    Except Failure Json := do
  let (parameters, codec) ← codec.access "parameters"
  match newParameters.lookup "profile-level-id" with
  | some profileLevelId =>
    return codec.set "parameters" (parameters.set "profile-level-id" (.string profileLevelId))
  | none => return codec.set "parameters" (parameters.erase "profile-level-id")

/-- Match H264 parameters. -/
def matchH264 (aCodec bCodec : Json) (strict modify : Bool) : Except Failure (Bool × Json) := do
  let aPacketizationMode ← getH264PacketizationMode aCodec
  let bPacketizationMode ← getH264PacketizationMode bCodec
  if aPacketizationMode ≠ bPacketizationMode then return (false, aCodec)
  -- If strict matching check profile-level-id.
  else if !strict then return (true, aCodec)
  else do
    let aParameters ← h264Parameters aCodec aPacketizationMode
    let bParameters ← h264Parameters bCodec bPacketizationMode
    if !H264.isSameH264Profile aParameters bParameters then return (false, aCodec)
    else do
      let newParameters ← H264.generateProfileLevelIdForAnswer aParameters bParameters
      if modify then return (true, ← setProfileLevelId aCodec newParameters)
      else return (true, aCodec)

/-- Match the channels of Opus. -/
def matchChannels (mimeType : String) (aCodec bCodec : Json) : Except Failure Bool :=
  if mimeType ≠ "audio/opus" then return true
  else if aCodec.contains "channels" ≠ bCodec.contains "channels" then return false
  else if aCodec.contains "channels" then do
    return (← aCodec.index "channels").equal (← bCodec.index "channels")
  else return true

/-- `matchCodecs`. The result is whether the codecs match, and the first codec afterwards. -/
def matchCodecs (aCodec bCodec : Json) (strict modify : Bool) : Except Failure (Bool × Json) := do
  let aMimeType ← (← aCodec.found "mimeType").getString
  let bMimeType ← (← bCodec.found "mimeType").getString
  if lowerCase aMimeType ≠ lowerCase bMimeType then return (false, aCodec)
  else do
    let (aClockRate, aCodec) ← aCodec.access "clockRate"
    let bClockRate ← bCodec.index "clockRate"
    if !aClockRate.equal bClockRate then return (false, aCodec)
    else do
      if !(← matchChannels (lowerCase aMimeType) aCodec bCodec) then return (false, aCodec)
      else if lowerCase aMimeType = "video/h264" then matchH264 aCodec bCodec strict modify
      else if lowerCase aMimeType = "video/vp9" && strict then do
        let aProfileId ← getVP9ProfileId aCodec
        let bProfileId ← getVP9ProfileId bCodec
        return (aProfileId == bProfileId, aCodec)
      else return (true, aCodec)

/-! ## What matching codecs have in common -/

/-- **Matching codecs have the same MIME type, up to case, and the same clock rate.** -/
theorem matchCodecs_of_returns {aCodec bCodec codec : Json} {strict modify : Bool}
    (h : matchCodecs aCodec bCodec strict modify = .ok (true, codec)) :
    ∃ aMimeType bMimeType bClockRate,
      aCodec.find? "mimeType" = some (.string aMimeType) ∧
      bCodec.find? "mimeType" = some (.string bMimeType) ∧
      lowerCase aMimeType = lowerCase bMimeType ∧
      bCodec.find? "clockRate" = some bClockRate ∧
      ((aCodec.find? "clockRate").getD .null).equal bClockRate = true := by
  unfold matchCodecs at h
  obtain ⟨a, ha, h⟩ := bind_eq_ok.mp h
  obtain ⟨aMimeType, haMimeType, h⟩ := bind_eq_ok.mp h
  obtain ⟨b, hb, h⟩ := bind_eq_ok.mp h
  obtain ⟨bMimeType, hbMimeType, h⟩ := bind_eq_ok.mp h
  split at h
  · cases h
  next hsame =>
  obtain ⟨⟨aClockRate, aCodec'⟩, haccess, h⟩ := bind_eq_ok.mp h
  obtain ⟨bClockRate, hbClockRate, h⟩ := bind_eq_ok.mp h
  split at h
  · cases h
  next hclockRate =>
  refine ⟨aMimeType, bMimeType, bClockRate, ?_, ?_, not_not.mp hsame,
    find?_of_index hbClockRate, ?_⟩
  · rw [find?_of_found ha, eq_string_of_getString haMimeType]
  · rw [find?_of_found hb, eq_string_of_getString hbMimeType]
  · rw [← eq_of_access haccess]
    simpa using hclockRate

/-! ## RTX codecs -/

/-- A codec that has a MIME type is known to be an RTX codec or not. -/
theorem isRtxCodec_of_find? {codec : Json} {mimeType : String}
    (h : codec.find? "mimeType" = some (.string mimeType)) :
    isRtxCodec codec = .ok (isRtxMimeType mimeType) := by
  cases codec with
  | object fields =>
    simp only [Json.find?] at h
    simp [isRtxCodec, Json.index, h, Json.getString, bind, Except.bind, pure, Except.pure]
  | _ => cases h

@[simp] theorem RtpCodecParameters.find?_mimeType_toJson (codec : RtpCodecParameters) :
    codec.toJson.find? "mimeType" = setString codec.mimeType := by
  simp [RtpCodecParameters.toJson]

@[simp] theorem RtpCodecCapability.find?_mimeType_toJson (codec : RtpCodecCapability) :
    codec.toJson.find? "mimeType" = setString codec.mimeType := by
  simp [RtpCodecCapability.toJson]

/-- Without a MIME type the behaviour is undefined. -/
theorem isRtxCodec_toJson (codec : RtpCodecParameters) :
    isRtxCodec codec.toJson =
      if codec.mimeType = "" then .error .undefined else .ok (isRtxMimeType codec.mimeType) := by
  split
  · next h =>
    simp [isRtxCodec, RtpCodecParameters.toJson, setString, h, bind, Except.bind]
  · next h => exact isRtxCodec_of_find? (by simp [setString, h])

theorem isRtxCodec_capability (codec : RtpCodecCapability) :
    isRtxCodec codec.toJson =
      if codec.mimeType = "" then .error .undefined else .ok (isRtxMimeType codec.mimeType) := by
  split
  · next h =>
    simp [isRtxCodec, RtpCodecCapability.toJson, setString, h, bind, Except.bind]
  · next h => exact isRtxCodec_of_find? (by simp [setString, h])

/-! ## Members of codecs -/

@[simp] theorem setString_eq_some {s : String} {j : Json} :
    setString s = some j ↔ s ≠ "" ∧ j = .string s := by
  unfold setString
  split <;> simp_all [eq_comm]

@[simp] theorem setInteger_eq_some {n : ℤ} {j : Json} :
    setInteger n = some j ↔ n ≠ 0 ∧ j = .number n := by
  unfold setInteger
  split <;> simp_all [eq_comm]

@[simp] theorem setFields_eq_some {fields : List (String × Json)} {j : Json} :
    setFields fields = some j ↔ fields ≠ [] ∧ j = .object fields := by
  unfold setFields
  split <;> simp_all [eq_comm]

@[simp] theorem RtpCodecParameters.find?_clockRate_toJson (codec : RtpCodecParameters) :
    codec.toJson.find? "clockRate" = setInteger codec.clockRate := by
  simp [RtpCodecParameters.toJson]

@[simp] theorem RtpCodecCapability.find?_clockRate_toJson (codec : RtpCodecCapability) :
    codec.toJson.find? "clockRate" = setInteger codec.clockRate := by
  simp [RtpCodecCapability.toJson]

@[simp] theorem RtpCodecCapability.find?_parameters_toJson (codec : RtpCodecCapability) :
    codec.toJson.find? "parameters" = setFields codec.parameters := by
  simp [RtpCodecCapability.toJson]

/-- An unset clock rate is not equal to one that is set. -/
theorem eq_of_equal_setInteger {a b : ℤ}
    (h : ((setInteger a).getD .null).equal (.number b) = true) : a = b := by
  unfold setInteger at h
  split at h
  · simp [Json.equal] at h
  · simpa using h

/-- **A codec in use that matches a capability** has its MIME type and clock rate. -/
theorem matchCodecs_parameters {codec : RtpCodecParameters} {capCodec : RtpCodecCapability}
    {strict modify : Bool} {j : Json}
    (h : matchCodecs codec.toJson capCodec.toJson strict modify = .ok (true, j)) :
    capCodec.mimeType ≠ "" ∧ lowerCase codec.mimeType = lowerCase capCodec.mimeType ∧
      codec.clockRate = capCodec.clockRate := by
  obtain ⟨aMimeType, bMimeType, bClockRate, ha, hb, hsame, hclockRate, hequal⟩ :=
    matchCodecs_of_returns h
  simp only [RtpCodecParameters.find?_mimeType_toJson, RtpCodecCapability.find?_mimeType_toJson,
    RtpCodecParameters.find?_clockRate_toJson, RtpCodecCapability.find?_clockRate_toJson,
    setString_eq_some, setInteger_eq_some, Json.string.injEq] at ha hb hclockRate hequal
  obtain ⟨-, rfl⟩ := ha
  obtain ⟨hset, rfl⟩ := hb
  obtain ⟨-, rfl⟩ := hclockRate
  exact ⟨hset, hsame, eq_of_equal_setInteger hequal⟩

/-! ## When a match has an answer -/

/-- An integer parameter can be read where there are parameters. -/
theorem getH264Integer_returns {codec parameters : Json} (key : String)
    (h : codec.find? "parameters" = some parameters) :
    ∃ value, getH264Integer key codec = .ok value := by
  simp only [getH264Integer, index_of_find? h, bind, Except.bind]
  cases hfind : parameters.find? key with
  | none => exact ⟨0, rfl⟩
  | some value =>
    cases value with
    | number n => exact ⟨_, rfl⟩
    | _ => exact ⟨0, rfl⟩

/-- What the code relies on in a codec that is matched with another one. -/
structure Matchable (codec : Json) : Prop where
  mimeType : ∃ mimeType, codec.find? "mimeType" = some (.string mimeType)
  clockRate : ∃ clockRate, codec.find? "clockRate" = some clockRate
  parameters : ∃ parameters, codec.find? "parameters" = some parameters

/-- A capability that can be matched with. Parameters are only looked for in H264 codecs. -/
def RtpCodecCapability.Complete (capCodec : RtpCodecCapability) : Prop :=
  capCodec.mimeType ≠ "" ∧ capCodec.clockRate ≠ 0 ∧
    (lowerCase capCodec.mimeType = "video/h264" → capCodec.parameters ≠ [])

instance (capCodec : RtpCodecCapability) : Decidable capCodec.Complete :=
  inferInstanceAs (Decidable (_ ∧ _ ∧ (_ → _ ≠ [])))

theorem matchChannels_returns (mimeType : String) (aCodec bCodec : Json) :
    ∃ same, matchChannels mimeType aCodec bCodec = .ok same := by
  unfold matchChannels
  split
  · exact ⟨_, rfl⟩
  split
  · exact ⟨_, rfl⟩
  next hboth =>
  split
  · next ha =>
    obtain ⟨a, ha'⟩ := Option.isSome_iff_exists.mp ha
    obtain ⟨b, hb'⟩ := Option.isSome_iff_exists.mp ((not_not.mp hboth) ▸ ha)
    exact ⟨a.equal b, by simp only [index_of_find? ha', index_of_find? hb']; rfl⟩
  · exact ⟨_, rfl⟩

theorem matchH264_returns {aCodec bCodec a b : Json} (ha : aCodec.find? "parameters" = some a)
    (hb : bCodec.find? "parameters" = some b) (modify : Bool) :
    ∃ matched, matchH264 aCodec bCodec false modify = .ok (matched, aCodec) := by
  obtain ⟨aMode, haMode⟩ := getH264Integer_returns "packetization-mode" ha
  obtain ⟨bMode, hbMode⟩ := getH264Integer_returns "packetization-mode" hb
  simp only [matchH264, getH264PacketizationMode, haMode, hbMode, bind, Except.bind, pure,
    Except.pure, Bool.not_false, if_true]
  split
  · exact ⟨_, rfl⟩
  · exact ⟨_, rfl⟩

/-- **A match that is not strict has an answer**, and leaves the first codec alone. -/
theorem matchCodecs_returns {aCodec : Json} (ha : Matchable aCodec) {capCodec : RtpCodecCapability}
    (hcap : capCodec.Complete) :
    ∃ matched, matchCodecs aCodec capCodec.toJson false false = .ok (matched, aCodec) := by
  obtain ⟨⟨mimeType, hmimeType⟩, ⟨clockRate, hclockRate⟩, ⟨parameters, hparameters⟩⟩ := ha
  obtain ⟨hset, hclock, hh264⟩ := hcap
  have hb : capCodec.toJson.find? "mimeType" = some (.string capCodec.mimeType) := by
    simpa using hset
  have hbClock : capCodec.toJson.find? "clockRate" = some (.number capCodec.clockRate) := by
    simpa using hclock
  obtain ⟨same, hsame⟩ := matchChannels_returns (lowerCase mimeType) aCodec capCodec.toJson
  simp only [matchCodecs, found_of_find? hmimeType, found_of_find? hb, access_of_find? hclockRate,
    index_of_find? hbClock, Json.getString, bind, Except.bind, hsame, pure, Except.pure]
  split
  · exact ⟨_, rfl⟩
  next hmime =>
  split
  · exact ⟨_, rfl⟩
  split
  · exact ⟨_, rfl⟩
  split
  · next hh =>
    have hbParameters : capCodec.toJson.find? "parameters" =
        some (.object capCodec.parameters) := by
      simpa using hh264 (not_not.mp hmime ▸ hh)
    exact matchH264_returns hparameters hbParameters false
  · simp only [Bool.and_false, Bool.false_eq_true, if_false]
    exact ⟨_, rfl⟩

/-! ## The errors of a match -/

/-- A computation that throws no error of the program. -/
def Silent {α : Type} (x : Except Failure α) : Prop :=
  ∀ text, x ≠ .error (.thrown text)

theorem Silent.ok {α : Type} (a : α) : Silent (.ok a) := fun _ h ↦ by cases h

theorem Silent.bind {α β : Type} {x : Except Failure α} {f : α → Except Failure β} (hx : Silent x)
    (hf : ∀ a, Silent (f a)) : Silent (x >>= f) := by
  intro text h
  rcases bind_eq_error.mp h with h | ⟨a, -, h⟩
  · exact hx text h
  · exact hf a text h

theorem silent_getString (j : Json) : Silent j.getString := by
  intro text h
  cases j <;> cases h

theorem silent_getInteger (j : Json) : Silent j.getInteger := by
  intro text h
  cases j <;> cases h

theorem silent_index (j : Json) (key : String) : Silent (j.index key) := by
  intro text h
  unfold Json.index at h
  split at h
  · split at h <;> cases h
  · cases h

theorem silent_found (j : Json) (key : String) : Silent (j.found key) := by
  intro text h
  unfold Json.found at h
  split at h
  · split at h <;> cases h
  all_goals cases h

theorem silent_access (j : Json) (key : String) : Silent (j.access key) := by
  intro text h
  unfold Json.access at h
  split at h
  · split at h <;> cases h
  all_goals cases h

theorem silent_getH264Integer (key : String) (codec : Json) :
    Silent (getH264Integer key codec) := by
  refine (silent_index _ _).bind fun parameters ↦ ?_
  split
  · exact .ok _
  · split
    · exact (silent_getInteger _).bind fun _ ↦ .ok _
    · exact .ok _

theorem silent_getTextParameter (key default : String) (codec : Json) :
    Silent (getTextParameter key default codec) := by
  refine (silent_index _ _).bind fun parameters ↦ ?_
  split
  · exact .ok _
  · split
    · exact ((silent_getInteger _).bind fun _ ↦ .ok _).bind fun _ ↦ .ok _
    · exact silent_getString _

theorem silent_h264Parameters (codec : Json) (packetizationMode : ℕ) :
    Silent (h264Parameters codec packetizationMode) :=
  (silent_getH264Integer _ _).bind fun _ ↦ (silent_getTextParameter _ _ _).bind fun _ ↦ .ok _

theorem silent_setProfileLevelId (codec : Json) (newParameters : H264.CodecParameterMap) :
    Silent (setProfileLevelId codec newParameters) := by
  refine (silent_access _ _).bind fun ⟨parameters, codec⟩ ↦ ?_
  dsimp only
  split
  · exact .ok _
  · exact .ok _

theorem silent_matchH264 (aCodec bCodec : Json) (strict modify : Bool) :
    Silent (matchH264 aCodec bCodec strict modify) := by
  refine (silent_getH264Integer _ _).bind fun _ ↦ (silent_getH264Integer _ _).bind fun _ ↦ ?_
  split
  · exact .ok _
  split
  · exact .ok _
  refine (silent_h264Parameters _ _).bind fun aParameters ↦ (silent_h264Parameters _ _).bind
    fun bParameters ↦ ?_
  split
  · exact .ok _
  next hsame =>
  -- The profiles are the same, so that there is an answer.
  have hsame : H264.isSameH264Profile aParameters bParameters = true := by simpa using hsame
  obtain ⟨answer, hanswer⟩ := H264.generateProfileLevelIdForAnswer_of_isSame hsame
  rw [hanswer]
  refine (Silent.ok _).bind fun _ ↦ ?_
  split
  · exact (silent_setProfileLevelId _ _).bind fun _ ↦ .ok _
  · exact .ok _

theorem silent_matchChannels (mimeType : String) (aCodec bCodec : Json) :
    Silent (matchChannels mimeType aCodec bCodec) := by
  unfold matchChannels
  split
  · exact .ok _
  split
  · exact .ok _
  split
  · exact (silent_index _ _).bind fun _ ↦ (silent_index _ _).bind fun _ ↦ .ok _
  · exact .ok _

/-- **A match throws no error of the program.** -/
theorem silent_matchCodecs (aCodec bCodec : Json) (strict modify : Bool) :
    Silent (matchCodecs aCodec bCodec strict modify) := by
  refine (silent_found _ _).bind fun _ ↦ (silent_getString _).bind fun _ ↦
    (silent_found _ _).bind fun _ ↦ (silent_getString _).bind fun _ ↦ ?_
  split
  · exact .ok _
  refine (silent_access _ _).bind fun ⟨aClockRate, aCodec⟩ ↦ (silent_index _ _).bind fun _ ↦ ?_
  split
  · exact .ok _
  refine (silent_matchChannels _ _ _).bind fun _ ↦ ?_
  split
  · exact .ok _
  split
  · exact silent_matchH264 _ _ _ _
  split
  · exact (silent_getTextParameter _ _ _).bind fun _ ↦ (silent_getTextParameter _ _ _).bind
      fun _ ↦ .ok _
  · exact .ok _

end Ortc

end MediasoupSfu
