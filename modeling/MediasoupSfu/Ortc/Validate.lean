import MediasoupSfu.Ortc.MatchCodecs

/-!
# Validating capabilities

The validators fill in what may be left out of RTP capabilities and throw an error on what is wrong
with them. They work on JSON objects in place; here they return the object afterwards.

The kind of a codec is the part of its MIME type before the slash, with the case it has there, and
it replaces a kind that is given.

## Main results

* `validateRtpCodecCapability_declines` : a codec is either validated or declined with a text.
* `matchable_of_validateRtpCodecCapability` : a codec that has been validated can be matched.
-/

namespace MediasoupSfu

namespace Ortc

open Json (Failure find?_set find?_set_of_ne isObject_set find?_erase isObject_erase)

/-- The kind in a MIME type that matches `^(audio|video)/(.+)` when case is ignored. -/
def mimeTypeKind? (mimeType : String) : Option String :=
  let chars := mimeType.toList
  let kind := String.ofList (chars.take 5)
  let rest := chars.drop 6
  if (lowerCase kind = "audio" ∨ lowerCase kind = "video") ∧ chars[5]? = some '/' ∧ rest ≠ [] ∧
      rest.all fun c ↦ c ≠ '\n' ∧ c ≠ '\r' then
    some kind
  else
    none

/-- Set a member that is missing or of the wrong type. -/
def fillIn (key : String) (isValid : Json → Bool) (value j : Json) : Json :=
  if (j.find? key).any isValid then j else j.set key value

/-- `validateRtcpFeedback`. -/
def validateRtcpFeedback (fb : Json) : Except Failure Json :=
  if !fb.isObject then .error (.thrown "fb is not an object")
  -- type is mandatory.
  else if !((fb.find? "type").any Json.isString) then .error (.thrown "missing fb.type")
  -- parameter is optional. If unset set it to an empty string.
  else .ok (fillIn "parameter" Json.isString (.string "") fb)

/-- The check of the parameters of a codec, one by one. -/
def validateParameters : List (String × Json) → Except Failure Unit
  | [] => .ok ()
  | (key, value) :: rest =>
    if !value.isString && !value.isNumber && !value.isNull then
      .error (.thrown "invalid codec parameter")
    else if key = "apt" && !value.isNumberInteger then
      .error (.thrown "invalid codec apt parameter")
    else validateParameters rest

/-- The elements of an array, each replaced by what a check makes of it. -/
def validateElements (validate : Json → Except Failure Json) : List Json →
    Except Failure (List Json)
  | [] => .ok []
  | j :: rest => do
    let j ← validate j
    let rest ← validateElements validate rest
    return j :: rest

/-- channels is optional. If unset, set it to 1 (just if audio). -/
def validateChannels (kind : String) (codec : Json) : Json :=
  if kind = "audio" then fillIn "channels" Json.isNumberInteger (.number 1) codec
  else codec.erase "channels"

/-- parameters is optional. If unset, set it to an empty object. -/
def validateCodecParameters (codec : Json) : Except Failure Json := do
  match codec.find? "parameters" with
  | some (.object fields) =>
    validateParameters fields
    return codec
  | _ => return codec.set "parameters" (.object [])

/-- rtcpFeedback is optional. If unset, set it to an empty array. -/
def validateRtcpFeedbacks (codec : Json) : Except Failure Json := do
  match codec.find? "rtcpFeedback" with
  | some (.array feedbacks) =>
    return codec.set "rtcpFeedback" (.array (← validateElements validateRtcpFeedback feedbacks))
  | _ => return codec.set "rtcpFeedback" (.array [])

/-- `validateRtpCodecCapability`. -/
def validateRtpCodecCapability (codec : Json) : Except Failure Json :=
  if !codec.isObject then .error (.thrown "codec is not an object")
  else
    match codec.find? "mimeType" with
    | some (.string mimeType) =>
      match mimeTypeKind? mimeType with
      | none => .error (.thrown "invalid codec.mimeType")
      | some kind =>
        -- Just override kind with media component of mimeType.
        let codec := codec.set "kind" (.string kind)
        -- preferredPayloadType is optional.
        if (codec.find? "preferredPayloadType").any (!·.isNumberInteger) then
          .error (.thrown "invalid codec.preferredPayloadType")
        -- clockRate is mandatory.
        else if !((codec.find? "clockRate").any Json.isNumberInteger) then
          .error (.thrown "missing codec.clockRate")
        else
          validateCodecParameters (validateChannels kind codec) >>= validateRtcpFeedbacks
    | _ => .error (.thrown "missing codec.mimeType")

/-- `validateRtpHeaderExtension`. -/
def validateRtpHeaderExtension (ext : Json) : Except Failure Json :=
  if !ext.isObject then .error (.thrown "ext is not an object")
  else
    -- kind is optional. If unset set it to an empty string.
    let ext := fillIn "kind" Json.isString (.string "") ext
    if !((ext.find? "kind").any fun kind ↦
        kind.equal (.string "") || kind.equal (.string "audio") ||
          kind.equal (.string "video")) then
      .error (.thrown "invalid ext.kind")
    -- uri is mandatory.
    else if !((ext.find? "uri").any fun uri ↦ uri.isString && !uri.equal (.string "")) then
      .error (.thrown "missing ext.uri")
    -- preferredId is mandatory.
    else if !((ext.find? "preferredId").any Json.isNumberInteger) then
      .error (.thrown "missing ext.preferredId")
    -- preferredEncrypt is optional. If unset set it to false.
    else if (ext.find? "preferredEncrypt").any (!·.isBoolean) then
      .error (.thrown "invalid ext.preferredEncrypt")
    else
      let ext := fillIn "preferredEncrypt" Json.isBoolean (.boolean false) ext
      -- direction is optional. If unset set it to sendrecv.
      if (ext.find? "direction").any (!·.isString) then .error (.thrown "invalid ext.direction")
      else .ok (fillIn "direction" Json.isString (.string "sendrecv") ext)

/-- The elements of a member that is an array, checked one by one. If unset, fill with an empty
array. -/
def validateMember (key text : String) (validate : Json → Except Failure Json) (caps : Json) :
    Except Failure Json :=
  match caps.find? key with
  | none => .ok (caps.set key (.array []))
  | some (.array elements) => do
    return caps.set key (.array (← validateElements validate elements))
  | some _ => .error (.thrown text)

/-- `validateRtpCapabilities`. -/
def validateRtpCapabilities (caps : Json) : Except Failure Json :=
  if !caps.isObject then .error (.thrown "caps is not an object")
  else
    validateMember "codecs" "caps.codecs is not an array" validateRtpCodecCapability caps >>=
      validateMember "headerExtensions" "caps.headerExtensions is not an array"
        validateRtpHeaderExtension

/-! ## The errors of a validator -/

/-- A computation that fails with an error of the program, if it fails. -/
def Declines {α : Type} (x : Except Failure α) : Prop :=
  ∀ e, x = .error e → ∃ text, e = .thrown text

theorem Declines.ok {α : Type} (a : α) : Declines (.ok a) := by
  intro e h
  cases h

theorem Declines.thrown {α : Type} (text : String) :
    Declines (.error (.thrown text) : Except Failure α) := by
  intro e h
  cases h
  exact ⟨text, rfl⟩

theorem Declines.bind {α β : Type} {x : Except Failure α} {f : α → Except Failure β}
    (hx : Declines x)
    (hf : ∀ a, Declines (f a)) : Declines (x >>= f) := by
  intro e h
  rcases bind_eq_error.mp h with h | ⟨a, -, h⟩
  · exact hx e h
  · exact hf a e h

theorem validateRtcpFeedback_declines (fb : Json) : Declines (validateRtcpFeedback fb) := by
  unfold validateRtcpFeedback
  split
  · exact .thrown _
  split
  · exact .thrown _
  · exact .ok _

theorem validateParameters_declines (fields : List (String × Json)) :
    Declines (validateParameters fields) := by
  induction fields with
  | nil => exact .ok _
  | cons field fields ih =>
    unfold validateParameters
    split
    · exact .thrown _
    split
    · exact .thrown _
    · exact ih

theorem validateElements_declines {validate : Json → Except Failure Json}
    (hvalidate : ∀ j, Declines (validate j)) (elements : List Json) :
    Declines (validateElements validate elements) := by
  induction elements with
  | nil => exact .ok _
  | cons j rest ih => exact (hvalidate j).bind fun _ ↦ ih.bind fun _ ↦ .ok _

theorem validateCodecParameters_declines (codec : Json) :
    Declines (validateCodecParameters codec) := by
  unfold validateCodecParameters
  split
  · exact (validateParameters_declines _).bind fun _ ↦ .ok _
  · exact .ok _

theorem validateRtcpFeedbacks_declines (codec : Json) : Declines (validateRtcpFeedbacks codec) := by
  unfold validateRtcpFeedbacks
  split
  · exact (validateElements_declines validateRtcpFeedback_declines _).bind fun _ ↦ .ok _
  · exact .ok _

/-- **A codec is validated or declined with a text.** -/
theorem validateRtpCodecCapability_declines (codec : Json) :
    Declines (validateRtpCodecCapability codec) := by
  unfold validateRtpCodecCapability
  split
  · exact .thrown _
  split
  · split
    · exact .thrown _
    · dsimp only
      split
      · exact .thrown _
      split
      · exact .thrown _
      · exact (validateCodecParameters_declines _).bind validateRtcpFeedbacks_declines
  · exact .thrown _

theorem validateRtpHeaderExtension_declines (ext : Json) :
    Declines (validateRtpHeaderExtension ext) := by
  unfold validateRtpHeaderExtension
  split
  · exact .thrown _
  dsimp only
  split
  · exact .thrown _
  split
  · exact .thrown _
  split
  · exact .thrown _
  split
  · exact .thrown _
  split
  · exact .thrown _
  · exact .ok _

theorem validateMember_declines {key text : String} {validate : Json → Except Failure Json}
    (hvalidate : ∀ j, Declines (validate j)) (caps : Json) :
    Declines (validateMember key text validate caps) := by
  unfold validateMember
  split
  · exact .ok _
  · exact (validateElements_declines hvalidate _).bind fun _ ↦ .ok _
  · exact .thrown _

/-- **Capabilities are validated or declined with a text.** -/
theorem validateRtpCapabilities_declines (caps : Json) :
    Declines (validateRtpCapabilities caps) := by
  unfold validateRtpCapabilities
  split
  · exact .thrown _
  · exact (validateMember_declines validateRtpCodecCapability_declines _).bind
      (validateMember_declines validateRtpHeaderExtension_declines)

/-! ## A codec that has been validated -/

theorem find?_fillIn {j : Json} (hobject : j.isObject = true) (key : String) (isValid : Json → Bool)
    (value : Json) {k : String} (hk : k ≠ key) :
    (fillIn key isValid value j).find? k = j.find? k := by
  unfold fillIn
  split
  · rfl
  · rw [find?_set hobject, if_neg hk]

@[simp] theorem isObject_fillIn (key : String) (isValid : Json → Bool) (value j : Json) :
    (fillIn key isValid value j).isObject = j.isObject := by
  unfold fillIn
  split
  · rfl
  · exact isObject_set j key value

theorem validateChannels_find? {codec : Json} (hobject : codec.isObject = true) (kind : String)
    {key : String} (hkey : key ≠ "channels") :
    (validateChannels kind codec).find? key = codec.find? key := by
  unfold validateChannels
  split
  · exact find?_fillIn hobject _ _ _ hkey
  · exact find?_erase codec hkey

@[simp] theorem isObject_validateChannels (codec : Json) (kind : String) :
    (validateChannels kind codec).isObject = codec.isObject := by
  unfold validateChannels
  split
  · exact isObject_fillIn _ _ _ codec
  · exact isObject_erase codec _

theorem validateCodecParameters_returns {codec codec' : Json} (hobject : codec.isObject = true)
    (h : validateCodecParameters codec = .ok codec') :
    codec'.isObject = true ∧ (∃ fields, codec'.find? "parameters" = some (.object fields)) ∧
      ∀ key, key ≠ "parameters" → codec'.find? key = codec.find? key := by
  unfold validateCodecParameters at h
  split at h
  · next fields hfields =>
    obtain ⟨-, -, h⟩ := bind_eq_ok.mp h
    cases h
    exact ⟨hobject, ⟨fields, hfields⟩, fun _ _ ↦ rfl⟩
  · cases h
    refine ⟨by simpa using hobject, ⟨[], by simp [find?_set hobject]⟩, fun key hkey ↦ ?_⟩
    rw [find?_set hobject, if_neg hkey]

theorem validateRtcpFeedbacks_returns {codec codec' : Json} (hobject : codec.isObject = true)
    (h : validateRtcpFeedbacks codec = .ok codec') :
    ∀ key, key ≠ "rtcpFeedback" → codec'.find? key = codec.find? key := by
  intro key hkey
  unfold validateRtcpFeedbacks at h
  split at h
  · obtain ⟨feedbacks, -, h⟩ := bind_eq_ok.mp h
    cases h
    rw [find?_set hobject, if_neg hkey]
  · cases h
    rw [find?_set hobject, if_neg hkey]

/-- The last steps of the validation of a codec: channels, parameters and feedback are filled in. -/
def validateRest (kind : String) (codec : Json) : Except Failure Json :=
  validateCodecParameters (validateChannels kind codec) >>= validateRtcpFeedbacks

/-- What the rest of the validation does to the members of a codec. -/
theorem validateRest_returns {codec result : Json} {kind : String} (hobject : codec.isObject = true)
    (hok : validateRest kind codec = .ok result) :
    result.isObject = true ∧
      (∃ fields, result.find? "parameters" = some (.object fields)) ∧
      ∀ key, key ≠ "parameters" → key ≠ "rtcpFeedback" →
        result.find? key = (validateChannels kind codec).find? key := by
  obtain ⟨middle, hparameters, hfeedback⟩ := bind_eq_ok.mp hok
  obtain ⟨hmiddle, ⟨fields, hfields⟩, hsame⟩ :=
    validateCodecParameters_returns (by rwa [isObject_validateChannels]) hparameters
  have hkeep := validateRtcpFeedbacks_returns hmiddle hfeedback
  refine ⟨?_, ⟨fields, ?_⟩, fun key h₁ h₂ ↦ ?_⟩
  · unfold validateRtcpFeedbacks at hfeedback
    split at hfeedback
    · obtain ⟨valid, -, hfeedback⟩ := bind_eq_ok.mp hfeedback
      obtain rfl := Except.ok.inj hfeedback
      rwa [isObject_set]
    · obtain rfl := Except.ok.inj hfeedback
      rwa [isObject_set]
  · rw [hkeep "parameters" (by decide), hfields]
  · rw [hkeep key h₂, hsame key h₁]

/-- The rest of the validation keeps the other members. -/
theorem find?_of_validateRest {given codec : Json} {kind : String} (hobject : given.isObject = true)
    (hok : validateRest kind given = .ok codec) {key : String} (hparameters : key ≠ "parameters")
    (hfeedback : key ≠ "rtcpFeedback") (hchannels : key ≠ "channels") :
    codec.find? key = given.find? key := by
  rw [(validateRest_returns hobject hok).2.2 key hparameters hfeedback,
    validateChannels_find? hobject kind hchannels]

theorem matchable_of_validateRest {given codec : Json} {kind mimeType : String}
    (hobject : given.isObject = true)
    (hmimeType : given.find? "mimeType" = some (.string mimeType))
    (hclockRate : (given.find? "clockRate").any Json.isNumberInteger = true)
    (hok : validateRest kind given = .ok codec) : Matchable codec := by
  obtain ⟨-, ⟨fields, hfields⟩, -⟩ := validateRest_returns hobject hok
  refine ⟨⟨mimeType, ?_⟩, ?_, .object fields, hfields⟩
  · rw [find?_of_validateRest hobject hok (by decide) (by decide) (by decide), hmimeType]
  · obtain ⟨clockRate, hfind, -⟩ := (Option.any_eq_true _ _).mp hclockRate
    refine ⟨clockRate, ?_⟩
    rw [find?_of_validateRest hobject hok (by decide) (by decide) (by decide), hfind]

/-- **When a capability is accepted**, and what is left to do then. -/
theorem validateRtpCodecCapability_eq_ok_iff {codec codec' : Json} :
    validateRtpCodecCapability codec = .ok codec' ↔
      ∃ mimeType kind, codec.isObject = true ∧
        codec.find? "mimeType" = some (.string mimeType) ∧ mimeTypeKind? mimeType = some kind ∧
        (codec.find? "preferredPayloadType").any (!·.isNumberInteger) = false ∧
        (codec.find? "clockRate").any Json.isNumberInteger = true ∧
        validateRest kind (codec.set "kind" (.string kind)) = .ok codec' := by
  constructor
  · intro h
    unfold validateRtpCodecCapability at h
    split at h
    · cases h
    next hobject =>
    replace hobject : codec.isObject = true := by simpa using hobject
    split at h
    case h_2 => cases h
    next mimeType hmimeType =>
    split at h
    · cases h
    next kind hkind =>
    dsimp only at h
    rw [find?_set_of_ne hobject (by decide), find?_set_of_ne hobject (by decide)] at h
    split at h
    · cases h
    next hpayloadType =>
    split at h
    · cases h
    next hclockRate =>
    exact ⟨mimeType, kind, hobject, hmimeType, hkind, by simpa using hpayloadType,
      by simpa using hclockRate, h⟩
  · rintro ⟨mimeType, kind, hobject, hmimeType, hkind, hpayloadType, hclockRate, h⟩
    unfold validateRtpCodecCapability
    simp only [hobject, hmimeType, hkind, Bool.not_true, Bool.false_eq_true, if_false]
    rw [find?_set_of_ne hobject (by decide), find?_set_of_ne hobject (by decide), hpayloadType,
      hclockRate]
    exact h

/-- The validation of a capability keeps the other members. -/
theorem find?_of_validateRtpCodecCapability {codec codec' : Json}
    (h : validateRtpCodecCapability codec = .ok codec') {key : String} (hkind : key ≠ "kind")
    (hparameters : key ≠ "parameters") (hfeedback : key ≠ "rtcpFeedback")
    (hchannels : key ≠ "channels") : codec'.find? key = codec.find? key := by
  obtain ⟨mimeType, kind, hobject, -, -, -, -, hok⟩ := validateRtpCodecCapability_eq_ok_iff.mp h
  have hset : (codec.set "kind" (.string kind)).isObject = true :=
    (isObject_set _ _ _).trans hobject
  rw [find?_of_validateRest hset hok hparameters hfeedback hchannels,
    find?_set_of_ne hobject hkind]

/-- **A codec that has been validated can be matched.** -/
theorem matchable_of_validateRtpCodecCapability {codec codec' : Json}
    (h : validateRtpCodecCapability codec = .ok codec') : Matchable codec' := by
  obtain ⟨mimeType, kind, hobject, hmimeType, -, -, hclockRate, hok⟩ :=
    validateRtpCodecCapability_eq_ok_iff.mp h
  have hset {key : String} (hkey : key ≠ "kind") :
      (codec.set "kind" (.string kind)).find? key = codec.find? key :=
    find?_set_of_ne hobject hkey _
  rw [← hset (by decide)] at hmimeType hclockRate
  exact matchable_of_validateRest (by rwa [isObject_set]) hmimeType hclockRate hok

end Ortc

end MediasoupSfu
