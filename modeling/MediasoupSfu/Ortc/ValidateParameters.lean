import MediasoupSfu.Ortc.Validate

/-!
# Validating parameters

The validators of RTP parameters are like those of capabilities: they fill in what may be left out
and throw an error on what is wrong. The payload type of a codec is mandatory here, and its kind is
only looked at, not set.

## Main results

* `validateRtpParameters_declines` : parameters are validated or declined with a text.
-/

namespace MediasoupSfu

namespace Ortc

open Json (Failure find?_set isObject_set find?_erase isObject_erase)

/-- `validateRtpCodecParameters`. -/
def validateRtpCodecParameters (codec : Json) : Except Failure Json :=
  if !codec.isObject then .error (.thrown "codec is not an object")
  else
    match codec.find? "mimeType" with
    | some (.string mimeType) =>
      -- Retrieve media kind from mimeType.
      match mimeTypeKind? mimeType with
      | none => .error (.thrown "invalid codec.mimeType")
      | some kind =>
        -- payloadType is mandatory.
        if !((codec.find? "payloadType").any Json.isNumberInteger) then
          .error (.thrown "missing codec.payloadType")
        -- clockRate is mandatory.
        else if !((codec.find? "clockRate").any Json.isNumberInteger) then
          .error (.thrown "missing codec.clockRate")
        else
          validateCodecParameters (validateChannels kind codec) >>= validateRtcpFeedbacks
    | _ => .error (.thrown "missing codec.mimeType")

/-- The check of the parameters of a header extension, one by one. -/
def validateExtParameters : List (String × Json) → Except Failure Unit
  | [] => .ok ()
  | (_, value) :: rest =>
    if !value.isString && !value.isNumber then
      .error (.thrown "invalid header extension parameter")
    else validateExtParameters rest

/-- `validateRtpHeaderExtensionParameters`. -/
def validateRtpHeaderExtensionParameters (ext : Json) : Except Failure Json :=
  if !ext.isObject then .error (.thrown "ext is not an object")
  -- uri is mandatory.
  else if !((ext.find? "uri").any fun uri ↦ uri.isString && !uri.equal (.string "")) then
    .error (.thrown "missing ext.uri")
  -- id is mandatory.
  else if !((ext.find? "id").any Json.isNumberInteger) then .error (.thrown "missing ext.id")
  -- encrypt is optional. If unset set it to false.
  else if (ext.find? "encrypt").any (!·.isBoolean) then .error (.thrown "invalid ext.encrypt")
  else
    let ext := fillIn "encrypt" Json.isBoolean (.boolean false) ext
    -- parameters is optional. If unset, set it to an empty object.
    match ext.find? "parameters" with
    | some (.object fields) => do
      validateExtParameters fields
      return ext
    | _ => .ok (ext.set "parameters" (.object []))

/-- Whether the RTX object of an encoding has its mandatory SSRC. -/
def hasRtxSsrc (rtx : Json) : Bool := (rtx.find? "ssrc").any Json.isNumberInteger

/-- `validateRtpEncodingParameters`. -/
def validateRtpEncodingParameters (encoding : Json) : Except Failure Json :=
  if !encoding.isObject then .error (.thrown "encoding is not an object")
  -- ssrc is optional.
  else if (encoding.find? "ssrc").any (!·.isNumberInteger) then
    .error (.thrown "invalid encoding.ssrc")
  -- rid is optional.
  else if (encoding.find? "rid").any (!·.isString) then .error (.thrown "invalid encoding.rid")
  -- rtx is optional.
  else if (encoding.find? "rtx").any (!·.isObject) then .error (.thrown "invalid encoding.rtx")
  -- RTX ssrc is mandatory if rtx is present.
  else if (encoding.find? "rtx").any (!hasRtxSsrc ·) then
    .error (.thrown "missing encoding.rtx.ssrc")
  else
    -- dtx is optional. If unset set it to false.
    let encoding := fillIn "dtx" Json.isBoolean (.boolean false) encoding
    -- scalabilityMode is optional.
    if (encoding.find? "scalabilityMode").any (!·.isString) then
      .error (.thrown "invalid encoding.scalabilityMode")
    else .ok encoding

/-- `validateRtcpParameters`. -/
def validateRtcpParameters (rtcp : Json) : Except Failure Json :=
  if !rtcp.isObject then .error (.thrown "rtcp is not an object")
  -- cname is optional.
  else if (rtcp.find? "cname").any (!·.isString) then .error (.thrown "invalid rtcp.cname")
  -- reducedSize is optional. If unset set it to true.
  else .ok (fillIn "reducedSize" Json.isBoolean (.boolean true) rtcp)

/-- codecs is mandatory. -/
def validateCodecs (params : Json) : Except Failure Json :=
  match params.find? "codecs" with
  | some (.array codecs) => do
    return params.set "codecs" (.array (← validateElements validateRtpCodecParameters codecs))
  | _ => .error (.thrown "missing params.codecs")

/-- rtcp is optional. If unset, fill with an empty object. -/
def validateRtcp (params : Json) : Except Failure Json :=
  match params.find? "rtcp" with
  | none => do return params.set "rtcp" (← validateRtcpParameters (.object []))
  | some rtcp =>
    if !rtcp.isObject then .error (.thrown "params.rtcp is not an object")
    else do return params.set "rtcp" (← validateRtcpParameters rtcp)

/-- `validateRtpParameters`. -/
def validateRtpParameters (params : Json) : Except Failure Json :=
  if !params.isObject then .error (.thrown "params is not an object")
  -- mid is optional.
  else if (params.find? "mid").any fun mid ↦ !mid.isString || mid.equal (.string "") then
    .error (.thrown "params.mid is not a string")
  else do
    let params ← validateCodecs params
    let params ← validateMember "headerExtensions" "params.headerExtensions is not an array"
      validateRtpHeaderExtensionParameters params
    let params ← validateMember "encodings" "params.encodings is not an array"
      validateRtpEncodingParameters params
    validateRtcp params

/-! ## The errors of a validator -/

theorem validateRtpCodecParameters_declines (codec : Json) :
    Declines (validateRtpCodecParameters codec) := by
  unfold validateRtpCodecParameters
  split
  · exact .thrown _
  split
  · split
    · exact .thrown _
    split
    · exact .thrown _
    split
    · exact .thrown _
    · exact (validateCodecParameters_declines _).bind validateRtcpFeedbacks_declines
  · exact .thrown _

/-- **When a codec is accepted**, and what is left to do then. -/
theorem validateRtpCodecParameters_eq_ok_iff {codec codec' : Json} :
    validateRtpCodecParameters codec = .ok codec' ↔
      ∃ mimeType kind, codec.isObject = true ∧
        codec.find? "mimeType" = some (.string mimeType) ∧ mimeTypeKind? mimeType = some kind ∧
        (codec.find? "payloadType").any Json.isNumberInteger = true ∧
        (codec.find? "clockRate").any Json.isNumberInteger = true ∧
        validateRest kind codec = .ok codec' := by
  constructor
  · intro h
    unfold validateRtpCodecParameters at h
    split at h
    · cases h
    next hobject =>
    split at h
    case h_2 => cases h
    next mimeType hmimeType =>
    split at h
    · cases h
    next kind hkind =>
    split at h
    · cases h
    next hpayloadType =>
    split at h
    · cases h
    next hclockRate =>
    exact ⟨mimeType, kind, by simpa using hobject, hmimeType, hkind, by simpa using hpayloadType,
      by simpa using hclockRate, h⟩
  · rintro ⟨mimeType, kind, hobject, hmimeType, hkind, hpayloadType, hclockRate, h⟩
    unfold validateRtpCodecParameters
    simp only [hobject, hmimeType, hkind, hpayloadType, hclockRate, Bool.not_true,
      Bool.false_eq_true, if_false]
    exact h

theorem validateExtParameters_declines (fields : List (String × Json)) :
    Declines (validateExtParameters fields) := by
  induction fields with
  | nil => exact .ok _
  | cons field fields ih =>
    unfold validateExtParameters
    split
    · exact .thrown _
    · exact ih

theorem validateRtpHeaderExtensionParameters_declines (ext : Json) :
    Declines (validateRtpHeaderExtensionParameters ext) := by
  unfold validateRtpHeaderExtensionParameters
  split
  · exact .thrown _
  split
  · exact .thrown _
  split
  · exact .thrown _
  split
  · exact .thrown _
  dsimp only
  split
  · exact (validateExtParameters_declines _).bind fun _ ↦ .ok _
  · exact .ok _

theorem validateRtpEncodingParameters_declines (encoding : Json) :
    Declines (validateRtpEncodingParameters encoding) := by
  unfold validateRtpEncodingParameters
  dsimp only
  repeat' split
  all_goals first | exact .thrown _ | exact .ok _

theorem validateRtcpParameters_declines (rtcp : Json) : Declines (validateRtcpParameters rtcp) := by
  unfold validateRtcpParameters
  split
  · exact .thrown _
  split
  · exact .thrown _
  · exact .ok _

theorem validateCodecs_declines (params : Json) : Declines (validateCodecs params) := by
  unfold validateCodecs
  split
  · exact (validateElements_declines validateRtpCodecParameters_declines _).bind fun _ ↦ .ok _
  · exact .thrown _

theorem validateRtcp_declines (params : Json) : Declines (validateRtcp params) := by
  unfold validateRtcp
  split
  · exact (validateRtcpParameters_declines _).bind fun _ ↦ .ok _
  split
  · exact .thrown _
  · exact (validateRtcpParameters_declines _).bind fun _ ↦ .ok _

/-- **Parameters are validated or declined with a text.** -/
theorem validateRtpParameters_declines (params : Json) :
    Declines (validateRtpParameters params) := by
  unfold validateRtpParameters
  split
  · exact .thrown _
  split
  · exact .thrown _
  · exact (validateCodecs_declines _).bind fun _ ↦
      (validateMember_declines validateRtpHeaderExtensionParameters_declines _).bind fun _ ↦
        (validateMember_declines validateRtpEncodingParameters_declines _).bind
          validateRtcp_declines

end Ortc

end MediasoupSfu
