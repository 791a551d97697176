import MediasoupSfu.Ortc.MimeTypeCase

/-!
# Validating twice

What a validator returns is valid as it is: validated again, it is returned unchanged. What was
filled in is not missing any more, what was erased is not there, and what is set again is set to the
value that it has (`Settled`).

## Main results

* `validateRtpCapabilities_idempotent`, `validateRtpParameters_idempotent` : what is returned by a
  validator is returned unchanged if it is validated again.
-/

namespace MediasoupSfu

namespace Ortc

open Json (Failure find?_set_self find?_set_of_ne isObject_set isObject_erase find?_erase
  find?_erase_self erase_eq_self Settled)

/-- What a validator returns, it returns unchanged. -/
def Idempotent (validate : Json → Except Failure Json) : Prop :=
  ∀ given result, validate given = .ok result → validate result = .ok result

/-- A check that does not fail. -/
theorem eq_true_of_not_not {b : Bool} (h : ¬(!b) = true) : b = true := by simpa using h

/-! ## Filling in -/

section FillIn

variable {key : String} {isValid : Json → Bool} {value given : Json}

theorem fillIn_eq_self (h : (given.find? key).any isValid = true) :
    fillIn key isValid value given = given := if_pos h

/-- What is filled in is valid. -/
theorem any_fillIn (hobject : given.isObject = true) (hvalue : isValid value = true) :
    ((fillIn key isValid value given).find? key).any isValid = true := by
  unfold fillIn
  split
  · assumption
  · rw [find?_set_self hobject]
    exact hvalue

theorem settled_fillIn {k : String} {other : Json} (h : Settled k other given) (hk : key ≠ k) :
    Settled k other (fillIn key isValid value given) := by
  unfold fillIn
  split
  · exact h
  · exact h.set hk value

end FillIn

/-! ## Elements and members -/

section Members

variable {validate : Json → Except Failure Json} {Valid : Json → Prop}

/-- Valid elements are returned unchanged. -/
theorem validateElements_eq_self (hself : ∀ j, Valid j → validate j = .ok j) {elements : List Json}
    (h : ∀ j ∈ elements, Valid j) : validateElements validate elements = .ok elements := by
  induction elements with
  | nil => rfl
  | cons j rest ih =>
    exact bind_eq_ok.mpr ⟨j, hself j (h j List.mem_cons_self),
      bind_eq_ok.mpr ⟨rest, ih fun j' hj' ↦ h j' (List.mem_cons_of_mem j hj'), rfl⟩⟩

/-- What a validator makes of elements is valid. -/
theorem validateElements_valid (hreturns : ∀ j j', validate j = .ok j' → Valid j')
    {elements result : List Json} (h : validateElements validate elements = .ok result) :
    ∀ j ∈ result, Valid j := by
  induction elements generalizing result with
  | nil =>
    obtain rfl := Except.ok.inj h
    exact fun j hj ↦ absurd hj List.not_mem_nil
  | cons j rest ih =>
    obtain ⟨j', hj', h⟩ := bind_eq_ok.mp h
    obtain ⟨rest', hrest', h⟩ := bind_eq_ok.mp h
    obtain rfl := Except.ok.inj h
    intro k hk
    rcases List.mem_cons.mp hk with rfl | hk
    · exact hreturns j k hj'
    · exact ih hrest' k hk

/-- **A member that is an array of valid elements**, and settled. -/
def ValidMember (key : String) (Valid : Json → Prop) (j : Json) : Prop :=
  ∃ elements, (∀ e ∈ elements, Valid e) ∧ Settled key (.array elements) j

variable {key text : String} {j j' : Json}

theorem ValidMember.set (h : ValidMember key Valid j) {k : String} (hk : k ≠ key) (value : Json) :
    ValidMember key Valid (j.set k value) := by
  obtain ⟨elements, hvalid, hsettled⟩ := h
  exact ⟨elements, hvalid, hsettled.set hk value⟩

theorem ValidMember.validateMember_eq_self (h : ValidMember key Valid j)
    (hself : ∀ j, Valid j → validate j = .ok j) (text : String) :
    validateMember key text validate j = .ok j := by
  obtain ⟨elements, hvalid, hsettled⟩ := h
  unfold validateMember
  rw [hsettled.find?_eq]
  dsimp only
  rw [validateElements_eq_self hself hvalid]
  exact congrArg Except.ok hsettled.set_eq

/-- The member becomes valid, and nothing else is set. -/
theorem validateMember_returns (hreturns : ∀ j j', validate j = .ok j' → Valid j')
    (hobject : j.isObject = true) (h : validateMember key text validate j = .ok j') :
    ValidMember key Valid j' ∧ ∃ value, j' = j.set key value := by
  unfold validateMember at h
  split at h
  · obtain rfl := Except.ok.inj h
    exact ⟨⟨[], fun e he ↦ absurd he List.not_mem_nil, .of_set hobject _ _⟩, _, rfl⟩
  · obtain ⟨valid, hvalid, h⟩ := bind_eq_ok.mp h
    obtain rfl := Except.ok.inj h
    exact ⟨⟨valid, validateElements_valid hreturns hvalid, .of_set hobject _ _⟩, _, rfl⟩
  · cases h

end Members

/-! ## Feedback and extensions -/

/-- Feedback with everything that a validator fills in. -/
structure ValidFeedback (fb : Json) : Prop where
  isObject : fb.isObject = true
  type : (fb.find? "type").any Json.isString = true
  parameter : (fb.find? "parameter").any Json.isString = true

theorem ValidFeedback.validate_eq_self {fb : Json} (h : ValidFeedback fb) :
    validateRtcpFeedback fb = .ok fb := by
  unfold validateRtcpFeedback
  rw [h.isObject, h.type, fillIn_eq_self h.parameter]
  rfl

theorem validFeedback_of_returns {fb result : Json} (h : validateRtcpFeedback fb = .ok result) :
    ValidFeedback result := by
  unfold validateRtcpFeedback at h
  split at h
  · cases h
  next hobject =>
  replace hobject := eq_true_of_not_not hobject
  split at h
  · cases h
  next htype =>
  obtain rfl := Except.ok.inj h
  refine ⟨(isObject_fillIn _ _ _ _).trans hobject, ?_, any_fillIn hobject rfl⟩
  rw [find?_fillIn hobject _ _ _ (by decide)]
  exact eq_true_of_not_not htype

/-- The kinds that a header extension may have. -/
def isExtKind (kind : Json) : Bool :=
  kind.equal (.string "") || kind.equal (.string "audio") || kind.equal (.string "video")

/-- A text that is not empty. -/
def isText (text : Json) : Bool := text.isString && !text.equal (.string "")

/-- A header extension with everything that a validator fills in. -/
structure ValidExtension (ext : Json) : Prop where
  isObject : ext.isObject = true
  kind : (ext.find? "kind").any isExtKind = true
  uri : (ext.find? "uri").any isText = true
  preferredId : (ext.find? "preferredId").any Json.isNumberInteger = true
  preferredEncrypt : (ext.find? "preferredEncrypt").any Json.isBoolean = true
  direction : (ext.find? "direction").any Json.isString = true

theorem isString_of_isExtKind {kind : Json} (h : isExtKind kind = true) : kind.isString = true := by
  cases kind with
  | string s => rfl
  | _ => simp [isExtKind, Json.equal] at h

/-- What is valid is not there and invalid. -/
theorem any_not_of_any {found : Option Json} {isValid : Json → Bool}
    (h : found.any isValid = true) : (found.any fun j ↦ !isValid j) = false := by
  obtain ⟨j, rfl, hj⟩ := (Option.any_eq_true _ _).mp h
  rw [Option.any_some, hj]
  rfl

theorem any_imp {found : Option Json} {p q : Json → Bool} (hpq : ∀ j, p j = true → q j = true)
    (h : found.any p = true) : found.any q = true := by
  obtain ⟨j, hj, hp⟩ := (Option.any_eq_true _ _).mp h
  exact (Option.any_eq_true _ _).mpr ⟨j, hj, hpq j hp⟩

theorem ValidExtension.validate_eq_self {ext : Json} (h : ValidExtension ext) :
    validateRtpHeaderExtension ext = .ok ext := by
  have hkind : fillIn "kind" Json.isString (.string "") ext = ext :=
    fillIn_eq_self (any_imp @isString_of_isExtKind h.kind)
  have hcheck : (ext.find? "kind").any (fun kind ↦ kind.equal (.string "") ||
      kind.equal (.string "audio") || kind.equal (.string "video")) = true := h.kind
  have huri : (ext.find? "uri").any (fun uri ↦ uri.isString && !uri.equal (.string "")) = true :=
    h.uri
  unfold validateRtpHeaderExtension
  rw [hkind]
  dsimp only
  rw [fillIn_eq_self h.preferredEncrypt, fillIn_eq_self h.direction]
  simp only [h.isObject, hcheck, huri, h.preferredId, any_not_of_any h.preferredEncrypt,
    any_not_of_any h.direction, Bool.not_true, Bool.false_eq_true, if_false]

theorem validExtension_of_returns {ext result : Json}
    (h : validateRtpHeaderExtension ext = .ok result) : ValidExtension result := by
  unfold validateRtpHeaderExtension at h
  split at h
  · cases h
  next hobject =>
  replace hobject := eq_true_of_not_not hobject
  dsimp only at h
  generalize hext₁ : fillIn "kind" Json.isString (.string "") ext = ext₁ at h
  have hobject₁ : ext₁.isObject = true := by rw [← hext₁, isObject_fillIn, hobject]
  split at h
  · cases h
  next hkind =>
  split at h
  · cases h
  next huri =>
  split at h
  · cases h
  next hid =>
  split at h
  · cases h
  generalize hext₂ : fillIn "preferredEncrypt" Json.isBoolean (.boolean false) ext₁ = ext₂ at h
  have hobject₂ : ext₂.isObject = true := by rw [← hext₂, isObject_fillIn, hobject₁]
  split at h
  · cases h
  obtain rfl := Except.ok.inj h
  have hkeep {key : String} (hdirection : key ≠ "direction") (hencrypt : key ≠ "preferredEncrypt") :
      (fillIn "direction" Json.isString (.string "sendrecv") ext₂).find? key = ext₁.find? key := by
    rw [find?_fillIn hobject₂ _ _ _ hdirection, ← hext₂, find?_fillIn hobject₁ _ _ _ hencrypt]
  refine ⟨(isObject_fillIn _ _ _ _).trans hobject₂, ?_, ?_, ?_, ?_, any_fillIn hobject₂ rfl⟩
  · rw [hkeep (by decide) (by decide)]
    exact eq_true_of_not_not hkind
  · rw [hkeep (by decide) (by decide)]
    exact eq_true_of_not_not huri
  · rw [hkeep (by decide) (by decide)]
    exact eq_true_of_not_not hid
  · rw [find?_fillIn hobject₂ _ _ _ (by decide), ← hext₂]
    exact any_fillIn hobject₁ rfl

/-- The parameters of a header extension with everything that a validator fills in. -/
structure ValidExtensionParameters (ext : Json) : Prop where
  isObject : ext.isObject = true
  uri : (ext.find? "uri").any isText = true
  id : (ext.find? "id").any Json.isNumberInteger = true
  encrypt : (ext.find? "encrypt").any Json.isBoolean = true
  parameters : ∃ fields, ext.find? "parameters" = some (.object fields) ∧
    validateExtParameters fields = .ok ()

theorem ValidExtensionParameters.validate_eq_self {ext : Json} (h : ValidExtensionParameters ext) :
    validateRtpHeaderExtensionParameters ext = .ok ext := by
  have huri : (ext.find? "uri").any (fun uri ↦ uri.isString && !uri.equal (.string "")) = true :=
    h.uri
  obtain ⟨fields, hfields, hvalid⟩ := h.parameters
  unfold validateRtpHeaderExtensionParameters
  dsimp only
  rw [fillIn_eq_self h.encrypt]
  simp only [h.isObject, huri, h.id, any_not_of_any h.encrypt, Bool.not_true, Bool.false_eq_true,
    if_false, hfields, hvalid, ok_bind]
  rfl

theorem validExtensionParameters_of_returns {ext result : Json}
    (h : validateRtpHeaderExtensionParameters ext = .ok result) :
    ValidExtensionParameters result := by
  unfold validateRtpHeaderExtensionParameters at h
  split at h
  · cases h
  next hobject =>
  replace hobject := eq_true_of_not_not hobject
  split at h
  · cases h
  next huri =>
  split at h
  · cases h
  next hid =>
  split at h
  · cases h
  dsimp only at h
  generalize hext₁ : fillIn "encrypt" Json.isBoolean (.boolean false) ext = ext₁ at h
  have hobject₁ : ext₁.isObject = true := by rw [← hext₁, isObject_fillIn, hobject]
  have hkeep {key : String} (hkey : key ≠ "encrypt") : ext₁.find? key = ext.find? key := by
    rw [← hext₁, find?_fillIn hobject _ _ _ hkey]
  have hencrypt : (ext₁.find? "encrypt").any Json.isBoolean = true := by
    rw [← hext₁]
    exact any_fillIn hobject rfl
  split at h
  · next fields hfields =>
    obtain ⟨u, hvalid, h⟩ := bind_eq_ok.mp h
    obtain rfl : ext₁ = result := Except.ok.inj h
    refine ⟨hobject₁, ?_, ?_, hencrypt, fields, hfields, hvalid⟩
    · rw [hkeep (by decide)]
      exact eq_true_of_not_not huri
    · rw [hkeep (by decide)]
      exact eq_true_of_not_not hid
  · obtain rfl := Except.ok.inj h
    refine ⟨(isObject_set _ _ _).trans hobject₁, ?_, ?_, ?_, [], find?_set_self hobject₁ _ _, rfl⟩
    · rw [find?_set_of_ne hobject₁ (by decide), hkeep (by decide)]
      exact eq_true_of_not_not huri
    · rw [find?_set_of_ne hobject₁ (by decide), hkeep (by decide)]
      exact eq_true_of_not_not hid
    · rw [find?_set_of_ne hobject₁ (by decide), hencrypt]

/-! ## Encodings and RTCP -/

/-- An encoding with everything that a validator fills in. -/
structure ValidEncoding (encoding : Json) : Prop where
  isObject : encoding.isObject = true
  ssrc : (encoding.find? "ssrc").any (!·.isNumberInteger) = false
  rid : (encoding.find? "rid").any (!·.isString) = false
  rtx : (encoding.find? "rtx").any (!·.isObject) = false
  rtxSsrc : (encoding.find? "rtx").any (!hasRtxSsrc ·) = false
  dtx : (encoding.find? "dtx").any Json.isBoolean = true
  scalabilityMode : (encoding.find? "scalabilityMode").any (!·.isString) = false

theorem ValidEncoding.validate_eq_self {encoding : Json} (h : ValidEncoding encoding) :
    validateRtpEncodingParameters encoding = .ok encoding := by
  unfold validateRtpEncodingParameters
  dsimp only
  rw [fillIn_eq_self h.dtx]
  simp only [h.isObject, h.ssrc, h.rid, h.rtx, h.rtxSsrc, h.scalabilityMode, Bool.not_true,
    Bool.false_eq_true, if_false]

theorem validEncoding_of_returns {encoding result : Json}
    (h : validateRtpEncodingParameters encoding = .ok result) : ValidEncoding result := by
  unfold validateRtpEncodingParameters at h
  split at h
  · cases h
  next hobject =>
  replace hobject := eq_true_of_not_not hobject
  split at h
  · cases h
  next hssrc =>
  split at h
  · cases h
  next hrid =>
  split at h
  · cases h
  next hrtx =>
  split at h
  · cases h
  next hrtxSsrc =>
  dsimp only at h
  split at h
  · cases h
  next hmode =>
  obtain rfl := Except.ok.inj h
  have hkeep {key : String} (hkey : key ≠ "dtx") :
      (fillIn "dtx" Json.isBoolean (.boolean false) encoding).find? key = encoding.find? key :=
    find?_fillIn hobject _ _ _ hkey
  refine ⟨(isObject_fillIn _ _ _ _).trans hobject, ?_, ?_, ?_, ?_, any_fillIn hobject rfl,
    eq_false_of_ne_true hmode⟩
  · rw [hkeep (by decide)]
    exact eq_false_of_ne_true hssrc
  · rw [hkeep (by decide)]
    exact eq_false_of_ne_true hrid
  · rw [hkeep (by decide)]
    exact eq_false_of_ne_true hrtx
  · rw [hkeep (by decide)]
    exact eq_false_of_ne_true hrtxSsrc

/-- RTCP parameters with everything that a validator fills in. -/
structure ValidRtcp (rtcp : Json) : Prop where
  isObject : rtcp.isObject = true
  cname : (rtcp.find? "cname").any (!·.isString) = false
  reducedSize : (rtcp.find? "reducedSize").any Json.isBoolean = true

theorem ValidRtcp.validate_eq_self {rtcp : Json} (h : ValidRtcp rtcp) :
    validateRtcpParameters rtcp = .ok rtcp := by
  unfold validateRtcpParameters
  rw [fillIn_eq_self h.reducedSize]
  simp only [h.isObject, h.cname, Bool.not_true, Bool.false_eq_true, if_false]

theorem validRtcp_of_returns {rtcp result : Json} (h : validateRtcpParameters rtcp = .ok result) :
    ValidRtcp result := by
  unfold validateRtcpParameters at h
  split at h
  · cases h
  next hobject =>
  replace hobject := eq_true_of_not_not hobject
  split at h
  · cases h
  next hcname =>
  obtain rfl := Except.ok.inj h
  refine ⟨(isObject_fillIn _ _ _ _).trans hobject, ?_, any_fillIn hobject rfl⟩
  rw [find?_fillIn hobject _ _ _ (by decide)]
  exact eq_false_of_ne_true hcname

/-! ## Codecs -/

section Codecs

variable {kind : String} {given codec : Json}

/-- Channels, parameters and feedback of a codec with everything that a validator fills in. -/
structure ValidRest (kind : String) (codec : Json) : Prop where
  isObject : codec.isObject = true
  channels : validateChannels kind codec = codec
  parameters : ∃ fields, codec.find? "parameters" = some (.object fields) ∧
    validateParameters fields = .ok ()
  rtcpFeedback : ValidMember "rtcpFeedback" ValidFeedback codec

theorem ValidRest.validate_eq_self (h : ValidRest kind codec) :
    validateRest kind codec = .ok codec := by
  obtain ⟨fields, hfields, hvalid⟩ := h.parameters
  obtain ⟨feedbacks, hfeedbacks, hsettled⟩ := h.rtcpFeedback
  refine bind_eq_ok.mpr ⟨codec, ?_, ?_⟩
  · rw [h.channels]
    unfold validateCodecParameters
    rw [hfields]
    exact bind_eq_ok.mpr ⟨(), hvalid, rfl⟩
  · unfold validateRtcpFeedbacks
    rw [hsettled.find?_eq]
    exact bind_eq_ok.mpr ⟨feedbacks,
      validateElements_eq_self (fun _ ↦ ValidFeedback.validate_eq_self) hfeedbacks,
      congrArg Except.ok hsettled.set_eq⟩

/-- Channels that were filled in or erased stay as they are. -/
theorem validateChannels_eq_self (hobject : given.isObject = true)
    (h : codec.find? "channels" = (validateChannels kind given).find? "channels") :
    validateChannels kind codec = codec := by
  unfold validateChannels at h ⊢
  split at h
  · next haudio =>
    rw [if_pos haudio]
    apply fillIn_eq_self
    rw [h]
    exact any_fillIn hobject rfl
  · next hother =>
    rw [if_neg hother]
    exact erase_eq_self (h.trans (find?_erase_self given "channels"))

theorem validateCodecParameters_valid (hobject : given.isObject = true)
    (h : validateCodecParameters given = .ok codec) :
    ∃ fields, codec.find? "parameters" = some (.object fields) ∧
      validateParameters fields = .ok () := by
  unfold validateCodecParameters at h
  split at h
  · next fields hfields =>
    obtain ⟨u, hvalid, h⟩ := bind_eq_ok.mp h
    obtain rfl := Except.ok.inj h
    exact ⟨fields, hfields, hvalid⟩
  · obtain rfl := Except.ok.inj h
    exact ⟨[], find?_set_self hobject _ _, rfl⟩

theorem validateRtcpFeedbacks_valid (hobject : given.isObject = true)
    (h : validateRtcpFeedbacks given = .ok codec) :
    ValidMember "rtcpFeedback" ValidFeedback codec ∧
      ∃ value, codec = given.set "rtcpFeedback" value := by
  unfold validateRtcpFeedbacks at h
  split at h
  · obtain ⟨feedbacks, hfeedbacks, h⟩ := bind_eq_ok.mp h
    obtain rfl := Except.ok.inj h
    exact ⟨⟨feedbacks, validateElements_valid (fun _ _ ↦ validFeedback_of_returns) hfeedbacks,
      .of_set hobject _ _⟩, _, rfl⟩
  · obtain rfl := Except.ok.inj h
    exact ⟨⟨[], fun e he ↦ absurd he List.not_mem_nil, .of_set hobject _ _⟩, _, rfl⟩

theorem validRest_of_returns (hobject : given.isObject = true)
    (h : validateRest kind given = .ok codec) : ValidRest kind codec := by
  obtain ⟨hcodec, -, hkeep⟩ := validateRest_returns hobject h
  obtain ⟨middle, hparameters, hfeedback⟩ := bind_eq_ok.mp h
  have hchannels : (validateChannels kind given).isObject = true :=
    (isObject_validateChannels given kind).trans hobject
  obtain ⟨hmiddle, -, -⟩ := validateCodecParameters_returns hchannels hparameters
  obtain ⟨fields, hfields, hvalid⟩ := validateCodecParameters_valid hchannels hparameters
  refine ⟨hcodec, validateChannels_eq_self hobject (hkeep _ (by decide) (by decide)),
    ⟨fields, ?_, hvalid⟩, (validateRtcpFeedbacks_valid hmiddle hfeedback).1⟩
  rw [validateRtcpFeedbacks_returns hmiddle hfeedback _ (by decide), hfields]

/-- The kind stays settled. -/
theorem settled_validateRest {value : Json} (hsettled : Settled "kind" value given)
    (h : validateRest kind given = .ok codec) : Settled "kind" value codec := by
  obtain ⟨middle, hparameters, hfeedback⟩ := bind_eq_ok.mp h
  have hchannels : Settled "kind" value (validateChannels kind given) := by
    unfold validateChannels
    split
    · exact settled_fillIn hsettled (by decide)
    · exact hsettled.erase (by decide)
  have hmiddle : Settled "kind" value middle := by
    unfold validateCodecParameters at hparameters
    split at hparameters
    · obtain ⟨u, -, hparameters⟩ := bind_eq_ok.mp hparameters
      obtain rfl := Except.ok.inj hparameters
      exact hchannels
    · obtain rfl := Except.ok.inj hparameters
      exact hchannels.set (by decide) _
  obtain ⟨-, feedbacks, rfl⟩ := validateRtcpFeedbacks_valid hmiddle.isObject hfeedback
  exact hmiddle.set (by decide) _

/-- A codec of capabilities with everything that a validator fills in. -/
structure ValidCapability (codec : Json) : Prop where
  preferredPayloadType : (codec.find? "preferredPayloadType").any (!·.isNumberInteger) = false
  clockRate : (codec.find? "clockRate").any Json.isNumberInteger = true
  kind : ∃ mimeType kind, codec.find? "mimeType" = some (.string mimeType) ∧
    mimeTypeKind? mimeType = some kind ∧ Settled "kind" (.string kind) codec ∧ ValidRest kind codec

theorem ValidCapability.validate_eq_self (h : ValidCapability codec) :
    validateRtpCodecCapability codec = .ok codec := by
  obtain ⟨mimeType, kind, hmimeType, hkind, hsettled, hrest⟩ := h.kind
  refine validateRtpCodecCapability_eq_ok_iff.mpr ⟨mimeType, kind, hsettled.isObject, hmimeType,
    hkind, h.preferredPayloadType, h.clockRate, ?_⟩
  rw [hsettled.set_eq]
  exact hrest.validate_eq_self

theorem validCapability_of_returns (h : validateRtpCodecCapability given = .ok codec) :
    ValidCapability codec := by
  obtain ⟨mimeType, kind, hobject, hmimeType, hkind, hpayloadType, hclockRate, hok⟩ :=
    validateRtpCodecCapability_eq_ok_iff.mp h
  have hset : (given.set "kind" (.string kind)).isObject = true :=
    (isObject_set _ _ _).trans hobject
  have hkeep {key : String} (hkind : key ≠ "kind") (hparameters : key ≠ "parameters")
      (hfeedback : key ≠ "rtcpFeedback") (hchannels : key ≠ "channels") :
      codec.find? key = given.find? key :=
    find?_of_validateRtpCodecCapability h hkind hparameters hfeedback hchannels
  refine ⟨?_, ?_, mimeType, kind, ?_, hkind, settled_validateRest (.of_set hobject _ _) hok,
    validRest_of_returns hset hok⟩
  · rw [hkeep (by decide) (by decide) (by decide) (by decide), hpayloadType]
  · rw [hkeep (by decide) (by decide) (by decide) (by decide), hclockRate]
  · rw [hkeep (by decide) (by decide) (by decide) (by decide), hmimeType]

/-- A codec of parameters with everything that a validator fills in. -/
structure ValidCodecParameters (codec : Json) : Prop where
  payloadType : (codec.find? "payloadType").any Json.isNumberInteger = true
  clockRate : (codec.find? "clockRate").any Json.isNumberInteger = true
  rest : ∃ mimeType kind, codec.find? "mimeType" = some (.string mimeType) ∧
    mimeTypeKind? mimeType = some kind ∧ ValidRest kind codec

theorem ValidCodecParameters.validate_eq_self (h : ValidCodecParameters codec) :
    validateRtpCodecParameters codec = .ok codec := by
  obtain ⟨mimeType, kind, hmimeType, hkind, hrest⟩ := h.rest
  exact validateRtpCodecParameters_eq_ok_iff.mpr ⟨mimeType, kind, hrest.isObject, hmimeType, hkind,
    h.payloadType, h.clockRate, hrest.validate_eq_self⟩

theorem validCodecParameters_of_returns (h : validateRtpCodecParameters given = .ok codec) :
    ValidCodecParameters codec := by
  obtain ⟨mimeType, kind, hobject, hmimeType, hkind, hpayloadType, hclockRate, hok⟩ :=
    validateRtpCodecParameters_eq_ok_iff.mp h
  have hkeep {key : String} (hparameters : key ≠ "parameters") (hfeedback : key ≠ "rtcpFeedback")
      (hchannels : key ≠ "channels") : codec.find? key = given.find? key :=
    find?_of_validateRest hobject hok hparameters hfeedback hchannels
  refine ⟨?_, ?_, mimeType, kind, ?_, hkind, validRest_of_returns hobject hok⟩
  · rw [hkeep (by decide) (by decide) (by decide), hpayloadType]
  · rw [hkeep (by decide) (by decide) (by decide), hclockRate]
  · rw [hkeep (by decide) (by decide) (by decide), hmimeType]

end Codecs

/-! ## Capabilities and parameters -/

section Whole

variable {given caps params : Json}

/-- Capabilities with everything that a validator fills in. -/
structure ValidCapabilities (caps : Json) : Prop where
  codecs : ValidMember "codecs" ValidCapability caps
  headerExtensions : ValidMember "headerExtensions" ValidExtension caps

theorem ValidMember.isObject {key : String} {Valid : Json → Prop} {j : Json}
    (h : ValidMember key Valid j) : j.isObject = true := by
  obtain ⟨elements, -, hsettled⟩ := h
  exact hsettled.isObject

theorem ValidCapabilities.validate_eq_self (h : ValidCapabilities caps) :
    validateRtpCapabilities caps = .ok caps := by
  unfold validateRtpCapabilities
  rw [h.codecs.isObject]
  refine bind_eq_ok.mpr ⟨caps, ?_, ?_⟩
  · exact h.codecs.validateMember_eq_self (fun _ ↦ ValidCapability.validate_eq_self) _
  · exact h.headerExtensions.validateMember_eq_self (fun _ ↦ ValidExtension.validate_eq_self) _

theorem validCapabilities_of_returns (h : validateRtpCapabilities given = .ok caps) :
    ValidCapabilities caps := by
  unfold validateRtpCapabilities at h
  split at h
  · cases h
  next hobject =>
  obtain ⟨middle, hcodecs, hextensions⟩ := bind_eq_ok.mp h
  obtain ⟨hvalid, -⟩ := validateMember_returns (fun _ _ ↦ validCapability_of_returns)
    (eq_true_of_not_not hobject) hcodecs
  obtain ⟨hvalid', value, rfl⟩ := validateMember_returns (fun _ _ ↦ validExtension_of_returns)
    hvalid.isObject hextensions
  exact ⟨hvalid.set (by decide) value, hvalid'⟩

/-- **Capabilities that are returned by a validator** are returned unchanged if they are validated
again. -/
theorem validateRtpCapabilities_idempotent : Idempotent validateRtpCapabilities :=
  fun _ _ h ↦ (validCapabilities_of_returns h).validate_eq_self

/-- Parameters with everything that a validator fills in. -/
structure ValidParameters (params : Json) : Prop where
  mid : ((params.find? "mid").any fun mid ↦ !mid.isString || mid.equal (.string "")) = false
  codecs : ValidMember "codecs" ValidCodecParameters params
  headerExtensions : ValidMember "headerExtensions" ValidExtensionParameters params
  encodings : ValidMember "encodings" ValidEncoding params
  rtcp : ∃ rtcp, ValidRtcp rtcp ∧ Settled "rtcp" rtcp params

theorem ValidParameters.validate_eq_self (h : ValidParameters params) :
    validateRtpParameters params = .ok params := by
  obtain ⟨codecs, hcodecs, hsettled⟩ := h.codecs
  obtain ⟨rtcp, hrtcp, hsettled'⟩ := h.rtcp
  unfold validateRtpParameters
  rw [hsettled.isObject, h.mid]
  refine bind_eq_ok.mpr ⟨params, ?_, bind_eq_ok.mpr ⟨params, ?_, bind_eq_ok.mpr ⟨params, ?_, ?_⟩⟩⟩
  · unfold validateCodecs
    rw [hsettled.find?_eq]
    exact bind_eq_ok.mpr ⟨codecs,
      validateElements_eq_self (fun _ ↦ ValidCodecParameters.validate_eq_self) hcodecs,
      congrArg Except.ok hsettled.set_eq⟩
  · exact h.headerExtensions.validateMember_eq_self
      (fun _ ↦ ValidExtensionParameters.validate_eq_self) _
  · exact h.encodings.validateMember_eq_self (fun _ ↦ ValidEncoding.validate_eq_self) _
  · unfold validateRtcp
    rw [hsettled'.find?_eq]
    dsimp only
    rw [hrtcp.isObject]
    exact bind_eq_ok.mpr ⟨rtcp, hrtcp.validate_eq_self, congrArg Except.ok hsettled'.set_eq⟩

theorem validateCodecs_returns (hobject : given.isObject = true)
    (h : validateCodecs given = .ok params) :
    ValidMember "codecs" ValidCodecParameters params ∧
      ∃ value, params = given.set "codecs" value := by
  unfold validateCodecs at h
  split at h
  · obtain ⟨codecs, hcodecs, h⟩ := bind_eq_ok.mp h
    obtain rfl := Except.ok.inj h
    exact ⟨⟨codecs, validateElements_valid (fun _ _ ↦ validCodecParameters_of_returns) hcodecs,
      .of_set hobject _ _⟩, _, rfl⟩
  · cases h

theorem validateRtcp_returns (h : validateRtcp given = .ok params) :
    ∃ rtcp, ValidRtcp rtcp ∧ params = given.set "rtcp" rtcp := by
  unfold validateRtcp at h
  split at h
  · obtain ⟨rtcp, hrtcp, h⟩ := bind_eq_ok.mp h
    exact ⟨rtcp, validRtcp_of_returns hrtcp, (Except.ok.inj h).symm⟩
  split at h
  · cases h
  · obtain ⟨rtcp, hrtcp, h⟩ := bind_eq_ok.mp h
    exact ⟨rtcp, validRtcp_of_returns hrtcp, (Except.ok.inj h).symm⟩

theorem validParameters_of_returns (h : validateRtpParameters given = .ok params) :
    ValidParameters params := by
  unfold validateRtpParameters at h
  split at h
  · cases h
  next hobject =>
  replace hobject := eq_true_of_not_not hobject
  split at h
  · cases h
  next hmid =>
  obtain ⟨params₁, hcodecs, h⟩ := bind_eq_ok.mp h
  obtain ⟨params₂, hextensions, h⟩ := bind_eq_ok.mp h
  obtain ⟨params₃, hencodings, hrtcp⟩ := bind_eq_ok.mp h
  obtain ⟨hvalid₁, codecs, heq₁⟩ := validateCodecs_returns hobject hcodecs
  obtain ⟨hvalid₂, extensions, heq₂⟩ := validateMember_returns
    (fun _ _ ↦ validExtensionParameters_of_returns) hvalid₁.isObject hextensions
  obtain ⟨hvalid₃, encodings, heq₃⟩ := validateMember_returns
    (fun _ _ ↦ validEncoding_of_returns) hvalid₂.isObject hencodings
  obtain ⟨rtcp, hvalid₄, heq₄⟩ := validateRtcp_returns hrtcp
  have hfind : params.find? "mid" = given.find? "mid" := by
    rw [heq₄, find?_set_of_ne hvalid₃.isObject (by decide), heq₃,
      find?_set_of_ne hvalid₂.isObject (by decide), heq₂,
      find?_set_of_ne hvalid₁.isObject (by decide), heq₁, find?_set_of_ne hobject (by decide)]
  refine ⟨?_, ?_, ?_, ?_, rtcp, hvalid₄, ?_⟩
  · rw [hfind]
    exact eq_false_of_ne_true hmid
  · rw [heq₄, heq₃, heq₂]
    exact ((hvalid₁.set (by decide) _).set (by decide) _).set (by decide) _
  · rw [heq₄, heq₃]
    exact (hvalid₂.set (by decide) _).set (by decide) _
  · rw [heq₄]
    exact hvalid₃.set (by decide) _
  · rw [heq₄]
    exact .of_set hvalid₃.isObject _ _

/-- **Parameters that are returned by a validator** are returned unchanged if they are validated
again. -/
theorem validateRtpParameters_idempotent : Idempotent validateRtpParameters :=
  fun _ _ h ↦ (validParameters_of_returns h).validate_eq_self

end Whole

end Ortc

end MediasoupSfu
