import MediasoupSfu.Ortc.Idempotence

/-!
# Extended capabilities

Two endpoints match their capabilities: the codecs of the remote one that a local codec matches,
with the payload types of both and of their RTX codecs, and the header extensions that both have.
The members of the capabilities are read as if validation made sure of them, through constant
references (a member that is missing is undefined behaviour) and through others (a member that is
missing is inserted as `null`).

Validation does make sure of most of them. It does not ask for the payload type of a codec, which is
optional, and it asks for the `apt` of an RTX codec to be an integer only if it is there.

## Main results

* `defined_getExtendedRtpCapabilities` : readable capabilities are matched without undefined
  behaviour, and stay readable.
* `defined_canReceive` : so are parameters with the result.
* `validated_readable_iff` : validated capabilities are readable exactly if every codec has a
  payload type and every RTX codec has an `apt`.
-/

namespace MediasoupSfu

namespace Ortc

open Json (Failure find?_set_self find?_set_of_ne isObject_set isObject_erase find?_erase
  index_of_find? found_of_find? access_of_find? find?_of_index)

/-- The values that a loop over a value runs through. -/
def items : Json → List Json
  | .null => []
  | .array elements => elements
  | .object fields => fields.map Prod.snd
  | j => [j]

/-! ## Codecs -/

/-- `matchHeaderExtensions`. -/
def matchHeaderExtensions (aExt bExt : Json) : Except Failure Bool := do
  let aKind ← aExt.index "kind"
  let bKind ← bExt.index "kind"
  if !aKind.equal bKind then return false
  else do
    let aUri ← aExt.index "uri"
    let bUri ← bExt.index "uri"
    return aUri.equal bUri

/-- Whether feedback is of the same type, with the same parameter. -/
def isSameFeedback (aFb bFb : Json) : Except Failure Bool := do
  let aType ← aFb.index "type"
  let bType ← bFb.index "type"
  if !aType.equal bType then return false
  else do
    let aParameter ← aFb.index "parameter"
    let bParameter ← bFb.index "parameter"
    return aParameter.equal bParameter

/-- The feedback of the second codec for each feedback of the first one. -/
def reducedFeedback (codecB : Json) : List Json → Except Failure (List Json)
  | [] => .ok []
  | aFb :: rest => do
    let feedbackB ← codecB.found "rtcpFeedback"
    let bFb ← (items feedbackB).findM? (isSameFeedback aFb)
    let reduced ← reducedFeedback codecB rest
    return bFb.toList ++ reduced

/-- `reduceRtcpFeedback`. -/
def reduceRtcpFeedback (codecA codecB : Json) : Except Failure Json := do
  let feedbackA ← codecA.found "rtcpFeedback"
  return .array (← reducedFeedback codecB (items feedbackA))

/-- Try the elements of a list one after another, in place, until there is a value for one. -/
def tryFirst {α : Type} (attempt : Json → Except Failure (Option α × Json)) :
    List Json → Except Failure (Option α × List Json)
  | [] => .ok (none, [])
  | j :: rest => do
    match ← attempt j with
    | (some value, j) => return (some value, j :: rest)
    | (none, j) => do
      let (value, rest) ← tryFirst attempt rest
      return (value, j :: rest)

/-- The extended codec for two codecs if they match, and the codecs afterwards. -/
def extendCodec (remoteCodec localCodec : Json) :
    Except Failure (Option (Json × Json) × Json) := do
  let (matched, localCodec) ← matchCodecs localCodec remoteCodec true true
  if !matched then return (none, localCodec)
  else do
    let (mimeType, localCodec) ← localCodec.access "mimeType"
    let (kind, localCodec) ← localCodec.access "kind"
    let (clockRate, localCodec) ← localCodec.access "clockRate"
    let (localPayloadType, localCodec) ← localCodec.access "preferredPayloadType"
    let (remotePayloadType, remoteCodec) ← remoteCodec.access "preferredPayloadType"
    let (localParameters, localCodec) ← localCodec.access "parameters"
    let (remoteParameters, remoteCodec) ← remoteCodec.access "parameters"
    let rtcpFeedback ← reduceRtcpFeedback localCodec remoteCodec
    let extendedCodec := Json.object [("clockRate", clockRate), ("kind", kind),
      ("localParameters", localParameters), ("localPayloadType", localPayloadType),
      ("localRtxPayloadType", .null), ("mimeType", mimeType),
      ("remoteParameters", remoteParameters), ("remotePayloadType", remotePayloadType),
      ("remoteRtxPayloadType", .null), ("rtcpFeedback", rtcpFeedback)]
    if localCodec.contains "channels" then do
      let (channels, localCodec) ← localCodec.access "channels"
      return (some (extendedCodec.set "channels" channels, remoteCodec), localCodec)
    else return (some (extendedCodec, remoteCodec), localCodec)

/-- For each remote value that is not skipped the first local value that it can be extended with.
The result is what the values are extended to, and the local and the remote values afterwards. -/
def extendAll (skip : Json → Except Failure Bool)
    (extend : Json → Json → Except Failure (Option (Json × Json) × Json)) (locals : List Json) :
    List Json → Except Failure (List Json × List Json × List Json)
  | [] => .ok ([], locals, [])
  | remote :: rest => do
    if ← skip remote then do
      let (extended, locals, rest) ← extendAll skip extend locals rest
      return (extended, locals, remote :: rest)
    else
      match ← tryFirst (extend remote) locals with
      | (none, locals) => do
        let (extended, locals, rest) ← extendAll skip extend locals rest
        return (extended, locals, remote :: rest)
      | (some (value, remote), locals) => do
        let (extended, locals, rest) ← extendAll skip extend locals rest
        return (value :: extended, locals, remote :: rest)

/-! ## RTX codecs -/

/-- Whether a codec is the RTX codec for a payload type. -/
def isRtxCodecFor (payloadType codec : Json) : Except Failure Bool := do
  if !(← isRtxCodec codec) then return false
  else do
    let parameters ← codec.index "parameters"
    let apt ← parameters.index "apt"
    return apt.equal payloadType

/-- The payload type of a codec if it is the RTX codec for a payload type. -/
def accessRtx (payloadType codec : Json) : Except Failure (Option Json × Json) := do
  if ← isRtxCodecFor payloadType codec then do
    let (preferredPayloadType, codec) ← codec.access "preferredPayloadType"
    return (some preferredPayloadType, codec)
  else return (none, codec)

/-- The RTX payload types of an extended codec, if there are an RTX codec of either side. -/
def extendRtx (extendedCodec : Json) (localCodecs remoteCodecs : List Json) :
    Except Failure (Json × List Json × List Json) := do
  let (localPayloadType, extendedCodec) ← extendedCodec.access "localPayloadType"
  if !(← localCodecs.anyM (isRtxCodecFor localPayloadType)) then
    return (extendedCodec, localCodecs, remoteCodecs)
  else do
    let (remotePayloadType, extendedCodec) ← extendedCodec.access "remotePayloadType"
    if !(← remoteCodecs.anyM (isRtxCodecFor remotePayloadType)) then
      return (extendedCodec, localCodecs, remoteCodecs)
    else do
      let (localRtx, localCodecs) ← tryFirst (accessRtx localPayloadType) localCodecs
      let (remoteRtx, remoteCodecs) ← tryFirst (accessRtx remotePayloadType) remoteCodecs
      let extendedCodec := extendedCodec.set "localRtxPayloadType" (localRtx.getD .null)
      let extendedCodec := extendedCodec.set "remoteRtxPayloadType" (remoteRtx.getD .null)
      return (extendedCodec, localCodecs, remoteCodecs)

/-- Match RTX codecs. -/
def extendRtxCodecs (localCodecs remoteCodecs : List Json) :
    List Json → Except Failure (List Json × List Json × List Json)
  | [] => .ok ([], localCodecs, remoteCodecs)
  | extendedCodec :: rest => do
    let (extendedCodec, localCodecs, remoteCodecs) ←
      extendRtx extendedCodec localCodecs remoteCodecs
    let (rest, localCodecs, remoteCodecs) ← extendRtxCodecs localCodecs remoteCodecs rest
    return (extendedCodec :: rest, localCodecs, remoteCodecs)

/-! ## Header extensions and the whole -/

/-- The direction as the other side sees it. -/
def reversedDirection (direction : String) : Option String :=
  if direction = "sendrecv" then some "sendrecv"
  else if direction = "recvonly" then some "sendonly"
  else if direction = "sendonly" then some "recvonly"
  else if direction = "inactive" then some "inactive"
  else none

/-- The extended header extension for two header extensions if they match, and these afterwards. -/
def extendExt (remoteExt localExt : Json) : Except Failure (Option (Json × Json) × Json) := do
  if !(← matchHeaderExtensions localExt remoteExt) then return (none, localExt)
  else do
    let (kind, remoteExt) ← remoteExt.access "kind"
    let (uri, remoteExt) ← remoteExt.access "uri"
    let (sendId, localExt) ← localExt.access "preferredId"
    let (recvId, remoteExt) ← remoteExt.access "preferredId"
    let (encrypt, localExt) ← localExt.access "preferredEncrypt"
    let extendedExt := Json.object [("encrypt", encrypt), ("kind", kind), ("recvId", recvId),
      ("sendId", sendId), ("uri", uri)]
    let (direction, remoteExt) ← remoteExt.access "direction"
    match reversedDirection (← direction.getString) with
    | some reversed =>
      return (some (extendedExt.set "direction" (.string reversed), remoteExt), localExt)
    | none => return (some (extendedExt, remoteExt), localExt)

/-- `getExtendedRtpCapabilities`. The result is the extended capabilities, and the local and the
remote ones afterwards. -/
def getExtendedRtpCapabilities (localCaps remoteCaps : Json) :
    Except Failure (Json × Json × Json) := do
  -- This may throw.
  let localCaps ← validateRtpCapabilities localCaps
  let remoteCaps ← validateRtpCapabilities remoteCaps
  let remoteCodecs ← remoteCaps.found "codecs"
  let (localCodecs, localCaps) ← localCaps.access "codecs"
  -- Match media codecs and keep the order preferred by remoteCaps.
  let (extendedCodecs, localCodecs, remoteCodecs) ←
    extendAll isRtxCodec extendCodec (items localCodecs) (items remoteCodecs)
  -- Match RTX codecs.
  let (extendedCodecs, localCodecs, remoteCodecs) ←
    extendRtxCodecs localCodecs remoteCodecs extendedCodecs
  -- Match header extensions.
  let (remoteExts, remoteCaps) ← remoteCaps.access "headerExtensions"
  let (localExts, localCaps) ← localCaps.access "headerExtensions"
  let (extendedExts, localExts, remoteExts) ←
    extendAll (fun _ ↦ .ok false) extendExt (items localExts) (items remoteExts)
  let localCaps := localCaps.set "codecs" (.array localCodecs)
  let remoteCaps := remoteCaps.set "codecs" (.array remoteCodecs)
  return (.object [("codecs", .array extendedCodecs), ("headerExtensions", .array extendedExts)],
    localCaps.set "headerExtensions" (.array localExts),
    remoteCaps.set "headerExtensions" (.array remoteExts))

/-- Whether an extended codec receives the payload type of a codec. -/
def isReceivedAs (firstMediaCodec codec : Json) : Except Failure Bool := do
  let remotePayloadType ← codec.index "remotePayloadType"
  let (payloadType, _) ← firstMediaCodec.access "payloadType"
  return remotePayloadType.equal payloadType

/-- `canReceive`. -/
def canReceive (rtpParameters extendedRtpCapabilities : Json) : Except Failure Bool := do
  -- This may throw.
  let rtpParameters ← validateRtpParameters rtpParameters
  let (codecs, _) ← rtpParameters.access "codecs"
  match codecs with
  | .null | .array [] | .object [] => return false
  | .array (firstMediaCodec :: _) => do
    let codecs ← extendedRtpCapabilities.index "codecs"
    (items codecs).anyM (isReceivedAs firstMediaCodec)
  | _ => .error (.exception 305)

/-! ## Computations without undefined behaviour -/

/-- A computation that does not run into undefined behaviour, and what holds of its result. -/
def Defined {α : Type} (x : Except Failure α) (P : α → Prop) : Prop :=
  x ≠ .error .undefined ∧ ∀ a, x = .ok a → P a

namespace Defined

variable {α β : Type} {P Q : α → Prop} {x : Except Failure α}

theorem ok {a : α} (h : P a) : Defined (.ok a) P :=
  ⟨fun h' ↦ (by cases h'), fun _ h' ↦ Except.ok.inj h' ▸ h⟩

theorem exception (id : ℕ) : Defined (.error (.exception id)) P :=
  ⟨fun h' ↦ (by cases h'), fun _ h' ↦ (by cases h')⟩

theorem bind {f : α → Except Failure β} {R : β → Prop} (hx : Defined x P)
    (hf : ∀ a, P a → Defined (f a) R) : Defined (x >>= f) R := by
  constructor
  · intro h
    rcases bind_eq_error.mp h with h | ⟨a, ha, h⟩
    · exact hx.1 h
    · exact (hf a (hx.2 a ha)).1 h
  · intro b h
    obtain ⟨a, ha, h⟩ := bind_eq_ok.mp h
    exact (hf a (hx.2 a ha)).2 b h

theorem imp (hx : Defined x P) (h : ∀ a, P a → Q a) : Defined x Q :=
  ⟨hx.1, fun a ha ↦ h a (hx.2 a ha)⟩

end Defined

theorem Declines.defined {α : Type} {x : Except Failure α} (h : Declines x) :
    Defined x fun a ↦ x = .ok a := by
  refine ⟨fun hx ↦ ?_, fun _ ↦ id⟩
  obtain ⟨text, htext⟩ := h _ hx
  cases htext

section Members

variable {j value : Json} {key : String} {isValid : Json → Bool}

theorem defined_index (h : (j.find? key).any isValid = true) :
    Defined (j.index key) fun value ↦ j.find? key = some value ∧ isValid value = true := by
  obtain ⟨value, hfind, hvalid⟩ := (Option.any_eq_true _ _).mp h
  rw [index_of_find? hfind]
  exact .ok ⟨hfind, hvalid⟩

theorem defined_found (h : (j.find? key).any isValid = true) :
    Defined (j.found key) fun value ↦ j.find? key = some value ∧ isValid value = true := by
  obtain ⟨value, hfind, hvalid⟩ := (Option.any_eq_true _ _).mp h
  rw [found_of_find? hfind]
  exact .ok ⟨hfind, hvalid⟩

/-- A member that is there is read without a change. -/
theorem defined_access (h : (j.find? key).any isValid = true) :
    Defined (j.access key) fun r ↦ j = r.2 ∧ j.find? key = some r.1 ∧ isValid r.1 = true := by
  obtain ⟨value, hfind, hvalid⟩ := (Option.any_eq_true _ _).mp h
  rw [access_of_find? hfind]
  exact .ok ⟨rfl, hfind, hvalid⟩

theorem defined_getString (j : Json) : Defined j.getString fun s ↦ j = .string s := by
  cases j with
  | string s => exact .ok rfl
  | _ => exact .exception 302

theorem defined_getInteger (j : Json) : Defined j.getInteger fun _ ↦ True := by
  cases j with
  | number n => exact .ok trivial
  | boolean b => exact .ok trivial
  | decimal q => exact .ok trivial
  | _ => exact .exception 302

end Members

/-! ## Readable codecs -/

/-- Feedback whose members can be read. -/
structure ReadableFeedback (fb : Json) : Prop where
  type : (fb.find? "type").any Json.isString = true
  parameter : (fb.find? "parameter").any Json.isString = true

/-- **A codec whose members can be read**: they are there, with the type that is assumed of them. -/
structure ReadableCodec (codec : Json) : Prop where
  isObject : codec.isObject = true
  mimeType : (codec.find? "mimeType").any Json.isString = true
  kind : (codec.find? "kind").any Json.isString = true
  clockRate : (codec.find? "clockRate").any Json.isNumberInteger = true
  preferredPayloadType : (codec.find? "preferredPayloadType").any Json.isNumberInteger = true
  parameters : (codec.find? "parameters").any Json.isObject = true
  rtcpFeedback : ∃ feedbacks, codec.find? "rtcpFeedback" = some (.array feedbacks) ∧
    ∀ fb ∈ feedbacks, ReadableFeedback fb
  apt : isRtxCodec codec = .ok true →
    (codec.find? "parameters").any (fun parameters ↦
      (parameters.find? "apt").any Json.isNumberInteger) = true

/-- A header extension whose members can be read. -/
structure ReadableExtension (ext : Json) : Prop where
  kind : (ext.find? "kind").any Json.isString = true
  uri : (ext.find? "uri").any Json.isString = true
  preferredId : (ext.find? "preferredId").any Json.isNumberInteger = true
  preferredEncrypt : (ext.find? "preferredEncrypt").any Json.isBoolean = true
  direction : (ext.find? "direction").any Json.isString = true

/-- An array of readable elements. -/
def ReadableMember (key : String) (Readable : Json → Prop) (j : Json) : Prop :=
  ∃ elements, j.find? key = some (.array elements) ∧ ∀ e ∈ elements, Readable e

/-- **Capabilities whose members can be read.** -/
structure ReadableCapabilities (caps : Json) : Prop where
  codecs : ReadableMember "codecs" ReadableCodec caps
  headerExtensions : ReadableMember "headerExtensions" ReadableExtension caps

/-- A codec of parameters whose payload type can be read. -/
def ReadablePayloadType (codec : Json) : Prop :=
  (codec.find? "payloadType").any Json.isNumberInteger = true

/-- **Parameters whose members can be read.** -/
def ReadableParameters (params : Json) : Prop :=
  ReadableMember "codecs" ReadablePayloadType params

theorem isRtxCodec_congr {codec codec' : Json} (h : ReadableCodec codec)
    (hfind : codec'.find? "mimeType" = codec.find? "mimeType") :
    isRtxCodec codec' = isRtxCodec codec := by
  obtain ⟨mimeType, hmimeType, htext⟩ := (Option.any_eq_true _ _).mp h.mimeType
  cases mimeType with
  | string mimeType =>
    rw [isRtxCodec_of_find? hmimeType, isRtxCodec_of_find? (hfind.trans hmimeType)]
  | _ => cases htext

/-- Parameters may change as long as their `apt` stays. -/
theorem ReadableCodec.setParameters {codec parameters parameters' : Json} (h : ReadableCodec codec)
    (hparameters : codec.find? "parameters" = some parameters)
    (hobject : parameters'.isObject = true)
    (hapt : parameters'.find? "apt" = parameters.find? "apt") :
    ReadableCodec (codec.set "parameters" parameters') := by
  have hkeep {key : String} (hkey : key ≠ "parameters") :
      (codec.set "parameters" parameters').find? key = codec.find? key :=
    find?_set_of_ne h.isObject hkey _
  have hself := find?_set_self h.isObject "parameters" parameters'
  obtain ⟨feedbacks, hfeedbacks, hreadable⟩ := h.rtcpFeedback
  refine ⟨(isObject_set _ _ _).trans h.isObject, ?_, ?_, ?_, ?_, ?_,
    ⟨feedbacks, (hkeep (by decide)).trans hfeedbacks, hreadable⟩, fun hrtx ↦ ?_⟩
  · rw [hkeep (by decide), h.mimeType]
  · rw [hkeep (by decide), h.kind]
  · rw [hkeep (by decide), h.clockRate]
  · rw [hkeep (by decide), h.preferredPayloadType]
  · rw [hself, Option.any_some, hobject]
  · rw [isRtxCodec_congr h (hkeep (by decide))] at hrtx
    have hgiven := h.apt hrtx
    rw [hparameters, Option.any_some] at hgiven
    rw [hself, Option.any_some, hapt, hgiven]

/-! ## Matching readable codecs -/

section Matching

variable {codec aCodec bCodec : Json}

theorem defined_getH264Integer (h : ReadableCodec codec) (key : String) :
    Defined (getH264Integer key codec) fun _ ↦ True := by
  refine (defined_index h.parameters).bind fun parameters _ ↦ ?_
  split
  · exact .ok trivial
  split
  · exact (defined_getInteger _).bind fun _ _ ↦ .ok trivial
  · exact .ok trivial

theorem defined_getTextParameter (h : ReadableCodec codec) (key default : String) :
    Defined (getTextParameter key default codec) fun _ ↦ True := by
  refine (defined_index h.parameters).bind fun parameters _ ↦ ?_
  split
  · exact .ok trivial
  split
  · exact ((defined_getInteger _).bind fun _ _ ↦ .ok trivial).bind fun _ (_ : True) ↦ .ok trivial
  · exact (defined_getString _).imp fun _ _ ↦ trivial

theorem defined_h264Parameters (h : ReadableCodec codec) (packetizationMode : ℕ) :
    Defined (h264Parameters codec packetizationMode) fun _ ↦ True :=
  (defined_getH264Integer h _).bind fun _ _ ↦
    (defined_getTextParameter h _ _).bind fun _ _ ↦ .ok trivial

theorem defined_setProfileLevelId (h : ReadableCodec codec)
    (newParameters : H264.CodecParameterMap) :
    Defined (setProfileLevelId codec newParameters) ReadableCodec := by
  refine (defined_access h.parameters).bind ?_
  rintro ⟨parameters, _⟩ ⟨rfl, hparameters, hobject⟩
  dsimp only
  split
  · exact .ok (h.setParameters hparameters ((isObject_set _ _ _).trans hobject)
      (find?_set_of_ne hobject (by decide) _))
  · exact .ok (h.setParameters hparameters ((isObject_erase _ _).trans hobject)
      (find?_erase _ (by decide)))

theorem defined_matchH264 (ha : ReadableCodec aCodec) (hb : ReadableCodec bCodec)
    (strict modify : Bool) :
    Defined (matchH264 aCodec bCodec strict modify) fun r ↦ ReadableCodec r.2 := by
  refine (defined_getH264Integer ha _).bind fun _ _ ↦ (defined_getH264Integer hb _).bind
    fun _ _ ↦ ?_
  split
  · exact .ok ha
  split
  · exact .ok ha
  refine (defined_h264Parameters ha _).bind fun aParameters _ ↦
    (defined_h264Parameters hb _).bind fun bParameters _ ↦ ?_
  split
  · exact .ok ha
  next hsame =>
  obtain ⟨answer, hanswer⟩ :=
    H264.generateProfileLevelIdForAnswer_of_isSame (eq_true_of_not_not hsame)
  rw [hanswer, ok_bind]
  split
  · exact (defined_setProfileLevelId ha answer).bind fun _ hcodec ↦ .ok hcodec
  · exact .ok ha

/-- Readable codecs are matched without undefined behaviour, and stay readable. -/
theorem defined_matchCodecs (ha : ReadableCodec aCodec) (hb : ReadableCodec bCodec)
    (strict modify : Bool) :
    Defined (matchCodecs aCodec bCodec strict modify) fun r ↦ ReadableCodec r.2 := by
  refine (defined_found ha.mimeType).bind fun _ _ ↦ (defined_getString _).bind fun aMimeType _ ↦
    (defined_found hb.mimeType).bind fun _ _ ↦ (defined_getString _).bind fun bMimeType _ ↦ ?_
  split
  · exact .ok ha
  refine (defined_access ha.clockRate).bind ?_
  rintro ⟨aClockRate, _⟩ ⟨rfl, -⟩
  refine (defined_index hb.clockRate).bind fun bClockRate _ ↦ ?_
  split
  · exact .ok ha
  obtain ⟨same, hsame⟩ := matchChannels_returns (lowerCase aMimeType) aCodec bCodec
  rw [hsame, ok_bind]
  split
  · exact .ok ha
  split
  · exact defined_matchH264 ha hb strict modify
  split
  · exact (defined_getTextParameter ha _ _).bind fun _ _ ↦
      (defined_getTextParameter hb _ _).bind fun _ _ ↦ .ok ha
  · exact .ok ha

end Matching

/-! ## Extending readable values -/

section Extending

theorem defined_anyM {meets : Json → Except Failure Bool} {elements : List Json}
    (h : ∀ j ∈ elements, Defined (meets j) fun _ ↦ True) :
    Defined (elements.anyM meets) fun _ ↦ True := by
  induction elements with
  | nil => exact .ok trivial
  | cons j rest ih =>
    refine (h j List.mem_cons_self).bind fun met _ ↦ ?_
    cases met with
    | true => exact .ok trivial
    | false => exact ih fun j' hj' ↦ h j' (List.mem_cons_of_mem j hj')

theorem defined_findM? {meets : Json → Except Failure Bool} {elements : List Json}
    (h : ∀ j ∈ elements, Defined (meets j) fun _ ↦ True) :
    Defined (elements.findM? meets) fun _ ↦ True := by
  induction elements with
  | nil => exact .ok trivial
  | cons j rest ih =>
    refine (h j List.mem_cons_self).bind fun met _ ↦ ?_
    cases met with
    | true => exact .ok trivial
    | false => exact ih fun j' hj' ↦ h j' (List.mem_cons_of_mem j hj')

theorem defined_isSameFeedback {aFb bFb : Json} (ha : ReadableFeedback aFb)
    (hb : ReadableFeedback bFb) : Defined (isSameFeedback aFb bFb) fun _ ↦ True := by
  refine (defined_index ha.type).bind fun _ _ ↦ (defined_index hb.type).bind fun _ _ ↦ ?_
  split
  · exact .ok trivial
  · exact (defined_index ha.parameter).bind fun _ _ ↦
      (defined_index hb.parameter).bind fun _ _ ↦ .ok trivial

/-- **The feedback of readable codecs is reduced** without undefined behaviour. -/
theorem defined_reduceRtcpFeedback {codecA codecB : Json} (ha : ReadableCodec codecA)
    (hb : ReadableCodec codecB) : Defined (reduceRtcpFeedback codecA codecB) fun _ ↦ True := by
  obtain ⟨feedbackA, hfeedbackA, hreadableA⟩ := ha.rtcpFeedback
  obtain ⟨feedbackB, hfeedbackB, hreadableB⟩ := hb.rtcpFeedback
  unfold reduceRtcpFeedback
  rw [found_of_find? hfeedbackA, ok_bind]
  refine Defined.bind (P := fun _ ↦ True) ?_ fun _ _ ↦ .ok trivial
  rw [items]
  clear hfeedbackA
  induction feedbackA with
  | nil => exact .ok trivial
  | cons aFb rest ih =>
    unfold reducedFeedback
    rw [found_of_find? hfeedbackB, ok_bind]
    refine (defined_findM? fun bFb hbFb ↦ ?_).bind fun _ _ ↦
      (ih fun fb hfb ↦ hreadableA fb (List.mem_cons_of_mem aFb hfb)).bind fun _ _ ↦ .ok trivial
    exact defined_isSameFeedback (hreadableA aFb List.mem_cons_self) (hreadableB bFb hbFb)

/-- **The header extensions of readable capabilities are compared** without undefined behaviour. -/
theorem defined_matchHeaderExtensions {aExt bExt : Json} (ha : ReadableExtension aExt)
    (hb : ReadableExtension bExt) : Defined (matchHeaderExtensions aExt bExt) fun _ ↦ True := by
  refine (defined_index ha.kind).bind fun _ _ ↦ (defined_index hb.kind).bind fun _ _ ↦ ?_
  split
  · exact .ok trivial
  · exact (defined_index ha.uri).bind fun _ _ ↦ (defined_index hb.uri).bind fun _ _ ↦ .ok trivial

variable {α : Type} {Local Remote Extended : Json → Prop}

theorem defined_tryFirst {attempt : Json → Except Failure (Option α × Json)} {P : α → Prop}
    (hattempt : ∀ j, Local j →
      Defined (attempt j) fun r ↦ (∀ value, r.1 = some value → P value) ∧ Local r.2)
    {elements : List Json} (h : ∀ j ∈ elements, Local j) :
    Defined (tryFirst attempt elements) fun r ↦
      (∀ value, r.1 = some value → P value) ∧ ∀ j ∈ r.2, Local j := by
  induction elements with
  | nil => exact .ok ⟨fun _ hvalue ↦ (by cases hvalue), h⟩
  | cons j rest ih =>
    have hrest : ∀ j' ∈ rest, Local j' := fun j' hj' ↦ h j' (List.mem_cons_of_mem j hj')
    refine (hattempt j (h j List.mem_cons_self)).bind ?_
    rintro ⟨found, j'⟩ ⟨hvalue, hj'⟩
    cases found with
    | some value => exact .ok ⟨hvalue, List.forall_mem_cons.mpr ⟨hj', hrest⟩⟩
    | none =>
      refine (ih hrest).bind ?_
      rintro ⟨found, rest'⟩ ⟨hvalue, hrest'⟩
      exact .ok ⟨hvalue, List.forall_mem_cons.mpr ⟨hj', hrest'⟩⟩

/-- What a computation makes of values stays as readable as the values are. -/
def Extends (Local Remote Extended : Json → Prop) (r : List Json × List Json × List Json) : Prop :=
  (∀ j ∈ r.1, Extended j) ∧ (∀ j ∈ r.2.1, Local j) ∧ ∀ j ∈ r.2.2, Remote j

theorem defined_extendAll {skip : Json → Except Failure Bool}
    {extend : Json → Json → Except Failure (Option (Json × Json) × Json)}
    (hskip : ∀ j, Remote j → Defined (skip j) fun _ ↦ True)
    (hextend : ∀ remote j, Remote remote → Local j → Defined (extend remote j) fun r ↦
      (∀ value, r.1 = some value → Extended value.1 ∧ Remote value.2) ∧ Local r.2)
    {locals remotes : List Json} (hlocals : ∀ j ∈ locals, Local j)
    (hremotes : ∀ j ∈ remotes, Remote j) :
    Defined (extendAll skip extend locals remotes) (Extends Local Remote Extended) := by
  induction remotes generalizing locals with
  | nil => exact .ok ⟨fun j hj ↦ absurd hj List.not_mem_nil, hlocals, hremotes⟩
  | cons remote rest ih =>
    obtain ⟨hremote, hrest⟩ := List.forall_mem_cons.mp hremotes
    refine (hskip remote hremote).bind fun skipped _ ↦ ?_
    split
    · refine (ih hlocals hrest).bind ?_
      rintro ⟨extended, locals', rest'⟩ ⟨hextended, hlocals', hrest'⟩
      exact .ok ⟨hextended, hlocals', List.forall_mem_cons.mpr ⟨hremote, hrest'⟩⟩
    refine (defined_tryFirst (fun j hj ↦ hextend remote j hremote hj) hlocals).bind ?_
    rintro ⟨found, locals₁⟩ ⟨hvalue, hlocals₁⟩
    cases found with
    | none =>
      refine (ih hlocals₁ hrest).bind ?_
      rintro ⟨extended, locals', rest'⟩ ⟨hextended, hlocals', hrest'⟩
      exact .ok ⟨hextended, hlocals', List.forall_mem_cons.mpr ⟨hremote, hrest'⟩⟩
    | some found =>
      obtain ⟨value, remote'⟩ := found
      obtain ⟨hvalue, hremote'⟩ := hvalue _ rfl
      refine (ih hlocals₁ hrest).bind ?_
      rintro ⟨extended, locals', rest'⟩ ⟨hextended, hlocals', hrest'⟩
      exact .ok ⟨List.forall_mem_cons.mpr ⟨hvalue, hextended⟩, hlocals',
        List.forall_mem_cons.mpr ⟨hremote', hrest'⟩⟩

/-- An extended codec whose payload types can be read. -/
structure ReadableExtended (extendedCodec : Json) : Prop where
  isObject : extendedCodec.isObject = true
  localPayloadType : (extendedCodec.find? "localPayloadType").any Json.isNumberInteger = true
  remotePayloadType : (extendedCodec.find? "remotePayloadType").any Json.isNumberInteger = true

theorem ReadableExtended.set {extendedCodec : Json} (h : ReadableExtended extendedCodec)
    {key : String} (hlocal : "localPayloadType" ≠ key) (hremote : "remotePayloadType" ≠ key)
    (value : Json) : ReadableExtended (extendedCodec.set key value) where
  isObject := (isObject_set _ _ _).trans h.isObject
  localPayloadType := by rw [find?_set_of_ne h.isObject hlocal, h.localPayloadType]
  remotePayloadType := by rw [find?_set_of_ne h.isObject hremote, h.remotePayloadType]

/-- Readable codecs are extended without undefined behaviour. -/
theorem defined_extendCodec {remoteCodec localCodec : Json} (hremote : ReadableCodec remoteCodec)
    (hlocal : ReadableCodec localCodec) :
    Defined (extendCodec remoteCodec localCodec) fun r ↦
      (∀ value, r.1 = some value → ReadableExtended value.1 ∧ ReadableCodec value.2) ∧
        ReadableCodec r.2 := by
  refine (defined_matchCodecs hlocal hremote true true).bind ?_
  rintro ⟨matched, codec⟩ hcodec
  dsimp only at hcodec ⊢
  split
  · exact .ok ⟨fun _ hvalue ↦ (by cases hvalue), hcodec⟩
  refine (defined_access hcodec.mimeType).bind ?_
  rintro ⟨mimeType, _⟩ ⟨rfl, -⟩
  refine (defined_access hcodec.kind).bind ?_
  rintro ⟨kind, _⟩ ⟨rfl, -⟩
  refine (defined_access hcodec.clockRate).bind ?_
  rintro ⟨clockRate, _⟩ ⟨rfl, -⟩
  refine (defined_access hcodec.preferredPayloadType).bind ?_
  rintro ⟨localPayloadType, _⟩ ⟨rfl, -, hlocalPayloadType⟩
  refine (defined_access hremote.preferredPayloadType).bind ?_
  rintro ⟨remotePayloadType, _⟩ ⟨rfl, -, hremotePayloadType⟩
  refine (defined_access hcodec.parameters).bind ?_
  rintro ⟨localParameters, _⟩ ⟨rfl, -⟩
  refine (defined_access hremote.parameters).bind ?_
  rintro ⟨remoteParameters, _⟩ ⟨rfl, -⟩
  refine (defined_reduceRtcpFeedback hcodec hremote).bind fun rtcpFeedback _ ↦ ?_
  have hextended : ReadableExtended (.object [("clockRate", clockRate), ("kind", kind),
      ("localParameters", localParameters), ("localPayloadType", localPayloadType),
      ("localRtxPayloadType", .null), ("mimeType", mimeType),
      ("remoteParameters", remoteParameters), ("remotePayloadType", remotePayloadType),
      ("remoteRtxPayloadType", .null), ("rtcpFeedback", rtcpFeedback)]) :=
    ⟨rfl, hlocalPayloadType, hremotePayloadType⟩
  dsimp only
  split
  · next hchannels =>
    obtain ⟨channels, hfind⟩ := Option.isSome_iff_exists.mp hchannels
    rw [access_of_find? hfind]
    refine .ok ⟨fun value hvalue ↦ ?_, hcodec⟩
    obtain rfl := Option.some.inj hvalue
    exact ⟨hextended.set (by decide) (by decide) channels, hremote⟩
  · refine .ok ⟨fun value hvalue ↦ ?_, hcodec⟩
    obtain rfl := Option.some.inj hvalue
    exact ⟨hextended, hremote⟩

/-- Readable header extensions are extended without undefined behaviour. -/
theorem defined_extendExt {remoteExt localExt : Json} (hremote : ReadableExtension remoteExt)
    (hlocal : ReadableExtension localExt) :
    Defined (extendExt remoteExt localExt) fun r ↦
      (∀ value, r.1 = some value → True ∧ ReadableExtension value.2) ∧
        ReadableExtension r.2 := by
  refine (defined_matchHeaderExtensions hlocal hremote).bind fun matched _ ↦ ?_
  split
  · exact .ok ⟨fun _ hvalue ↦ (by cases hvalue), hlocal⟩
  refine (defined_access hremote.kind).bind ?_
  rintro ⟨kind, _⟩ ⟨rfl, -⟩
  refine (defined_access hremote.uri).bind ?_
  rintro ⟨uri, _⟩ ⟨rfl, -⟩
  refine (defined_access hlocal.preferredId).bind ?_
  rintro ⟨sendId, _⟩ ⟨rfl, -⟩
  refine (defined_access hremote.preferredId).bind ?_
  rintro ⟨recvId, _⟩ ⟨rfl, -⟩
  refine (defined_access hlocal.preferredEncrypt).bind ?_
  rintro ⟨encrypt, _⟩ ⟨rfl, -⟩
  refine (defined_access hremote.direction).bind ?_
  rintro ⟨direction, _⟩ ⟨rfl, -⟩
  refine (defined_getString direction).bind fun text _ ↦ ?_
  have hkeep (extendedExt : Json) (value : Json × Json)
      (hvalue : some (extendedExt, remoteExt) = some value) :
      True ∧ ReadableExtension value.2 := by
    obtain rfl := Option.some.inj hvalue
    exact ⟨trivial, hremote⟩
  split
  · exact .ok ⟨hkeep _, hlocal⟩
  · exact .ok ⟨hkeep _, hlocal⟩

end Extending

/-! ## RTX codecs and the whole -/

section Whole

variable {codec payloadType : Json}

theorem defined_isRtxCodec (h : ReadableCodec codec) :
    Defined (isRtxCodec codec) fun rtx ↦ isRtxCodec codec = .ok rtx := by
  refine ⟨?_, fun _ ↦ id⟩
  obtain ⟨mimeType, hmimeType, htext⟩ := (Option.any_eq_true _ _).mp h.mimeType
  cases mimeType with
  | string mimeType =>
    rw [isRtxCodec_of_find? hmimeType]
    exact fun h ↦ by cases h
  | _ => cases htext

theorem defined_isRtxCodecFor (h : ReadableCodec codec) (payloadType : Json) :
    Defined (isRtxCodecFor payloadType codec) fun _ ↦ True := by
  refine (defined_isRtxCodec h).bind fun rtx hrtx ↦ ?_
  cases rtx with
  | false => exact .ok trivial
  | true =>
    obtain ⟨parameters, hparameters, hapt⟩ := (Option.any_eq_true _ _).mp (h.apt hrtx)
    simp only [Bool.not_true, Bool.false_eq_true, if_false]
    rw [index_of_find? hparameters, ok_bind]
    exact (defined_index hapt).bind fun _ _ ↦ .ok trivial

theorem defined_accessRtx (h : ReadableCodec codec) (payloadType : Json) :
    Defined (accessRtx payloadType codec) fun r ↦
      (∀ value, r.1 = some value → True) ∧ ReadableCodec r.2 := by
  refine (defined_isRtxCodecFor h payloadType).bind fun rtx _ ↦ ?_
  split
  · refine (defined_access h.preferredPayloadType).bind ?_
    rintro ⟨preferredPayloadType, _⟩ ⟨rfl, -⟩
    exact .ok ⟨fun _ _ ↦ trivial, h⟩
  · exact .ok ⟨fun _ _ ↦ trivial, h⟩

theorem defined_extendRtx {extendedCodec : Json} {localCodecs remoteCodecs : List Json}
    (h : ReadableExtended extendedCodec) (hlocal : ∀ j ∈ localCodecs, ReadableCodec j)
    (hremote : ∀ j ∈ remoteCodecs, ReadableCodec j) :
    Defined (extendRtx extendedCodec localCodecs remoteCodecs) fun r ↦
      ReadableExtended r.1 ∧ (∀ j ∈ r.2.1, ReadableCodec j) ∧ ∀ j ∈ r.2.2, ReadableCodec j := by
  refine (defined_access h.localPayloadType).bind ?_
  rintro ⟨localPayloadType, _⟩ ⟨rfl, -⟩
  refine (defined_anyM fun j hj ↦ defined_isRtxCodecFor (hlocal j hj) _).bind fun _ _ ↦ ?_
  split
  · exact .ok ⟨h, hlocal, hremote⟩
  refine (defined_access h.remotePayloadType).bind ?_
  rintro ⟨remotePayloadType, _⟩ ⟨rfl, -⟩
  refine (defined_anyM fun j hj ↦ defined_isRtxCodecFor (hremote j hj) _).bind fun _ _ ↦ ?_
  split
  · exact .ok ⟨h, hlocal, hremote⟩
  refine (defined_tryFirst (fun j hj ↦ defined_accessRtx hj _) hlocal).bind ?_
  rintro ⟨localRtx, localCodecs'⟩ ⟨-, hlocal'⟩
  refine (defined_tryFirst (fun j hj ↦ defined_accessRtx hj _) hremote).bind ?_
  rintro ⟨remoteRtx, remoteCodecs'⟩ ⟨-, hremote'⟩
  exact .ok ⟨(h.set (by decide) (by decide) _).set (by decide) (by decide) _, hlocal', hremote'⟩

theorem defined_extendRtxCodecs {extendedCodecs localCodecs remoteCodecs : List Json}
    (h : ∀ j ∈ extendedCodecs, ReadableExtended j) (hlocal : ∀ j ∈ localCodecs, ReadableCodec j)
    (hremote : ∀ j ∈ remoteCodecs, ReadableCodec j) :
    Defined (extendRtxCodecs localCodecs remoteCodecs extendedCodecs)
      (Extends ReadableCodec ReadableCodec ReadableExtended) := by
  induction extendedCodecs generalizing localCodecs remoteCodecs with
  | nil => exact .ok ⟨h, hlocal, hremote⟩
  | cons extendedCodec rest ih =>
    obtain ⟨hextended, hrest⟩ := List.forall_mem_cons.mp h
    refine (defined_extendRtx hextended hlocal hremote).bind ?_
    rintro ⟨extendedCodec', localCodecs₁, remoteCodecs₁⟩ ⟨hextended', hlocal₁, hremote₁⟩
    refine (ih hrest hlocal₁ hremote₁).bind ?_
    rintro ⟨rest', localCodecs', remoteCodecs'⟩ ⟨hrest', hlocal', hremote'⟩
    exact .ok ⟨List.forall_mem_cons.mpr ⟨hextended', hrest'⟩, hlocal', hremote'⟩

theorem ReadableMember.any_isArray {key : String} {Readable : Json → Prop} {j : Json}
    (h : ReadableMember key Readable j) : (j.find? key).any Json.isArray = true := by
  obtain ⟨elements, hfind, -⟩ := h
  rw [hfind]
  rfl

theorem ReadableMember.items {key : String} {Readable : Json → Prop} {j value : Json}
    (h : ReadableMember key Readable j) (hfind : j.find? key = some value) :
    ∀ e ∈ items value, Readable e := by
  obtain ⟨elements, helements, hreadable⟩ := h
  obtain rfl := Option.some.inj (hfind.symm.trans helements)
  exact hreadable

/-- **Capabilities that are readable when they are validated** are matched without undefined
behaviour, and the payload types of the extended codecs can be read. -/
theorem defined_getExtendedRtpCapabilities {localCaps remoteCaps : Json}
    (hlocal : ∀ caps, validateRtpCapabilities localCaps = .ok caps → ReadableCapabilities caps)
    (hremote : ∀ caps, validateRtpCapabilities remoteCaps = .ok caps →
      ReadableCapabilities caps) :
    Defined (getExtendedRtpCapabilities localCaps remoteCaps) fun r ↦
      ReadableMember "codecs" ReadableExtended r.1 := by
  refine (validateRtpCapabilities_declines localCaps).defined.bind fun localCaps hvalid ↦
    (validateRtpCapabilities_declines remoteCaps).defined.bind fun remoteCaps hvalid' ↦ ?_
  replace hlocal := hlocal localCaps hvalid
  replace hremote := hremote remoteCaps hvalid'
  refine (defined_found hremote.codecs.any_isArray).bind ?_
  rintro remoteCodecs ⟨hremoteCodecs, -⟩
  refine (defined_access hlocal.codecs.any_isArray).bind ?_
  rintro ⟨localCodecs, _⟩ ⟨rfl, hlocalCodecs, -⟩
  refine (defined_extendAll (fun j hj ↦ (defined_isRtxCodec hj).imp fun _ _ ↦ trivial)
    (fun remote j hremote hlocal ↦ defined_extendCodec hremote hlocal)
    (hlocal.codecs.items hlocalCodecs) (hremote.codecs.items hremoteCodecs)).bind ?_
  rintro ⟨extendedCodecs, localCodecs₁, remoteCodecs₁⟩ ⟨hextended, hlocal₁, hremote₁⟩
  refine (defined_extendRtxCodecs hextended hlocal₁ hremote₁).bind ?_
  rintro ⟨extendedCodecs', localCodecs', remoteCodecs'⟩ ⟨hextended', -, -⟩
  refine (defined_access hremote.headerExtensions.any_isArray).bind ?_
  rintro ⟨remoteExts, _⟩ ⟨rfl, hremoteExts, -⟩
  refine (defined_access hlocal.headerExtensions.any_isArray).bind ?_
  rintro ⟨localExts, _⟩ ⟨rfl, hlocalExts, -⟩
  have hexts : Defined (extendAll (fun _ ↦ .ok false) extendExt (items localExts)
      (items remoteExts)) (Extends ReadableExtension ReadableExtension fun _ ↦ True) :=
    defined_extendAll (fun _ _ ↦ .ok trivial)
      (fun _ _ hremote hlocal ↦ defined_extendExt hremote hlocal)
      (hlocal.headerExtensions.items hlocalExts) (hremote.headerExtensions.items hremoteExts)
  refine hexts.bind ?_
  rintro ⟨extendedExts, localExts', remoteExts'⟩ -
  exact .ok ⟨extendedCodecs', rfl, hextended'⟩

/-- **Parameters that are readable when they are validated** are compared with readable extended
capabilities without undefined behaviour. -/
theorem defined_canReceive {rtpParameters extendedRtpCapabilities : Json}
    (h : ∀ params, validateRtpParameters rtpParameters = .ok params → ReadableParameters params)
    (hextended : ReadableMember "codecs" ReadableExtended extendedRtpCapabilities) :
    Defined (canReceive rtpParameters extendedRtpCapabilities) fun _ ↦ True := by
  refine (validateRtpParameters_declines rtpParameters).defined.bind fun params hvalid ↦ ?_
  obtain ⟨codecs, hcodecs, hreadable⟩ := h params hvalid
  rw [access_of_find? hcodecs, ok_bind]
  cases codecs with
  | nil => exact .ok trivial
  | cons firstMediaCodec rest =>
    refine (defined_index hextended.any_isArray).bind ?_
    rintro extendedCodecs ⟨hfind, -⟩
    refine defined_anyM fun codec hcodec ↦ ?_
    have hremote := (hextended.items hfind codec hcodec).remotePayloadType
    exact (defined_index hremote).bind fun _ _ ↦
      (defined_access (hreadable firstMediaCodec List.mem_cons_self)).bind fun _ _ ↦ .ok trivial

end Whole

/-! ## What validation makes sure of -/

/-- A codec with a payload type, and with an `apt` if it is an RTX codec. -/
def HasPayloadTypes (codec : Json) : Prop :=
  codec.contains "preferredPayloadType" = true ∧
    (isRtxCodec codec = .ok true →
      (codec.find? "parameters").any (·.contains "apt") = true)

/-- **Capabilities whose codecs have payload types.** -/
def AllHavePayloadTypes (caps : Json) : Prop :=
  ∀ codec ∈ items ((caps.find? "codecs").getD .null), HasPayloadTypes codec

section Validated

variable {given codec : Json}

/-- A member that is there and not of the wrong type is of the right one. -/
theorem any_of_contains {j : Json} {key : String} {isValid : Json → Bool}
    (hcontains : j.contains key = true) (h : (j.find? key).any (!isValid ·) = false) :
    (j.find? key).any isValid = true := by
  obtain ⟨value, hvalue⟩ := Option.isSome_iff_exists.mp hcontains
  rw [hvalue, Option.any_some] at h ⊢
  simpa using h

theorem contains_of_any {j : Json} {key : String} {isValid : Json → Bool}
    (h : (j.find? key).any isValid = true) : j.contains key = true := by
  obtain ⟨value, hvalue, -⟩ := (Option.any_eq_true _ _).mp h
  exact Option.isSome_iff_exists.mpr ⟨value, hvalue⟩

/-- Parameters that were checked have an integer for `apt` if they have any. -/
theorem isNumberInteger_of_validateParameters {fields : List (String × Json)} {apt : Json}
    (h : validateParameters fields = .ok ()) (hapt : fields.lookup "apt" = some apt) :
    apt.isNumberInteger = true := by
  induction fields with
  | nil => cases hapt
  | cons field fields ih =>
    obtain ⟨key, value⟩ := field
    unfold validateParameters at h
    split at h
    · cases h
    split at h
    · cases h
    next hchecked =>
    by_cases hkey : key = "apt"
    · subst hkey
      simp only [List.lookup_cons, beq_self_eq_true, Option.some.injEq] at hapt
      subst hapt
      simpa using hchecked
    · have hbeq : ("apt" == key) = false := beq_eq_false_iff_ne.mpr (Ne.symm hkey)
      simp only [List.lookup_cons, hbeq] at hapt
      exact ih h hapt

/-- **A valid codec can be read** exactly if it has payload types. -/
theorem ValidCapability.readable_iff (h : ValidCapability codec) :
    ReadableCodec codec ↔ HasPayloadTypes codec := by
  obtain ⟨mimeType, kind, hmimeType, -, hsettled, hrest⟩ := h.kind
  obtain ⟨fields, hfields, hvalid⟩ := hrest.parameters
  constructor
  · intro hreadable
    refine ⟨contains_of_any hreadable.preferredPayloadType, fun hrtx ↦ ?_⟩
    have hapt := hreadable.apt hrtx
    rw [hfields, Option.any_some] at hapt ⊢
    exact contains_of_any hapt
  · rintro ⟨hcontains, hapt⟩
    obtain ⟨feedbacks, hfeedbacks, hfound⟩ := hrest.rtcpFeedback
    refine ⟨hrest.isObject, ?_, ?_, h.clockRate, any_of_contains hcontains h.preferredPayloadType,
      ?_, ⟨feedbacks, hfound.find?_eq, fun fb hfb ↦ ?_⟩, fun hrtx ↦ ?_⟩
    · rw [hmimeType]
      rfl
    · rw [hsettled.find?_eq]
      rfl
    · rw [hfields]
      rfl
    · exact ⟨(hfeedbacks fb hfb).type, (hfeedbacks fb hfb).parameter⟩
    · have hthere := hapt hrtx
      rw [hfields, Option.any_some] at hthere ⊢
      obtain ⟨apt, hlookup⟩ := Option.isSome_iff_exists.mp hthere
      exact (Option.any_eq_true _ _).mpr
        ⟨apt, hlookup, isNumberInteger_of_validateParameters hvalid hlookup⟩

theorem ValidExtension.readable {ext : Json} (h : ValidExtension ext) : ReadableExtension ext where
  kind := any_imp (fun _ ↦ isString_of_isExtKind) h.kind
  uri := any_imp (fun _ huri ↦ (Bool.and_eq_true _ _ ▸ huri).1) h.uri
  preferredId := h.preferredId
  preferredEncrypt := h.preferredEncrypt
  direction := h.direction

/-- Validation gives a codec no payload types, and takes none away. -/
theorem hasPayloadTypes_validated (h : validateRtpCodecCapability given = .ok codec) :
    HasPayloadTypes given ↔ HasPayloadTypes codec := by
  obtain ⟨mimeType, kind, hobject, hmimeType, -, -, -, hok⟩ :=
    validateRtpCodecCapability_eq_ok_iff.mp h
  have hset : (given.set "kind" (.string kind)).isObject = true :=
    (isObject_set _ _ _).trans hobject
  have hmimeType' : codec.find? "mimeType" = some (.string mimeType) :=
    (find?_of_validateRtpCodecCapability h (by decide) (by decide) (by decide) (by decide)).trans
      hmimeType
  have hrtx : isRtxCodec codec = isRtxCodec given := by
    rw [isRtxCodec_of_find? hmimeType, isRtxCodec_of_find? hmimeType']
  have hapt : (codec.find? "parameters").any (·.contains "apt") =
      (given.find? "parameters").any (·.contains "apt") := by
    obtain ⟨middle, hparameters, hfeedback⟩ := bind_eq_ok.mp hok
    have hchannels := (isObject_validateChannels (given.set "kind" (.string kind)) kind).trans hset
    obtain ⟨hmiddle, -, -⟩ := validateCodecParameters_returns hchannels hparameters
    rw [validateRtcpFeedbacks_returns hmiddle hfeedback _ (by decide)]
    have hgiven : (validateChannels kind (given.set "kind" (.string kind))).find? "parameters" =
        given.find? "parameters" := by
      rw [validateChannels_find? hset kind (by decide), find?_set_of_ne hobject (by decide)]
    unfold validateCodecParameters at hparameters
    rw [hgiven] at hparameters
    split at hparameters
    · obtain ⟨u, -, hparameters⟩ := bind_eq_ok.mp hparameters
      obtain rfl := Except.ok.inj hparameters
      rw [hgiven]
    · next hnone =>
      obtain rfl := Except.ok.inj hparameters
      rw [find?_set_self hchannels]
      cases hfind : given.find? "parameters" with
      | none => rfl
      | some parameters =>
        cases parameters with
        | object fields => exact absurd hfind (hnone fields)
        | _ => rfl
  rw [HasPayloadTypes, HasPayloadTypes, hrtx, hapt, Json.contains, Json.contains,
    find?_of_validateRtpCodecCapability h (by decide) (by decide) (by decide) (by decide)]

/-- What holds of each element before exactly if something holds of it afterwards. -/
theorem validateElements_forall_iff {validate : Json → Except Failure Json}
    {Before After : Json → Prop} (hiff : ∀ j j', validate j = .ok j' → (Before j ↔ After j'))
    {elements result : List Json} (h : validateElements validate elements = .ok result) :
    (∀ j ∈ elements, Before j) ↔ ∀ j ∈ result, After j := by
  induction elements generalizing result with
  | nil =>
    obtain rfl := Except.ok.inj h
    exact ⟨fun _ j hj ↦ absurd hj List.not_mem_nil, fun _ j hj ↦ absurd hj List.not_mem_nil⟩
  | cons j rest ih =>
    obtain ⟨j', hj', h⟩ := bind_eq_ok.mp h
    obtain ⟨rest', hrest', h⟩ := bind_eq_ok.mp h
    obtain rfl := Except.ok.inj h
    rw [List.forall_mem_cons, List.forall_mem_cons, hiff j j' hj', ih hrest']

/-- **Validated capabilities can be read** exactly if their codecs had payload types. -/
theorem readableCapabilities_iff {given caps : Json}
    (h : validateRtpCapabilities given = .ok caps) :
    ReadableCapabilities caps ↔ AllHavePayloadTypes given := by
  have hvalid := validCapabilities_of_returns h
  obtain ⟨extensions, hextensions, hsettled⟩ := hvalid.headerExtensions
  unfold validateRtpCapabilities at h
  split at h
  · cases h
  next hobject =>
  replace hobject := eq_true_of_not_not hobject
  obtain ⟨middle, hcodecs, hrest⟩ := bind_eq_ok.mp h
  obtain ⟨hmember, -⟩ := validateMember_returns (fun _ _ ↦ validCapability_of_returns)
    hobject hcodecs
  obtain ⟨-, value, rfl⟩ := validateMember_returns (fun _ _ ↦ validExtension_of_returns)
    hmember.isObject hrest
  have hiff : ReadableMember "codecs" ReadableCodec middle ↔ AllHavePayloadTypes given := by
    unfold validateMember at hcodecs
    unfold AllHavePayloadTypes
    split at hcodecs
    · next hnone =>
      obtain rfl := Except.ok.inj hcodecs
      rw [hnone]
      exact ⟨fun _ j hj ↦ absurd hj List.not_mem_nil,
        fun _ ↦ ⟨[], find?_set_self hobject _ _, fun j hj ↦ absurd hj List.not_mem_nil⟩⟩
    · next elements helements =>
      obtain ⟨result, hresult, hcodecs⟩ := bind_eq_ok.mp hcodecs
      obtain rfl := Except.ok.inj hcodecs
      have hforall := validateElements_forall_iff (fun j j' hj ↦
        (hasPayloadTypes_validated hj).trans
          (validCapability_of_returns hj).readable_iff.symm) hresult
      rw [helements]
      refine Iff.trans ⟨?_, fun hreadable ↦ ?_⟩ hforall.symm
      · rintro ⟨found, hfound, hreadable⟩
        rw [find?_set_self hobject] at hfound
        cases hfound
        exact hreadable
      · exact ⟨result, find?_set_self hobject _ _, hreadable⟩
    · cases hcodecs
  rw [← hiff]
  have hkeep : (middle.set "headerExtensions" value).find? "codecs" = middle.find? "codecs" :=
    find?_set_of_ne hmember.isObject (by decide) _
  constructor
  · rintro ⟨⟨codecs, hfound, hreadable⟩, -⟩
    exact ⟨codecs, hkeep.symm.trans hfound, hreadable⟩
  · rintro ⟨codecs, hfound, hreadable⟩
    exact ⟨⟨codecs, hkeep.trans hfound, hreadable⟩, extensions, hsettled.find?_eq,
      fun ext hext ↦ (hextensions ext hext).readable⟩

theorem ValidParameters.readable {params : Json} (h : ValidParameters params) :
    ReadableParameters params := by
  obtain ⟨codecs, hcodecs, hsettled⟩ := h.codecs
  exact ⟨codecs, hsettled.find?_eq, fun codec hcodec ↦ (hcodecs codec hcodec).payloadType⟩

/-- **Validating twice changes nothing, and what is read afterwards is there**, of parameters always
and of capabilities exactly if their codecs had payload types. -/
theorem validated_readable_iff {given caps : Json} (h : validateRtpCapabilities given = .ok caps) :
    (validateRtpCapabilities caps = .ok caps ∧ ReadableCapabilities caps ∧
      (∀ remote, (∀ remoteCaps, validateRtpCapabilities remote = .ok remoteCaps →
          ReadableCapabilities remoteCaps) →
        Defined (getExtendedRtpCapabilities caps remote) fun (extended, _, _) ↦
          ∀ params, canReceive params extended ≠ .error .undefined) ∧
      ∀ params result, validateRtpParameters params = .ok result →
        validateRtpParameters result = .ok result ∧ ReadableParameters result) ↔
      AllHavePayloadTypes given := by
  have hagain := validateRtpCapabilities_idempotent given caps h
  have hparams (params result : Json) (hresult : validateRtpParameters params = .ok result) :
      ReadableParameters result := (validParameters_of_returns hresult).readable
  constructor
  · rintro ⟨-, hreadable, -⟩
    exact (readableCapabilities_iff h).mp hreadable
  · intro hgiven
    have hreadable := (readableCapabilities_iff h).mpr hgiven
    refine ⟨hagain, hreadable, fun remote hremote ↦ ?_, fun params result hresult ↦
      ⟨validateRtpParameters_idempotent params result hresult, hparams params result hresult⟩⟩
    refine (defined_getExtendedRtpCapabilities (fun caps' hcaps' ↦ ?_) hremote).imp
      fun r hextended params ↦ (defined_canReceive (hparams params) hextended).1
    obtain rfl := Except.ok.inj (hagain.symm.trans hcaps')
    exact hreadable

/-- An RTX codec with the given parameters. -/
def rtxWithParameters (parameters : List (String × Json)) : Json :=
  .object [("clockRate", .number 90000), ("mimeType", .string "video/rtx"),
    ("parameters", .object parameters), ("preferredPayloadType", .number 97)]

/-- The capabilities for VP8 with an RTX codec that has the given parameters. -/
def vp8WithRtxParameters (parameters : List (String × Json)) : Json :=
  .object [("codecs", .array [
    .object [("clockRate", .number 90000), ("mimeType", .string "video/VP8"),
      ("preferredPayloadType", .number 96)],
    rtxWithParameters parameters])]

theorem validated_readable_vp8 : ∃ caps,
    validateRtpCapabilities (vp8WithRtxParameters [("apt", .number 96)]) = .ok caps ∧
      ReadableCapabilities caps := by
  obtain ⟨caps, hcaps⟩ : ∃ caps,
      validateRtpCapabilities (vp8WithRtxParameters [("apt", .number 96)]) = .ok caps :=
    exists_ok_of_isOk (by decide +kernel)
  have hgiven : AllHavePayloadTypes (vp8WithRtxParameters [("apt", .number 96)]) := by
    refine List.forall_mem_cons.mpr ⟨⟨rfl, fun hrtx ↦ ?_⟩, List.forall_mem_singleton.mpr
      ⟨rfl, fun _ ↦ rfl⟩⟩
    exact absurd (Except.ok.inj hrtx) (by decide +kernel)
  exact ⟨caps, hcaps, ((validated_readable_iff hcaps).mpr hgiven).2.1⟩

/-- Whether a computation runs into undefined behaviour. -/
def isUndefined {α : Type} : Except Failure α → Bool
  | .error .undefined => true
  | _ => false

theorem eq_undefined_of_isUndefined {α : Type} {x : Except Failure α} (h : isUndefined x = true) :
    x = .error .undefined := by
  unfold isUndefined at h
  split at h
  · rfl
  · cases h

/-- An RTX codec without an `apt` is valid, and reading its `apt` is undefined behaviour. -/
theorem not_validated_readable : ∃ caps,
    validateRtpCapabilities (vp8WithRtxParameters []) = .ok caps ∧ ¬ReadableCapabilities caps ∧
      getExtendedRtpCapabilities (vp8WithRtxParameters []) (vp8WithRtxParameters []) =
        .error .undefined := by
  obtain ⟨caps, hcaps⟩ : ∃ caps,
      validateRtpCapabilities (vp8WithRtxParameters []) = .ok caps :=
    exists_ok_of_isOk (by decide +kernel)
  refine ⟨caps, hcaps, fun hreadable ↦ ?_, eq_undefined_of_isUndefined (by decide +kernel)⟩
  have hgiven := (readableCapabilities_iff hcaps).mp hreadable (rtxWithParameters [])
    (List.mem_cons_of_mem _ List.mem_cons_self)
  have hmimeType : (rtxWithParameters []).find? "mimeType" = some (.string "video/rtx") := rfl
  exact absurd (hgiven.2 (isRtxCodec_of_find? hmimeType)) Bool.false_ne_true

end Validated

end Ortc

end MediasoupSfu
