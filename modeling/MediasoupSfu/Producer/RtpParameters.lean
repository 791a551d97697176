import Mathlib.Data.List.Basic
import MediasoupSfu.Utils.Byte

/-!
# RTP parameters

What a producer is created with: the codecs and the encodings of the remote endpoint, and a mapping
of the encodings to the SSRCs that the consumers get to see. The parameters are checked once, by the
constructors of `RtpParameters` and `Producer`, and then relied upon: in particular every encoding
has a codec (`getCodecForEncoding_of_make`).

The parameters are taken as read from JSON. Of the parameters of a codec only `apt` is kept, which
tells which codec a feature codec belongs to. What the tables of a producer do not depend on is left
out.
-/

namespace MediasoupSfu

/-- `RtpCodecMimeType::Type`. -/
inductive CodecType where
  | unset
  | audio
  | video
  deriving DecidableEq, Repr

/-- `RtpCodecMimeType::Subtype`. -/
inductive CodecSubtype where
  | unset
  -- Audio codecs:
  | opus | pcma | pcmu | isac | g722 | ilbc | silk
  -- Video codecs:
  | vp8 | vp9 | h264 | xH264uc | h265
  -- Complementary codecs:
  | cn | telephoneEvent
  -- Feature codecs:
  | rtx | ulpfec | xUlpfecuc | flexfec | red
  deriving DecidableEq, Repr

namespace CodecSubtype

/-- `IsMediaCodec()`. -/
def isMediaCodec : CodecSubtype → Bool
  | opus | pcma | pcmu | isac | g722 | ilbc | silk | vp8 | vp9 | h264 | xH264uc | h265 => true
  | _ => false

/-- `IsFeatureCodec()`. -/
def isFeatureCodec : CodecSubtype → Bool
  | rtx | ulpfec | xUlpfecuc | flexfec | red => true
  | _ => false

end CodecSubtype

/-- `Parameters::Value`, as far as `GetInteger` tells values apart. -/
inductive ParameterValue where
  | integer (value : ℤ)
  | other
  deriving DecidableEq, Repr

/-- `Parameters::HasPositiveInteger(key)`, on what there is for the key. -/
def hasPositiveInteger : Option ParameterValue → Bool
  | some (.integer value) => decide (0 ≤ value)
  | _ => false

/-- `Parameters::GetInteger(key)`, on what there is for the key. -/
def getInteger : Option ParameterValue → Except Fault ℤ
  | none => .error (.assertion "key does not exist")
  | some (.integer value) => .ok value
  | some .other => .ok 0

/-- `RtpCodecParameters`. -/
structure RtpCodecParameters where
  type : CodecType
  subtype : CodecSubtype
  payloadType : Byte
  /-- The parameter `apt`, if there is one. -/
  apt : Option ParameterValue := none
  deriving DecidableEq, Repr

/-- `RtpEncodingParameters`. -/
structure RtpEncodingParameters where
  ssrc : BitVec 32 := 0
  rid : List Byte := []
  codecPayloadType : Byte := 0
  hasCodecPayloadType : Bool := false
  rtxSsrc : BitVec 32 := 0
  hasRtx : Bool := false
  spatialLayers : ℕ := 1
  temporalLayers : ℕ := 1
  deriving DecidableEq, Repr

/-- `RtpParameters`. -/
structure RtpParameters where
  mid : List Byte
  codecs : List RtpCodecParameters
  encodings : List RtpEncodingParameters
  deriving DecidableEq, Repr

/-- How a constructor ends without an object. -/
inductive Thrown where
  /-- `MS_THROW_TYPE_ERROR` with this text. -/
  | typeError (text : String)
  | fault (f : Fault)
  deriving DecidableEq, Repr

/-- `RtpParameters::Type`. -/
inductive RtpParametersType where
  | none | simple | simulcast | svc
  deriving DecidableEq, Repr

/-- `Codecs::Tools::IsValidTypeForCodec(type, mimeType)`. -/
def isValidTypeForCodec (type : RtpParametersType) (codec : RtpCodecParameters) : Bool :=
  match type with
  | .none => false
  | .simple => true
  | .simulcast => codec.type = .video && (codec.subtype = .vp8 || codec.subtype = .h264)
  | .svc => codec.type = .video && codec.subtype = .vp9

namespace RtpParameters

/-- `GetCodecForEncoding(encoding)`. -/
def getCodecForEncoding (p : RtpParameters) (encoding : RtpEncodingParameters) :
    Except Fault RtpCodecParameters :=
  match p.codecs.find? fun codec ↦ codec.payloadType = encoding.codecPayloadType with
  | some codec => .ok codec
  | none => .error (.assertion "no valid codec payload type for the given encoding")

/-- The loop of `GetRtxCodecForEncoding` over the codecs. -/
def findRtxCodec (payloadType : Byte) :
    List RtpCodecParameters → Except Fault (Option RtpCodecParameters)
  | [] => .ok none
  | codec :: codecs =>
    if codec.subtype.isFeatureCodec then do
      let apt ← getInteger codec.apt
      if apt = payloadType.toNat then return some codec else findRtxCodec payloadType codecs
    else findRtxCodec payloadType codecs

/-- `GetRtxCodecForEncoding(encoding)`. -/
def getRtxCodecForEncoding (p : RtpParameters) (encoding : RtpEncodingParameters) :
    Except Fault (Option RtpCodecParameters) := findRtxCodec encoding.codecPayloadType p.codecs

/-- `GetType(rtpParameters)`. -/
def getType (p : RtpParameters) : RtpParametersType :=
  match p.encodings with
  | [] => .none
  | [encoding] => if 1 < encoding.spatialLayers ∨ 1 < encoding.temporalLayers then .svc else .simple
  | _ => .simulcast

/-! ## Validation -/

/-- `RtpCodecParameters::CheckCodec()`. -/
def checkCodec (codec : RtpCodecParameters) : Except Thrown Unit :=
  if codec.subtype = .rtx ∧ ¬hasPositiveInteger codec.apt then
    .error (.typeError "missing apt parameter in RTX codec")
  else .ok ()

/-- The check of a RTX codec in `ValidateCodecs`. -/
def validateApt (codecs : List RtpCodecParameters) (codec : RtpCodecParameters) :
    Except Thrown Unit :=
  match getInteger codec.apt with
  | .error f => .error (.fault f)
  | .ok apt =>
    match codecs.find? fun other ↦ (other.payloadType.toNat : ℤ) = apt with
    | none => .error (.typeError "apt in RTX codec points to a non existing codec")
    | some other =>
      match other.subtype with
      | .rtx => .error (.typeError "apt in RTX codec points to a RTX codec")
      | .ulpfec => .error (.typeError "apt in RTX codec points to a ULPFEC codec")
      | .flexfec => .error (.typeError "apt in RTX codec points to a FLEXFEC codec")
      | _ => .ok ()

/-- The loop of `ValidateCodecs` over the codecs that are left, behind those with the given payload
types. -/
def validateCodecsFrom (codecs : List RtpCodecParameters) :
    List Byte → List RtpCodecParameters → Except Thrown Unit
  | _, [] => .ok ()
  | payloadTypes, codec :: rest =>
    if codec.payloadType ∈ payloadTypes then .error (.typeError "duplicated payloadType")
    else do
      -- A RTX codec must have 'apt' parameter pointing to a non RTX codec.
      if codec.subtype = .rtx then validateApt codecs codec else .ok ()
      validateCodecsFrom codecs (codec.payloadType :: payloadTypes) rest

/-- The checks of `ValidateEncodings` on one encoding of several ones or of a single one. -/
def validateEncoding (codecs : List RtpCodecParameters) (several : Bool)
    (firstMediaPayloadType : Byte) (encoding : RtpEncodingParameters) :
    Except Thrown RtpEncodingParameters :=
  if 1 < encoding.spatialLayers ∧ several then
    .error (.typeError "cannot use both simulcast and encodings with multiple SVC spatial layers")
  else if ¬encoding.hasCodecPayloadType then
    .ok { encoding with codecPayloadType := firstMediaPayloadType, hasCodecPayloadType := true }
  else match codecs.find? fun codec ↦ codec.payloadType = encoding.codecPayloadType with
  | none => .error (.typeError "unknown codecPayloadType")
  -- Must be a media codec.
  | some codec =>
    if codec.subtype.isMediaCodec then .ok encoding
    else .error (.typeError "invalid codecPayloadType")

/-- `ValidateEncodings()`. -/
def validateEncodings (p : RtpParameters) : Except Thrown RtpParameters :=
  match p.codecs.find? fun codec ↦ codec.subtype.isMediaCodec with
  | none => .error (.typeError "no media codecs found")
  | some codec => do
    let encodings ← p.encodings.mapM
      (validateEncoding p.codecs (decide (1 < p.encodings.length)) codec.payloadType)
    return { p with encodings := encodings }

/-- `RtpParameters(data)`, with the codecs and encodings of the data. -/
def make (mid : Option (List Byte)) (codecs : List RtpCodecParameters)
    (encodings : List RtpEncodingParameters) : Except Thrown RtpParameters :=
  if mid = some [] then .error (.typeError "empty mid")
  else do
    codecs.forM checkCodec
    if codecs = [] then .error (.typeError "empty codecs")
    else if encodings = [] then .error (.typeError "empty encodings")
    else do
      validateCodecsFrom codecs [] codecs
      validateEncodings ⟨mid.getD [], codecs, encodings⟩

/-! ## Validated parameters -/

/-- What a loop over a list has returned was returned for one of its elements. -/
theorem exists_of_mem_mapM {α β φ : Type} {f : α → Except φ β} {xs : List α} {ys : List β}
    (h : xs.mapM f = .ok ys) {y : β} (hy : y ∈ ys) : ∃ x ∈ xs, f x = .ok y := by
  have hall := mapM_eq_ok.mp h
  obtain ⟨i, hi, rfl⟩ := List.getElem_of_mem hy
  have hi' : i < xs.length := by rwa [hall.length_eq]
  exact ⟨xs[i], List.getElem_mem hi', hall.get hi' hi⟩

/-- A validated encoding has a codec. -/
theorem exists_codec_of_validateEncoding {codecs : List RtpCodecParameters} {several : Bool}
    {codec : RtpCodecParameters} (hcodec : codec ∈ codecs)
    {encoding validated : RtpEncodingParameters}
    (h : validateEncoding codecs several codec.payloadType encoding = .ok validated) :
    ∃ found, (codecs.find? fun codec ↦ codec.payloadType = validated.codecPayloadType) =
      some found := by
  unfold validateEncoding at h
  split at h
  · cases h
  split at h
  · cases h
    have hsome : (codecs.find? fun other ↦ other.payloadType = codec.payloadType).isSome := by
      rw [List.find?_isSome]
      exact ⟨codec, hcodec, by simp⟩
    exact Option.isSome_iff_exists.mp hsome
  split at h
  · cases h
  · rename_i found hfound
    split at h
    · cases h
      exact ⟨found, hfound⟩
    · cases h

/-- `ValidateEncodings` changes the encodings only. -/
theorem codecs_of_validateEncodings {p q : RtpParameters} (h : validateEncodings p = .ok q) :
    q.mid = p.mid ∧ q.codecs = p.codecs := by
  unfold validateEncodings at h
  split at h
  · cases h
  · obtain ⟨encodings, -, h⟩ := bind_eq_ok.mp h
    obtain rfl := Except.ok.inj h
    exact ⟨rfl, rfl⟩

/-- Each validated encoding was validated with the first media codec. -/
theorem exists_of_validateEncodings {p q : RtpParameters} (h : validateEncodings p = .ok q)
    {encoding : RtpEncodingParameters} (hencoding : encoding ∈ q.encodings) :
    ∃ first, (p.codecs.find? fun codec ↦ codec.subtype.isMediaCodec) = some first ∧
      ∃ original, validateEncoding p.codecs (decide (1 < p.encodings.length)) first.payloadType
        original = .ok encoding := by
  unfold validateEncodings at h
  split at h
  · cases h
  next first hfirst =>
  obtain ⟨validated, hmap, heq⟩ := bind_eq_ok.mp h
  obtain rfl := Except.ok.inj heq
  obtain ⟨original, -, hone⟩ := exists_of_mem_mapM hmap hencoding
  exact ⟨first, hfirst, original, hone⟩

/-- **Every encoding has a codec** once the parameters have been accepted. -/
theorem getCodecForEncoding_of_make {mid : Option (List Byte)} {codecs : List RtpCodecParameters}
    {encodings : List RtpEncodingParameters} {p : RtpParameters}
    (h : make mid codecs encodings = .ok p) {encoding : RtpEncodingParameters}
    (hencoding : encoding ∈ p.encodings) : ∃ codec, p.getCodecForEncoding encoding = .ok codec := by
  have hvalidated : validateEncodings ⟨mid.getD [], codecs, encodings⟩ = .ok p := by
    unfold make at h
    split at h
    · cases h
    obtain ⟨_, -, h⟩ := bind_eq_ok.mp h
    split at h
    · cases h
    split at h
    · cases h
    obtain ⟨_, -, h⟩ := bind_eq_ok.mp h
    exact h
  obtain ⟨first, hfirst, original, hone⟩ := exists_of_validateEncodings hvalidated hencoding
  obtain ⟨found, hfound⟩ := exists_codec_of_validateEncoding (List.mem_of_find?_eq_some hfirst) hone
  refine ⟨found, ?_⟩
  unfold getCodecForEncoding
  rw [(codecs_of_validateEncodings hvalidated).2, hfound]

end RtpParameters

end MediasoupSfu
