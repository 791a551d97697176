import Mathlib.Data.List.Nodup
import MediasoupSfu.Library.Json
import MediasoupSfu.Producer.RtpParameters

/-!
# Parameters that are accepted

The constructors of RTP parameters read them from JSON and throw an error on what is wrong. What the
lookups of codecs rely on is established in three places: `CheckCodec` asks for the `apt` of a RTX
codec, `ValidateCodecs` for distinct payload types and for a codec that a RTX codec belongs to, and
`ValidateEncodings` for a media codec of each encoding.

The lookup of the RTX codec of an encoding asks every feature codec for its `apt`, not only RTX
codecs. There are others (`RED`, `ULPFEC`, `FLEXFEC`), of which nobody asks for one.

## Main results

* `checked_of_ofJson` : what holds of parameters that are accepted.
* `getCodecForEncoding_isMedia` : every encoding has a media codec.
* `lookups_iff` : exactly when the RTX codec of an encoding is found.
-/

namespace MediasoupSfu

/-! ## Reading JSON -/

/-- The bytes of a text. -/
def bytesOfString (s : String) : List Byte := s.toUTF8.data.toList.map UInt8.toBitVec

/-- The integer of a value for which `Utils::Json::IsPositiveInteger(value)` holds. -/
def positiveInteger? : Json → Option ℤ
  | .number n => if 0 ≤ n then some n else none
  | _ => none

/-- `Utils::String::ToLowerCase(str)`. -/
def toLowerCase (chars : List Char) : String := String.ofList (chars.map Char.toLower)

/-- `RtpCodecMimeType::string2Type`. -/
def string2Type : List (String × CodecType) := [("audio", .audio), ("video", .video)]

/-- `RtpCodecMimeType::string2Subtype`. -/
def string2Subtype : List (String × CodecSubtype) :=
  [("opus", .opus), ("pcma", .pcma), ("pcmu", .pcmu), ("isac", .isac), ("g722", .g722),
    ("ilbc", .ilbc), ("silk", .silk), ("vp8", .vp8), ("vp9", .vp9), ("h264", .h264),
    ("x-h264uc", .xH264uc), ("h265", .h265), ("cn", .cn), ("telephone-event", .telephoneEvent),
    ("rtx", .rtx), ("ulpfec", .ulpfec), ("flexfec", .flexfec), ("x-ulpfecuc", .xUlpfecuc),
    ("red", .red)]

/-- `RtpCodecMimeType::SetMimeType(mimeType)`. -/
def setMimeType (mimeType : String) : Except Thrown (CodecType × CodecSubtype) :=
  let chars := mimeType.toList
  match chars.findIdx? (· = '/') with
  | none => .error (.typeError "wrong codec MIME")
  | some slashPos =>
    if slashPos = 0 ∨ slashPos = chars.length - 1 then .error (.typeError "wrong codec MIME")
    else
      -- Force lowcase names.
      let type := toLowerCase (chars.take slashPos)
      let subtype := toLowerCase (chars.drop (slashPos + 1))
      match string2Type.lookup type, string2Subtype.lookup subtype with
      | none, _ => .error (.typeError ("unknown codec MIME type '" ++ type ++ "'"))
      | some _, none => .error (.typeError ("unknown codec MIME subtype '" ++ subtype ++ "'"))
      | some type, some subtype => .ok (type, subtype)

/-- What `Parameters::Set(data)` keeps of a value. -/
def ParameterValue.ofJson : Json → Option ParameterValue
  | .boolean _ => some .other
  | .number n => some (.integer (BitVec.ofInt 32 n).toInt)
  | .decimal _ => some .other
  | .string _ => some .other
  | .array entries => if entries ≠ [] ∧ entries.all Json.isNumberInteger then some .other else none
  -- Just ignore other value types.
  | _ => none

/-- The parameter `apt` after `Parameters::Set(data)`. -/
def aptOfJson (data : Json) : Option ParameterValue :=
  match data.find? "parameters" with
  | some (.object fields) => (fields.lookup "apt").bind ParameterValue.ofJson
  | _ => none

/-- `RtcpFeedback(data)`. What is read is not used. -/
def checkRtcpFeedback (data : Json) : Except Thrown Unit :=
  if !data.isObject then .error (.typeError "data is not an object")
  else if !(data.find? "type").any Json.isString then .error (.typeError "missing type")
  else .ok ()

/-- The constructors of the entries of a member that is an array, one after another. -/
def checkEntries (key : String) (check : Json → Except Thrown Unit) (data : Json) :
    Except Thrown Unit :=
  match data.find? key with
  | some (.array entries) => entries.forM check
  | _ => .ok ()

/-- `RtpCodecParameters(data)`. -/
def RtpCodecParameters.ofJson (data : Json) : Except Thrown RtpCodecParameters :=
  if !data.isObject then .error (.typeError "data is not an object")
  else match data.find? "mimeType" with
  | some (.string mimeType) => do
    -- This may throw.
    let (type, subtype) ← setMimeType mimeType
    match (data.find? "payloadType").bind positiveInteger? with
    | none => .error (.typeError "missing payloadType")
    | some payloadType =>
      if !((data.find? "clockRate").bind positiveInteger?).isSome then
        .error (.typeError "missing clockRate")
      else do
        checkEntries "rtcpFeedback" checkRtcpFeedback data
        let codec : RtpCodecParameters :=
          { type, subtype, payloadType := BitVec.ofInt 8 payloadType, apt := aptOfJson data }
        RtpParameters.checkCodec codec
        return codec
  | _ => .error (.typeError "missing mimeType")

/-- A number of layers: one digit, which is not 0, or two. -/
def layers? : List Char → Option (ℕ × List Char)
  | [] => none
  | c :: rest =>
    if '1' ≤ c ∧ c ≤ '9' then
      match rest with
      | d :: rest' =>
        if d.isDigit then some ((c.toNat - 48) * 10 + (d.toNat - 48), rest')
        else some (c.toNat - 48, rest)
      | [] => some (c.toNat - 48, [])
    else none

/-- The layers in a scalability mode that matches `^[LS]([1-9]\d?)T([1-9]\d?)(_KEY)?.*`. -/
def scalabilityLayers? (scalabilityMode : String) : Option (ℕ × ℕ) :=
  match scalabilityMode.toList with
  | c :: rest =>
    if c = 'L' ∨ c = 'S' then
      match layers? rest with
      | some (spatialLayers, 'T' :: rest) =>
        match layers? rest with
        | some (temporalLayers, rest) =>
          if rest.all fun c ↦ c ≠ '\n' ∧ c ≠ '\r' then some (spatialLayers, temporalLayers)
          else none
        | none => none
      | _ => none
    else none
  | [] => none

/-- The 32 bits of an integer that is optional and may be anything. -/
def optionalSsrc (data : Json) : BitVec 32 :=
  match (data.find? "ssrc").bind positiveInteger? with
  | some ssrc => BitVec.ofInt 32 ssrc
  | none => 0

/-- `RtpEncodingParameters(data)`. -/
def RtpEncodingParameters.ofJson (data : Json) : Except Thrown RtpEncodingParameters :=
  if !data.isObject then .error (.typeError "data is not an object")
  else
    let codecPayloadType := (data.find? "codecPayloadType").bind positiveInteger?
    let rtx := (data.find? "rtx").filter Json.isObject
    let layers :=
      match data.find? "scalabilityMode" with
      | some (.string scalabilityMode) => (scalabilityLayers? scalabilityMode).getD (1, 1)
      | _ => (1, 1)
    .ok
      { ssrc := optionalSsrc data
        rid :=
          match data.find? "rid" with
          | some (.string rid) => bytesOfString rid
          | _ => []
        codecPayloadType := BitVec.ofInt 8 (codecPayloadType.getD 0)
        hasCodecPayloadType := codecPayloadType.isSome
        rtxSsrc := (rtx.map optionalSsrc).getD 0
        hasRtx := rtx.isSome
        spatialLayers := layers.1
        temporalLayers := layers.2 }

/-- `RtpHeaderExtensionParameters(data)`. What is read is not used. -/
def checkHeaderExtension (data : Json) : Except Thrown Unit :=
  if !data.isObject then .error (.typeError "data is not an object")
  else match data.find? "uri" with
  | some (.string uri) =>
    if uri = "" then .error (.typeError "empty uri")
    else match (data.find? "id").bind positiveInteger? with
    | none => .error (.typeError "missing id")
    | some id => if BitVec.ofInt 8 id = 0 then .error (.typeError "invalid id 0") else .ok ()
  | _ => .error (.typeError "missing uri")

/-- The elements of a member that has to be an array. -/
def mandatoryArray (key : String) (data : Json) : Except Thrown (List Json) :=
  match data.find? key with
  | some (.array entries) => .ok entries
  | _ => .error (.typeError ("missing " ++ key))

namespace RtpParameters

/-- `RtpParameters(data)`. -/
def ofJson (data : Json) : Except Thrown RtpParameters :=
  if !data.isObject then .error (.typeError "data is not an object")
  else if (data.find? "mid").any fun mid ↦ mid.equal (.string "") then
    .error (.typeError "empty mid")
  else do
    let mid :=
      match data.find? "mid" with
      | some (.string mid) => bytesOfString mid
      | _ => []
    let codecs ← (← mandatoryArray "codecs" data).mapM RtpCodecParameters.ofJson
    if codecs = [] then .error (.typeError "empty codecs")
    else do
      let encodings ← (← mandatoryArray "encodings" data).mapM RtpEncodingParameters.ofJson
      if encodings = [] then .error (.typeError "empty encodings")
      else do
        checkEntries "headerExtensions" checkHeaderExtension data
        -- Validate RTP parameters.
        validateCodecsFrom codecs [] codecs
        validateEncodings ⟨mid, codecs, encodings⟩

/-! ## What is established -/

/-- **What the three validations establish.** -/
structure Checked (p : RtpParameters) : Prop where
  checkCodec : ∀ codec ∈ p.codecs, checkCodec codec = .ok ()
  validateCodecs : validateCodecsFrom p.codecs [] p.codecs = .ok ()
  validateEncodings : ∃ encodings, validateEncodings ⟨p.mid, p.codecs, encodings⟩ = .ok p

/-- A codec that is read has been checked. -/
theorem checkCodec_of_ofJson {data : Json} {codec : RtpCodecParameters}
    (h : RtpCodecParameters.ofJson data = .ok codec) : checkCodec codec = .ok () := by
  unfold RtpCodecParameters.ofJson at h
  split at h
  · cases h
  split at h
  · obtain ⟨⟨type, subtype⟩, -, h⟩ := bind_eq_ok.mp h
    dsimp only at h
    split at h
    · cases h
    split at h
    · cases h
    obtain ⟨_, -, h⟩ := bind_eq_ok.mp h
    obtain ⟨u, hcheck, h⟩ := bind_eq_ok.mp h
    obtain rfl := Except.ok.inj h
    exact hcheck
  · cases h

/-- **Parameters that are accepted have been checked.** -/
theorem checked_of_ofJson {data : Json} {p : RtpParameters} (h : ofJson data = .ok p) :
    Checked p := by
  unfold ofJson at h
  split at h
  · cases h
  split at h
  · cases h
  obtain ⟨entries, -, h⟩ := bind_eq_ok.mp h
  obtain ⟨codecs, hcodecs, h⟩ := bind_eq_ok.mp h
  split at h
  · cases h
  obtain ⟨entries', -, h⟩ := bind_eq_ok.mp h
  obtain ⟨encodings, -, h⟩ := bind_eq_ok.mp h
  split at h
  · cases h
  obtain ⟨_, -, h⟩ := bind_eq_ok.mp h
  obtain ⟨u, hvalid, h⟩ := bind_eq_ok.mp h
  obtain ⟨hmid, hsame⟩ := codecs_of_validateEncodings h
  dsimp only at hmid hsame
  refine ⟨fun codec hcodec ↦ ?_, ?_, encodings, ?_⟩
  · rw [hsame] at hcodec
    obtain ⟨entry, -, hentry⟩ := exists_of_mem_mapM hcodecs hcodec
    exact checkCodec_of_ofJson hentry
  · rw [hsame]
    exact hvalid
  · rw [hmid, hsame]
    exact h

/-! ## The media codec -/

/-- Validated codecs have distinct payload types. -/
theorem nodup_of_validateCodecsFrom {codecs : List RtpCodecParameters} {payloadTypes : List Byte}
    {rest : List RtpCodecParameters} (h : validateCodecsFrom codecs payloadTypes rest = .ok ()) :
    (∀ codec ∈ rest, codec.payloadType ∉ payloadTypes) ∧
      (rest.map RtpCodecParameters.payloadType).Nodup := by
  induction rest generalizing payloadTypes with
  | nil => exact ⟨fun codec hcodec ↦ absurd hcodec List.not_mem_nil, List.nodup_nil⟩
  | cons codec rest ih =>
    unfold validateCodecsFrom at h
    split at h
    · cases h
    next hnew =>
    have hlater : validateCodecsFrom codecs (codec.payloadType :: payloadTypes) rest = .ok () := by
      dsimp only at h
      split at h
      · obtain ⟨_, -, h⟩ := bind_eq_ok.mp h
        exact h
      · exact h
    obtain ⟨hrest, hnodup⟩ := ih hlater
    refine ⟨List.forall_mem_cons.mpr ⟨hnew, fun other hother hmem ↦ ?_⟩,
      List.nodup_cons.mpr ⟨fun hmem ↦ ?_, hnodup⟩⟩
    · exact hrest other hother (List.mem_cons_of_mem _ hmem)
    · obtain ⟨other, hother, heq⟩ := List.mem_map.mp hmem
      exact hrest other hother (heq ▸ List.mem_cons_self)

/-- Of codecs with distinct payload types the one with a payload type is found. -/
theorem find?_payloadType {codecs : List RtpCodecParameters} {codec : RtpCodecParameters}
    (hnodup : (codecs.map RtpCodecParameters.payloadType).Nodup) (hcodec : codec ∈ codecs) :
    (codecs.find? fun other ↦ other.payloadType = codec.payloadType) = some codec := by
  have hsome : (codecs.find? fun other ↦ other.payloadType = codec.payloadType).isSome := by
    rw [List.find?_isSome]
    exact ⟨codec, hcodec, decide_eq_true rfl⟩
  obtain ⟨found, hfound⟩ := Option.isSome_iff_exists.mp hsome
  have heq := List.find?_some hfound
  rw [hfound, List.inj_on_of_nodup_map hnodup (List.mem_of_find?_eq_some hfound) hcodec
    (of_decide_eq_true heq)]

/-- **Every encoding has a media codec** once the parameters have been accepted. -/
theorem getCodecForEncoding_isMedia {p : RtpParameters} (h : Checked p)
    {encoding : RtpEncodingParameters} (hencoding : encoding ∈ p.encodings) :
    ∃ codec, p.getCodecForEncoding encoding = .ok codec ∧ codec.subtype.isMediaCodec = true := by
  obtain ⟨encodings, hvalid⟩ := h.validateEncodings
  obtain ⟨first, hfirst, original, hone⟩ := exists_of_validateEncodings hvalid hencoding
  unfold getCodecForEncoding
  unfold validateEncoding at hone
  split at hone
  · cases hone
  split at hone
  · -- The encoding has the first media codec.
    obtain rfl := Except.ok.inj hone
    have hfound := find?_payloadType (nodup_of_validateCodecsFrom h.validateCodecs).2
      (List.mem_of_find?_eq_some hfirst)
    dsimp only
    rw [hfound]
    have hmedia := List.find?_some hfirst
    exact ⟨first, rfl, hmedia⟩
  split at hone
  · cases hone
  next found hfound =>
  split at hone
  · next hmedia =>
    obtain rfl := Except.ok.inj hone
    rw [hfound]
    exact ⟨found, rfl, hmedia⟩
  · cases hone

/-! ## The RTX codec -/

/-- A RTX codec for a payload type. -/
def isRtxFor (payloadType : Byte) (codec : RtpCodecParameters) : Bool :=
  codec.subtype = .rtx && codec.apt = some (.integer payloadType.toNat)

/-- A codec that the lookup of a RTX codec gets past: it is no feature codec, or has an `apt`, and
another one. -/
def IsPassed (payloadType : Byte) (codec : RtpCodecParameters) : Prop :=
  codec.subtype.isFeatureCodec = true → ∃ apt, getInteger codec.apt = .ok apt ∧
    apt ≠ payloadType.toNat

/-- What the lookup of a RTX codec is for: it gives a RTX codec for the payload type if there is one
and nothing otherwise. -/
def FindsRtx (payloadType : Byte) (codecs : List RtpCodecParameters) : Prop :=
  ∃ found, findRtxCodec payloadType codecs = .ok found ∧
    (∀ codec ∈ found, codec ∈ codecs ∧ isRtxFor payloadType codec = true) ∧
    (found.isSome ↔ ∃ codec ∈ codecs, isRtxFor payloadType codec = true)

variable {payloadType : Byte} {codec : RtpCodecParameters} {codecs : List RtpCodecParameters}

/-- A codec that is passed leaves the lookup to the others. -/
theorem findRtxCodec_cons_of_isPassed (h : IsPassed payloadType codec) :
    findRtxCodec payloadType (codec :: codecs) = findRtxCodec payloadType codecs := by
  rw [findRtxCodec]
  split
  · next hfeature =>
    obtain ⟨apt, hapt, hne⟩ := h hfeature
    rw [hapt]
    exact if_neg hne
  · rfl

theorem findRtxCodec_cons_of_isRtxFor (h : isRtxFor payloadType codec = true) :
    findRtxCodec payloadType (codec :: codecs) = .ok (some codec) := by
  obtain ⟨hrtx, hapt⟩ := (Bool.and_eq_true _ _).mp h
  rw [findRtxCodec, of_decide_eq_true hrtx, of_decide_eq_true hapt,
    if_pos (show CodecSubtype.rtx.isFeatureCodec = true from rfl)]
  exact if_pos rfl

/-- A RTX codec that was checked is for the payload type or passed. -/
theorem isPassed_of_rtx (hcheck : checkCodec codec = .ok ()) (hrtx : codec.subtype = .rtx)
    (h : isRtxFor payloadType codec = false) : IsPassed payloadType codec := by
  intro _
  unfold checkCodec at hcheck
  split at hcheck
  · cases hcheck
  next hpositive =>
  have hpositive : hasPositiveInteger codec.apt = true := by
    by_contra hnot
    exact hpositive ⟨hrtx, hnot⟩
  unfold hasPositiveInteger at hpositive
  split at hpositive
  · next value hvalue =>
    refine ⟨value, by rw [hvalue]; rfl, fun heq ↦ ?_⟩
    rw [isRtxFor, hrtx, hvalue, heq] at h
    simp at h
  · cases hpositive

/-- A codec that is neither passed nor for the payload type ends the lookup in another way. -/
theorem not_findsRtx_cons (hrtx : isRtxFor payloadType codec = false)
    (h : ¬IsPassed payloadType codec) : ¬FindsRtx payloadType (codec :: codecs) := by
  rintro ⟨found, hfound, hright, -⟩
  obtain ⟨hfeature, hnot⟩ := Classical.not_imp.mp h
  rw [findRtxCodec, if_pos hfeature] at hfound
  obtain ⟨apt, hapt, hfound⟩ := bind_eq_ok.mp hfound
  split at hfound
  · obtain rfl := Except.ok.inj hfound
    exact absurd (hright codec rfl).2 (Bool.eq_false_iff.mp hrtx)
  · next hne => exact hnot ⟨apt, hapt, hne⟩

/-- **The lookup does what it is for** exactly if each codec before the RTX codec that is no RTX
codec is passed. -/
theorem findsRtx_iff (hcheck : ∀ codec ∈ codecs, checkCodec codec = .ok ()) :
    FindsRtx payloadType codecs ↔
      ∀ codec ∈ codecs.takeWhile (!isRtxFor payloadType ·),
        codec.subtype ≠ .rtx → IsPassed payloadType codec := by
  induction codecs with
  | nil =>
    exact iff_of_true ⟨none, rfl, fun codec hcodec ↦ (by cases hcodec), by simp⟩
      fun codec hcodec ↦ absurd hcodec List.not_mem_nil
  | cons codec codecs ih =>
    obtain ⟨hcodec, hrest⟩ := List.forall_mem_cons.mp hcheck
    by_cases hfor : isRtxFor payloadType codec = true
    · rw [List.takeWhile_cons_of_neg (by simp [hfor])]
      refine iff_of_true ⟨some codec, findRtxCodec_cons_of_isRtxFor hfor, fun found hfound ↦ ?_, ?_⟩
        fun codec hcodec ↦ absurd hcodec List.not_mem_nil
      · obtain rfl := Option.some.inj hfound
        exact ⟨List.mem_cons_self, hfor⟩
      · exact iff_of_true rfl ⟨codec, List.mem_cons_self, hfor⟩
    replace hfor := eq_false_of_ne_true hfor
    rw [List.takeWhile_cons_of_pos (by simp [hfor]), List.forall_mem_cons]
    by_cases hpassed : IsPassed payloadType codec
    · have hiff : FindsRtx payloadType (codec :: codecs) ↔ FindsRtx payloadType codecs := by
        unfold FindsRtx
        rw [findRtxCodec_cons_of_isPassed hpassed]
        simp only [List.mem_cons, exists_eq_or_imp, hfor, Bool.false_eq_true, false_or]
        refine exists_congr fun found ↦ and_congr_right fun _ ↦ and_congr_left fun _ ↦
          forall₂_congr fun other _ ↦ and_congr_left fun hother ↦ or_iff_right fun heq ↦ ?_
        rw [heq, hfor] at hother
        cases hother
      rw [hiff, ih hrest]
      exact (and_iff_right fun _ ↦ hpassed).symm
    · refine iff_of_false (not_findsRtx_cons hfor hpassed) fun h ↦ ?_
      by_cases hrtx : codec.subtype = .rtx
      · exact hpassed (isPassed_of_rtx hcodec hrtx hfor)
      · exact hpassed (h.1 hrtx)

/-- **What both lookups are for**, for an encoding: a media codec, and the RTX codec if there is
one. -/
def LooksUp (p : RtpParameters) (encoding : RtpEncodingParameters) : Prop :=
  (∃ codec, p.getCodecForEncoding encoding = .ok codec ∧ codec.subtype.isMediaCodec = true) ∧
    FindsRtx encoding.codecPayloadType p.codecs

/-- **Accepted parameters are looked up as they should be** exactly if each feature codec before the
RTX codec of the encoding that is no RTX codec itself has an `apt`, and another one. -/
theorem lookups_iff {data : Json} {p : RtpParameters} (h : ofJson data = .ok p)
    {encoding : RtpEncodingParameters} (hencoding : encoding ∈ p.encodings) :
    p.LooksUp encoding ↔
      ∀ codec ∈ p.codecs.takeWhile (!isRtxFor encoding.codecPayloadType ·),
        codec.subtype ≠ .rtx → IsPassed encoding.codecPayloadType codec := by
  have hchecked := checked_of_ofJson h
  rw [LooksUp, findsRtx_iff hchecked.checkCodec]
  exact and_iff_right (getCodecForEncoding_isMedia hchecked hencoding)

/-- The parameters for VP8 with a RTX codec, and RED before or behind it. -/
def withRed (redFirst : Bool) : Json :=
  let codec (mimeType : String) (payloadType : ℤ) (parameters : List (String × Json)) : Json :=
    .object [("clockRate", .number 90000), ("mimeType", .string mimeType),
      ("parameters", .object parameters), ("payloadType", .number payloadType)]
  let red := codec "video/red" 98 []
  let rtx := codec "video/rtx" 97 [("apt", .number 96)]
  .object [("codecs", .array (codec "video/VP8" 96 [] :: if redFirst then [red, rtx] else
    [rtx, red])), ("encodings", .array [.object [("ssrc", .number 1)]])]

/-- The codecs and the encoding in these parameters. -/
def readWithRed (redFirst : Bool) : RtpParameters :=
  let red : RtpCodecParameters := { type := .video, subtype := .red, payloadType := 98 }
  let rtx : RtpCodecParameters :=
    { type := .video, subtype := .rtx, payloadType := 97, apt := some (.integer 96) }
  { mid := []
    codecs := { type := .video, subtype := .vp8, payloadType := 96 } ::
      if redFirst then [red, rtx] else [rtx, red]
    encodings := [{ ssrc := 1, codecPayloadType := 96, hasCodecPayloadType := true }] }

theorem ofJson_withRed (redFirst : Bool) :
    ofJson (withRed redFirst) = .ok (readWithRed redFirst) := by
  cases redFirst <;> rfl

theorem lookups_red_behind :
    (readWithRed false).LooksUp
      { ssrc := 1, codecPayloadType := 96, hasCodecPayloadType := true } := by
  refine (lookups_iff (ofJson_withRed false) List.mem_cons_self).mpr fun codec hcodec _ ↦ ?_
  obtain rfl := List.mem_singleton.mp hcodec
  exact fun h ↦ by cases h

/-- **RED before the RTX codec** is asked for its `apt`, which it does not have. -/
theorem not_lookups_red_first : ∃ p, ofJson (withRed true) = .ok p ∧ ∃ encoding ∈ p.encodings,
    p.getRtxCodecForEncoding encoding = .error (.assertion "key does not exist") ∧
      ¬p.LooksUp encoding := by
  refine ⟨_, ofJson_withRed true, _, List.mem_cons_self, rfl, ?_⟩
  rintro ⟨-, found, hfound, -⟩
  cases hfound

end RtpParameters

end MediasoupSfu
