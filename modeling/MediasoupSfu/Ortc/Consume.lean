import MediasoupSfu.Ortc.Validate

/-!
# What a consumer is given

A consumer is given the consumable parameters of a producer, reduced to what its own capabilities
match. The reduction copies what it keeps into new parameters, in separate loops for codecs, header
extensions, feedback and encodings.

The loop over the header extensions does not write to the new parameters. It replaces the header
extensions of the consumable parameters, which is a copy for `getConsumerRtpParameters` and the
stored object itself for `getPipeConsumerRtpParameters`. That one therefore also returns the
consumable parameters as it leaves them.

The random numbers that SSRCs start from are parameters.
-/

namespace MediasoupSfu

namespace Ortc

open Json (Failure)

/-! ## Matching -/

/-- The first capability that matches a codec. -/
def findCapCodec (codec : RtpCodecParameters) :
    List RtpCodecCapability → Except Failure (Option RtpCodecCapability)
  | [] => .ok none
  | capCodec :: rest => do
    let (matched, _) ← matchCodecs capCodec.toJson codec.toJson true false
    if matched then return some capCodec else findCapCodec codec rest

/-- The codecs that a capability matches, each with the first such capability. -/
def matchingCodecs (caps : RtpCapabilities) :
    List RtpCodecParameters → Except Failure (List (RtpCodecParameters × RtpCodecCapability))
  | [] => .ok []
  | codec :: rest => do
    match ← findCapCodec codec caps.codecs with
    | none => matchingCodecs caps rest
    | some capCodec => return (codec, capCodec) :: (← matchingCodecs caps rest)

/-- `canConsume`. -/
def canConsume (consumableParams : RtpParameters) (caps : RtpCapabilities) :
    Except Failure Bool := do
  -- This may throw.
  let _ ← validateRtpCapabilities caps.toJson
  -- Ensure there is at least one media codec.
  match ← matchingCodecs caps consumableParams.codecs with
  | [] => return false
  | (codec, _) :: _ => return !(← isRtxCodec codec.toJson)

/-! ## The codecs of a consumer -/

/-- The validation of the codecs of the capabilities, one by one. -/
def validateCapCodecs : List RtpCodecCapability → Except Failure Unit
  | [] => .ok ()
  | capCodec :: rest => do
    let _ ← validateRtpCodecCapability capCodec.toJson
    validateCapCodecs rest

/-- A codec with the feedback of the capability that matches it. -/
def withFeedback (pair : RtpCodecParameters × RtpCodecCapability) : RtpCodecParameters :=
  { pair.1 with rtcpFeedback := pair.2.rtcpFeedback }

/-- Sanitize the list of matched codecs by removing useless RTX codecs: the index goes down from the
end of the list. The second component is `rtxSupported`. -/
def removeOrphans : ℕ → List RtpCodecParameters → Bool →
    Except Failure (List RtpCodecParameters × Bool)
  | 0, codecs, rtxSupported => .ok (codecs, rtxSupported)
  | idx + 1, codecs, rtxSupported => do
    match codecs[idx]? with
    | none => .error .undefined
    | some codec =>
      if ← isRtxCodec codec.toJson then do
        -- Search for the associated media codec.
        let apt ← aptOf codec.parameters
        if codecs.any fun mediaCodec ↦ mediaCodec.payloadType == apt
          then removeOrphans idx codecs true
        else removeOrphans idx (codecs.eraseIdx idx) rtxSupported
      else removeOrphans idx codecs rtxSupported

def noCompatibleMediaCodecs : String := "no compatible media codecs"

/-- The selection of the codecs of a consumer, and whether RTX is supported. -/
def selectCodecs (consumableParams : RtpParameters) (caps : RtpCapabilities) :
    Except Failure (List RtpCodecParameters × Bool) := do
  let codecs := (← matchingCodecs caps consumableParams.codecs).map withFeedback
  let (codecs, rtxSupported) ← removeOrphans codecs.length codecs false
  -- Ensure there is at least one media codec.
  match codecs with
  | [] => .error (.thrown noCompatibleMediaCodecs)
  | codec :: _ =>
    if ← isRtxCodec codec.toJson then .error (.thrown noCompatibleMediaCodecs)
    else return (codecs, rtxSupported)

/-! ## Header extensions and feedback -/

/-- Whether a capability is for a header extension. -/
def matchesExtension (capExt : RtpHeaderExtension) (ext : RtpHeaderExtensionParameters) : Bool :=
  capExt.preferredId = ext.id && capExt.uri = ext.uri

/-- The header extensions that the capabilities have, each as often as they have it. -/
def matchingExtensions (caps : RtpCapabilities) (exts : List RtpHeaderExtensionParameters) :
    List RtpHeaderExtensionParameters :=
  exts.flatMap fun ext ↦
    (caps.headerExtensions.filter fun capExt ↦ matchesExtension capExt ext).map fun _ ↦ ext

def transportWideCcUri : String :=
  "http://www.ietf.org/id/draft-holmer-rmcat-transport-wide-cc-extensions-01"

def absSendTimeUri : String := "http://www.webrtc.org/experiments/rtp-hdrext/abs-send-time"

def midUri : String := "urn:ietf:params:rtp-hdrext:sdes:mid"

/-- Keep some of the feedback of a codec. -/
def RtpCodecParameters.filterFeedback (keep : RtcpFeedback → Bool) (codec : RtpCodecParameters) :
    RtpCodecParameters :=
  { codec with rtcpFeedback := codec.rtcpFeedback.filter keep }

/-- Which feedback is kept. Use Transport-CC if available, REMB otherwise. -/
def keepsFeedback (exts : List RtpHeaderExtensionParameters) (fb : RtcpFeedback) : Bool :=
  if exts.any fun ext ↦ ext.uri == transportWideCcUri then fb.type ≠ "goog-remb"
  else if exts.any fun ext ↦ ext.uri == absSendTimeUri then fb.type ≠ "transport-cc"
  else fb.type ≠ "transport-cc" && fb.type ≠ "goog-remb"

/-! ## Encodings -/

/-- A digit from 1 to 9 and possibly one more digit, as many as there are. -/
def layerNumber? : List Char → Option (ℕ × List Char)
  | c :: rest =>
    if '1' ≤ c ∧ c ≤ '9' then
      match rest with
      | d :: rest' =>
        if d.isDigit then some ((c.toNat - '0'.toNat) * 10 + (d.toNat - '0'.toNat), rest')
        else some (c.toNat - '0'.toNat, rest)
      | [] => some (c.toNat - '0'.toNat, [])
    else none
  | [] => none

/-- The layers in a text that matches `^[LS]([1-9]\d{0,1})T([1-9]\d{0,1}).*`. -/
def matchScalabilityMode (scalabilityMode : String) : Option (ℕ × ℕ) := do
  match scalabilityMode.toList with
  | c :: rest =>
    if c ≠ 'L' ∧ c ≠ 'S' then none
    else
      let (spatialLayers, rest) ← layerNumber? rest
      match rest with
      | 'T' :: rest =>
        let (temporalLayers, rest) ← layerNumber? rest
        if rest.all fun d ↦ d ≠ '\n' ∧ d ≠ '\r' then return (spatialLayers, temporalLayers)
          else none
      | _ => none
  | [] => none

/-- `parseScalabilityMode`. The result is an object, with one layer of each kind for an invalid
mode. -/
def parseScalabilityMode (scalabilityMode : String) : Json :=
  let (spatialLayers, temporalLayers) := (matchScalabilityMode scalabilityMode).getD (1, 1)
  .object [("spatialLayers", .number spatialLayers), ("temporalLayers", .number temporalLayers)]

/-- The random numbers that the SSRCs of a consumer start from. -/
structure DrawnSsrcs where
  ssrc : BitVec 32
  rtxSsrc : BitVec 32
  ssrc_range : 100000000 ≤ ssrc.toNat ∧ ssrc.toNat ≤ 999999999
  rtxSsrc_range : 100000000 ≤ rtxSsrc.toNat ∧ rtxSsrc.toNat ≤ 999999999

/-- The scalability mode of the first encoding that has one, else an empty text. -/
def firstScalabilityMode (encodings : List RtpEncodingParameters) : String :=
  ((encodings.find? fun encoding ↦ encoding.scalabilityMode ≠ "").map
    RtpEncodingParameters.scalabilityMode).getD ""

/-- If there is simulcast, mangle spatial layers in scalabilityMode. The parsed mode is converted to
a number as a whole. -/
def mangleScalabilityMode (encodings : List RtpEncodingParameters) : Except Failure String := do
  let scalabilityMode := firstScalabilityMode encodings
  if encodings.length > 1 then do
    let temporalLayers ← (parseScalabilityMode scalabilityMode).getInt32
    return "S" ++ toString encodings.length ++ "T" ++ toString temporalLayers
  else return scalabilityMode

/-- The single encoding of a consumer. The maximum bitrate is computed into one variable and read
from another one, which is always 0. -/
def consumerEncoding (drawn : DrawnSsrcs) (rtxSupported : Bool)
    (encodings : List RtpEncodingParameters) : Except Failure RtpEncodingParameters := do
  let scalabilityMode ← mangleScalabilityMode encodings
  let maxEncodingMaxBitrate : ℤ := 0
  let _maxBitrate := encodings.foldl (fun maxBitrate encoding ↦
    if encoding.maxBitrate > maxBitrate then encoding.maxBitrate else maxBitrate) 0
  return { ssrc := drawn.ssrc
           rtxSsrc := if rtxSupported then drawn.ssrc + 1 else 0
           scalabilityMode
           maxBitrate := if maxEncodingMaxBitrate ≠ 0 then maxEncodingMaxBitrate else 0 }

/-- All encodings, with consecutive SSRCs. -/
def pipeEncodings (drawn : DrawnSsrcs) (rtx : Bool) (encodings : List RtpEncodingParameters) :
    List RtpEncodingParameters :=
  encodings.mapIdx fun i encoding ↦ { encoding with
    ssrc := drawn.ssrc + BitVec.ofNat 32 i
    rtxSsrc := if rtx then drawn.rtxSsrc + BitVec.ofNat 32 i else 0 }

/-! ## The parameters of a consumer -/

/-- `getConsumerRtpParameters`. -/
def getConsumerRtpParameters (drawn : DrawnSsrcs) (consumableParams : RtpParameters)
    (caps : RtpCapabilities) (pipe : Bool) : Except Failure RtpParameters := do
  validateCapCodecs caps.codecs
  let (codecs, rtxSupported) ← selectCodecs consumableParams caps
  let consumableParams := { consumableParams with
    headerExtensions := matchingExtensions caps consumableParams.headerExtensions }
  let consumerParams : RtpParameters := {
    rtcp := consumableParams.rtcp
    codecs := codecs.map (·.filterFeedback (keepsFeedback consumableParams.headerExtensions)) }
  if pipe then
    return { consumerParams with
      encodings := pipeEncodings drawn rtxSupported consumableParams.encodings }
  else
    return { consumerParams with
      encodings := [← consumerEncoding drawn rtxSupported consumableParams.encodings] }

/-- The feedback that the code keeps for a pipe consumer. -/
def keepsPipeFeedback (enableRtx : Bool) (fb : RtcpFeedback) : Bool :=
  (fb.type = "nack" && fb.type = "pli") || (fb.type = "ccm" && fb.type = "fir") ||
    (enableRtx && fb.type = "nack" && fb.parameter ≠ "")

/-- The codecs of a pipe consumer. -/
def pipeCodecs (enableRtx : Bool) : List RtpCodecParameters →
    Except Failure (List RtpCodecParameters)
  | [] => .ok []
  | codec :: rest => do
    let isRtx ← if enableRtx then pure false else isRtxCodec codec.toJson
    if isRtx then pipeCodecs enableRtx rest
    else return codec.filterFeedback (keepsPipeFeedback enableRtx) :: (← pipeCodecs enableRtx rest)

/-- Whether a header extension is neither for transport MID nor BWE related. -/
def isPipeExtension (ext : RtpHeaderExtensionParameters) : Bool :=
  ext.uri ≠ midUri && ext.uri ≠ absSendTimeUri && ext.uri ≠ transportWideCcUri

/-- `getPipeConsumerRtpParameters`. The second component is the consumable parameters afterwards. -/
def getPipeConsumerRtpParameters (drawn : DrawnSsrcs) (consumableParams : RtpParameters)
    (enableRtx : Bool) : Except Failure (RtpParameters × RtpParameters) := do
  let codecs ← pipeCodecs enableRtx consumableParams.codecs
  let consumableParams := { consumableParams with
    headerExtensions := consumableParams.headerExtensions.filter isPipeExtension }
  let consumerParams : RtpParameters := {
    rtcp := consumableParams.rtcp
    codecs
    encodings := pipeEncodings drawn enableRtx consumableParams.encodings }
  return (consumerParams, consumableParams)

end Ortc

end MediasoupSfu
