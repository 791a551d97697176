import MediasoupSfu.Ortc.Validate

/-!
# Payload types of a router

A router is given media codecs. Each of them that is supported gets a payload type: the one it asks
for, else the static one of the supported codec, else the first of a pool of dynamic payload types.
A video codec is followed by an RTX codec, which takes its payload type from the same pool.

A payload type that is asked for may have been given away before. The code looks for that, and
throws. It does not look whether the pool still has an entry: `*dynamicPayloadTypes.begin()` is
read, and the check of the value comes after it.
-/

namespace MediasoupSfu

namespace Ortc

open Json (Failure)

/-! ## What is supported -/

/-- The feedback that the supported video codecs have. -/
def videoFeedback : List RtcpFeedback :=
  [{ type := "nack" }, { type := "nack", parameter := "pli" },
    { type := "ccm", parameter := "fir" }, { type := "goog-remb" }, { type := "transport-cc" }]

/-- A supported audio codec. -/
def supportedAudio (mimeType : String) (preferredPayloadType clockRate channels : ℤ)
    (feedback : String) : RtpCodecCapability :=
  { kind := "audio", mimeType, preferredPayloadType, clockRate, channels,
    rtcpFeedback := [{ type := feedback }] }

/-- A supported video codec. -/
def supportedVideo (mimeType : String) (channels : ℤ) (parameters : List (String × Json)) :
    RtpCodecCapability :=
  { kind := "video", mimeType, clockRate := 90000, channels, parameters
    rtcpFeedback := videoFeedback }

/-- The parameters of the supported H264 and H265 codecs. -/
def h26xParameters (packetizationMode : ℤ) : List (String × Json) :=
  [("level-asymmetry-allowed", .number 1), ("packetization-mode", .number packetizationMode)]

/-- `supportedRtpCapabilities.codecs`. -/
def supportedCodecs : List RtpCodecCapability :=
  [supportedAudio "audio/opus" 0 48000 2 "transport-cc",
   supportedAudio "audio/PCMU" 0 8000 1 "transport-cc",
   supportedAudio "audio/PCMA" 8 8000 1 "transport-cc",
   supportedAudio "audio/ISAC" 0 32000 1 "transport-cc",
   supportedAudio "audio/ISAC" 0 16000 1 "transport-cc",
   supportedAudio "audio/G722" 9 8000 1 "transport-cc",
   supportedAudio "audio/iLBC" 0 8000 1 "transport-cc",
   supportedAudio "audio/SILK" 0 24000 1 "transport-cc",
   supportedAudio "audio/SILK" 0 16000 1 "transport-cc",
   supportedAudio "audio/SILK" 0 12000 1 "transport-cc",
   supportedAudio "audio/SILK" 0 8000 1 "transport-cc",
   supportedAudio "audio/CN" 13 32000 1 "",
   supportedAudio "audio/CN" 13 32000 1 "",
   supportedAudio "audio/CN" 13 16000 1 "",
   supportedAudio "audio/CN" 13 8000 1 "",
   supportedAudio "audio/telephone-event" 0 48000 1 "",
   supportedAudio "audio/telephone-event" 0 32000 1 "",
   supportedAudio "audio/telephone-event" 0 16000 1 "",
   supportedAudio "audio/telephone-event" 0 8000 1 "",
   supportedVideo "video/VP8" 1 [],
   supportedVideo "video/VP9" 1 [],
   supportedVideo "video/H264" 0 (h26xParameters 1),
   supportedVideo "video/H264" 0 (h26xParameters 0),
   supportedVideo "video/H265" 0 (h26xParameters 1),
   supportedVideo "video/H265" 0 (h26xParameters 0)]

/-- `supportedRtpCapabilities.headerExtensions`. -/
def supportedHeaderExtensions : List RtpHeaderExtension :=
  [⟨"audio", "urn:ietf:params:rtp-hdrext:sdes:mid", 1, false, "sendrecv"⟩,
   ⟨"video", "urn:ietf:params:rtp-hdrext:sdes:mid", 1, false, "sendrecv"⟩,
   ⟨"video", "urn:ietf:params:rtp-hdrext:sdes:rtp-stream-id", 2, false, "recvonly"⟩,
   ⟨"video", "urn:ietf:params:rtp-hdrext:sdes:repaired-rtp-stream-id", 3, false, "recvonly"⟩,
   ⟨"audio", "http://www.webrtc.org/experiments/rtp-hdrext/abs-send-time", 4, false, "sendrecv"⟩,
   ⟨"video", "http://www.webrtc.org/experiments/rtp-hdrext/abs-send-time", 4, false, "sendrecv"⟩,
   ⟨"audio", "http://www.ietf.org/id/draft-holmer-rmcat-transport-wide-cc-extensions-01", 5, false,
    "recvonly"⟩,
   ⟨"video", "http://www.ietf.org/id/draft-holmer-rmcat-transport-wide-cc-extensions-01", 5, false,
    "sendrecv"⟩,
   ⟨"video", "http://tools.ietf.org/html/draft-ietf-avtext-framemarking-07", 6, false, "sendrecv"⟩,
   ⟨"video", "urn:ietf:params:rtp-hdrext:framemarking", 7, false, "sendrecv"⟩,
   ⟨"audio", "urn:ietf:params:rtp-hdrext:ssrc-audio-level", 10, false, "sendrecv"⟩,
   ⟨"video", "urn:3gpp:video-orientation", 11, false, "sendrecv"⟩,
   ⟨"video", "urn:ietf:params:rtp-hdrext:toffset", 12, false, "sendrecv"⟩]

/-- `supportedRtpCapabilities`. -/
def supportedRtpCapabilities : RtpCapabilities :=
  { codecs := supportedCodecs, headerExtensions := supportedHeaderExtensions }

/-- `DynamicPayloadTypes`. -/
def DynamicPayloadTypes : List ℤ :=
  [100, 101, 102, 103, 104, 105, 106, 107, 108, 109, 110, 111, 112, 113, 114, 115, 116, 117,
    118, 119, 120, 121, 122, 123, 124, 125, 126, 127, 96, 97, 98, 99]

/-! ## The allocation -/

/-- The pool of dynamic payload types, and the codecs of the router so far. -/
structure Allocation where
  dynamicPayloadTypes : List ℤ
  codecs : List RtpCodecCapability

/-- The payload types that have been given away. -/
def Allocation.payloadTypes (s : Allocation) : List ℤ :=
  s.codecs.map RtpCodecCapability.preferredPayloadType

/-- Take the first available payload type and remove it from the list. -/
def takePayloadType : List ℤ → Except Failure (ℤ × List ℤ)
  | [] => .error .undefined
  | pt :: dynamicPayloadTypes =>
    if pt = 0 then .error (.thrown "cannot allocate more dynamic codec payload types")
    else .ok (pt, dynamicPayloadTypes)

/-- The payload type of a media codec, and the list afterwards. -/
def choosePayloadType (mediaCodec codec : RtpCodecCapability) (dynamicPayloadTypes : List ℤ) :
    Except Failure (ℤ × List ℤ) :=
  -- If the given media codec has preferredPayloadType, keep it and remove it from the list.
  if mediaCodec.preferredPayloadType ≠ 0 then
    .ok (mediaCodec.preferredPayloadType, dynamicPayloadTypes.erase mediaCodec.preferredPayloadType)
  -- Otherwise if the supported codec has preferredPayloadType, use it.
  else if codec.preferredPayloadType ≠ 0 then .ok (codec.preferredPayloadType, dynamicPayloadTypes)
  -- Otherwise choose a dynamic one.
  else takePayloadType dynamicPayloadTypes

/-- Merge the media codec parameters. -/
def mergeParameters (parameters mediaParameters : List (String × Json)) : List (String × Json) :=
  mediaParameters.foldl (fun parameters field ↦ Json.setField field.1 field.2 parameters) parameters

/-- The RTX codec of a video codec. -/
def rtxCodec (codec : RtpCodecCapability) (pt : ℤ) : RtpCodecCapability :=
  { kind := codec.kind, mimeType := codec.kind ++ "/rtx", preferredPayloadType := pt,
    clockRate := codec.clockRate, parameters := [("apt", .number codec.preferredPayloadType)] }

/-- Append a supported codec to the codec list, and a RTX video codec if video. -/
def appendCodec (mediaCodec codec : RtpCodecCapability) (s : Allocation) :
    Except Failure Allocation := do
  let (pt, dynamicPayloadTypes) ← choosePayloadType mediaCodec codec s.dynamicPayloadTypes
  -- Ensure there is not duplicated preferredPayloadType values.
  if pt ∈ s.payloadTypes then .error (.thrown s!"duplicated codec.preferredPayloadType={pt}")
  else do
    let codec := { codec with
      preferredPayloadType := pt
      parameters := mergeParameters codec.parameters mediaCodec.parameters }
    if codec.kind = "video" then do
      let (rtxPt, dynamicPayloadTypes) ← takePayloadType dynamicPayloadTypes
      return ⟨dynamicPayloadTypes, s.codecs ++ [codec, rtxCodec codec rtxPt]⟩
    else return ⟨dynamicPayloadTypes, s.codecs ++ [codec]⟩

/-- The first supported codec that a media codec matches. -/
def findSupported (jmediaCodec : Json) :
    List RtpCodecCapability → Except Failure (Option RtpCodecCapability)
  | [] => .ok none
  | supportedCodec :: rest => do
    let (matched, jmediaCodec) ← matchCodecs jmediaCodec supportedCodec.toJson false false
    if matched then return some supportedCodec else findSupported jmediaCodec rest

/-- The supported codec for a media codec, which has to be valid. -/
def supportedFor (mediaCodec : RtpCodecCapability) :
    Except Failure (Option RtpCodecCapability) := do
  let jmediaCodec ← validateRtpCodecCapability mediaCodec.toJson
  findSupported jmediaCodec supportedCodecs

/-- What is done for one media codec. One that is not supported is passed over. -/
def allocate (mediaCodec : RtpCodecCapability) (s : Allocation) : Except Failure Allocation := do
  match ← supportedFor mediaCodec with
  | some codec => appendCodec mediaCodec codec s
  | none => return s

def allocateAll : List RtpCodecCapability → Allocation → Except Failure Allocation
  | [], s => .ok s
  | mediaCodec :: rest, s => do allocateAll rest (← allocate mediaCodec s)

/-- The state before the first media codec. -/
def Allocation.initial : Allocation := ⟨DynamicPayloadTypes, []⟩

/-- `generateRouterRtpCapabilities`. -/
def generateRouterRtpCapabilities (mediaCodecs : List RtpCodecCapability) :
    Except Failure RtpCapabilities := do
  let _ ← validateRtpCapabilities supportedRtpCapabilities.toJson
  let s ← allocateAll mediaCodecs .initial
  return { codecs := s.codecs, headerExtensions := supportedRtpCapabilities.headerExtensions }

end Ortc

end MediasoupSfu
