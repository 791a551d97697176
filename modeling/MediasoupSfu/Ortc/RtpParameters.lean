import MediasoupSfu.Library.Json

/-!
# RTP parameters and capabilities

What a producer sends and what a router or a consumer can receive, as the controller describes it.
Codecs are compared in their JSON form. The conversion leaves out members that are empty or 0, which
is how an unset member is written.

The members of type `int` are integers: nothing is computed with them. A `std::map` of parameters is
a list of entries with distinct keys.
-/

namespace MediasoupSfu

namespace Ortc

/-- Transport layer and codec-specific feedback messages. -/
structure RtcpFeedback where
  type : String
  parameter : String := ""
  deriving DecidableEq, Repr

/-- A media or RTX codec in use. -/
structure RtpCodecParameters where
  mimeType : String := ""
  payloadType : ℤ := 0
  clockRate : ℤ := 0
  channels : ℤ := 0
  parameters : List (String × Json) := []
  rtcpFeedback : List RtcpFeedback := []

/-- A RTP header extension in use. -/
structure RtpHeaderExtensionParameters where
  uri : String := ""
  id : ℤ := 0
  encrypt : Bool := false
  parameters : List (String × Json) := []

/-- A transmitted RTP stream. -/
structure RtpEncodingParameters where
  ssrc : BitVec 32 := 0
  rid : String := ""
  codecPayloadType : ℤ := 0
  /-- `rtx.ssrc`. -/
  rtxSsrc : BitVec 32 := 0
  dtx : Bool := false
  scalabilityMode : String := ""
  scaleResolutionDownBy : ℤ := 0
  maxBitrate : ℤ := 0
  active : Bool := false
  deriving DecidableEq, Repr

/-- Parameters used for RTCP. -/
structure RtcpParameters where
  cname : String := ""
  reducedSize : Bool := true
  mux : Bool := true
  deriving DecidableEq, Repr

/-- What a producer or a consumer sends or receives. -/
structure RtpParameters where
  mid : String := ""
  codecs : List RtpCodecParameters := []
  headerExtensions : List RtpHeaderExtensionParameters := []
  encodings : List RtpEncodingParameters := []
  rtcp : RtcpParameters := {}

/-- A supported media or RTX codec. -/
structure RtpCodecCapability where
  kind : String := ""
  mimeType : String := ""
  preferredPayloadType : ℤ := 0
  clockRate : ℤ := 0
  channels : ℤ := 0
  parameters : List (String × Json) := []
  rtcpFeedback : List RtcpFeedback := []

/-- A supported RTP header extension. -/
structure RtpHeaderExtension where
  kind : String := ""
  uri : String := ""
  preferredId : ℤ := 0
  preferredEncrypt : Bool := false
  direction : String := ""
  deriving DecidableEq, Repr

/-- What a router or an endpoint can receive. -/
structure RtpCapabilities where
  codecs : List RtpCodecCapability := []
  headerExtensions : List RtpHeaderExtension := []
  fecMechanisms : List String := []

/-! ## Conversion to JSON -/

/-- The members that are not unset. -/
def setString (s : String) : Option Json := if s = "" then none else some (.string s)

def setInteger (n : ℤ) : Option Json := if n = 0 then none else some (.number n)

def setFields (fields : List (String × Json)) : Option Json :=
  if fields = [] then none else some (.object fields)

/-- `to_json`. -/
def RtcpFeedback.toJson (fb : RtcpFeedback) : Json :=
  .object [("parameter", .string fb.parameter), ("type", .string fb.type)]

def setFeedback (rtcpFeedback : List RtcpFeedback) : Option Json :=
  if rtcpFeedback = [] then none else some (.array (rtcpFeedback.map RtcpFeedback.toJson))

/-- `to_json`. -/
def RtpCodecParameters.toJson (codec : RtpCodecParameters) : Json := .ofOptions
  [("channels", setInteger codec.channels),
   ("clockRate", setInteger codec.clockRate),
   ("mimeType", setString codec.mimeType),
   ("parameters", setFields codec.parameters),
   ("payloadType", setInteger codec.payloadType),
   ("rtcpFeedback", setFeedback codec.rtcpFeedback)]

/-- `to_json`. -/
def RtpCodecCapability.toJson (codec : RtpCodecCapability) : Json := .ofOptions
  [("channels", setInteger codec.channels),
   ("clockRate", setInteger codec.clockRate),
   ("kind", setString codec.kind),
   ("mimeType", setString codec.mimeType),
   ("parameters", setFields codec.parameters),
   ("preferredPayloadType", setInteger codec.preferredPayloadType),
   ("rtcpFeedback", setFeedback codec.rtcpFeedback)]

/-- `to_json`. -/
def RtpHeaderExtension.toJson (ext : RtpHeaderExtension) : Json := .object
  [("direction", .string ext.direction),
   ("kind", .string ext.kind),
   ("preferredEncrypt", .boolean ext.preferredEncrypt),
   ("preferredId", .number ext.preferredId),
   ("uri", .string ext.uri)]

/-- `to_json`. -/
def RtpCapabilities.toJson (caps : RtpCapabilities) : Json := .object
  [("codecs", .array (caps.codecs.map RtpCodecCapability.toJson)),
   ("fecMechanisms", .array (caps.fecMechanisms.map Json.string)),
   ("headerExtensions", .array (caps.headerExtensions.map RtpHeaderExtension.toJson))]

/-- The value of `apt` among the parameters of a codec, 0 if there is none. -/
def aptOf (parameters : List (String × Json)) : Except Json.Failure ℤ :=
  match parameters.lookup "apt" with
  | none => .ok 0
  | some apt => apt.getInt32

end Ortc

end MediasoupSfu
