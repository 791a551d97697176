import MediasoupSfu.Ortc.MatchCodecs
import Mathlib.Data.List.AList

/-!
# What the router makes of the parameters of a producer

A producer chooses its own payload types and SSRCs. `getProducerRtpParametersMapping` says for each
of them which value the router uses instead, and `getConsumableRtpParameters` describes the stream
with the router's values, as a consumer is offered it.

Both look for the codecs one by one, but not in the same way: the first takes the last RTX codec of
the capabilities that belongs to a codec, the second takes the first one. Between them the entries
go through an `std::unordered_map`. The order in which its entries come out is not specified, and
neither is the `ssrc` of a mapping entry for an encoding that has none, which is not initialised.
Both are parameters here, like the random number that the mapped SSRCs start from.

The two results go through JSON between the functions and are read back as they were, since a member
is left out only where it has its default.
-/

namespace MediasoupSfu

namespace Ortc

open Json (Failure)

/-- `RtpMappingCodec`. -/
structure RtpMappingCodec where
  payloadType : ℤ
  mappedPayloadType : ℤ
  deriving DecidableEq, Repr

/-- `RtpMappingEncoding`. A member that is empty or 0 is left out of its JSON form. -/
structure RtpMappingEncoding where
  ssrc : BitVec 32
  rid : String := ""
  scalabilityMode : String := ""
  mappedSsrc : BitVec 32
  deriving DecidableEq, Repr

/-- `RtpMapping`. -/
structure RtpMapping where
  codecs : List RtpMappingCodec
  encodings : List RtpMappingEncoding
  deriving DecidableEq, Repr

/-- A codec of a producer and the codec of the router that it is mapped to. -/
abbrev CodecPair := RtpCodecParameters × RtpCodecCapability

/-- `codecToCapCodec`, by payload type. -/
abbrev CodecToCapCodec := AList fun _ : ℤ ↦ CodecPair

/-- The value of a key. If there is none a default one is inserted. -/
def CodecToCapCodec.access (key : ℤ) (codecToCapCodec : CodecToCapCodec) :
    CodecPair × CodecToCapCodec :=
  match codecToCapCodec.lookup key with
  | some value => (value, codecToCapCodec)
  | none => (({}, {}), codecToCapCodec.insert key ({}, {}))

/-- An entry of the map. -/
abbrev CodecEntry := Sigma fun _ : ℤ ↦ CodecPair

/-- What the source leaves open. -/
structure Unspecified where
  /-- The order in which the entries of an unordered map come out. -/
  order : List CodecEntry → List CodecEntry
  order_perm : ∀ entries, (order entries).Perm entries
  /-- The `ssrc` of a mapping entry that is not initialised. -/
  uninitialised : ℕ → BitVec 32
  /-- The random number that the mapped SSRCs start from. -/
  mappedSsrc : ℤ
  mappedSsrc_range : 100000000 ≤ mappedSsrc ∧ mappedSsrc ≤ 999999999

/-! ## The mapping -/

/-- The first capability that a codec matches. Each one is matched with a fresh copy of the
codec. -/
def findMatchedCapCodec (codec : RtpCodecParameters) :
    List RtpCodecCapability → Except Failure (Option RtpCodecCapability)
  | [] => .ok none
  | capCodec :: rest => do
    let (matched, _) ← matchCodecs codec.toJson capCodec.toJson true true
    if matched then return some capCodec else findMatchedCapCodec codec rest

/-- Match parameters media codecs to capabilities media codecs. -/
def mapMediaCodecs (caps : RtpCapabilities) :
    List RtpCodecParameters → CodecToCapCodec → Except Failure CodecToCapCodec
  | [], codecToCapCodec => .ok codecToCapCodec
  | codec :: rest, codecToCapCodec => do
    if ← isRtxCodec codec.toJson then mapMediaCodecs caps rest codecToCapCodec
    else
      match ← findMatchedCapCodec codec caps.codecs with
      | some capCodec =>
        mapMediaCodecs caps rest (codecToCapCodec.insert codec.payloadType (codec, capCodec))
      | none =>
        .error (.thrown s!"unsupported codec [mimeType:{codec.mimeType}, payloadType:{codec.payloadType}]")

/-- Whether a capability is an RTX codec for a payload type. -/
def isRtxFor (payloadType : ℤ) (capCodec : RtpCodecCapability) : Except Failure Bool := do
  let apt ← aptOf capCodec.parameters
  return (← isRtxCodec capCodec.toJson) && apt == payloadType

/-- The last capability that is an RTX codec for a payload type. -/
def findLastRtx (payloadType : ℤ) : List RtpCodecCapability → Option RtpCodecCapability →
    Except Failure (Option RtpCodecCapability)
  | [], found => .ok found
  | capCodec :: rest, found => do
    if ← isRtxFor payloadType capCodec then findLastRtx payloadType rest (some capCodec)
    else findLastRtx payloadType rest found

/-- Match parameters RTX codecs to capabilities RTX codecs. -/
def mapRtxCodecs (params : RtpParameters) (caps : RtpCapabilities) :
    List RtpCodecParameters → CodecToCapCodec → Except Failure CodecToCapCodec
  | [], codecToCapCodec => .ok codecToCapCodec
  | codec :: rest, codecToCapCodec => do
    if !(← isRtxCodec codec.toJson) then mapRtxCodecs params caps rest codecToCapCodec
    else do
      -- Search for the associated media codec.
      let apt ← aptOf codec.parameters
      match params.codecs.find? fun mediaCodec ↦ mediaCodec.payloadType == apt with
      | none =>
        .error (.thrown s!"missing media codec found for RTX PT codec.payloadType={codec.payloadType}")
      | some associatedMediaCodec =>
        let (pair, codecToCapCodec) := codecToCapCodec.access associatedMediaCodec.payloadType
        let capMediaCodec := pair.2
        -- Ensure that the capabilities media codec has a RTX codec.
        match ← findLastRtx capMediaCodec.preferredPayloadType caps.codecs none with
        | none =>
          .error (.thrown
            "no RTX codec for capability codec PT $\x7bcapMediaCodec.preferredPayloadType\x7d")
        | some associatedCapRtxCodec =>
          mapRtxCodecs params caps rest
            (codecToCapCodec.insert codec.payloadType (codec, associatedCapRtxCodec))

/-- Generate codecs mapping. -/
def mappingCodec (entry : CodecEntry) : RtpMappingCodec :=
  ⟨entry.2.1.payloadType, entry.2.2.preferredPayloadType⟩

/-- Generate encodings mapping. The next mapped SSRC is computed in an `int`, which must not
overflow. -/
def mapEncodings (uninitialised : ℕ → BitVec 32) :
    List RtpEncodingParameters → ℕ → ℤ → Except Failure (List RtpMappingEncoding)
  | [], _, _ => .ok []
  | encoding :: rest, i, mappedSsrc =>
    if mappedSsrc = 2 ^ 31 - 1 then .error .undefined
    else do
      let mappedEncodings ← mapEncodings uninitialised rest (i + 1) (mappedSsrc + 1)
      return { ssrc := if encoding.ssrc ≠ 0 then encoding.ssrc else uninitialised i
               rid := encoding.rid
               scalabilityMode := encoding.scalabilityMode
               mappedSsrc := BitVec.ofInt 32 mappedSsrc } :: mappedEncodings

/-- `getProducerRtpParametersMapping`. -/
def getProducerRtpParametersMapping (u : Unspecified) (params : RtpParameters)
    (caps : RtpCapabilities) :
    Except Failure RtpMapping := do
  let codecToCapCodec ← mapMediaCodecs caps params.codecs ∅
  let codecToCapCodec ← mapRtxCodecs params caps params.codecs codecToCapCodec
  let encodings ← mapEncodings u.uninitialised params.encodings 0 u.mappedSsrc
  return { codecs := (u.order codecToCapCodec.entries).map mappingCodec, encodings }

/-! ## The consumable parameters -/

/-- The first capability that is an RTX codec for a payload type. -/
def findFirstRtx (payloadType : ℤ) :
    List RtpCodecCapability → Except Failure (Option RtpCodecCapability)
  | [] => .ok none
  | capCodec :: rest => do
    if ← isRtxFor payloadType capCodec then return some capCodec else findFirstRtx payloadType rest

/-- A media codec of a producer with the values of the router, 0 or empty if it has none. -/
def consumableCodec (caps : RtpCapabilities) (rtpMapping : RtpMapping)
    (codec : RtpCodecParameters) :
    RtpCodecParameters :=
  let consumableCodecPt :=
    match rtpMapping.codecs.find? fun entry ↦ entry.payloadType == codec.payloadType with
    | some entry => entry.mappedPayloadType
    | none => 0
  let matchedCapCodec :=
    (caps.codecs.find? fun capCodec ↦ capCodec.preferredPayloadType == consumableCodecPt).getD {}
  { mimeType := matchedCapCodec.mimeType
    payloadType := matchedCapCodec.preferredPayloadType
    clockRate := matchedCapCodec.clockRate
    channels := matchedCapCodec.channels
    -- Keep the Producer codec parameters.
    parameters := codec.parameters
    rtcpFeedback := matchedCapCodec.rtcpFeedback }

/-- An RTX codec of the router. It is given no channels. -/
def consumableRtxCodec (capRtxCodec : RtpCodecCapability) : RtpCodecParameters :=
  { mimeType := capRtxCodec.mimeType
    payloadType := capRtxCodec.preferredPayloadType
    clockRate := capRtxCodec.clockRate
    parameters := capRtxCodec.parameters
    rtcpFeedback := capRtxCodec.rtcpFeedback }

/-- The consumable codecs: each media codec, with its RTX codec behind it. -/
def consumableCodecs (caps : RtpCapabilities) (rtpMapping : RtpMapping) :
    List RtpCodecParameters → Except Failure (List RtpCodecParameters)
  | [] => .ok []
  | codec :: rest => do
    if ← isRtxCodec codec.toJson then consumableCodecs caps rtpMapping rest
    else do
      let consumable := consumableCodec caps rtpMapping codec
      let capRtxCodec ← findFirstRtx consumable.payloadType caps.codecs
      let codecs ← consumableCodecs caps rtpMapping rest
      return consumable :: (capRtxCodec.map consumableRtxCodec).toList ++ codecs

/-- Just take RTP header extension that can be used in Consumers. -/
def consumableHeaderExtensions (kind : String) (caps : RtpCapabilities) :
    List RtpHeaderExtensionParameters :=
  (caps.headerExtensions.filter fun capExt ↦
    capExt.kind = kind && (capExt.direction = "sendrecv" || capExt.direction = "sendonly")).map
      fun capExt ↦ { uri := capExt.uri, id := capExt.preferredId
                     encrypt := capExt.preferredEncrypt }

/-- The consumable encodings. A mapped SSRC that is 0 or missing cannot be converted. -/
def consumableEncodings : List RtpEncodingParameters → List RtpMappingEncoding →
    Except Failure (List RtpEncodingParameters)
  | [], _ => .ok []
  | _ :: _, [] => .error (.exception 302)
  | encoding :: rest, entry :: entries =>
    if entry.mappedSsrc = 0 then .error (.exception 302)
    else do
      let encodings ← consumableEncodings rest entries
      return { encoding with
        ssrc := entry.mappedSsrc, rid := "", rtxSsrc := 0, codecPayloadType := 0 } :: encodings

/-- `getConsumableRtpParameters`. -/
def getConsumableRtpParameters (kind : String) (params : RtpParameters) (caps : RtpCapabilities)
    (rtpMapping : RtpMapping) : Except Failure RtpParameters := do
  let codecs ← consumableCodecs caps rtpMapping params.codecs
  let encodings ← consumableEncodings params.encodings rtpMapping.encodings
  return { codecs, headerExtensions := consumableHeaderExtensions kind caps, encodings
           rtcp := { cname := params.rtcp.cname, reducedSize := true, mux := true } }

end Ortc

end MediasoupSfu
