import MediasoupSfu.Channel.PayloadRequest
import MediasoupSfu.Ice.Credentials
import MediasoupSfu.Ice.StunGrammar
import MediasoupSfu.Rtcp.CompoundParsing
import MediasoupSfu.Rtp.Packet
import MediasoupSfu.Transport.Dtls

/-!
# The WebRTC transport

A `WebRtcTransport` has an ICE server, which knows where the remote peer is, a DTLS transport, which
knows who it is, and two SRTP sessions with the keys of the DTLS handshake. It listens to the first
two and tells its parent class, `Transport`, when it is connected and what it receives.

The DTLS handshake begins when ICE is connected, without waiting for the fingerprint of the peer,
which comes with the "connect" request. So the role may change afterwards, and the handshake may be
done before the fingerprint can be checked.

The listeners are called from within the calls of the ICE server and of the DTLS transport. Here
these put out the calls, and they are made one after another afterwards. What the parent sends while
it is told something is an event of its own.
-/

namespace MediasoupSfu

open Rtcp (ParsedPacket)

/-! ## What libsrtp says -/

/-- What libsrtp says in the calls of one event. -/
structure SrtpAnswers where
  /-- `srtp_create` returns no error for the sending session. -/
  sendCreated : Bool := true
  /-- `srtp_create` returns no error for the receiving session. -/
  recvCreated : Bool := true
  /-- `EncryptRtp` or `EncryptRtcp`, unless it fails. -/
  encrypt : List Byte → Option (List Byte) := fun _ ↦ none
  /-- `DecryptSrtp` or `DecryptSrtcp`, unless it fails. -/
  decrypt : List Byte → Option (List Byte) := fun _ ↦ none

/-- The members of `SrtpSession`. -/
structure SrtpSession where
  cryptoSuite : CryptoSuite
  key : List Byte
  deriving DecidableEq, Repr

/-- `policy.rtp.cipher_key_len`. -/
def CryptoSuite.cipherKeyLen : CryptoSuite → ℕ
  | .aesCm128HmacSha180 | .aesCm128HmacSha132 => 30
  | .aeadAes256Gcm => 44
  | .aeadAes128Gcm => 28

/-- `SrtpSession(type, cryptoSuite, key, keyLen)`; nothing if it throws. -/
def SrtpSession.make (cryptoSuite : CryptoSuite) (key : List Byte) (created : Bool) :
    Except Fault (Option SrtpSession) := do
  msAssert (decide (key.length = cryptoSuite.cipherKeyLen))
    "given keyLen does not match policy.rtp.cipher_keyLen"
  return if created then some ⟨cryptoSuite, key⟩ else none

/-- What happens around the transport during an event. -/
structure WebRtcSurroundings where
  allocator : Allocator
  ssl : SslAnswers := {}
  srtp : SrtpAnswers := {}

/-! ## The "connect" request -/

/-- `DtlsTransport::string2FingerprintAlgorithm`. -/
def string2FingerprintAlgorithm : List (String × FingerprintAlgorithm) :=
  [("sha-1", .sha1), ("sha-224", .sha224), ("sha-256", .sha256), ("sha-384", .sha384),
    ("sha-512", .sha512)]

/-- `DtlsTransport::string2Role`. -/
def string2Role : List (String × DtlsRole) :=
  [("auto", .auto), ("client", .client), ("server", .server)]

/-- An entry of `dtlsParameters.fingerprints`. -/
def Fingerprint.ofJson (jsonFingerprint : Json) : Except PayloadChannel.Thrown Fingerprint :=
  if !jsonFingerprint.isObject then
    .error (.typeError "wrong entry in dtlsParameters.fingerprints (not an object)")
  else
    match jsonFingerprint.find? "algorithm" with
    | none => .error (.typeError "missing fingerprint.algorithm")
    | some (.string algorithm) =>
      match string2FingerprintAlgorithm.lookup algorithm with
      | none => .error (.typeError "invalid fingerprint.algorithm value")
      | some algorithm =>
        match jsonFingerprint.find? "value" with
        | none => .error (.typeError "missing fingerprint.value")
        | some (.string value) => .ok ⟨algorithm, value⟩
        | some _ => .error (.typeError "wrong fingerprint.value (not a string)")
    | some _ => .error (.typeError "wrong fingerprint.algorithm (not a string)")

/-- The role in `dtlsParameters`. -/
def DtlsRole.ofJson (jsonDtlsParameters : Json) : Except PayloadChannel.Thrown DtlsRole :=
  match jsonDtlsParameters.find? "role" with
  | .none => .ok .auto
  | some (.string role) =>
    match string2Role.lookup role with
    | .none => .error (.typeError "invalid dtlsParameters.role value")
    | some role => .ok role
  | some _ => .error (.typeError "wrong dtlsParameters.role (not a string)")

/-- The remote fingerprint and the remote role in the data of the request. -/
def dtlsParametersOfJson (data : Json) : Except PayloadChannel.Thrown (Fingerprint × DtlsRole) :=
  match data.find? "dtlsParameters" with
  | some (.object fields) =>
    match (Json.object fields).find? "fingerprints" with
    | some (.array fingerprints) => do
      -- Just take the first fingerprint.
      let fingerprint ← match fingerprints with
        | [] => .ok {}
        | jsonFingerprint :: _ => Fingerprint.ofJson jsonFingerprint
      let role ← DtlsRole.ofJson (.object fields)
      return (fingerprint, role)
    | _ => .error (.typeError "missing dtlsParameters.fingerprints")
  | _ => .error (.typeError "missing dtlsParameters")

/-- The local role for a remote one. -/
def DtlsRole.localRole : DtlsRole → Except PayloadChannel.Thrown DtlsRole
  | .client => .ok .server
  -- If the peer has role "auto" we become "client" since we are ICE controlled.
  | .server | .auto => .ok .client
  | .none => .error (.typeError "invalid remote DTLS role")

/-! ## The transport -/

/-- The members of `WebRtcTransport`. -/
structure WebRtcTransport where
  iceServer : IceServer
  dtlsTransport : DtlsTransport := {}
  srtpRecvSession : Option SrtpSession := none
  srtpSendSession : Option SrtpSession := none
  connectCalled : Bool := false
  dtlsRole : DtlsRole := .auto

/-- What the transport does: notifications, data that it sends over a tuple, calls of its parent,
and replies to requests. -/
inductive WebRtcOutput where
  | iceSelectedTupleChange (tuple : TransportTuple)
  | iceStateChange (state : IceState)
  | dtlsStateChange (state : DtlsState)
  | sendStunPacket (packet : StunPacket) (tuple : TransportTuple)
  | sendDtlsData (tuple : TransportTuple) (data : List Byte)
  /-- An encrypted RTP or RTCP packet. -/
  | sendSrtpData (tuple : TransportTuple) (data : List Byte)
  | connected
  | disconnected
  | receiveRtpPacket (packet : RtpPacket)
  /-- The packets that `RTCP::Packet::Parse` has linked, and the first one. -/
  | receiveRtcpPacket (heap : List (Linked.Node ParsedPacket)) (first : ℕ)
  | receiveSctpData (data : List Byte)
  | acceptConnect (dtlsLocalRole : DtlsRole)
  | acceptRestartIce (credentials : IceCredentials)
  | throws (thrown : PayloadChannel.Thrown)

/-- What can happen to the transport. -/
inductive WebRtcEvent where
  | packetReceived (tuple : TransportTuple) (data : List Byte) (env : WebRtcSurroundings)
  | tcpConnectionClosed (tuple : TransportTuple) (env : WebRtcSurroundings)
  | dtlsTimer (env : WebRtcSurroundings)
  /-- A `TRANSPORT_CONNECT` request. -/
  | connect (data : Json) (env : WebRtcSurroundings)
  /-- A `TRANSPORT_RESTART_ICE` request. -/
  | restartIce (credentials : IceCredentials)
  | sendRtpPacket (data : List Byte) (env : WebRtcSurroundings)
  | sendRtcpPacket (data : List Byte) (env : WebRtcSurroundings)
  | sendRtcpCompoundPacket (data : List Byte) (env : WebRtcSurroundings)
  | sendSctpData (data : List Byte) (env : WebRtcSurroundings)

/-- The calls of a listener, one after another. -/
def callListener {σ α β : Type} (handle : σ → α → Except Fault (List β × σ)) :
    σ → List α → Except Fault (List β × σ)
  | s, [] => .ok ([], s)
  | s, call :: calls => do
    let (outputs, s) ← handle s call
    let (more, s) ← callListener handle s calls
    return (outputs ++ more, s)

namespace WebRtcTransport

/-- ICE is 'connected' or 'completed'. -/
def iceEstablished (s : WebRtcTransport) : Bool :=
  decide (s.iceServer.state = .connected) || decide (s.iceServer.state = .completed)

/-- `IsConnected()`. -/
def isConnected (s : WebRtcTransport) : Bool :=
  s.iceEstablished && decide (s.dtlsTransport.state = .connected)

/-- `GetSelectedTuple()`, dereferenced. -/
def getSelectedTuple (s : WebRtcTransport) : Except Fault TransportTuple :=
  match s.iceServer.selectedTuple with
  | none => .error .nullPointer
  | some address => s.iceServer.tupleAt address

/-- `IsValidTuple(tuple)`. -/
def isValidTuple (s : WebRtcTransport) (tuple : TransportTuple) : Except Fault Bool := do
  return (← s.iceServer.hasTuple tuple).isSome

/-! ### The listener of the DTLS transport -/

/-- `OnDtlsTransportConnected(dtlsTransport, srtpCryptoSuite, …)`. -/
def onDtlsTransportConnected (s : WebRtcTransport) (env : WebRtcSurroundings)
    (srtpCryptoSuite : CryptoSuite) (srtpLocalKey srtpRemoteKey : List Byte) :
    Except Fault (List WebRtcOutput × WebRtcTransport) := do
  let send ← SrtpSession.make srtpCryptoSuite srtpLocalKey env.srtp.sendCreated
  match ← SrtpSession.make srtpCryptoSuite srtpRemoteKey env.srtp.recvCreated with
  | some recv =>
    return ([.dtlsStateChange .connected, .connected],
      { s with srtpSendSession := send, srtpRecvSession := some recv })
  | none => return ([], { s with srtpSendSession := none, srtpRecvSession := none })

/-- `OnDtlsTransportSendData(dtlsTransport, data, len)`. -/
def onDtlsTransportSendData (s : WebRtcTransport) (data : List Byte) :
    Except Fault (List WebRtcOutput × WebRtcTransport) :=
  if s.iceServer.selectedTuple = none then .ok ([], s)
  else do return ([.sendDtlsData (← s.getSelectedTuple) data], s)

/-- A call of the listener of the DTLS transport. -/
def onDtlsTransport (env : WebRtcSurroundings) (s : WebRtcTransport) :
    DtlsOutput → Except Fault (List WebRtcOutput × WebRtcTransport)
  | .connecting => .ok ([.dtlsStateChange .connecting], s)
  | .connected srtpCryptoSuite srtpLocalKey srtpRemoteKey _ =>
    s.onDtlsTransportConnected env srtpCryptoSuite srtpLocalKey srtpRemoteKey
  | .failed => .ok ([.dtlsStateChange .failed], s)
  | .closed => .ok ([.dtlsStateChange .closed, .disconnected], s)
  | .sendData data => s.onDtlsTransportSendData data
  | .applicationDataReceived data => .ok ([.receiveSctpData data], s)

/-- A call of the DTLS transport. -/
def callDtls (s : WebRtcTransport) (env : WebRtcSurroundings)
    (call : Except Fault (List DtlsOutput × DtlsTransport)) :
    Except Fault (List WebRtcOutput × WebRtcTransport) := do
  let (calls, dtlsTransport) ← call
  callListener (onDtlsTransport env) { s with dtlsTransport := dtlsTransport } calls

/-! ### The listener of the ICE server -/

/-- `MayRunDtlsTransport()`. -/
def mayRunDtlsTransport (s : WebRtcTransport) (env : WebRtcSurroundings) :
    Except Fault (List WebRtcOutput × WebRtcTransport) :=
  -- Do nothing if we have the same local DTLS role as the DTLS transport.
  if s.dtlsTransport.localRole = s.dtlsRole then .ok ([], s)
  else
    match s.dtlsRole with
    -- If still 'auto' then transition to 'server'.
    | .auto =>
      if s.iceEstablished then
        { s with dtlsRole := .server }.callDtls env (s.dtlsTransport.run env.ssl .server)
      else .ok ([], s)
    | .client =>
      if s.iceEstablished then s.callDtls env (s.dtlsTransport.run env.ssl .client)
      else .ok ([], s)
    | .server =>
      if s.iceEstablished then s.callDtls env (s.dtlsTransport.run env.ssl .server)
      else .ok ([], s)
    | .none => .error (.assertion "local DTLS role not set")

/-- `OnIceServerConnected(iceServer)` and `OnIceServerCompleted(iceServer)`. -/
def onIceServerEstablished (s : WebRtcTransport) (env : WebRtcSurroundings) (state : IceState) :
    Except Fault (List WebRtcOutput × WebRtcTransport) := do
  -- If ready, run the DTLS handler.
  let (outputs, s) ← s.mayRunDtlsTransport env
  -- If DTLS was already connected, notify the parent class.
  let told := if s.dtlsTransport.state = .connected then [.connected] else []
  return (.iceStateChange state :: outputs ++ told, s)

/-- A call of the listener of the ICE server. -/
def onIceServer (env : WebRtcSurroundings) (s : WebRtcTransport) :
    IceOutput → Except Fault (List WebRtcOutput × WebRtcTransport)
  | .sendStunPacket packet tuple => .ok ([.sendStunPacket packet tuple], s)
  | .selectedTuple _ => do return ([.iceSelectedTupleChange (← s.getSelectedTuple)], s)
  | .connected => s.onIceServerEstablished env .connected
  | .completed => s.onIceServerEstablished env .completed
  | .disconnected =>
    -- If DTLS was already connected, notify the parent class.
    let told := if s.dtlsTransport.state = .connected then [.disconnected] else []
    .ok (.iceStateChange .disconnected :: told, s)

/-- A call of the ICE server. -/
def callIce (s : WebRtcTransport) (env : WebRtcSurroundings)
    (call : Except Fault (List IceOutput × IceServer)) :
    Except Fault (List WebRtcOutput × WebRtcTransport) := do
  let (calls, iceServer) ← call
  callListener (onIceServer env) { s with iceServer := iceServer } calls

/-! ### Receiving -/

/-- `DtlsTransport::IsDtls(data, len)`. -/
def isDtls (data : List Byte) : Except Fault Bool :=
  -- Minimum DTLS record length is 13 bytes.
  if data.length < 13 then .ok false
  else do
    let b ← Byte.get1Byte data 0
    return decide (19 < b ∧ b < 64)

section

variable (getCrc32 : List Byte → BitVec 32) (getHmacSha1 : List Byte → List Byte → List Byte)

/-- `OnStunDataReceived(tuple, data, len)`. -/
def onStunDataReceived (s : WebRtcTransport) (env : WebRtcSurroundings) (tuple : TransportTuple)
    (data : List Byte) : Except Fault (List WebRtcOutput × WebRtcTransport) := do
  match ← StunPacket.parse getCrc32 data.length data with
  | .packet packet =>
    -- Pass it to the IceServer.
    s.callIce env (s.iceServer.processStunPacket getHmacSha1 env.allocator packet tuple)
  | .discarded | .unfinished => return ([], s)

/-- `OnDtlsDataReceived(tuple, data, len)`. -/
def onDtlsDataReceived (s : WebRtcTransport) (env : WebRtcSurroundings) (tuple : TransportTuple) :
    Except Fault (List WebRtcOutput × WebRtcTransport) := do
  -- Ensure it comes from a valid tuple.
  if !(← s.isValidTuple tuple) then return ([], s)
  else
    -- Trick for clients performing aggressive ICE regardless we are ICE-Lite.
    let (forced, s) ← s.callIce env (s.iceServer.forceSelectedTuple tuple)
    -- Check that DTLS status is 'connecting' or 'connected'.
    if s.dtlsTransport.state = .connecting ∨ s.dtlsTransport.state = .connected then
      let (processed, s) ← s.callDtls env (s.dtlsTransport.processDtlsData env.ssl)
      return (forced ++ processed, s)
    else return (forced, s)

/-- `OnRtpDataReceived(tuple, data, len)`. -/
def onRtpDataReceived (s : WebRtcTransport) (env : WebRtcSurroundings) (tuple : TransportTuple)
    (data : List Byte) : Except Fault (List WebRtcOutput × WebRtcTransport) :=
  -- Ensure DTLS is connected.
  if s.dtlsTransport.state ≠ .connected then .ok ([], s)
  -- Ensure there is receiving SRTP session.
  else if s.srtpRecvSession = none then .ok ([], s)
  else do
    -- Ensure it comes from a valid tuple.
    if !(← s.isValidTuple tuple) then return ([], s)
    else
      -- Decrypt the SRTP packet.
      match env.srtp.decrypt data with
      | none => return ([], s)
      | some data =>
        match ← RtpPacket.parse data data.length with
        | none => return ([], s)
        | some packet =>
          -- Trick for clients performing aggressive ICE regardless we are ICE-Lite.
          let (forced, s) ← s.callIce env (s.iceServer.forceSelectedTuple tuple)
          return (forced ++ [.receiveRtpPacket packet], s)

/-- `OnRtcpDataReceived(tuple, data, len)`. -/
def onRtcpDataReceived (s : WebRtcTransport) (env : WebRtcSurroundings) (tuple : TransportTuple)
    (data : List Byte) : Except Fault (List WebRtcOutput × WebRtcTransport) :=
  -- Ensure DTLS is connected.
  if s.dtlsTransport.state ≠ .connected then .ok ([], s)
  -- Ensure there is receiving SRTP session.
  else if s.srtpRecvSession = none then .ok ([], s)
  else do
    -- Ensure it comes from a valid tuple.
    if !(← s.isValidTuple tuple) then return ([], s)
    else
      -- Decrypt the SRTCP packet.
      match env.srtp.decrypt data with
      | none => return ([], s)
      | some data =>
        match ← ParsedPacket.parse data with
        | (_, none) => return ([], s)
        | (heap, some first) => return ([.receiveRtcpPacket heap first], s)

/-- `OnPacketReceived(tuple, data, len)`. -/
def onPacketReceived (s : WebRtcTransport) (env : WebRtcSurroundings) (tuple : TransportTuple)
    (data : List Byte) : Except Fault (List WebRtcOutput × WebRtcTransport) := do
  if ← StunPacket.isStun data then s.onStunDataReceived getCrc32 getHmacSha1 env tuple data
  else if ← Rtcp.Packet.isRtcp data then s.onRtcpDataReceived env tuple data
  else if ← RtpPacket.isRtp data data.length then s.onRtpDataReceived env tuple data
  else if ← isDtls data then s.onDtlsDataReceived env tuple
  else return ([], s)

/-! ### Sending -/

/-- `SendRtpPacket`, `SendRtcpPacket` and `SendRtcpCompoundPacket`. -/
def sendEncrypted (s : WebRtcTransport) (env : WebRtcSurroundings) (data : List Byte) :
    Except Fault (List WebRtcOutput × WebRtcTransport) :=
  if !s.isConnected then .ok ([], s)
  -- Ensure there is sending SRTP session.
  else if s.srtpSendSession = none then .ok ([], s)
  else
    match env.srtp.encrypt data with
    | none => .ok ([], s)
    | some data => do return ([.sendSrtpData (← s.getSelectedTuple) data], s)

/-- `SendSctpData(data, len)`. -/
def sendSctpData (s : WebRtcTransport) (env : WebRtcSurroundings) (data : List Byte) :
    Except Fault (List WebRtcOutput × WebRtcTransport) :=
  if !s.isConnected then .ok ([], s)
  else s.callDtls env (s.dtlsTransport.sendApplicationData env.ssl data)

/-! ### Requests -/

/-- The case `TRANSPORT_CONNECT` of `HandleRequest(request)`. -/
def connect (s : WebRtcTransport) (env : WebRtcSurroundings) (data : Json) :
    Except Fault (List WebRtcOutput × WebRtcTransport) :=
  -- Ensure this method is not called twice.
  if s.connectCalled then .ok ([.throws (.error "connect() already called")], s)
  else
    match dtlsParametersOfJson data with
    | .error thrown => .ok ([.throws thrown], s)
    | .ok (dtlsRemoteFingerprint, dtlsRemoteRole) =>
      match dtlsRemoteRole.localRole with
      | .error thrown => .ok ([.throws thrown], s)
      | .ok dtlsRole => do
        let s := { s with dtlsRole := dtlsRole, connectCalled := true }
        -- Pass the remote fingerprint to the DTLS transport.
        let (good, calls, dtlsTransport) ←
          s.dtlsTransport.setRemoteFingerprint env.ssl dtlsRemoteFingerprint
        let (checked, s) ← s.callDtls env (.ok (calls, dtlsTransport))
        -- If everything is fine, we may run the DTLS transport if ready.
        let (ran, s) ← if good then s.mayRunDtlsTransport env else .ok ([], s)
        -- Tell the caller about the selected local DTLS role.
        msAssert (decide (s.dtlsRole = .client) || decide (s.dtlsRole = .server))
          "invalid local DTLS role"
        return (checked ++ ran ++ [.acceptConnect s.dtlsRole], s)

/-- The case `TRANSPORT_RESTART_ICE` of `HandleRequest(request)`, with the random strings. -/
def restartIce (s : WebRtcTransport) (credentials : IceCredentials) :
    List WebRtcOutput × WebRtcTransport :=
  ([.acceptRestartIce credentials],
    { s with iceServer := (s.iceServer.setUsernameFragment
        credentials.usernameFragment).setPassword credentials.password })

/-! ### Runs -/

/-- One event. -/
def step (s : WebRtcTransport) : WebRtcEvent → Except Fault (List WebRtcOutput × WebRtcTransport)
  | .packetReceived tuple data env => s.onPacketReceived getCrc32 getHmacSha1 env tuple data
  | .tcpConnectionClosed tuple env => s.callIce env (.ok (s.iceServer.removeTuple tuple))
  | .dtlsTimer env => s.callDtls env (s.dtlsTransport.onTimer env.ssl)
  | .connect data env => s.connect env data
  | .restartIce credentials => .ok (s.restartIce credentials)
  | .sendRtpPacket data env => s.sendEncrypted env data
  | .sendRtcpPacket data env => s.sendEncrypted env data
  | .sendRtcpCompoundPacket data env => s.sendEncrypted env data
  | .sendSctpData data env => s.sendSctpData env data

/-- `WebRtcTransport(id, listener, data)`, with the random credentials. -/
def init (credentials : IceCredentials) : WebRtcTransport where
  iceServer := .init credentials.usernameFragment credentials.password

end

end WebRtcTransport

end MediasoupSfu
