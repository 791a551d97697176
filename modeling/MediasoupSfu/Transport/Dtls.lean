import Mathlib.Logic.Function.Iterate
import MediasoupSfu.Library.Memory
import MediasoupSfu.Utils.Byte

/-!
# The DTLS transport

A `DtlsTransport` gives the datagrams of the remote peer to OpenSSL, sends what OpenSSL puts out,
and follows the handshake. It is connected once the handshake is done and the certificate of the
peer has the fingerprint that was given via signaling, whichever comes last.

What OpenSSL says during a call of the transport is part of the call (`SslAnswers`); nothing is
assumed of it but what it promises (`SslAnswers.Kept`). A call does what one of the constructors of
`DtlsMove` says, and keeps `DtlsTransport.Invariant`.

The certificate of the worker, the context and the destructor are left out. `MS_ABORT` is a failed
assertion.
-/

namespace MediasoupSfu

open Memory

/-! ## What OpenSSL says -/

/-- `DtlsTransport::DtlsState`. -/
inductive DtlsState where
  | new
  | connecting
  | connected
  | failed
  | closed
  deriving DecidableEq, Repr

/-- `DtlsTransport::Role`. -/
inductive DtlsRole where
  | none
  | auto
  | client
  | server
  deriving DecidableEq, Repr

/-- `DtlsTransport::FingerprintAlgorithm`. -/
inductive FingerprintAlgorithm where
  | none
  | sha1
  | sha224
  | sha256
  | sha384
  | sha512
  deriving DecidableEq, Repr

/-- `DtlsTransport::Fingerprint`. -/
structure Fingerprint where
  algorithm : FingerprintAlgorithm := .none
  value : String := ""
  deriving DecidableEq, Repr

/-- `SrtpSession::CryptoSuite`, without `NONE`. -/
inductive CryptoSuite where
  | aesCm128HmacSha180
  | aesCm128HmacSha132
  | aeadAes256Gcm
  | aeadAes128Gcm
  deriving DecidableEq, Repr

/-- What `SSL_get_error` returns. -/
inductive SslError where
  | none
  | ssl
  | wantRead
  | wantWrite
  | wantX509Lookup
  | syscall
  | zeroReturn
  | wantConnect
  | wantAccept
  | unknown
  deriving DecidableEq, Repr

/-- A certificate, with the results of `X509_digest` and `PEM_write_bio_X509`. -/
structure Certificate where
  digest : FingerprintAlgorithm → Option (List Byte)
  pem : Option (List Byte)

/-- What OpenSSL says in the calls of one function of `DtlsTransport`, which calls none of its
functions twice. -/
structure SslAnswers where
  /-- The data in `sslBioToNetwork`. -/
  pending : List Byte := []
  /-- The info callback is told that a handshake is done. -/
  handshakeDone : Bool := false
  /-- The application data of `SSL_read`. -/
  read : List Byte := []
  /-- The result of `SSL_write`. -/
  written : ℤ := 0
  /-- The result of `SSL_get_error`. -/
  error : SslError := .wantRead
  /-- `SSL_RECEIVED_SHUTDOWN` is set. -/
  receivedShutdown : Bool := false
  /-- The seconds and microseconds of `DTLSv1_get_timeout`, unless it returns 0. -/
  timeout : Option (ℕ × ℕ) := none
  peerCertificate : Option Certificate := none
  /-- The name of the profile of `SSL_get_selected_srtp_profile`. -/
  srtpProfile : Option String := none
  /-- So many bytes of `SSL_export_keying_material`, unless it returns 0. -/
  keyingMaterial : ℕ → Option (List Byte) := fun _ ↦ none

/-- `onSslDtlsTimer(ssl, timerUs)`. -/
def onSslDtlsTimer (timerUs : ℕ) : ℕ :=
  if timerUs = 0 then 100000 else if 4000000 ≤ timerUs then 4000000 else 2 * timerUs

/-- `DtlsTransport::srtpCryptoSuites`. -/
def srtpCryptoSuites : List (String × CryptoSuite) :=
  [("SRTP_AEAD_AES_256_GCM", .aeadAes256Gcm), ("SRTP_AEAD_AES_128_GCM", .aeadAes128Gcm),
    ("SRTP_AES128_CM_SHA1_80", .aesCm128HmacSha180),
    ("SRTP_AES128_CM_SHA1_32", .aesCm128HmacSha132)]

/-- The lengths of the master key and of the master salt. -/
def CryptoSuite.masterLengths : CryptoSuite → ℕ × ℕ
  | .aesCm128HmacSha180 | .aesCm128HmacSha132 => (16, 14)
  | .aeadAes256Gcm => (32, 12)
  | .aeadAes128Gcm => (16, 12)

/-- What OpenSSL promises: it chooses one of the profiles that it was offered, exports as many bytes
as it is asked for, a digest is not empty, and the time that is left is at most what the timer
callback has last returned. -/
structure SslAnswers.Kept (a : SslAnswers) : Prop where
  srtpProfile : ∀ name, a.srtpProfile = some name → (srtpCryptoSuites.lookup name).isSome = true
  keyingMaterial : ∀ n, ∃ material, a.keyingMaterial n = some material ∧ material.length = n
  digest : ∀ certificate, a.peerCertificate = some certificate → ∀ algorithm,
    certificate.digest algorithm ≠ some []
  timeout : ∀ sec usec, a.timeout = some (sec, usec) →
    ∃ k, sec * 1000000 + usec ≤ onSslDtlsTimer^[k + 1] 0

theorem onSslDtlsTimer_le (timerUs : ℕ) : onSslDtlsTimer timerUs ≤ 8000000 := by
  unfold onSslDtlsTimer
  split
  · decide
  split
  · decide
  · omega

/-- The calls of the listener. -/
inductive DtlsOutput where
  | connecting
  | connected (srtpCryptoSuite : CryptoSuite) (srtpLocalKey srtpRemoteKey remoteCert : List Byte)
  | failed
  | closed
  | sendData (data : List Byte)
  | applicationDataReceived (data : List Byte)
  deriving DecidableEq, Repr

/-! ## The code -/

/-- The members of `DtlsTransport`. -/
structure DtlsTransport where
  state : DtlsState := .new
  localRole : DtlsRole := .none
  remoteFingerprint : Fingerprint := {}
  handshakeDone : Bool := false
  handshakeDoneNow : Bool := false
  remoteCert : List Byte := []
  /-- The time for which the timer was started, unless it is stopped. -/
  timer : Option ℕ := none
  deriving DecidableEq, Repr

/-- "%.2X" of a byte. -/
def hexByte (b : Byte) : List Char :=
  [(Nat.digitChar (b.toNat / 16)).toUpper, (Nat.digitChar (b.toNat % 16)).toUpper]

/-- `hexFingerprint`: each byte as "%.2X:", with the last colon overwritten. -/
def hexFingerprint (binaryFingerprint : List Byte) : Except Fault String :=
  if binaryFingerprint = [] then .error .outOfBounds
  else .ok (String.ofList (binaryFingerprint.flatMap fun b ↦ hexByte b ++ [':']).dropLast)

/-- `GetNegotiatedSrtpCryptoSuite()`. -/
def SslAnswers.getNegotiatedSrtpCryptoSuite (a : SslAnswers) :
    Except Fault (Option CryptoSuite) :=
  match a.srtpProfile with
  | none => .ok none
  | some name => do
    let negotiated := srtpCryptoSuites.lookup name
    msAssert negotiated.isSome "chosen SRTP crypto suite is not an available one"
    return negotiated

namespace DtlsTransport

/-- `IsRunning()`. -/
def isRunning (s : DtlsTransport) : Bool :=
  match s.state with
  | .new | .failed | .closed => false
  | .connecting | .connected => true

/-- `Reset()`. -/
def reset (s : DtlsTransport) : DtlsTransport :=
  if !s.isRunning then s
  else { s with
    timer := none
    localRole := .none
    state := .new
    handshakeDone := false
    handshakeDoneNow := false }

/-- Reset, set state and notify the listener. -/
def fail (s : DtlsTransport) : List DtlsOutput × DtlsTransport :=
  ([.failed], { s.reset with state := .failed })

/-- `OnSslInfo(where, ret)` in a call of OpenSSL. -/
def onSslInfo (s : DtlsTransport) (a : SslAnswers) : DtlsTransport :=
  if a.handshakeDone then { s with handshakeDoneNow := true } else s

/-- `SendPendingOutgoingDtlsData()`. -/
def sendPendingOutgoingDtlsData (a : SslAnswers) : List DtlsOutput :=
  if a.pending = [] then [] else [.sendData a.pending]

/-- `SetTimeout()`: the result, the calls of the listener and the members. -/
def setTimeout (s : DtlsTransport) (a : SslAnswers) :
    Except Fault (Bool × List DtlsOutput × DtlsTransport) := do
  msAssert (decide (s.state = .connecting) || decide (s.state = .connected)) "invalid DTLS state"
  match a.timeout with
  | none => return (true, [], s)
  | some (sec, usec) =>
    let timeoutMs := sec * 1000 + usec / 1000
    if timeoutMs = 0 then return (true, [], s)
    else if timeoutMs < 30000 then return (true, [], { s with timer := some timeoutMs })
    else return (false, s.fail)

/-- `CheckRemoteFingerprint()`. -/
def checkRemoteFingerprint (s : DtlsTransport) (a : SslAnswers) :
    Except Fault (Bool × DtlsTransport) := do
  msAssert (decide (s.remoteFingerprint.algorithm ≠ .none)) "remote fingerprint not set"
  match a.peerCertificate with
  | none => return (false, s)
  | some certificate =>
    match certificate.digest s.remoteFingerprint.algorithm with
    | none => return (false, s)
    | some binaryFingerprint =>
      let hex ← hexFingerprint binaryFingerprint
      if s.remoteFingerprint.value ≠ hex then return (false, s)
      else
        match certificate.pem with
        | none => return (false, s)
        | some pem => return (true, { s with remoteCert := pem })

/-- `ExtractSrtpKeys(srtpCryptoSuite)`. -/
def extractSrtpKeys (s : DtlsTransport) (a : SslAnswers) (srtpCryptoSuite : CryptoSuite) :
    Except Fault (List DtlsOutput × DtlsTransport) :=
  let keyLength := srtpCryptoSuite.masterLengths.1
  let saltLength := srtpCryptoSuite.masterLengths.2
  match a.keyingMaterial ((keyLength + saltLength) * 2) with
  | none => .error (.assertion "SSL_export_keying_material() failed")
  | some material =>
    let clientKey := slice material 0 keyLength ++ slice material (2 * keyLength) saltLength
    let serverKey := slice material keyLength keyLength ++
      slice material (2 * keyLength + saltLength) saltLength
    let t := { s with state := .connected }
    match s.localRole with
    | .server => .ok ([.connected srtpCryptoSuite serverKey clientKey s.remoteCert], t)
    | .client => .ok ([.connected srtpCryptoSuite clientKey serverKey s.remoteCert], t)
    | .none | .auto => .error (.assertion "no DTLS role set")

/-- `ProcessHandshake()`: the result, the calls of the listener and the members. -/
def processHandshake (s : DtlsTransport) (a : SslAnswers) :
    Except Fault (Bool × List DtlsOutput × DtlsTransport) := do
  msAssert s.handshakeDone "handshake not done yet"
  msAssert (decide (s.remoteFingerprint.algorithm ≠ .none)) "remote fingerprint not set"
  -- Validate the remote fingerprint.
  let (valid, s) ← s.checkRemoteFingerprint a
  if !valid then return (false, s.fail)
  else
    match ← a.getNegotiatedSrtpCryptoSuite with
    | some srtpCryptoSuite => return (true, ← s.extractSrtpKeys a srtpCryptoSuite)
    | none => return (false, s.fail)

/-- `CheckStatus(returnCode)`: the result, the calls of the listener and the members. -/
def checkStatus (s : DtlsTransport) (a : SslAnswers) :
    Except Fault (Bool × List DtlsOutput × DtlsTransport) :=
  -- Check if the handshake (or re-handshake) has been done right now.
  if s.handshakeDoneNow then
    let t := { s with handshakeDoneNow := false, handshakeDone := true, timer := none }
    -- Process the handshake just once (ignore if DTLS renegotiation).
    if !s.handshakeDone && decide (s.remoteFingerprint.algorithm ≠ .none) then t.processHandshake a
    else .ok (true, [], t)
  -- Check if the peer sent close alert or a fatal error happened.
  else if a.receivedShutdown || decide (a.error = .ssl) || decide (a.error = .syscall) then
    if s.state = .connected then .ok (false, [.closed], { s.reset with state := .closed })
    else .ok (false, s.fail)
  else .ok (true, [], s)

/-- `Run(localRole)`. -/
def run (s : DtlsTransport) (a : SslAnswers) (localRole : DtlsRole) :
    Except Fault (List DtlsOutput × DtlsTransport) := do
  msAssert (decide (localRole = .client) || decide (localRole = .server))
    "local DTLS role must be 'client' or 'server'"
  if localRole = s.localRole then return ([], s)
  else
    -- If the previous local DTLS role was 'client' or 'server' do reset.
    let s := if s.localRole = .client ∨ s.localRole = .server then s.reset else s
    let s := { s with localRole := localRole, state := .connecting }
    let s := s.onSslInfo a
    if localRole = .client then
      let (_, outputs, s) ← s.setTimeout a
      return (.connecting :: sendPendingOutgoingDtlsData a ++ outputs, s)
    else return ([.connecting], s)

/-- `SetRemoteFingerprint(fingerprint)`: the result, the calls of the listener and the members. -/
def setRemoteFingerprint (s : DtlsTransport) (a : SslAnswers) (fingerprint : Fingerprint) :
    Except Fault (Bool × List DtlsOutput × DtlsTransport) := do
  msAssert (decide (fingerprint.algorithm ≠ .none)) "no fingerprint algorithm provided"
  let s := { s with remoteFingerprint := fingerprint }
  -- The handshake may have been done already.
  if s.handshakeDone && decide (s.state ≠ .connected) then s.processHandshake a
  else return (true, [], s)

/-- `ProcessDtlsData(data, len)`. -/
def processDtlsData (s : DtlsTransport) (a : SslAnswers) :
    Except Fault (List DtlsOutput × DtlsTransport) :=
  if !s.isRunning then .ok ([], s)
  else do
    let s := s.onSslInfo a
    -- Send data if it's ready.
    let sent := sendPendingOutgoingDtlsData a
    -- Check SSL status and return if it is bad/closed.
    let (good, checked, s) ← s.checkStatus a
    if !good then return (sent ++ checked, s)
    else
      let (good, timed, s) ← s.setTimeout a
      if !good then return (sent ++ checked ++ timed, s)
      else if a.read ≠ [] ∧ s.handshakeDone = true then
        return (sent ++ checked ++ timed ++ [.applicationDataReceived a.read], s)
      else return (sent ++ checked ++ timed, s)

/-- `SendApplicationData(data, len)`. -/
def sendApplicationData (s : DtlsTransport) (a : SslAnswers) (data : List Byte) :
    Except Fault (List DtlsOutput × DtlsTransport) :=
  -- We cannot send data to the peer if its remote fingerprint is not validated.
  if s.state ≠ .connected then .ok ([], s)
  else if data = [] then .ok ([], s)
  else
    let s := s.onSslInfo a
    if a.written < 0 then do
      let (good, checked, s) ← s.checkStatus a
      if !good then return (checked, s)
      else return (checked ++ sendPendingOutgoingDtlsData a, s)
    else .ok (sendPendingOutgoingDtlsData a, s)

/-- `OnTimer(timer)`, if the timer was started. -/
def onTimer (s : DtlsTransport) (a : SslAnswers) :
    Except Fault (List DtlsOutput × DtlsTransport) :=
  if s.timer = none then .ok ([], s)
  else
    let s := { s with timer := none }
    if s.handshakeDone then .ok ([], s)
    else do
      let s := s.onSslInfo a
      let (_, timed, s) ← s.setTimeout a
      return (sendPendingOutgoingDtlsData a ++ timed, s)

/-! ## What a call does -/

variable {s t : DtlsTransport} {a : SslAnswers}

/-- **The invariant**, between two calls. -/
structure Invariant (s : DtlsTransport) : Prop where
  idle : s.isRunning = false → s.localRole = .none ∧ s.handshakeDone = false ∧ s.timer = none
  role : s.isRunning = true → s.localRole = .client ∨ s.localRole = .server
  connected : s.state = .connected →
    s.handshakeDone = true ∧ s.remoteFingerprint.algorithm ≠ .none

theorem isRunning_iff : s.isRunning = true ↔ s.state = .connecting ∨ s.state = .connected := by
  unfold isRunning
  cases s.state <;> simp

/-- The certificate of the peer has the fingerprint. -/
def Verifies (a : SslAnswers) (fingerprint : Fingerprint) : Prop :=
  ∃ certificate digest, a.peerCertificate = some certificate ∧
    certificate.digest fingerprint.algorithm = some digest ∧
    hexFingerprint digest = .ok fingerprint.value

/-- Data is sent or received, nothing else. -/
def Plain (outputs : List DtlsOutput) : Prop :=
  ∀ o ∈ outputs, (∃ data, o = .sendData data) ∨ ∃ data, o = .applicationDataReceived data

theorem plain_nil : Plain [] := fun _ h ↦ absurd h List.not_mem_nil

theorem Plain.append {l l' : List DtlsOutput} (h : Plain l) (h' : Plain l') : Plain (l ++ l') :=
  fun o ho ↦ (List.mem_append.mp ho).elim (h o) (h' o)

theorem plain_pending (a : SslAnswers) : Plain (sendPendingOutgoingDtlsData a) := by
  unfold sendPendingOutgoingDtlsData
  split
  · exact plain_nil
  · intro o ho
    exact Or.inl ⟨a.pending, List.mem_singleton.mp ho⟩

/-- **What a call can do**, other than `Run`: nothing but send and receive data, or one transition
of the state. -/
inductive DtlsMove (a : SslAnswers) (s : DtlsTransport) : List DtlsOutput → DtlsTransport → Prop
  | stay {outputs : List DtlsOutput} {t : DtlsTransport} (houtputs : Plain outputs)
      (hstate : t.state = s.state) (hrole : t.localRole = s.localRole)
      (hfingerprint : t.remoteFingerprint = s.remoteFingerprint) : DtlsMove a s outputs t
  | connect {before after : List DtlsOutput} {suite : CryptoSuite}
      {srtpLocalKey srtpRemoteKey remoteCert : List Byte} {t : DtlsTransport}
      (hbefore : Plain before) (hafter : Plain after) (hs : s.state = .connecting)
      (ht : t.state = .connected) (hrole : t.localRole = s.localRole)
      (hfingerprint : t.remoteFingerprint = s.remoteFingerprint)
      (hverifies : Verifies a s.remoteFingerprint)
      (hlocal : srtpLocalKey.length = suite.masterLengths.1 + suite.masterLengths.2)
      (hremote : srtpRemoteKey.length = suite.masterLengths.1 + suite.masterLengths.2) :
      DtlsMove a s (before ++ .connected suite srtpLocalKey srtpRemoteKey remoteCert :: after) t
  | fail {before : List DtlsOutput} {t : DtlsTransport} (hbefore : Plain before)
      (hs : s.state = .connecting) (ht : t.state = .failed)
      (hfingerprint : t.remoteFingerprint = s.remoteFingerprint) :
      DtlsMove a s (before ++ [.failed]) t
  | close {before : List DtlsOutput} {t : DtlsTransport} (hbefore : Plain before)
      (hs : s.state = .connected) (ht : t.state = .closed)
      (hfingerprint : t.remoteFingerprint = s.remoteFingerprint) :
      DtlsMove a s (before ++ [.closed]) t

/-- Only the state, the role and the fingerprint matter. -/
theorem DtlsMove.congr {s' : DtlsTransport} {outputs : List DtlsOutput} (h : DtlsMove a s outputs t)
    (hstate : s'.state = s.state) (hrole : s'.localRole = s.localRole)
    (hfingerprint : s'.remoteFingerprint = s.remoteFingerprint) : DtlsMove a s' outputs t := by
  cases h with
  | stay houtputs ht hrole' hfingerprint' =>
    exact .stay houtputs (ht.trans hstate.symm) (hrole'.trans hrole.symm)
      (hfingerprint'.trans hfingerprint.symm)
  | connect hbefore hafter hs ht hrole' hfingerprint' hverifies hlocal hremote =>
    exact .connect hbefore hafter (hstate.trans hs) ht (hrole'.trans hrole.symm)
      (hfingerprint'.trans hfingerprint.symm) (hfingerprint ▸ hverifies) hlocal hremote
  | fail hbefore hs ht hfingerprint' =>
    exact .fail hbefore (hstate.trans hs) ht (hfingerprint'.trans hfingerprint.symm)
  | close hbefore hs ht hfingerprint' =>
    exact .close hbefore (hstate.trans hs) ht (hfingerprint'.trans hfingerprint.symm)

/-- Data may be sent first. -/
theorem DtlsMove.after_plain {sent outputs : List DtlsOutput} (h : DtlsMove a s outputs t)
    (hsent : Plain sent) : DtlsMove a s (sent ++ outputs) t := by
  cases h with
  | stay houtputs ht hrole hfingerprint =>
    exact .stay (hsent.append houtputs) ht hrole hfingerprint
  | connect hbefore hafter hs ht hrole hfingerprint hverifies hlocal hremote =>
    rw [← List.append_assoc]
    exact .connect (hsent.append hbefore) hafter hs ht hrole hfingerprint hverifies hlocal hremote
  | fail hbefore hs ht hfingerprint =>
    rw [← List.append_assoc]
    exact .fail (hsent.append hbefore) hs ht hfingerprint
  | close hbefore hs ht hfingerprint =>
    rw [← List.append_assoc]
    exact .close (hsent.append hbefore) hs ht hfingerprint

/-- Data may be sent or received afterwards, unless the connection has ended. -/
theorem DtlsMove.before_plain {outputs more : List DtlsOutput} (h : DtlsMove a s outputs t)
    (hrunning : t.isRunning = true) (timer : Option ℕ) (hmore : Plain more) :
    DtlsMove a s (outputs ++ more) { t with timer := timer } := by
  cases h with
  | stay houtputs ht hrole hfingerprint =>
    exact .stay (houtputs.append hmore) ht hrole hfingerprint
  | connect hbefore hafter hs ht hrole hfingerprint hverifies hlocal hremote =>
    rw [List.append_assoc, List.cons_append]
    exact .connect hbefore (hafter.append hmore) hs ht hrole hfingerprint hverifies hlocal hremote
  | fail _ _ ht _ =>
    rw [isRunning, ht] at hrunning
    cases hrunning
  | close _ _ ht _ =>
    rw [isRunning, ht] at hrunning
    cases hrunning

/-! ## One lemma for each function -/

theorem ok_bind {α β : Type} (a : α) (f : α → Except Fault β) : (.ok a >>= f) = f a := rfl

theorem reset_eq (hrunning : s.isRunning = true) : s.reset =
    { s with timer := none, localRole := .none, state := .new, handshakeDone := false,
             handshakeDoneNow := false } := by
  rw [reset, hrunning]
  rfl

/-- The connection has ended. -/
theorem invariant_ended (hrunning : s.isRunning = true) {state : DtlsState}
    (hstate : state = .failed ∨ state = .closed) : Invariant { s.reset with state := state } := by
  rw [reset_eq hrunning]
  refine ⟨fun _ ↦ ⟨rfl, rfl, rfl⟩, fun h ↦ ?_, fun h ↦ ?_⟩
  · rcases hstate with rfl | rfl <;> cases h
  · dsimp only at h
    rcases hstate with rfl | rfl <;> cases h

theorem remoteFingerprint_reset (s : DtlsTransport) :
    s.reset.remoteFingerprint = s.remoteFingerprint := by
  unfold reset
  split
  · rfl
  · rfl

theorem move_fail (hs : s.state = .connecting) : DtlsMove a s s.fail.1 s.fail.2 :=
  .fail plain_nil hs rfl (remoteFingerprint_reset s)

theorem Invariant.onSslInfo (h : Invariant s) (a : SslAnswers) : Invariant (s.onSslInfo a) := by
  unfold DtlsTransport.onSslInfo
  split
  · exact ⟨h.idle, h.role, h.connected⟩
  · exact h

theorem Invariant.setTimer (h : Invariant s) (timer : Option ℕ)
    (htimer : s.isRunning = true ∨ timer = none) : Invariant { s with timer := timer } := by
  refine ⟨fun hidle ↦ ⟨(h.idle hidle).1, (h.idle hidle).2.1, ?_⟩, h.role, h.connected⟩
  rcases htimer with hrunning | hnone
  · exact absurd (hidle.symm.trans hrunning) nofun
  · exact hnone

/-- **`SetTimeout`** at most starts the timer. -/
theorem setTimeout_spec (ha : a.Kept) (hrunning : s.isRunning = true) :
    ∃ timer, s.setTimeout a = .ok (true, [], { s with timer := timer }) := by
  have hassert : (decide (s.state = .connecting) || decide (s.state = .connected)) = true := by
    rcases isRunning_iff.mp hrunning with hstate | hstate <;> rw [hstate] <;> rfl
  unfold setTimeout
  rw [hassert]
  cases htimeout : a.timeout with
  | none => exact ⟨s.timer, rfl⟩
  | some left =>
    obtain ⟨sec, usec⟩ := left
    obtain ⟨k, hle⟩ := ha.timeout sec usec htimeout
    rw [Function.iterate_succ_apply'] at hle
    have hlow : sec * 1000 + usec / 1000 < 30000 := by
      have := onSslDtlsTimer_le (onSslDtlsTimer^[k] 0)
      omega
    by_cases hzero : sec * 1000 + usec / 1000 = 0
    · exact ⟨s.timer, if_pos hzero⟩
    · exact ⟨some (sec * 1000 + usec / 1000), (if_neg hzero).trans (if_pos hlow)⟩

/-- **`CheckRemoteFingerprint`** accepts a certificate only if it has the fingerprint. -/
theorem checkRemoteFingerprint_spec (ha : a.Kept)
    (hfingerprint : s.remoteFingerprint.algorithm ≠ .none) :
    s.checkRemoteFingerprint a = .ok (false, s) ∨
      ∃ pem, s.checkRemoteFingerprint a = .ok (true, { s with remoteCert := pem }) ∧
        Verifies a s.remoteFingerprint := by
  unfold checkRemoteFingerprint
  rw [decide_eq_true hfingerprint, msAssert_true, ok_bind]
  cases hcertificate : a.peerCertificate with
  | none => exact Or.inl rfl
  | some certificate =>
    dsimp only
    cases hdigest : certificate.digest s.remoteFingerprint.algorithm with
    | none => exact Or.inl rfl
    | some digest =>
      have hne : digest ≠ [] := by
        rintro rfl
        exact ha.digest certificate hcertificate _ hdigest
      obtain ⟨hex, hhex⟩ : ∃ hex, hexFingerprint digest = .ok hex := ⟨_, if_neg hne⟩
      dsimp only
      rw [hhex, ok_bind]
      by_cases hvalue : s.remoteFingerprint.value = hex
      · rw [if_neg (not_not.mpr hvalue)]
        cases certificate.pem with
        | none => exact Or.inl rfl
        | some pem =>
          exact Or.inr ⟨pem, rfl, certificate, digest, hcertificate, hdigest, hvalue ▸ hhex⟩
      · rw [if_pos hvalue]
        exact Or.inl rfl

/-- Either there is no profile, or it is one that was offered. -/
theorem getNegotiatedSrtpCryptoSuite_spec (ha : a.Kept) :
    ∃ suite, a.getNegotiatedSrtpCryptoSuite = .ok suite := by
  unfold SslAnswers.getNegotiatedSrtpCryptoSuite
  cases hprofile : a.srtpProfile with
  | none => exact ⟨none, rfl⟩
  | some name =>
    dsimp only
    rw [ha.srtpProfile name hprofile]
    exact ⟨_, rfl⟩

theorem length_masterKey {suite : CryptoSuite} {material : List Byte} {i j : ℕ}
    (hlength : material.length = (suite.masterLengths.1 + suite.masterLengths.2) * 2)
    (hi : i ≤ suite.masterLengths.1)
    (hj : j ≤ 2 * suite.masterLengths.1 + suite.masterLengths.2) :
    (slice material i suite.masterLengths.1 ++ slice material j suite.masterLengths.2).length =
      suite.masterLengths.1 + suite.masterLengths.2 := by
  rw [List.length_append, length_slice (by omega), length_slice (by omega)]

/-- **`ExtractSrtpKeys`** connects, with keys of the length for the crypto suite. -/
theorem extractSrtpKeys_spec (ha : a.Kept) (hs : s.state = .connecting)
    (hrole : s.localRole = .client ∨ s.localRole = .server)
    (hverifies : Verifies a s.remoteFingerprint) (suite : CryptoSuite) :
    ∃ outputs, s.extractSrtpKeys a suite = .ok (outputs, { s with state := .connected }) ∧
      DtlsMove a s outputs { s with state := .connected } := by
  obtain ⟨material, hmaterial, hlength⟩ :=
    ha.keyingMaterial ((suite.masterLengths.1 + suite.masterLengths.2) * 2)
  have hclient := length_masterKey hlength (i := 0) (j := 2 * suite.masterLengths.1)
    (Nat.zero_le _) (by omega)
  have hserver := length_masterKey hlength (i := suite.masterLengths.1)
    (j := 2 * suite.masterLengths.1 + suite.masterLengths.2) (Nat.le_refl _) (Nat.le_refl _)
  unfold extractSrtpKeys
  dsimp only
  rw [hmaterial]
  rcases hrole with hrole | hrole
  · rw [hrole]
    exact ⟨_, rfl,
      .connect plain_nil plain_nil hs rfl hrole.symm rfl hverifies hclient hserver⟩
  · rw [hrole]
    exact ⟨_, rfl,
      .connect plain_nil plain_nil hs rfl hrole.symm rfl hverifies hserver hclient⟩

/-- **`ProcessHandshake`** connects or fails. -/
theorem processHandshake_spec (ha : a.Kept) (h : Invariant s) (hs : s.state = .connecting)
    (hdone : s.handshakeDone = true) (hfingerprint : s.remoteFingerprint.algorithm ≠ .none) :
    ∃ good outputs t, s.processHandshake a = .ok (good, outputs, t) ∧ Invariant t ∧
      DtlsMove a s outputs t ∧ (good = true → t.isRunning = true) := by
  have hrunning : s.isRunning = true := isRunning_iff.mpr (Or.inl hs)
  have hfail : ∀ pem, ∃ good outputs t,
      (.ok (false, { s with remoteCert := pem }.fail) :
        Except Fault (Bool × List DtlsOutput × DtlsTransport)) = .ok (good, outputs, t) ∧
      Invariant t ∧ DtlsMove a s outputs t ∧ (good = true → t.isRunning = true) := by
    intro pem
    have hpem : { s with remoteCert := pem }.isRunning = true := hrunning
    exact ⟨false, _, _, rfl, invariant_ended hpem (Or.inl rfl),
      (move_fail (s := { s with remoteCert := pem }) hs).congr rfl rfl rfl, nofun⟩
  unfold processHandshake
  rw [hdone, decide_eq_true hfingerprint, msAssert_true, ok_bind, msAssert_true, ok_bind]
  rcases checkRemoteFingerprint_spec ha hfingerprint with hcheck | ⟨pem, hcheck, hverifies⟩
  · rw [hcheck]
    exact hfail s.remoteCert
  · rw [hcheck]
    obtain ⟨negotiated, hnegotiated⟩ := getNegotiatedSrtpCryptoSuite_spec ha
    change ∃ good outputs t, (a.getNegotiatedSrtpCryptoSuite >>= fun _ ↦ _) = _ ∧ _
    rw [hnegotiated, ok_bind]
    cases negotiated with
    | none => exact hfail pem
    | some suite =>
      obtain ⟨outputs, hextract, hmove⟩ := extractSrtpKeys_spec ha
        (s := { s with remoteCert := pem }) hs (h.role hrunning) hverifies suite
      dsimp only
      rw [hextract, ok_bind]
      exact ⟨true, outputs, _, rfl, ⟨nofun, fun _ ↦ h.role hrunning, fun _ ↦ ⟨hdone, hfingerprint⟩⟩,
        hmove.congr rfl rfl rfl, fun _ ↦ rfl⟩

/-- **`CheckStatus`** while running. -/
theorem checkStatus_spec (ha : a.Kept) (h : Invariant s) (hrunning : s.isRunning = true) :
    ∃ good outputs t, s.checkStatus a = .ok (good, outputs, t) ∧ Invariant t ∧
      DtlsMove a s outputs t ∧ (good = true → t.isRunning = true) := by
  unfold checkStatus
  split
  · have ht : Invariant { s with
        handshakeDoneNow := false, handshakeDone := true, timer := none } :=
      ⟨fun hidle ↦ absurd (hidle.symm.trans hrunning) nofun, h.role,
        fun hconnected ↦ ⟨rfl, (h.connected hconnected).2⟩⟩
    split
    · rename_i hfirst
      rw [Bool.and_eq_true, Bool.not_eq_true', decide_eq_true_iff] at hfirst
      have hs : s.state = .connecting := by
        refine (isRunning_iff.mp hrunning).resolve_right fun hconnected ↦ ?_
        rw [(h.connected hconnected).1] at hfirst
        exact absurd hfirst.1 nofun
      obtain ⟨good, outputs, u, hprocess, hu, hmove, hgood⟩ := processHandshake_spec ha ht hs rfl
        hfirst.2
      exact ⟨good, outputs, u, hprocess, hu, hmove.congr rfl rfl rfl, hgood⟩
    · exact ⟨true, [], _, rfl, ht, .stay plain_nil rfl rfl rfl, fun _ ↦ hrunning⟩
  split
  · split
    · rename_i hconnected
      exact ⟨false, _, _, rfl, invariant_ended hrunning (Or.inr rfl),
        .close plain_nil hconnected rfl (remoteFingerprint_reset s), nofun⟩
    · rename_i hnot
      exact ⟨false, _, _, rfl, invariant_ended hrunning (Or.inl rfl),
        move_fail ((isRunning_iff.mp hrunning).resolve_right hnot), nofun⟩
  · exact ⟨true, [], s, rfl, h, .stay plain_nil rfl rfl rfl, fun _ ↦ hrunning⟩

/-- A call that keeps the invariant and makes a move. -/
def Does (a : SslAnswers) (s : DtlsTransport)
    (result : Except Fault (List DtlsOutput × DtlsTransport)) : Prop :=
  ∃ outputs t, result = .ok (outputs, t) ∧ Invariant t ∧ DtlsMove a s outputs t

theorem Invariant.does_nothing (h : Invariant s) (a : SslAnswers) : Does a s (.ok ([], s)) :=
  ⟨[], s, rfl, h, .stay plain_nil rfl rfl rfl⟩

theorem onSslInfo_same (s : DtlsTransport) (a : SslAnswers) : (s.onSslInfo a).state = s.state ∧
    (s.onSslInfo a).localRole = s.localRole ∧
    (s.onSslInfo a).remoteFingerprint = s.remoteFingerprint := by
  unfold onSslInfo
  split
  · exact ⟨rfl, rfl, rfl⟩
  · exact ⟨rfl, rfl, rfl⟩

theorem isRunning_onSslInfo (s : DtlsTransport) (a : SslAnswers) :
    (s.onSslInfo a).isRunning = s.isRunning := by
  rw [isRunning, (onSslInfo_same s a).1]
  rfl

theorem DtlsMove.of_onSslInfo {outputs : List DtlsOutput}
    (h : DtlsMove a (s.onSslInfo a) outputs t) : DtlsMove a s outputs t :=
  h.congr (onSslInfo_same s a).1.symm (onSslInfo_same s a).2.1.symm (onSslInfo_same s a).2.2.symm

/-- **`ProcessDtlsData`**. -/
theorem processDtlsData_spec (ha : a.Kept) (h : Invariant s) : Does a s (s.processDtlsData a) := by
  unfold processDtlsData
  split
  · exact h.does_nothing a
  · rename_i hnot
    have hrunning : s.isRunning = true := by simpa using hnot
    obtain ⟨good, checked, t, hcheck, ht, hmove, hgood⟩ := checkStatus_spec ha (h.onSslInfo a)
      ((isRunning_onSslInfo s a).trans hrunning)
    have hsent := hmove.of_onSslInfo.after_plain (plain_pending a)
    dsimp only
    rw [hcheck, ok_bind]
    cases good with
    | false => exact ⟨_, t, rfl, ht, hsent⟩
    | true =>
      obtain ⟨timer, htimer⟩ := setTimeout_spec ha (hgood rfl)
      rw [Bool.not_true, if_neg Bool.false_ne_true, htimer, ok_bind]
      have hinvariant := ht.setTimer timer (Or.inl (hgood rfl))
      have hquiet := hsent.before_plain (hgood rfl) timer plain_nil
      rw [Bool.not_true, if_neg Bool.false_ne_true]
      split
      · refine ⟨_, _, rfl, hinvariant, ?_⟩
        rw [List.append_nil]
        exact hsent.before_plain (hgood rfl) timer fun o ho ↦
          Or.inr ⟨a.read, List.mem_singleton.mp ho⟩
      · exact ⟨_, _, rfl, hinvariant, hquiet⟩

/-- **`SendApplicationData`**. -/
theorem sendApplicationData_spec (ha : a.Kept) (h : Invariant s) (data : List Byte) :
    Does a s (s.sendApplicationData a data) := by
  unfold sendApplicationData
  split
  · exact h.does_nothing a
  split
  · exact h.does_nothing a
  · rename_i hconnected _
    have hrunning : (s.onSslInfo a).isRunning = true :=
      (isRunning_onSslInfo s a).trans (isRunning_iff.mpr (Or.inr (not_not.mp hconnected)))
    dsimp only
    split
    · obtain ⟨good, checked, t, hcheck, ht, hmove, hgood⟩ := checkStatus_spec ha (h.onSslInfo a)
        hrunning
      rw [hcheck, ok_bind]
      cases good with
      | false => exact ⟨checked, t, rfl, ht, hmove.of_onSslInfo⟩
      | true =>
        exact ⟨_, t, rfl, ht,
          hmove.of_onSslInfo.before_plain (hgood rfl) t.timer (plain_pending a)⟩
    · refine ⟨_, _, rfl, h.onSslInfo a, .stay (plain_pending a) ?_ ?_ ?_⟩
      · exact (onSslInfo_same s a).1
      · exact (onSslInfo_same s a).2.1
      · exact (onSslInfo_same s a).2.2

/-- **`OnTimer`** leaves the state alone. -/
theorem onTimer_spec (ha : a.Kept) (h : Invariant s) :
    ∃ outputs t, s.onTimer a = .ok (outputs, t) ∧ Invariant t ∧ DtlsMove a s outputs t ∧
      t.state = s.state := by
  unfold onTimer
  split
  · exact ⟨[], s, rfl, h, .stay plain_nil rfl rfl rfl, rfl⟩
  · rename_i hstarted
    have hrunning : s.isRunning = true := by
      by_contra hidle
      exact hstarted (h.idle (by simpa using hidle)).2.2
    have ht : Invariant { s with timer := none } := h.setTimer none (Or.inr rfl)
    have hinfo : ({ s with timer := none }.onSslInfo a).isRunning = true :=
      (isRunning_onSslInfo { s with timer := none } a).trans hrunning
    dsimp only
    split
    · exact ⟨[], _, rfl, ht, .stay plain_nil rfl rfl rfl, rfl⟩
    · obtain ⟨timer, htimer⟩ := setTimeout_spec ha hinfo
      obtain ⟨hstate, hrole, hfingerprint⟩ := onSslInfo_same { s with timer := none } a
      rw [htimer, ok_bind]
      exact ⟨_, _, rfl, (ht.onSslInfo a).setTimer timer (Or.inl hinfo),
        .stay ((plain_pending a).append plain_nil) hstate hrole hfingerprint, hstate⟩

/-- **`SetRemoteFingerprint`** moves on if the handshake was done before. -/
theorem setRemoteFingerprint_spec (ha : a.Kept) (h : Invariant s) {fingerprint : Fingerprint}
    (hfingerprint : fingerprint.algorithm ≠ .none) :
    ∃ good outputs t, s.setRemoteFingerprint a fingerprint = .ok (good, outputs, t) ∧ Invariant t ∧
      DtlsMove a { s with remoteFingerprint := fingerprint } outputs t := by
  have ht : Invariant { s with remoteFingerprint := fingerprint } :=
    ⟨h.idle, h.role, fun hconnected ↦ ⟨(h.connected hconnected).1, hfingerprint⟩⟩
  unfold setRemoteFingerprint
  rw [decide_eq_true hfingerprint, msAssert_true, ok_bind]
  dsimp only
  split
  · rename_i hdone
    rw [Bool.and_eq_true, decide_eq_true_iff] at hdone
    have hrunning : s.isRunning = true := by
      by_contra hidle
      rw [(h.idle (by simpa using hidle)).2.1] at hdone
      exact absurd hdone.1 nofun
    obtain ⟨good, outputs, u, hprocess, hu, hmove, -⟩ := processHandshake_spec ha ht
      ((isRunning_iff.mp hrunning).resolve_right hdone.2) hdone.1 hfingerprint
    exact ⟨good, outputs, u, hprocess, hu, hmove⟩
  · exact ⟨true, [], _, rfl, ht, .stay plain_nil rfl rfl rfl⟩

/-- Before the handshake the fingerprint is only kept. -/
theorem setRemoteFingerprint_before (a : SslAnswers) (hdone : s.handshakeDone = false)
    {fingerprint : Fingerprint} (hfingerprint : fingerprint.algorithm ≠ .none) :
    s.setRemoteFingerprint a fingerprint =
      .ok (true, [], { s with remoteFingerprint := fingerprint }) := by
  unfold setRemoteFingerprint
  rw [decide_eq_true hfingerprint, msAssert_true, ok_bind]
  dsimp only
  rw [hdone, Bool.false_and, if_neg Bool.false_ne_true]
  rfl

/-- **`Run`** does nothing in the role that it has, and otherwise begins a handshake. -/
theorem run_spec (ha : a.Kept) (s : DtlsTransport) {localRole : DtlsRole}
    (hrole : localRole = .client ∨ localRole = .server) :
    (localRole = s.localRole ∧ s.run a localRole = .ok ([], s)) ∨
      (localRole ≠ s.localRole ∧ ∃ outputs t,
        s.run a localRole = .ok (.connecting :: outputs, t) ∧ Plain outputs ∧ Invariant t ∧
          t.state = .connecting ∧ t.localRole = localRole ∧
          t.remoteFingerprint = s.remoteFingerprint) := by
  have hassert : (decide (localRole = .client) || decide (localRole = .server)) = true := by
    rcases hrole with rfl | rfl <;> rfl
  unfold run
  rw [hassert, msAssert_true, ok_bind]
  by_cases hsame : localRole = s.localRole
  · exact Or.inl ⟨hsame, if_pos hsame⟩
  · rw [if_neg hsame]
    refine Or.inr ⟨hsame, ?_⟩
    obtain ⟨u, hu, hfingerprint⟩ : ∃ u, (if s.localRole = .client ∨ s.localRole = .server then
        s.reset else s) = u ∧ u.remoteFingerprint = s.remoteFingerprint := by
      refine ⟨_, rfl, ?_⟩
      split
      · exact remoteFingerprint_reset s
      · rfl
    rw [hu]
    have hinvariant : Invariant { u with localRole := localRole, state := .connecting } :=
      ⟨nofun, fun _ ↦ hrole, nofun⟩
    obtain ⟨hstate', hrole', hfingerprint'⟩ :=
      onSslInfo_same { u with localRole := localRole, state := .connecting } a
    have hinfo := hinvariant.onSslInfo a
    dsimp only
    split
    · obtain ⟨timer, htimer⟩ := setTimeout_spec ha (isRunning_iff.mpr (Or.inl hstate'))
      rw [htimer, ok_bind]
      exact ⟨_, _, rfl, (plain_pending a).append plain_nil,
        hinfo.setTimer timer (Or.inl (isRunning_iff.mpr (Or.inl hstate'))), hstate', hrole',
        hfingerprint'.trans hfingerprint⟩
    · exact ⟨[], _, rfl, plain_nil, hinfo, hstate', hrole', hfingerprint'.trans hfingerprint⟩

theorem invariant_init : Invariant {} where
  idle _ := ⟨rfl, rfl, rfl⟩
  role := nofun
  connected := nofun

end DtlsTransport

end MediasoupSfu
