import MediasoupSfu.Transport.WebRtcSteps

/-!
# Runs of the WebRTC transport

Two things are promised to the parent class of a `WebRtcTransport`: it is told when the transport
is connected and when it is not any more (`tells_parent`), and what it sends and receives goes to
and comes from the peer that was signaled, at an address that this peer has proved to be its own
(`secure_outputs`).

The first does not quite hold. A "connect" request that comes after the handshake may give the
transport another role, and then DTLS begins again, of which the parent is not told; and it is told
of a handshake that the request completes even if ICE is disconnected by then. So it is assumed
that the requests are `Orderly`.
-/

namespace MediasoupSfu

namespace WebRtcTransport

open DtlsTransport (Verifies)

variable {env : WebRtcSurroundings}

/-! ## Runs -/

theorem invariant_init (credentials : IceCredentials) : Invariant (init credentials) :=
  ⟨IceServer.invariant_init _ _, DtlsTransport.invariant_init, nofun, fun h ↦ absurd rfl h⟩

theorem roleKept_init (credentials : IceCredentials) : RoleKept (init credentials) :=
  ⟨nofun, nofun⟩

/-- A step of a run. -/
abbrev WebRtcRecord := Run.Record WebRtcTransport WebRtcEvent (List WebRtcOutput)

/-- What the parent was told last, that it is connected or that it is not. -/
def lastTold (history : List WebRtcRecord) : Bool :=
  (told (history.flatMap Run.Record.output)).getLastD false

theorem lastTold_append (history : List WebRtcRecord) (r : WebRtcRecord) :
    lastTold (history ++ [r]) = (told r.output).getLastD (lastTold history) := by
  have hsplit : told ((history ++ [r]).flatMap Run.Record.output) =
      told (history.flatMap Run.Record.output) ++ told r.output := by
    rw [List.flatMap_append, List.flatMap_singleton, told_append]
  rw [lastTold, hsplit, lastTold]
  simp only [List.getLastD_eq_getLast?, List.getLast?_append]
  cases (told r.output).getLast? with
  | none => rfl
  | some last => rfl

/-- A request with valid credentials came from the tuple, and it has not been closed since. -/
def Proved (getCrc32 : List Byte → BitVec 32) (getHmacSha1 : List Byte → List Byte → List Byte)
    (history : List WebRtcRecord) (tuple : TransportTuple) : Prop :=
  Run.Since (fun _ (q : WebRtcRecord) ↦ Admitted getCrc32 getHmacSha1 tuple q.before q.event)
    (fun q ↦ ¬q.event.Closes tuple) history

/-- The certificate of the peer had the fingerprint that was signaled, and DTLS has been connected
since. -/
def Verified (history : List WebRtcRecord) : Prop :=
  Run.Since (fun earlier (q : WebRtcRecord) ↦ ∃ env fingerprint, q.event.env = some env ∧
      Verifies env.ssl fingerprint ∧ ∃ x ∈ earlier ++ [q], Signals fingerprint x.before x.event)
    (fun q ↦ q.after.dtlsTransport.state = .connected) history

/-- Data goes to a peer that has proved its address, and media only to and from one that is
verified, too. -/
def Secure (getCrc32 : List Byte → BitVec 32) (getHmacSha1 : List Byte → List Byte → List Byte)
    (pre : List WebRtcRecord) (r : WebRtcRecord) : WebRtcOutput → Prop
  | .sendDtlsData tuple _ => Proved getCrc32 getHmacSha1 (pre ++ [r]) tuple
  | .sendSrtpData tuple _ => Verified pre ∧ Proved getCrc32 getHmacSha1 pre tuple
  | .receiveRtpPacket _ | .receiveRtcpPacket _ _ => Verified pre ∧
    ∃ tuple data env stored, r.event = .packetReceived tuple data env ∧
      Proved getCrc32 getHmacSha1 pre stored ∧ stored.compare tuple = true
  | _ => True

/-- **No media for strangers.** Whatever comes in whatever order, DTLS data is sent only to where a
STUN request with valid credentials came from; RTP and RTCP is sent only to there and received only
from there, and only while DTLS is connected with a peer whose certificate has the fingerprint of
the "connect" request. -/
theorem secure_outputs (getCrc32 : List Byte → BitVec 32)
    (getHmacSha1 : List Byte → List Byte → List Byte) (credentials : IceCredentials)
    (events : List WebRtcEvent) (hfair : ∀ e ∈ events, e.Fair) :
    ∃ records, Run.trace (step getCrc32 getHmacSha1) (init credentials) events = .ok records ∧
      ∀ pre r post, records = pre ++ r :: post →
        ∀ o ∈ r.output, Secure getCrc32 getHmacSha1 pre r o := by
  let Inv (history : List WebRtcRecord) (s : WebRtcTransport) : Prop :=
    s.Invariant ∧ (∀ tuple, s.Stores tuple → Proved getCrc32 getHmacSha1 history tuple) ∧
      (s.dtlsTransport.remoteFingerprint.algorithm ≠ .none →
        ∃ x ∈ history, Signals s.dtlsTransport.remoteFingerprint x.before x.event) ∧
      (s.dtlsTransport.state = .connected → Verified history) ∧
      ∀ pre r, history = pre ++ [r] → ∀ o ∈ r.output, Secure getCrc32 getHmacSha1 pre r o
  have hstep : ∀ (history : List WebRtcRecord) (s : WebRtcTransport) (e : WebRtcEvent),
      Inv history s → e.Fair → ∃ outputs t, s.step getCrc32 getHmacSha1 e = .ok (outputs, t) ∧
        Inv (history ++ [⟨s, e, outputs, t⟩]) t := by
    rintro history s e ⟨hs, hproved, hsignaled, hverified, -⟩ he
    obtain ⟨outputs, t, hok, ht⟩ := step_steps getCrc32 getHmacSha1 hs he
    have hproved' : ∀ tuple, t.Stores tuple →
        Proved getCrc32 getHmacSha1 (history ++ [⟨s, e, outputs, t⟩]) tuple := by
      intro tuple hstores
      rcases ht.tuples tuple hstores with ⟨hold, hopen⟩ | hadmitted
      · exact (hproved tuple hold).later hopen
      · exact Run.Since.now hadmitted
    have hsignaled' : t.dtlsTransport.remoteFingerprint.algorithm ≠ .none →
        ∃ x ∈ history ++ [(⟨s, e, outputs, t⟩ : WebRtcRecord)],
          Signals t.dtlsTransport.remoteFingerprint x.before x.event := by
      intro hsome
      rcases ht.fingerprint with hsame | hnow
      · rw [hsame] at hsome ⊢
        obtain ⟨x, hx, hsignals⟩ := hsignaled hsome
        exact ⟨x, List.mem_append_left _ hx, hsignals⟩
      · exact ⟨_, List.mem_append_right _ List.mem_cons_self, hnow⟩
    refine ⟨outputs, t, hok, ht.invariant, hproved', hsignaled', fun hstate ↦ ?_, ?_⟩
    · rcases ht.dtls hstate with hold | ⟨env, henv, hverifies⟩
      · exact (hverified hold).later hstate
      · exact Run.Since.now
          ⟨env, _, henv, hverifies, hsignaled' (ht.invariant.dtls.connected hstate).2⟩
    · intro pre r hsplit o ho
      obtain ⟨rfl, hr⟩ := List.append_inj' hsplit rfl
      obtain rfl := (List.cons.inj hr).1
      have hallows := ht.allows o ho
      cases o with
      | sendDtlsData tuple data => exact hproved' tuple hallows
      | sendSrtpData tuple data => exact ⟨hverified hallows.1, hproved tuple hallows.2⟩
      | receiveRtpPacket packet =>
        obtain ⟨hstate, tuple, data, env, stored, heq, hstores, hcompare⟩ := hallows
        exact ⟨hverified hstate, tuple, data, env, stored, heq, hproved stored hstores, hcompare⟩
      | receiveRtcpPacket heap first =>
        obtain ⟨hstate, tuple, data, env, stored, heq, hstores, hcompare⟩ := hallows
        exact ⟨hverified hstate, tuple, data, env, stored, heq, hproved stored hstores, hcompare⟩
      | _ => trivial
  have hstart : Inv [] (init credentials) := by
    refine ⟨invariant_init credentials, ?_, fun h ↦ absurd rfl h, nofun, fun pre r h ↦ ?_⟩
    · rintro tuple ⟨stored, hmem, -⟩
      cases hmem
    · simp at h
  obtain ⟨records, htrace, hafter⟩ := @Run.trace_history _ _ _ _ (step getCrc32 getHmacSha1)
    (fun _ e ↦ e.Fair) Inv (fun history s e ↦ hstep history s e) events [] (init credentials) hstart
    fun pre e post heq ↦ hfair e (heq ▸ List.mem_append_right _ List.mem_cons_self)
  exact ⟨records, htrace, fun pre r post hsplit ↦
    (hafter pre r post hsplit).2.2.2.2 pre r rfl⟩

/-! ## A run -/

/-- Keys are exported. -/
def exportingSsl : SslAnswers := { keyingMaterial := fun n ↦ some (.replicate n 0) }

theorem kept_exportingSsl : exportingSsl.Kept where
  srtpProfile := nofun
  keyingMaterial _ := ⟨_, rfl, List.length_replicate⟩
  digest := nofun
  timeout := nofun

/-- The handshake is done, and the certificate has the digest AB. -/
def handshakeSsl : SslAnswers := { exportingSsl with
  handshakeDone := true
  peerCertificate := some ⟨fun _ ↦ some [0xAB], some []⟩
  srtpProfile := some "SRTP_AEAD_AES_128_GCM" }

theorem kept_handshakeSsl : handshakeSsl.Kept where
  srtpProfile name hname := by
    cases hname
    decide
  keyingMaterial _ := ⟨_, rfl, List.length_replicate⟩
  digest certificate hcertificate algorithm := by
    cases hcertificate
    exact nofun
  timeout := nofun

/-- The remote peer is the client, and its certificate has the digest AB. -/
def connectData : Json :=
  .object [("dtlsParameters", .object [
    ("fingerprints", .array [.object [("algorithm", .string "sha-256"), ("value", .string "AB")]]),
    ("role", .string "client")])]

/-- Around the transport, when libsrtp creates its sessions. -/
def surroundings (ssl : SslAnswers) (srtp : SrtpAnswers) : WebRtcSurroundings where
  allocator := IceServer.topAllocator
  ssl := ssl
  srtp := srtp

theorem fair_packetReceived {tuple : TransportTuple} {data : List Byte} (hkept : env.ssl.Kept)
    (hcreated : env.srtp.recvCreated = true) (hbound : data.length ≤ 65535) :
    (WebRtcEvent.packetReceived tuple data env).Fair ∧
      (WebRtcEvent.packetReceived tuple data env).RecvCreated := by
  refine ⟨⟨fun env' h ↦ ?_, fun _ _ _ h ↦ ?_, fun _ _ h ↦ ?_⟩, fun env' h ↦ ?_⟩
  · cases h
    exact hkept
  · cases h
    exact hbound
  · cases h
  · cases h
    exact hcreated

theorem fair_connect {data : Json} (hkept : env.ssl.Kept) (hcreated : env.srtp.recvCreated = true)
    (hnamed : ∀ fields, data.find? "dtlsParameters" = some (.object fields) →
      (Json.object fields).find? "fingerprints" ≠ some (.array [])) :
    (WebRtcEvent.connect data env).Fair ∧ (WebRtcEvent.connect data env).RecvCreated := by
  refine ⟨⟨fun env' h ↦ ?_, fun _ _ _ h ↦ ?_, fun _ _ h ↦ ?_⟩, fun env' h ↦ ?_⟩
  · cases h
    exact hkept
  · cases h
  · cases h
    exact hnamed
  · cases h
    exact hcreated

theorem fair_sendRtpPacket {data : List Byte} (hkept : env.ssl.Kept)
    (hcreated : env.srtp.recvCreated = true) :
    (WebRtcEvent.sendRtpPacket data env).Fair ∧
      (WebRtcEvent.sendRtpPacket data env).RecvCreated := by
  refine ⟨⟨fun env' h ↦ ?_, fun _ _ _ h ↦ ?_, fun _ _ h ↦ ?_⟩, fun env' h ↦ ?_⟩
  · cases h
    exact hkept
  · cases h
  · cases h
  · cases h
    exact hcreated

/-- ICE is established, the peer is signaled and does the handshake, and a packet is sent. -/
def connectingEvents : List WebRtcEvent :=
  let tuple : TransportTuple := .udp 7 (.inet 40000 0x01020304)
  [.packetReceived tuple IceServer.nominatingRequest.data (surroundings exportingSsl {}),
    .connect connectData (surroundings exportingSsl {}),
    .packetReceived tuple (22 :: List.replicate 12 0) (surroundings handshakeSsl {}),
    .sendRtpPacket [1] (surroundings exportingSsl { encrypt := some })]

theorem fair_connectingEvents : ∀ e ∈ connectingEvents, e.Fair ∧ e.RecvCreated := by
  intro e he
  rcases List.mem_cons.mp he with rfl | he
  · exact fair_packetReceived kept_exportingSsl rfl (by decide)
  rcases List.mem_cons.mp he with rfl | he
  · refine fair_connect kept_exportingSsl rfl fun fields hfields ↦ ?_
    cases hfields
    exact nofun
  rcases List.mem_cons.mp he with rfl | he
  · exact fair_packetReceived kept_handshakeSsl rfl (by decide)
  · rw [List.mem_singleton.mp he]
    exact fair_sendRtpPacket kept_exportingSsl rfl

/-- An encrypted packet is sent. -/
def sendsSrtp : WebRtcOutput → Bool
  | .sendSrtpData _ _ => true
  | _ => false

theorem secure_outputs_connecting : ∃ records pre r tuple data,
    Run.trace (step (fun _ ↦ 0xEB920BA3) IceServer.nominatingHmac) (init ⟨[117], [112]⟩)
      connectingEvents = .ok records ∧ records = pre ++ [r] ∧ .sendSrtpData tuple data ∈ r.output ∧
        Verified pre ∧ Proved (fun _ ↦ 0xEB920BA3) IceServer.nominatingHmac pre tuple := by
  obtain ⟨records, htrace, hsecure⟩ := secure_outputs (fun _ ↦ 0xEB920BA3) IceServer.nominatingHmac
    ⟨[117], [112]⟩ connectingEvents fun e he ↦ (fair_connectingEvents e he).1
  have hsends : (Run.trace (step (fun _ ↦ 0xEB920BA3) IceServer.nominatingHmac)
      (init ⟨[117], [112]⟩) connectingEvents).map (fun records ↦
        records.getLast?.map fun r ↦ r.output.any sendsSrtp) = .ok (some true) := by
    decide +kernel
  rw [htrace] at hsends
  obtain ⟨r, hlast, hr⟩ := Option.map_eq_some_iff.mp (Except.ok.inj hsends)
  obtain ⟨pre, rfl⟩ := List.getLast?_eq_some_iff.mp hlast
  obtain ⟨o, ho, hsrtp⟩ := List.any_eq_true.mp hr
  have hsecure' := hsecure pre r [] rfl o ho
  cases o with
  | sendSrtpData tuple data =>
    exact ⟨_, pre, r, tuple, data, htrace, rfl, ho, hsecure'.1, hsecure'.2⟩
  | _ => cases hsrtp

end WebRtcTransport

end MediasoupSfu
