import MediasoupSfu.Transport.WebRtcCalls

/-!
# Events of the WebRTC transport

What an event does, as far as the parent class is told of it and as far as packets go in and out, is
put together in `Steps`. There is a lemma for each kind of event, which rests on what a call of the
ICE server and a call of the DTLS transport do, and `step_steps` for all of them.
-/

namespace MediasoupSfu

open Rtcp (ParsedPacket)

/-! ## Parsing returns -/

namespace StunPacket

theorem isStun_returns (data : List Byte) : ∃ stun, isStun data = .ok stun := by
  rw [isStun]
  split
  · exact ⟨_, rfl⟩
  · exact returns_bind (get1Byte_returns (by omega)) fun _ ↦ ⟨_, rfl⟩

/-- A buffer of at most 65535 bytes is parsed to an end. -/
theorem parse_returns (getCrc32 : List Byte → BitVec 32) {data : List Byte}
    (hbound : data.length ≤ 65535) : ∃ outcome, parse getCrc32 data.length data = .ok outcome := by
  unfold parse
  by_cases hsize : data.length < 20
  · rw [isStun, if_pos hsize]
    exact ⟨_, rfl⟩
  obtain ⟨stun, hstun⟩ := isStun_returns data
  obtain ⟨msgType, hmsgType⟩ := get2Bytes_returns (show 0 + 1 < data.length by omega)
  obtain ⟨msgLength, hmsgLength⟩ := get2Bytes_returns (show 2 + 1 < data.length by omega)
  rw [hstun, hmsgType, hmsgLength, get1Byte_of_lt (show 0 < data.length by omega),
    get1Byte_of_lt (show 1 < data.length by omega)]
  simp only [bind, Except.bind]
  split
  · exact ⟨_, rfl⟩
  split
  · exact ⟨_, rfl⟩
  · rename_i hlength
    have hmod := ((lengthField_iff (by omega)).mp hlength).2
    obtain ⟨outcome, -, hparse, -⟩ :=
      Parser.parseAttributes_iff (not_lt.mp hsize) hmod hbound getCrc32 _
    exact ⟨outcome, hparse _ le_rfl⟩

end StunPacket

theorem RtpPacket.isRtp_returns (data : List Byte) :
    ∃ rtp, RtpPacket.isRtp data data.length = .ok rtp := by
  rw [RtpPacket.isRtp]
  split
  · rename_i hbytes
    obtain ⟨header, hheader⟩ := RtpPacket.read_of_le hbytes
    rw [get1Byte_of_lt (lt_of_lt_of_le (by decide) hbytes), hheader]
    exact ⟨_, rfl⟩
  · exact ⟨_, rfl⟩

/-- The packets of a compound packet are linked in one list. -/
theorem Rtcp.ParsedPacket.parse_returns (data : List Byte) :
    ∃ heap first, ParsedPacket.parse data = .ok (heap, first) := by
  obtain ⟨packets, hpackets⟩ := packetsOf_returns data
  obtain ⟨heap, first, hparse, -⟩ := parses_of_packetsOf hpackets
  exact ⟨heap, first, hparse⟩

theorem WebRtcTransport.isDtls_returns (data : List Byte) : ∃ dtls, isDtls data = .ok dtls := by
  rw [isDtls]
  split
  · exact ⟨_, rfl⟩
  · exact returns_bind (get1Byte_returns (by omega)) fun _ ↦ ⟨_, rfl⟩

/-! ## Events -/

/-- What happens around the transport during the event. -/
def WebRtcEvent.env : WebRtcEvent → Option WebRtcSurroundings
  | .packetReceived _ _ env | .tcpConnectionClosed _ env | .dtlsTimer env | .connect _ env
  | .sendRtpPacket _ env | .sendRtcpPacket _ env | .sendRtcpCompoundPacket _ env
  | .sendSctpData _ env => some env
  | .restartIce _ => none

/-- A datagram has at most 65535 bytes, a "connect" request names a fingerprint, and OpenSSL keeps
its promises. -/
structure WebRtcEvent.Fair (e : WebRtcEvent) : Prop where
  kept : ∀ env, e.env = some env → env.ssl.Kept
  bound : ∀ tuple data env, e = .packetReceived tuple data env → data.length ≤ 65535
  named : ∀ data env, e = .connect data env → ∀ fields,
    data.find? "dtlsParameters" = some (.object fields) →
      (Json.object fields).find? "fingerprints" ≠ some (.array [])

/-- libsrtp creates the receiving session. -/
def WebRtcEvent.RecvCreated (e : WebRtcEvent) : Prop :=
  ∀ env, e.env = some env → env.srtp.recvCreated = true

/-- The TCP connection of the tuple is closed. -/
def WebRtcEvent.Closes (tuple : TransportTuple) : WebRtcEvent → Prop
  | .tcpConnectionClosed closed _ => tuple.compare closed = true
  | _ => False

namespace WebRtcTransport

open DtlsTransport (Verifies)

variable {s t u : WebRtcTransport} {env : WebRtcSurroundings} {e : WebRtcEvent}
  {outputs : List WebRtcOutput} {getCrc32 : List Byte → BitVec 32}
  {getHmacSha1 : List Byte → List Byte → List Byte}

/-- If the handshake is done before the "connect" request, ICE is still established then, and the
request leaves the role as it is. -/
def Orderly (s : WebRtcTransport) (e : WebRtcEvent) : Prop :=
  ∀ data env fingerprint dtlsRemoteRole dtlsRole, e = .connect data env → s.connectCalled = false →
    s.dtlsTransport.handshakeDone = true →
    dtlsParametersOfJson data = .ok (fingerprint, dtlsRemoteRole) →
    dtlsRemoteRole.localRole = .ok dtlsRole →
    s.iceEstablished = true ∧ s.dtlsTransport.localRole = dtlsRole

/-- The DTLS transport has the role of the transport. -/
structure RoleKept (s : WebRtcTransport) : Prop where
  running : s.dtlsTransport.isRunning = true → s.iceEstablished = true →
    s.dtlsTransport.localRole = s.dtlsRole
  connected : s.dtlsTransport.state = .connected → s.dtlsTransport.localRole = s.dtlsRole

/-- A STUN request from the tuple with valid credentials. -/
def Admitted (getCrc32 : List Byte → BitVec 32) (getHmacSha1 : List Byte → List Byte → List Byte)
    (tuple : TransportTuple) (s : WebRtcTransport) (e : WebRtcEvent) : Prop :=
  ∃ data env packet, e = .packetReceived tuple data env ∧
    StunPacket.parse getCrc32 data.length data = .ok (.packet packet) ∧
    IceServer.Admits getHmacSha1 s.iceServer packet

/-- The "connect" request that is accepted, with its fingerprint. -/
def Signals (fingerprint : Fingerprint) (s : WebRtcTransport) (e : WebRtcEvent) : Prop :=
  s.connectCalled = false ∧ ∃ data env dtlsRemoteRole, e = .connect data env ∧
    dtlsParametersOfJson data = .ok (fingerprint, dtlsRemoteRole)

/-- The tuple is stored in the ICE server. -/
def Stores (s : WebRtcTransport) (tuple : TransportTuple) : Prop :=
  ∃ stored ∈ s.iceServer.tuples, stored.tuple = tuple

/-- Where data may be sent, and where packets may come from. -/
def Allows (s : WebRtcTransport) (e : WebRtcEvent) (t : WebRtcTransport) : WebRtcOutput → Prop
  | .sendDtlsData tuple _ => t.Stores tuple
  | .sendSrtpData tuple _ => s.dtlsTransport.state = .connected ∧ s.Stores tuple
  | .receiveRtpPacket _ | .receiveRtcpPacket _ _ => s.dtlsTransport.state = .connected ∧
    ∃ tuple data env stored, e = .packetReceived tuple data env ∧ s.Stores stored ∧
      stored.compare tuple = true
  | _ => True

/-- **What an event does.** -/
structure Steps (getCrc32 : List Byte → BitVec 32) (getHmacSha1 : List Byte → List Byte → List Byte)
    (s : WebRtcTransport) (e : WebRtcEvent) (outputs : List WebRtcOutput) (t : WebRtcTransport) :
    Prop where
  invariant : t.Invariant
  tuples : ∀ tuple, t.Stores tuple → (s.Stores tuple ∧ ¬e.Closes tuple) ∨
    Admitted getCrc32 getHmacSha1 tuple s e
  dtls : t.dtlsTransport.state = .connected → s.dtlsTransport.state = .connected ∨
    ∃ env, e.env = some env ∧ Verifies env.ssl t.dtlsTransport.remoteFingerprint
  fingerprint : t.dtlsTransport.remoteFingerprint = s.dtlsTransport.remoteFingerprint ∨
    Signals t.dtlsTransport.remoteFingerprint s e
  allows : ∀ o ∈ outputs, s.Allows e t o
  tells : e.RecvCreated → t.isConnected = true → (told outputs).getLastD s.isConnected = true
  tracks : e.RecvCreated → s.Orderly e → s.RoleKept →
    t.RoleKept ∧ (told outputs).getLastD s.isConnected = t.isConnected

/-- Nothing quiet is forbidden. -/
theorem Quiet.allows {o : WebRtcOutput} (h : t.Quiet o) (s : WebRtcTransport) (e : WebRtcEvent) :
    s.Allows e t o := by
  cases o with
  | sendDtlsData tuple data =>
    have hselected : t.getSelectedTuple = .ok tuple := h
    unfold getSelectedTuple IceServer.tupleAt at hselected
    split at hselected
    · cases hselected
    split at hselected
    · rename_i stored hfind
      exact ⟨stored, List.mem_of_find?_eq_some hfind, Except.ok.inj hselected⟩
    · cases hselected
  | sendSrtpData tuple data => exact h.elim
  | receiveRtpPacket packet => exact h.elim
  | receiveRtcpPacket heap first => exact h.elim
  | _ => trivial

theorem isConnected_iff : s.isConnected = true ↔
    s.iceEstablished = true ∧ s.dtlsTransport.state = .connected := by
  rw [isConnected, Bool.and_eq_true, decide_eq_true_iff]

theorem isConnected_congr (hice : t.iceEstablished = s.iceEstablished)
    (hstate : t.dtlsTransport.state = s.dtlsTransport.state) : t.isConnected = s.isConnected := by
  rw [isConnected, isConnected, hice, hstate]

theorem not_isConnected (hstate : s.dtlsTransport.state ≠ .connected) : s.isConnected = false := by
  rw [isConnected, decide_eq_false hstate, Bool.and_false]

theorem isRunning_congr (hstate : t.dtlsTransport.state = s.dtlsTransport.state) :
    t.dtlsTransport.isRunning = s.dtlsTransport.isRunning := by
  rw [DtlsTransport.isRunning, hstate]
  rfl

/-! ### What the parent is told -/

theorem IceEffect.tells (h : IceEffect s outputs t) (ht : t.isConnected = true) :
    (told outputs).getLastD s.isConnected = true := by
  obtain ⟨hice, hstate⟩ := isConnected_iff.mp ht
  cases h with
  | stay hdtls _ hsame htold =>
    rw [htold]
    exact (isConnected_congr hsame (congrArg _ hdtls)).symm.trans ht
  | establish _ _ _ htold =>
    rw [htold, if_pos hstate]
    rfl
  | disconnect _ _ hlost _ =>
    rw [hlost] at hice
    cases hice

theorem DtlsEffect.tells (h : DtlsEffect env s outputs t) (hkeeps : KeepsIce s t)
    (hcreated : env.srtp.recvCreated = true) (ht : t.isConnected = true) :
    (told outputs).getLastD s.isConnected = true := by
  have hstate := (isConnected_iff.mp ht).2
  cases h with
  | stay hsame _ _ htold =>
    rw [htold]
    refine (isConnected_congr ?_ hsame).symm.trans ht
    rw [iceEstablished_eq, hkeeps.iceServer]
    rfl
  | connect _ _ _ _ htold =>
    rw [htold hcreated]
    rfl
  | fail _ hfailed _ =>
    rw [hfailed] at hstate
    cases hstate
  | close _ hclosed _ =>
    rw [hclosed] at hstate
    cases hstate

/-- A handshake begins only where the transport was not connected. -/
theorem tracks_run (hconnected : s.dtlsTransport.state = .connected →
      s.dtlsTransport.localRole = s.dtlsRole)
    (hrun : t.dtlsTransport = s.dtlsTransport ∨
      (t.dtlsTransport.state = .connecting ∧ s.dtlsTransport.localRole ≠ s.dtlsRole))
    (hice : t.iceEstablished = s.iceEstablished) : t.isConnected = s.isConnected := by
  rcases hrun with hsame | ⟨hstate, hdiffers⟩
  · exact isConnected_congr hice (congrArg _ hsame)
  · rw [not_isConnected fun hs ↦ hdiffers (hconnected hs), not_isConnected]
    rw [hstate]
    exact nofun

theorem IceEffect.tracks (h : IceEffect s outputs t) (hs : s.RoleKept) :
    t.RoleKept ∧ (told outputs).getLastD s.isConnected = t.isConnected := by
  cases h with
  | stay hdtls hrole hsame htold =>
    refine ⟨⟨?_, ?_⟩, ?_⟩
    · rw [hdtls, hrole, hsame]
      exact hs.running
    · rw [hdtls, hrole]
      exact hs.connected
    · rw [htold]
      exact (isConnected_congr hsame (congrArg _ hdtls)).symm
  | establish ht hlocal hrun htold =>
    refine ⟨⟨fun _ _ ↦ hlocal, fun _ ↦ hlocal⟩, ?_⟩
    rw [htold]
    split
    · rename_i hstate
      exact (isConnected_iff.mpr ⟨ht, hstate⟩).symm
    · rename_i hstate
      rw [not_isConnected hstate]
      refine not_isConnected fun hconnected ↦ ?_
      rcases hrun with hsame | ⟨-, hdiffers⟩
      · exact hstate (hsame ▸ hconnected)
      · exact hdiffers (hs.connected hconnected)
  | disconnect hdtls hrole ht htold =>
    refine ⟨⟨fun _ h ↦ absurd h (by rw [ht]; exact nofun), ?_⟩, ?_⟩
    · rw [hdtls, hrole]
      exact hs.connected
    · have hlost : t.isConnected = false := by
        rw [isConnected, ht]
        rfl
      rw [htold, hlost]
      split
      · rfl
      · rename_i hstate
        exact not_isConnected hstate

theorem DtlsEffect.tracks (h : DtlsEffect env s outputs t) (hkeeps : KeepsIce s t)
    (hcreated : env.srtp.recvCreated = true) (hs : s.RoleKept)
    (hestablished : s.dtlsTransport.state ≠ .connected → t.dtlsTransport.state = .connected →
      s.iceEstablished = true) :
    t.RoleKept ∧ (told outputs).getLastD s.isConnected = t.isConnected := by
  have hice : t.iceEstablished = s.iceEstablished := by
    rw [iceEstablished_eq, hkeeps.iceServer]
    rfl
  cases h with
  | stay hsame hrole _ htold =>
    refine ⟨⟨?_, ?_⟩, ?_⟩
    · rw [isRunning_congr hsame, hice, hrole, hkeeps.dtlsRole]
      exact hs.running
    · rw [hsame, hrole, hkeeps.dtlsRole]
      exact hs.connected
    · rw [htold]
      exact (isConnected_congr hice hsame).symm
  | connect hconnecting ht hrole _ htold =>
    have hnow := hestablished (by rw [hconnecting]; decide) ht
    have hlocal : t.dtlsTransport.localRole = t.dtlsRole := by
      rw [hrole, hkeeps.dtlsRole]
      exact hs.running (DtlsTransport.isRunning_iff.mpr (Or.inl hconnecting)) hnow
    refine ⟨⟨fun _ _ ↦ hlocal, fun _ ↦ hlocal⟩, ?_⟩
    rw [htold hcreated]
    exact (isConnected_iff.mpr ⟨hice.trans hnow, ht⟩).symm
  | fail hconnecting ht htold =>
    refine ⟨⟨fun h ↦ ?_, fun h ↦ ?_⟩, ?_⟩
    · rw [DtlsTransport.isRunning, ht] at h
      cases h
    · rw [ht] at h
      cases h
    · rw [htold, not_isConnected (s := t) (by rw [ht]; decide)]
      exact not_isConnected (by rw [hconnecting]; decide)
  | close _ ht htold =>
    refine ⟨⟨fun h ↦ ?_, fun h ↦ ?_⟩, ?_⟩
    · rw [DtlsTransport.isRunning, ht] at h
      cases h
    · rw [ht] at h
      cases h
    · rw [htold, not_isConnected (s := t) (by rw [ht]; decide)]
      rfl

/-! ### One lemma for each kind of event -/

/-- A call of the ICE server. -/
theorem Steps.of_callIce (h : s.Invariant) {i : IceServer} (hi : i.Invariant)
    (hice : t.iceServer = i) (hkeeps : KeepsSrtp s t) (hquiet : ∀ o ∈ outputs, t.Quiet o)
    (heffect : IceEffect s outputs t)
    (htuples : ∀ stored ∈ i.tuples, (stored ∈ s.iceServer.tuples ∧ ¬e.Closes stored.tuple) ∨
      Admitted getCrc32 getHmacSha1 stored.tuple s e) :
    Steps getCrc32 getHmacSha1 s e outputs t where
  invariant := by
    refine ⟨by rw [hice]; exact hi, hkeeps.dtls, hkeeps.role, fun hsome ↦ ?_⟩
    rw [hkeeps.fingerprint] at hsome
    rw [hkeeps.connectCalled]
    exact h.fingerprint hsome
  tuples := by
    rintro tuple ⟨stored, hmem, rfl⟩
    rw [hice] at hmem
    exact (htuples stored hmem).imp_left fun hkept ↦ ⟨⟨stored, hkept.1, rfl⟩, hkept.2⟩
  dtls hstate := by
    refine Or.inl ?_
    have hconnecting : t.dtlsTransport.state ≠ .connecting := by
      rw [hstate]
      exact nofun
    cases heffect with
    | stay hdtls _ _ _ => exact hdtls ▸ hstate
    | establish _ _ hrun _ =>
      rcases hrun with hsame | ⟨hbegun, -⟩
      · exact hsame ▸ hstate
      · exact absurd hbegun hconnecting
    | disconnect hdtls _ _ _ => exact hdtls ▸ hstate
  fingerprint := Or.inl hkeeps.fingerprint
  allows o ho := (hquiet o ho).allows s e
  tells _ := heffect.tells
  tracks _ _ := heffect.tracks

/-- Nothing but the selected tuple may differ. -/
structure Reselects (s t : WebRtcTransport) : Prop where
  tuples : t.iceServer.tuples = s.iceServer.tuples
  established : t.iceEstablished = s.iceEstablished
  dtlsTransport : t.dtlsTransport = s.dtlsTransport
  dtlsRole : t.dtlsRole = s.dtlsRole
  connectCalled : t.connectCalled = s.connectCalled

theorem Reselects.refl (s : WebRtcTransport) : s.Reselects s := ⟨rfl, rfl, rfl, rfl, rfl⟩

theorem Reselects.isConnected (h : s.Reselects t) : t.isConnected = s.isConnected :=
  isConnected_congr h.established (congrArg _ h.dtlsTransport)

theorem Reselects.roleKept (h : s.Reselects t) (hs : s.RoleKept) : t.RoleKept where
  running := by
    rw [h.dtlsTransport, h.established, h.dtlsRole]
    exact hs.running
  connected := by
    rw [h.dtlsTransport, h.dtlsRole]
    exact hs.connected

/-- A call of the DTLS transport, after a tuple may have been selected. -/
theorem Steps.of_callDtls (hforce : s.Reselects u) {forced : List WebRtcOutput}
    (hforced : told forced = []) (hu : u.Invariant) (henv : e.env = some env)
    (ht : t.dtlsTransport.Invariant) (hkeeps : KeepsIce u t)
    (hfingerprint : t.dtlsTransport.remoteFingerprint = u.dtlsTransport.remoteFingerprint)
    (hquiet : ∀ o ∈ forced ++ outputs, u.Quiet o) (heffect : DtlsEffect env u outputs t)
    (hopen : ∀ tuple, ¬e.Closes tuple)
    (hestablished : s.dtlsTransport.state ≠ .connected → t.dtlsTransport.state = .connected →
      s.iceEstablished = true) :
    Steps getCrc32 getHmacSha1 s e (forced ++ outputs) t where
  invariant := by
    refine ⟨by rw [hkeeps.iceServer]; exact hu.ice, ht, by rw [hkeeps.dtlsRole]; exact hu.role,
      fun hsome ↦ ?_⟩
    rw [hfingerprint] at hsome
    rw [hkeeps.connectCalled]
    exact hu.fingerprint hsome
  tuples := by
    rintro tuple ⟨stored, hmem, htuple⟩
    rw [hkeeps.iceServer, hforce.tuples] at hmem
    exact Or.inl ⟨⟨stored, hmem, htuple⟩, hopen tuple⟩
  dtls hstate := by
    rw [← hforce.dtlsTransport]
    cases heffect with
    | stay hsame _ _ _ => exact Or.inl (hsame ▸ hstate)
    | connect _ _ _ hverifies _ =>
      refine Or.inr ⟨env, henv, ?_⟩
      rw [hfingerprint]
      exact hverifies
    | fail _ hfailed _ =>
      rw [hfailed] at hstate
      cases hstate
    | close _ hclosed _ =>
      rw [hclosed] at hstate
      cases hstate
  fingerprint := Or.inl (by rw [hfingerprint, hforce.dtlsTransport])
  allows o ho := ((hquiet o ho).congr hkeeps.iceServer).allows s e
  tells hcreated := by
    rw [told_append, hforced, ← hforce.isConnected]
    exact heffect.tells hkeeps (hcreated env henv)
  tracks hcreated _ hrole := by
    rw [told_append, hforced, ← hforce.isConnected]
    refine heffect.tracks hkeeps (hcreated env henv) (hforce.roleKept hrole) ?_
    rw [hforce.dtlsTransport, hforce.established]
    exact hestablished

/-- Nothing happens but an output that is allowed. -/
theorem Steps.of_outputs (h : s.Invariant) (htold : told outputs = [])
    (hallows : ∀ o ∈ outputs, s.Allows e s o) (hopen : ∀ tuple, ¬e.Closes tuple) :
    Steps getCrc32 getHmacSha1 s e outputs s where
  invariant := h
  tuples _ hstores := Or.inl ⟨hstores, hopen _⟩
  dtls hstate := Or.inl hstate
  fingerprint := Or.inl rfl
  allows := hallows
  tells _ hs := by
    rw [htold]
    exact hs
  tracks _ _ hs := by
    rw [htold]
    exact ⟨hs, rfl⟩

theorem Steps.nothing (h : s.Invariant) (hopen : ∀ tuple, ¬e.Closes tuple) :
    Steps getCrc32 getHmacSha1 s e [] s :=
  .of_outputs h rfl (fun _ ho ↦ absurd ho List.not_mem_nil) hopen

/-- The packet that was received is given to the parent. -/
theorem Steps.receives (h : Steps getCrc32 getHmacSha1 s e outputs t) {o : WebRtcOutput}
    (htold : told [o] = []) (hallows : s.Allows e t o) :
    Steps getCrc32 getHmacSha1 s e (outputs ++ [o]) t where
  invariant := h.invariant
  tuples := h.tuples
  dtls := h.dtls
  fingerprint := h.fingerprint
  allows o' ho := by
    rcases List.mem_append.mp ho with ho | ho
    · exact h.allows o' ho
    · rw [List.mem_singleton.mp ho]
      exact hallows
  tells := by
    rw [told_append, htold, List.append_nil]
    exact h.tells
  tracks := by
    rw [told_append, htold, List.append_nil]
    exact h.tracks

/-! ### Received packets -/

theorem open_packetReceived (tuple : TransportTuple) (data : List Byte) (env : WebRtcSurroundings)
    (stored : TransportTuple) : ¬(WebRtcEvent.packetReceived tuple data env).Closes stored := id

/-- A tuple is looked up. -/
theorem isValidTuple_cases (hice : s.iceServer.Invariant) (tuple : TransportTuple) :
    (s.isValidTuple tuple = .ok true ∧ s.iceEstablished = true ∧
        ∃ stored ∈ s.iceServer.tuples, stored.tuple.compare tuple = true) ∨
      s.isValidTuple tuple = .ok false := by
  unfold isValidTuple
  rcases IceServer.invariant_iff.mp hice with hidle | hactive
  · refine Or.inr ?_
    rw [IceServer.hasTuple, hidle.selectedTuple_eq]
    rfl
  · rcases IceServer.hasTuple_cases hactive tuple with ⟨stored, hmem, hcompare, hfound⟩ | ⟨-, hnew⟩
    · rw [hfound]
      exact Or.inl ⟨rfl, hactive.established, stored, hmem, hcompare⟩
    · rw [hnew]
      exact Or.inr rfl

/-- A stored tuple is selected. -/
theorem callIce_force (env : WebRtcSurroundings) (h : s.Invariant) {tuple : TransportTuple}
    (hstored : ∃ stored ∈ s.iceServer.tuples, stored.tuple.compare tuple = true) :
    ∃ outputs t, s.callIce env (s.iceServer.forceSelectedTuple tuple) = .ok (outputs, t) ∧
      told outputs = [] ∧ t.Invariant ∧ s.Reselects t ∧ ∀ o ∈ outputs, t.Quiet o := by
  obtain ⟨calls, i, hforce, hi⟩ := h.ice.forceSelectedTuple hstored
  obtain ⟨hsilent, hstate, htuples⟩ := IceServer.move_forceSelectedTuple hforce
  have hactive : s.iceServer.Active := by
    refine (IceServer.invariant_iff.mp h.ice).resolve_left fun hidle ↦ ?_
    obtain ⟨stored, hmem, -⟩ := hstored
    rw [hidle.tuples_eq] at hmem
    cases hmem
  have hsame : i.established = s.iceServer.established := by
    rw [IceServer.established, hstate]
    rfl
  obtain ⟨outputs, hcalls, htold, hquiet⟩ := callListener_silent env
    (s := { s with iceServer := i }) hi hsilent fun _ _ ↦ hsame.trans hactive.established
  rw [hforce]
  exact ⟨outputs, _, hcalls, htold, ⟨hi, h.dtls, h.role, h.fingerprint⟩,
    ⟨htuples, hsame, rfl, rfl, rfl⟩, hquiet⟩

/-- A tuple is selected, and nothing else happens. -/
theorem Steps.of_force (hforce : s.Reselects t) (hforced : told outputs = []) (ht : t.Invariant)
    (henv : e.env = some env) (hquiet : ∀ o ∈ outputs, t.Quiet o)
    (hopen : ∀ tuple, ¬e.Closes tuple) : Steps getCrc32 getHmacSha1 s e outputs t := by
  have hsteps : Steps getCrc32 getHmacSha1 s e (outputs ++ []) t := by
    refine .of_callDtls hforce hforced ht henv ht.dtls ⟨rfl, rfl, rfl⟩ rfl ?_
      (.stay rfl rfl rfl rfl) hopen fun hs hstate ↦ absurd hstate ?_
    · rw [List.append_nil]
      exact hquiet
    · rw [hforce.dtlsTransport]
      exact hs
  rwa [List.append_nil] at hsteps

/-- `OnStunDataReceived`. -/
theorem onStunDataReceived_steps (h : s.Invariant) (hkept : env.ssl.Kept) (tuple : TransportTuple)
    {data : List Byte} (hbound : data.length ≤ 65535) :
    ∃ outputs t, s.onStunDataReceived getCrc32 getHmacSha1 env tuple data = .ok (outputs, t) ∧
      Steps getCrc32 getHmacSha1 s (.packetReceived tuple data env) outputs t := by
  obtain ⟨outcome, hparse⟩ := StunPacket.parse_returns getCrc32 hbound
  unfold onStunDataReceived
  rw [hparse]
  cases outcome with
  | packet packet =>
    obtain ⟨calls, i, hprocess, hi⟩ :=
      h.ice.processStunPacket getHmacSha1 env.allocator packet tuple
    obtain ⟨hmove, htuples⟩ := IceServer.move_processStunPacket hprocess
    obtain ⟨outputs, t, hcall, hice, hkeeps, hquiet, heffect⟩ := callIce_spec hkept h hi hmove
    refine ⟨outputs, t, ?_, .of_callIce h hi hice hkeeps hquiet heffect fun stored hmem ↦ ?_⟩
    · change s.callIce env _ = _
      rw [hprocess, hcall]
    · refine (htuples stored hmem).imp (fun hold ↦ ⟨hold, id⟩) ?_
      rintro ⟨rfl, hadmits⟩
      exact ⟨data, env, packet, rfl, hparse, hadmits⟩
  | discarded => exact ⟨[], s, rfl, .nothing h (open_packetReceived tuple data env)⟩
  | unfinished => exact ⟨[], s, rfl, .nothing h (open_packetReceived tuple data env)⟩

/-- `OnDtlsDataReceived`. -/
theorem onDtlsDataReceived_steps (h : s.Invariant) (hkept : env.ssl.Kept) (tuple : TransportTuple)
    (data : List Byte) :
    ∃ outputs t, s.onDtlsDataReceived env tuple = .ok (outputs, t) ∧
      Steps getCrc32 getHmacSha1 s (.packetReceived tuple data env) outputs t := by
  have hopen := open_packetReceived tuple data env
  unfold onDtlsDataReceived
  rcases isValidTuple_cases h.ice tuple with ⟨hvalid, hestablished, hstored⟩ | hinvalid
  · obtain ⟨forced, u, hcall, hforced, hu, hforce, hquiet⟩ := callIce_force env h hstored
    rw [hvalid, DtlsTransport.ok_bind, Bool.not_true, if_neg Bool.false_ne_true, hcall,
      DtlsTransport.ok_bind]
    dsimp only
    split
    · obtain ⟨calls, d, hdata, hd, hmove⟩ := DtlsTransport.processDtlsData_spec hkept hu.dtls
      obtain ⟨processed, t, hcall', hkeeps, rfl, hfingerprint, hall, heffect⟩ :=
        callDtls_spec hu.ice hmove
      rw [hdata, hcall']
      refine ⟨forced ++ processed, t, rfl, .of_callDtls hforce hforced hu rfl hd hkeeps
        hfingerprint (fun o ho ↦ ?_) heffect hopen fun _ _ ↦ hestablished⟩
      exact (List.mem_append.mp ho).elim (hquiet o) (hall o)
    · exact ⟨forced, u, rfl, .of_force hforce hforced hu rfl hquiet hopen⟩
  · rw [hinvalid]
    exact ⟨[], s, rfl, .nothing h hopen⟩

/-- `OnRtpDataReceived`. -/
theorem onRtpDataReceived_steps (h : s.Invariant) (tuple : TransportTuple) (data : List Byte)
    (env : WebRtcSurroundings) :
    ∃ outputs t, s.onRtpDataReceived env tuple data = .ok (outputs, t) ∧
      Steps getCrc32 getHmacSha1 s (.packetReceived tuple data env) outputs t := by
  have hopen := open_packetReceived tuple data env
  have hnothing : ∃ outputs t,
      (.ok ([], s) : Except Fault (List WebRtcOutput × WebRtcTransport)) = .ok (outputs, t) ∧
      Steps getCrc32 getHmacSha1 s (.packetReceived tuple data env) outputs t :=
    ⟨[], s, rfl, .nothing h hopen⟩
  unfold onRtpDataReceived
  split
  · exact hnothing
  rename_i hconnected
  split
  · exact hnothing
  rcases isValidTuple_cases h.ice tuple with ⟨hvalid, -, hstored⟩ | hinvalid
  swap
  · rw [hinvalid]
    exact hnothing
  rw [hvalid, DtlsTransport.ok_bind, Bool.not_true, if_neg Bool.false_ne_true]
  split
  · exact hnothing
  rename_i decrypted _
  obtain ⟨packet, hparse, -⟩ := RtpPacket.parse_spec decrypted (Nat.le_refl _)
  rw [hparse]
  cases packet with
  | none => exact hnothing
  | some packet =>
    obtain ⟨forced, u, hcall, hforced, hu, hforce, hquiet⟩ := callIce_force env h hstored
    obtain ⟨stored, hmem, hcompare⟩ := hstored
    rw [DtlsTransport.ok_bind]
    dsimp only
    rw [hcall]
    exact ⟨_, u, rfl, (Steps.of_force hforce hforced hu rfl hquiet hopen).receives rfl
      ⟨not_not.mp hconnected, tuple, data, env, stored.tuple, rfl, ⟨stored, hmem, rfl⟩, hcompare⟩⟩

/-- `OnRtcpDataReceived`. -/
theorem onRtcpDataReceived_steps (h : s.Invariant) (tuple : TransportTuple) (data : List Byte)
    (env : WebRtcSurroundings) :
    ∃ outputs t, s.onRtcpDataReceived env tuple data = .ok (outputs, t) ∧
      Steps getCrc32 getHmacSha1 s (.packetReceived tuple data env) outputs t := by
  have hopen := open_packetReceived tuple data env
  have hnothing : ∃ outputs t,
      (.ok ([], s) : Except Fault (List WebRtcOutput × WebRtcTransport)) = .ok (outputs, t) ∧
      Steps getCrc32 getHmacSha1 s (.packetReceived tuple data env) outputs t :=
    ⟨[], s, rfl, .nothing h hopen⟩
  unfold onRtcpDataReceived
  split
  · exact hnothing
  rename_i hconnected
  split
  · exact hnothing
  rcases isValidTuple_cases h.ice tuple with ⟨hvalid, -, stored, hmem, hcompare⟩ | hinvalid
  swap
  · rw [hinvalid]
    exact hnothing
  rw [hvalid, DtlsTransport.ok_bind, Bool.not_true, if_neg Bool.false_ne_true]
  split
  · exact hnothing
  rename_i decrypted _
  obtain ⟨heap, first, hparse⟩ := ParsedPacket.parse_returns decrypted
  rw [hparse]
  cases first with
  | none => exact hnothing
  | some first =>
    exact ⟨_, s, rfl, (Steps.nothing h hopen).receives rfl
      ⟨not_not.mp hconnected, tuple, data, env, stored.tuple, rfl, ⟨stored, hmem, rfl⟩, hcompare⟩⟩

/-- `OnPacketReceived`. -/
theorem onPacketReceived_steps (h : s.Invariant) (hkept : env.ssl.Kept) (tuple : TransportTuple)
    {data : List Byte} (hbound : data.length ≤ 65535) :
    ∃ outputs t, s.onPacketReceived getCrc32 getHmacSha1 env tuple data = .ok (outputs, t) ∧
      Steps getCrc32 getHmacSha1 s (.packetReceived tuple data env) outputs t := by
  obtain ⟨stun, hstun⟩ := StunPacket.isStun_returns data
  obtain ⟨rtcp, hrtcp⟩ := Rtcp.Packet.isRtcp_returns data
  obtain ⟨rtp, hrtp⟩ := RtpPacket.isRtp_returns data
  obtain ⟨dtls, hdtls⟩ := isDtls_returns data
  unfold onPacketReceived
  rw [hstun, hrtcp, hrtp, hdtls]
  simp only [DtlsTransport.ok_bind]
  split
  · exact onStunDataReceived_steps h hkept tuple hbound
  split
  · exact onRtcpDataReceived_steps h tuple data env
  split
  · exact onRtpDataReceived_steps h tuple data env
  split
  · exact onDtlsDataReceived_steps h hkept tuple data
  · exact ⟨[], s, rfl, .nothing h (open_packetReceived tuple data env)⟩

/-! ### Other events -/

theorem open_of_env (hclosed : ∀ tuple env, e ≠ .tcpConnectionClosed tuple env)
    (stored : TransportTuple) : ¬e.Closes stored := by
  cases e with
  | tcpConnectionClosed tuple env => exact absurd rfl (hclosed tuple env)
  | _ => exact id

/-- `OnTcpConnectionClosed`. -/
theorem tcpConnectionClosed_steps (h : s.Invariant) (hkept : env.ssl.Kept)
    (tuple : TransportTuple) :
    ∃ outputs t, s.callIce env (.ok (s.iceServer.removeTuple tuple)) = .ok (outputs, t) ∧
      Steps getCrc32 getHmacSha1 s (.tcpConnectionClosed tuple env) outputs t := by
  obtain ⟨hmove, htuples⟩ := IceServer.move_removeTuple h.ice tuple
  have hi := h.ice.removeTuple tuple
  obtain ⟨outputs, t, hcall, hice, hkeeps, hquiet, heffect⟩ := callIce_spec hkept h hi hmove
  refine ⟨outputs, t, hcall, .of_callIce h hi hice hkeeps hquiet heffect fun stored hmem ↦ ?_⟩
  obtain ⟨hold, hcompare⟩ := htuples stored hmem
  refine Or.inl ⟨hold, fun hcloses ↦ ?_⟩
  have htrue : stored.tuple.compare tuple = true := hcloses
  rw [hcompare] at htrue
  cases htrue

/-- `OnTimer`. -/
theorem dtlsTimer_steps (h : s.Invariant) (hkept : env.ssl.Kept) :
    ∃ outputs t, s.callDtls env (s.dtlsTransport.onTimer env.ssl) = .ok (outputs, t) ∧
      Steps getCrc32 getHmacSha1 s (.dtlsTimer env) outputs t := by
  obtain ⟨calls, d, htimer, hd, hmove, hstate⟩ := DtlsTransport.onTimer_spec hkept h.dtls
  obtain ⟨outputs, t, hcall, hkeeps, rfl, hfingerprint, hquiet, heffect⟩ :=
    callDtls_spec h.ice hmove
  rw [htimer, hcall]
  exact ⟨outputs, t, rfl, .of_callDtls (Reselects.refl s) (show told [] = [] from rfl) h rfl hd
    hkeeps hfingerprint hquiet heffect (fun _ ↦ id)
    fun hs ht ↦ absurd (hstate.symm.trans ht) hs⟩

/-- `SendSctpData`. -/
theorem sendSctpData_steps (h : s.Invariant) (hkept : env.ssl.Kept) (data : List Byte) :
    ∃ outputs t, s.sendSctpData env data = .ok (outputs, t) ∧
      Steps getCrc32 getHmacSha1 s (.sendSctpData data env) outputs t := by
  unfold sendSctpData
  split
  · exact ⟨[], s, rfl, .nothing h fun _ ↦ id⟩
  · rename_i hconnected
    have hstate := (isConnected_iff.mp (by simpa using hconnected)).2
    obtain ⟨calls, d, hsend, hd, hmove⟩ := DtlsTransport.sendApplicationData_spec hkept h.dtls data
    obtain ⟨outputs, t, hcall, hkeeps, rfl, hfingerprint, hquiet, heffect⟩ :=
      callDtls_spec h.ice hmove
    rw [hsend, hcall]
    exact ⟨outputs, t, rfl, .of_callDtls (Reselects.refl s) (show told [] = [] from rfl) h rfl hd
      hkeeps hfingerprint hquiet heffect (fun _ ↦ id) fun hs _ ↦ absurd hstate hs⟩

/-- `SendRtpPacket`, `SendRtcpPacket` and `SendRtcpCompoundPacket`. -/
theorem sendEncrypted_steps (h : s.Invariant) (env : WebRtcSurroundings) (data : List Byte)
    (hopen : ∀ tuple, ¬e.Closes tuple) :
    ∃ outputs t, s.sendEncrypted env data = .ok (outputs, t) ∧
      Steps getCrc32 getHmacSha1 s e outputs t := by
  unfold sendEncrypted
  split
  · exact ⟨[], s, rfl, .nothing h hopen⟩
  rename_i hconnected
  obtain ⟨hestablished, hstate⟩ := isConnected_iff.mp (by simpa using hconnected)
  split
  · exact ⟨[], s, rfl, .nothing h hopen⟩
  split
  · exact ⟨[], s, rfl, .nothing h hopen⟩
  · rename_i encrypted _
    obtain ⟨stored, hmem, hselected⟩ := exists_selectedTuple h.ice hestablished
    rw [hselected]
    refine ⟨[.sendSrtpData stored.tuple encrypted], s, rfl, .of_outputs h rfl (fun o ho ↦ ?_) hopen⟩
    rw [List.mem_singleton.mp ho]
    exact ⟨hstate, stored, hmem, rfl⟩

/-- A restart changes the credentials only. -/
theorem restartIce_steps (h : s.Invariant) (credentials : IceCredentials) :
    Steps getCrc32 getHmacSha1 s (.restartIce credentials) (s.restartIce credentials).1
      (s.restartIce credentials).2 where
  invariant := ⟨⟨h.ice.empty_iff, h.ice.selected_iff, h.ice.selected_mem, h.ice.distinct,
    h.ice.live⟩, h.dtls, h.role, h.fingerprint⟩
  tuples _ hstores := Or.inl ⟨hstores, id⟩
  dtls hstate := Or.inl hstate
  fingerprint := Or.inl rfl
  allows o ho := by
    rw [List.mem_singleton.mp ho]
    trivial
  tells _ hs := hs
  tracks _ _ hs := ⟨⟨hs.running, hs.connected⟩, rfl⟩

/-! ### The "connect" request -/

/-- The fingerprint of a request that names one has an algorithm. -/
theorem algorithm_ofJson {jsonFingerprint : Json} {fingerprint : Fingerprint}
    (h : Fingerprint.ofJson jsonFingerprint = .ok fingerprint) : fingerprint.algorithm ≠ .none := by
  have hlookup : ∀ name algorithm, string2FingerprintAlgorithm.lookup name = some algorithm →
      algorithm ≠ .none := by
    intro name algorithm hname
    obtain ⟨before, after, heq, -⟩ := List.lookup_eq_some_iff.mp hname
    have hall : ∀ p ∈ string2FingerprintAlgorithm, p.2 ≠ .none := by decide
    refine hall (name, algorithm) ?_
    rw [heq]
    exact List.mem_append_right _ List.mem_cons_self
  unfold Fingerprint.ofJson at h
  split at h
  · cases h
  split at h
  · cases h
  · split at h
    · cases h
    · rename_i hname
      split at h
      · cases h
      · cases h
        exact hlookup _ _ hname
      · cases h
  · cases h

theorem algorithm_dtlsParametersOfJson {data : Json} {fingerprint : Fingerprint} {role : DtlsRole}
    (h : dtlsParametersOfJson data = .ok (fingerprint, role))
    (hnamed : ∀ fields, data.find? "dtlsParameters" = some (.object fields) →
      (Json.object fields).find? "fingerprints" ≠ some (.array [])) :
    fingerprint.algorithm ≠ .none := by
  unfold dtlsParametersOfJson at h
  split at h
  · rename_i fields hfields
    split at h
    · rename_i fingerprints hfingerprints
      cases fingerprints with
      | nil => exact absurd hfingerprints (hnamed fields hfields)
      | cons jsonFingerprint rest =>
        obtain ⟨first, hfirst, h⟩ := bind_eq_ok.mp h
        obtain ⟨_, -, h⟩ := bind_eq_ok.mp h
        cases h
        exact algorithm_ofJson hfirst
    · cases h
  · cases h

theorem localRole_cases {remote role : DtlsRole} (h : remote.localRole = .ok role) :
    role = .client ∨ role = .server := by
  cases remote with
  | none => cases h
  | client =>
    cases h
    exact Or.inr rfl
  | auto =>
    cases h
    exact Or.inl rfl
  | server =>
    cases h
    exact Or.inl rfl

/-- What follows `SetRemoteFingerprint`: a `MayRunDtlsTransport`, or nothing. -/
structure RanIf (good : Bool) (s t : WebRtcTransport) : Prop where
  iceServer : t.iceServer = s.iceServer
  connectCalled : t.connectCalled = s.connectCalled
  fingerprint : t.dtlsTransport.remoteFingerprint = s.dtlsTransport.remoteFingerprint
  dtls : t.dtlsTransport.Invariant
  dtlsRole : t.dtlsRole = s.dtlsRole
  same_or : t.dtlsTransport = s.dtlsTransport ∨
    (t.dtlsTransport.state = .connecting ∧ s.dtlsTransport.localRole ≠ s.dtlsRole)
  localRole : good = true → s.iceEstablished = true → t.dtlsTransport.localRole = t.dtlsRole
  nothing : good = false → t = s

theorem ranIf_spec (hkept : env.ssl.Kept) (hice : s.iceServer.Invariant)
    (hdtls : s.dtlsTransport.Invariant) (hrole : s.dtlsRole = .client ∨ s.dtlsRole = .server)
    (good : Bool) :
    ∃ outputs t, (if good then s.mayRunDtlsTransport env else .ok ([], s)) = .ok (outputs, t) ∧
      told outputs = [] ∧ (∀ o ∈ outputs, s.Quiet o) ∧ RanIf good s t := by
  have hset : s.dtlsRole ≠ .none ∧ s.dtlsRole ≠ .auto := by
    rcases hrole with hrole | hrole
    · rw [hrole]
      exact ⟨nofun, nofun⟩
    · rw [hrole]
      exact ⟨nofun, nofun⟩
  cases good with
  | false =>
    exact ⟨[], s, rfl, rfl, fun _ h ↦ absurd h List.not_mem_nil, rfl, rfl, rfl, hdtls, rfl,
      Or.inl rfl, nofun, fun _ ↦ rfl⟩
  | true =>
    obtain ⟨outputs, t, hrun, htold, hquiet, hran⟩ :=
      mayRunDtlsTransport_spec hkept hice hdtls hset.1
    exact ⟨outputs, t, hrun, htold, hquiet, hran.iceServer, hran.connectCalled, hran.fingerprint,
      hran.dtls, hran.dtlsRole.resolve_right fun h ↦ hset.2 h.1, hran.same_or,
      fun _ ↦ hran.localRole, nofun⟩

theorem RanIf.established {good : Bool} (h : RanIf good s t) :
    t.iceEstablished = s.iceEstablished := by
  rw [iceEstablished_eq, h.iceServer]
  rfl

/-- A transport that is connected afterwards was connected before. -/
theorem RanIf.of_isConnected {good : Bool} (h : RanIf good s t) (ht : t.isConnected = true) :
    t.dtlsTransport = s.dtlsTransport ∧ s.isConnected = true := by
  obtain ⟨hestablished, hstate⟩ := isConnected_iff.mp ht
  rcases h.same_or with hsame | ⟨hbegun, -⟩
  · refine ⟨hsame, isConnected_iff.mpr ⟨h.established ▸ hestablished, ?_⟩⟩
    rw [← hsame]
    exact hstate
  · rw [hbegun] at hstate
    cases hstate

theorem told_accepted {checked ran : List WebRtcOutput} (hran : told ran = [])
    (dtlsLocalRole : DtlsRole) :
    told (checked ++ ran ++ [.acceptConnect dtlsLocalRole]) = told checked := by
  rw [told_append, told_append, hran, List.append_nil]
  exact List.append_nil _

/-- `TRANSPORT_CONNECT`. -/
theorem connect_steps (h : s.Invariant) (hkept : env.ssl.Kept) {data : Json}
    (hnamed : ∀ fields, data.find? "dtlsParameters" = some (.object fields) →
      (Json.object fields).find? "fingerprints" ≠ some (.array [])) :
    ∃ outputs t, s.connect env data = .ok (outputs, t) ∧
      Steps getCrc32 getHmacSha1 s (.connect data env) outputs t := by
  have hopen : ∀ tuple, ¬(WebRtcEvent.connect data env).Closes tuple := fun _ ↦ id
  have hrefused : ∀ thrown, ∃ outputs t,
      (.ok ([.throws thrown], s) : Except Fault (List WebRtcOutput × WebRtcTransport)) =
        .ok (outputs, t) ∧ Steps getCrc32 getHmacSha1 s (.connect data env) outputs t :=
    fun thrown ↦ ⟨_, s, rfl, .of_outputs h rfl (fun o ho ↦ by
      rw [List.mem_singleton.mp ho]
      trivial) hopen⟩
  unfold connect
  split
  · exact hrefused _
  rename_i hcalled
  have hcalled' : s.connectCalled = false := by simpa using hcalled
  -- without a fingerprint DTLS cannot be connected
  have hstart : s.dtlsTransport.state ≠ .connected :=
    fun hstate ↦ hcalled (h.fingerprint (h.dtls.connected hstate).2)
  split
  · exact hrefused _
  rename_i fingerprint dtlsRemoteRole hparameters
  split
  · exact hrefused _
  rename_i dtlsRole hremote
  have hlocal := localRole_cases hremote
  have hfingerprint := algorithm_dtlsParametersOfJson hparameters hnamed
  obtain ⟨good, calls, d, hset, hd, hmove⟩ :=
    DtlsTransport.setRemoteFingerprint_spec hkept h.dtls hfingerprint
  let called : WebRtcTransport := { s with
    dtlsTransport := { s.dtlsTransport with remoteFingerprint := fingerprint }
    dtlsRole := dtlsRole
    connectCalled := true }
  obtain ⟨checked, u, hcall, hkeeps, rfl, hsame, hquiet, heffect⟩ :=
    callDtls_spec (s := called) h.ice hmove
  have hrole : u.dtlsRole = .client ∨ u.dtlsRole = .server := by
    rw [hkeeps.dtlsRole]
    exact hlocal
  obtain ⟨ran, t, hrun, htold, hquiet', hran⟩ := ranIf_spec hkept
    (by rw [hkeeps.iceServer]; exact h.ice) hd hrole good
  have haccepted : (decide (t.dtlsRole = .client) || decide (t.dtlsRole = .server)) = true := by
    rw [hran.dtlsRole]
    rcases hrole with hrole | hrole
    · rw [hrole]
      rfl
    · rw [hrole]
      rfl
  have hice : t.iceServer = s.iceServer := hran.iceServer.trans hkeeps.iceServer
  have hkeptFingerprint : t.dtlsTransport.remoteFingerprint = fingerprint :=
    hran.fingerprint.trans hsame
  refine ⟨checked ++ ran ++ [.acceptConnect t.dtlsRole], t, ?_, ?_⟩
  · change (s.dtlsTransport.setRemoteFingerprint env.ssl fingerprint >>= _) = _
    rw [hset, DtlsTransport.ok_bind]
    change (called.callDtls env (.ok (calls, u.dtlsTransport)) >>= _) = _
    rw [hcall, DtlsTransport.ok_bind]
    cases good with
    | false =>
      cases hrun
      change (msAssert _ _ >>= _) = _
      rw [haccepted, msAssert_true]
      rfl
    | true =>
      change (u.mayRunDtlsTransport env >>= _) = _
      rw [show u.mayRunDtlsTransport env = _ from hrun, DtlsTransport.ok_bind]
      change (msAssert _ _ >>= _) = _
      rw [haccepted, msAssert_true]
      rfl
  refine ⟨⟨by rw [hice]; exact h.ice, hran.dtls, ?_, fun _ ↦ ?_⟩, ?_, fun hstate ↦ ?_,
    Or.inr ⟨hcalled', data, env, dtlsRemoteRole, rfl, by rw [hkeptFingerprint, hparameters]⟩,
    fun o ho ↦ ?_, fun hcreated ht ↦ ?_, fun hcreated horderly _ ↦ ?_⟩
  · rcases hrole with hrole | hrole
    · rw [hran.dtlsRole, hrole]
      exact nofun
    · rw [hran.dtlsRole, hrole]
      exact nofun
  · exact hran.connectCalled.trans hkeeps.connectCalled
  · rintro tuple ⟨stored, hmem, htuple⟩
    rw [hice] at hmem
    exact Or.inl ⟨⟨stored, hmem, htuple⟩, hopen tuple⟩
  · have hu : u.dtlsTransport.state = .connected := by
      rcases hran.same_or with heq | ⟨hbegun, -⟩
      · exact heq ▸ hstate
      · rw [hbegun] at hstate
        cases hstate
    cases heffect with
    | stay hstay _ _ _ => exact Or.inl (hstay.symm.trans hu)
    | connect _ _ _ hverifies _ =>
      refine Or.inr ⟨env, rfl, ?_⟩
      rw [hkeptFingerprint]
      exact hverifies
    | fail _ hfailed _ =>
      rw [hfailed] at hu
      cases hu
    | close _ hclosed _ =>
      rw [hclosed] at hu
      cases hu
  · rcases List.mem_append.mp ho with ho | ho
    · rcases List.mem_append.mp ho with ho | ho
      · exact ((hquiet o ho).congr hice).allows s _
      · exact ((hquiet' o ho).congr hran.iceServer).allows s _
    · rw [List.mem_singleton.mp ho]
      trivial
  · rw [told_accepted htold]
    exact heffect.tells hkeeps (hcreated env rfl) (hran.of_isConnected ht).2
  · rw [told_accepted htold]
    cases hdone : s.dtlsTransport.handshakeDone with
    | true =>
      obtain ⟨hestablished, hsameRole⟩ := horderly data env fingerprint dtlsRemoteRole dtlsRole rfl
        hcalled' hdone hparameters hremote
      have hcalledRole : called.RoleKept := ⟨fun _ _ ↦ hsameRole, fun _ ↦ hsameRole⟩
      obtain ⟨hu, hlast⟩ := heffect.tracks hkeeps (hcreated env rfl) hcalledRole
        fun _ _ ↦ hestablished
      refine ⟨?_, hlast.trans (tracks_run hu.connected hran.same_or hran.established).symm⟩
      cases good with
      | false =>
        rw [hran.nothing rfl]
        exact hu
      | true =>
        have hafter := hran.localRole rfl (by
          rw [iceEstablished_eq, hkeeps.iceServer]
          exact hestablished)
        exact ⟨fun _ _ ↦ hafter, fun _ ↦ hafter⟩
    | false =>
      -- nothing but the fingerprint has changed so far
      rw [DtlsTransport.setRemoteFingerprint_before env.ssl hdone hfingerprint] at hset
      obtain ⟨hgood, hrest⟩ := Prod.mk.inj (Except.ok.inj hset)
      obtain ⟨hcalls, hu⟩ := Prod.mk.inj hrest
      rw [← hcalls, ← hu] at hcall
      obtain ⟨hchecked, hcalled⟩ := Prod.mk.inj (Except.ok.inj hcall)
      have hstate : u.dtlsTransport.state ≠ .connected := by
        rw [← hu]
        exact hstart
      have hnot : t.isConnected = false := by
        by_contra hconnected
        have := (hran.of_isConnected (by simpa using hconnected)).2
        rw [not_isConnected hstate] at this
        cases this
      refine ⟨⟨fun _ ht ↦ hran.localRole hgood.symm (hran.established ▸ ht), fun ht ↦ ?_⟩, ?_⟩
      · rcases hran.same_or with heq | ⟨hbegun, -⟩
        · exact absurd (heq ▸ ht) hstate
        · rw [hbegun] at ht
          cases ht
      · rw [← hchecked, hnot]
        exact not_isConnected hstart

/-- **Every event** is taken without a fault. -/
theorem step_steps (getCrc32 : List Byte → BitVec 32)
    (getHmacSha1 : List Byte → List Byte → List Byte) (h : s.Invariant) (he : e.Fair) :
    ∃ outputs t, s.step getCrc32 getHmacSha1 e = .ok (outputs, t) ∧
      Steps getCrc32 getHmacSha1 s e outputs t := by
  cases e with
  | packetReceived tuple data env =>
    exact onPacketReceived_steps h (he.kept env rfl) tuple (he.bound tuple data env rfl)
  | tcpConnectionClosed tuple env => exact tcpConnectionClosed_steps h (he.kept env rfl) tuple
  | dtlsTimer env => exact dtlsTimer_steps h (he.kept env rfl)
  | connect data env => exact connect_steps h (he.kept env rfl) (he.named data env rfl)
  | restartIce credentials => exact ⟨_, _, rfl, restartIce_steps h credentials⟩
  | sendRtpPacket data env => exact sendEncrypted_steps h env data fun _ ↦ id
  | sendRtcpPacket data env => exact sendEncrypted_steps h env data fun _ ↦ id
  | sendRtcpCompoundPacket data env => exact sendEncrypted_steps h env data fun _ ↦ id
  | sendSctpData data env => exact sendSctpData_steps h (he.kept env rfl) data

end WebRtcTransport

end MediasoupSfu
