import MediasoupSfu.Ice.Moves
import MediasoupSfu.Transport.WebRtc

/-!
# The calls of the WebRTC transport

The ICE server, the DTLS transport and the SRTP sessions change each other only through the
listeners. What comes of a call of the ICE server is an `IceEffect`, what comes of a call of the
DTLS transport a `DtlsEffect`, and neither gives the parent a packet.
-/

namespace MediasoupSfu

namespace WebRtcTransport

open DtlsTransport (Plain Verifies)

variable {s t : WebRtcTransport} {env : WebRtcSurroundings}

/-- What the parent is told: it is connected, or it is disconnected. -/
def told (outputs : List WebRtcOutput) : List Bool :=
  outputs.filterMap fun
    | .connected => some true
    | .disconnected => some false
    | _ => none

theorem told_append (l l' : List WebRtcOutput) : told (l ++ l') = told l ++ told l' :=
  List.filterMap_append

/-- Nothing is sent but to the selected tuple, and no packet is encrypted or decrypted. -/
def Quiet (s : WebRtcTransport) : WebRtcOutput → Prop
  | .sendDtlsData tuple _ => s.getSelectedTuple = .ok tuple
  | .sendSrtpData _ _ | .receiveRtpPacket _ | .receiveRtcpPacket _ _ => False
  | _ => True

theorem Quiet.congr {o : WebRtcOutput} (h : s.Quiet o) (hice : t.iceServer = s.iceServer) :
    t.Quiet o := by
  cases o with
  | sendDtlsData tuple data =>
    change t.getSelectedTuple = .ok tuple
    rw [getSelectedTuple, hice]
    exact h
  | sendSrtpData tuple data => exact h
  | receiveRtpPacket packet => exact h
  | receiveRtcpPacket heap first => exact h
  | _ => trivial

/-- **The invariant**, between two events. -/
structure Invariant (s : WebRtcTransport) : Prop where
  ice : s.iceServer.Invariant
  dtls : s.dtlsTransport.Invariant
  role : s.dtlsRole ≠ .none
  /-- The fingerprint comes with the "connect" request. -/
  fingerprint : s.dtlsTransport.remoteFingerprint.algorithm ≠ .none → s.connectCalled = true

theorem iceEstablished_eq (s : WebRtcTransport) : s.iceEstablished = s.iceServer.established := rfl

/-- An ICE server that is established has a selected tuple, and it is one of the list. -/
theorem exists_selectedTuple (hice : s.iceServer.Invariant) (hs : s.iceEstablished = true) :
    ∃ stored ∈ s.iceServer.tuples, s.getSelectedTuple = .ok stored.tuple := by
  have hactive := hice.active hs
  obtain ⟨stored, hmem, hselected⟩ := hactive.selected
  refine ⟨stored, hmem, ?_⟩
  rw [getSelectedTuple, hselected]
  exact IceServer.tupleAt_eq hactive.separate.live hmem

theorem callListener_append {σ α β : Type} (handle : σ → α → Except Fault (List β × σ))
    {s t u : σ} {calls more : List α} {outputs outputs' : List β}
    (h : callListener handle s calls = .ok (outputs, t))
    (h' : callListener handle t more = .ok (outputs', u)) :
    callListener handle s (calls ++ more) = .ok (outputs ++ outputs', u) := by
  induction calls generalizing s outputs with
  | nil =>
    cases h
    exact h'
  | cons call calls ih =>
    rw [callListener] at h
    obtain ⟨⟨first, s'⟩, hfirst, h⟩ := bind_eq_ok.mp h
    obtain ⟨⟨rest, t'⟩, hrest, h⟩ := bind_eq_ok.mp h
    cases h
    rw [List.cons_append, callListener, hfirst, List.append_assoc]
    change (callListener handle s' (calls ++ more) >>= fun _ ↦ _) = _
    rw [ih hrest]
    rfl

theorem callListener_singleton {σ α β : Type} {handle : σ → α → Except Fault (List β × σ)}
    {s t : σ} {call : α} {outputs : List β} (h : handle s call = .ok (outputs, t)) :
    callListener handle s [call] = .ok (outputs, t) := by
  rw [callListener, h]
  change Except.ok (outputs ++ [], t) = _
  rw [List.append_nil]

/-! ## Calls of the DTLS transport -/

/-- Data is sent to the selected tuple, or given to the parent. -/
theorem callListener_plain (env : WebRtcSurroundings) (hice : s.iceServer.Invariant)
    {calls : List DtlsOutput} (hcalls : Plain calls) :
    ∃ outputs, callListener (onDtlsTransport env) s calls = .ok (outputs, s) ∧
      told outputs = [] ∧ ∀ o ∈ outputs, s.Quiet o := by
  induction calls with
  | nil => exact ⟨[], rfl, rfl, fun _ h ↦ absurd h List.not_mem_nil⟩
  | cons call calls ih =>
    obtain ⟨rest, hrest, htold, hquiet⟩ := ih fun o ho ↦ hcalls o (List.mem_cons_of_mem _ ho)
    have hfirst : ∃ first, onDtlsTransport env s call = .ok (first, s) ∧ told first = [] ∧
        ∀ o ∈ first, s.Quiet o := by
      rcases hcalls call List.mem_cons_self with ⟨data, rfl⟩ | ⟨data, rfl⟩
      · change ∃ first, s.onDtlsTransportSendData data = _ ∧ _
        unfold onDtlsTransportSendData
        split
        · exact ⟨[], rfl, rfl, fun _ h ↦ absurd h List.not_mem_nil⟩
        · rename_i hselected
          have hestablished : s.iceEstablished = true := by
            refine ((IceServer.invariant_iff.mp hice).resolve_left fun hidle ↦ ?_).established
            exact hselected hidle.selectedTuple_eq
          obtain ⟨stored, -, hstored⟩ := exists_selectedTuple hice hestablished
          rw [hstored]
          refine ⟨[.sendDtlsData stored.tuple data], rfl, rfl, fun o ho ↦ ?_⟩
          rw [List.mem_singleton.mp ho]
          exact hstored
      · refine ⟨[.receiveSctpData data], rfl, rfl, fun o ho ↦ ?_⟩
        rw [List.mem_singleton.mp ho]
        trivial
    obtain ⟨first, hfirst, htold', hquiet'⟩ := hfirst
    refine ⟨first ++ rest, ?_, by rw [told_append, htold', htold]; rfl, fun o ho ↦ ?_⟩
    · exact callListener_append _ (callListener_singleton hfirst) hrest
    · exact (List.mem_append.mp ho).elim (hquiet' o) (hquiet o)

/-- What comes of a call of the DTLS transport, other than `Run`. -/
inductive DtlsEffect (env : WebRtcSurroundings) (s : WebRtcTransport) (outputs : List WebRtcOutput)
    (t : WebRtcTransport) : Prop
  | stay (hstate : t.dtlsTransport.state = s.dtlsTransport.state)
      (hrole : t.dtlsTransport.localRole = s.dtlsTransport.localRole)
      (hrecv : t.srtpRecvSession = s.srtpRecvSession) (htold : told outputs = [])
  | connect (hs : s.dtlsTransport.state = .connecting) (ht : t.dtlsTransport.state = .connected)
      (hrole : t.dtlsTransport.localRole = s.dtlsTransport.localRole)
      (hverifies : Verifies env.ssl s.dtlsTransport.remoteFingerprint)
      (htold : env.srtp.recvCreated = true → told outputs = [true])
  | fail (hs : s.dtlsTransport.state = .connecting) (ht : t.dtlsTransport.state = .failed)
      (htold : told outputs = [])
  | close (hs : s.dtlsTransport.state = .connected) (ht : t.dtlsTransport.state = .closed)
      (htold : told outputs = [false])

/-- The members that the DTLS transport does not change. -/
structure KeepsIce (s t : WebRtcTransport) : Prop where
  iceServer : t.iceServer = s.iceServer
  dtlsRole : t.dtlsRole = s.dtlsRole
  connectCalled : t.connectCalled = s.connectCalled

theorem make_eq {suite : CryptoSuite} {key : List Byte}
    (hkey : key.length = suite.masterLengths.1 + suite.masterLengths.2) (created : Bool) :
    SrtpSession.make suite key created = .ok (if created then some ⟨suite, key⟩ else none) := by
  have hlength : key.length = suite.cipherKeyLen := by
    rw [hkey]
    cases suite <;> rfl
  unfold SrtpSession.make
  rw [decide_eq_true hlength]
  rfl

/-- The sessions are made of the keys. -/
theorem onDtlsTransportConnected_spec (s : WebRtcTransport) (env : WebRtcSurroundings)
    {suite : CryptoSuite} {srtpLocalKey srtpRemoteKey : List Byte}
    (hlocal : srtpLocalKey.length = suite.masterLengths.1 + suite.masterLengths.2)
    (hremote : srtpRemoteKey.length = suite.masterLengths.1 + suite.masterLengths.2) :
    ∃ outputs t, s.onDtlsTransportConnected env suite srtpLocalKey srtpRemoteKey =
        .ok (outputs, t) ∧ KeepsIce s t ∧ t.dtlsTransport = s.dtlsTransport ∧
      (∀ o ∈ outputs, s.Quiet o) ∧ (env.srtp.recvCreated = true → told outputs = [true]) := by
  unfold onDtlsTransportConnected
  rw [make_eq hlocal, make_eq hremote]
  cases env.srtp.recvCreated with
  | true =>
    refine ⟨_, _, rfl, ⟨rfl, rfl, rfl⟩, rfl, fun o ho ↦ ?_, fun _ ↦ rfl⟩
    rcases List.mem_cons.mp ho with rfl | ho
    · trivial
    · rw [List.mem_singleton.mp ho]
      trivial
  | false => exact ⟨_, _, rfl, ⟨rfl, rfl, rfl⟩, rfl, fun _ h ↦ absurd h List.not_mem_nil, nofun⟩

theorem told_plain_around {before middle after : List WebRtcOutput} (hbefore : told before = [])
    (hafter : told after = []) : told (before ++ (middle ++ after)) = told middle := by
  rw [told_append, told_append, hbefore, hafter, List.nil_append, List.append_nil]

/-- **A call of the DTLS transport.** -/
theorem callDtls_spec (hice : s.iceServer.Invariant) {calls : List DtlsOutput} {d : DtlsTransport}
    (hmove : DtlsTransport.DtlsMove env.ssl s.dtlsTransport calls d) :
    ∃ outputs t, s.callDtls env (.ok (calls, d)) = .ok (outputs, t) ∧ KeepsIce s t ∧
      t.dtlsTransport = d ∧ d.remoteFingerprint = s.dtlsTransport.remoteFingerprint ∧
      (∀ o ∈ outputs, s.Quiet o) ∧ DtlsEffect env s outputs t := by
  have hquiet : ∀ {o : WebRtcOutput}, { s with dtlsTransport := d }.Quiet o → s.Quiet o :=
    fun h ↦ h.congr rfl
  cases hmove with
  | stay houtputs hstate hrole hfingerprint =>
    obtain ⟨outputs, hcalls, htold, hall⟩ := callListener_plain env
      (s := { s with dtlsTransport := d }) hice houtputs
    exact ⟨outputs, _, hcalls, ⟨rfl, rfl, rfl⟩, rfl, hfingerprint, fun o ho ↦ hquiet (hall o ho),
      .stay hstate hrole rfl htold⟩
  | @connect before after suite srtpLocalKey srtpRemoteKey remoteCert _ hbefore hafter hs ht hrole
      hfingerprint hverifies hlocal hremote =>
    obtain ⟨outputs, hcalls, htold, hall⟩ := callListener_plain env
      (s := { s with dtlsTransport := d }) hice hbefore
    obtain ⟨middle, u, hconnected, hkeeps, hdtls, hmiddle, htoldMiddle⟩ :=
      onDtlsTransportConnected_spec { s with dtlsTransport := d } env hlocal hremote
    obtain ⟨rest, hrest, htoldRest, hallRest⟩ := callListener_plain env (s := u)
      (by rw [hkeeps.iceServer]; exact hice) hafter
    have hsingle : callListener (onDtlsTransport env) { s with dtlsTransport := d }
        [.connected suite srtpLocalKey srtpRemoteKey remoteCert] = .ok (middle, u) :=
      callListener_singleton hconnected
    refine ⟨outputs ++ (middle ++ rest), u, callListener_append _ hcalls
        (callListener_append _ hsingle hrest), ⟨hkeeps.iceServer, hkeeps.dtlsRole,
        hkeeps.connectCalled⟩, hdtls, hfingerprint, fun o ho ↦ ?_, .connect hs ?_ ?_ hverifies ?_⟩
    · rcases List.mem_append.mp ho with ho | ho
      · exact hquiet (hall o ho)
      rcases List.mem_append.mp ho with ho | ho
      · exact hquiet (hmiddle o ho)
      · exact hquiet ((hallRest o ho).congr hkeeps.iceServer.symm)
    · rw [hdtls]
      exact ht
    · rw [hdtls]
      exact hrole
    · exact fun hcreated ↦ (told_plain_around htold htoldRest).trans (htoldMiddle hcreated)
  | fail hbefore hs ht hfingerprint =>
    obtain ⟨outputs, hcalls, htold, hall⟩ := callListener_plain env
      (s := { s with dtlsTransport := d }) hice hbefore
    have hfailed : callListener (onDtlsTransport env) { s with dtlsTransport := d } [.failed] =
        .ok ([.dtlsStateChange .failed], { s with dtlsTransport := d }) :=
      callListener_singleton rfl
    refine ⟨outputs ++ [.dtlsStateChange .failed], { s with dtlsTransport := d },
      callListener_append _ hcalls hfailed, ⟨rfl, rfl, rfl⟩, rfl, hfingerprint, fun o ho ↦ ?_,
      .fail hs ht ?_⟩
    · rcases List.mem_append.mp ho with ho | ho
      · exact hquiet (hall o ho)
      · rw [List.mem_singleton.mp ho]
        trivial
    · rw [told_append, htold]
      rfl
  | close hbefore hs ht hfingerprint =>
    obtain ⟨outputs, hcalls, htold, hall⟩ := callListener_plain env
      (s := { s with dtlsTransport := d }) hice hbefore
    have hclosed : callListener (onDtlsTransport env) { s with dtlsTransport := d } [.closed] =
        .ok ([.dtlsStateChange .closed, .disconnected], { s with dtlsTransport := d }) :=
      callListener_singleton rfl
    refine ⟨outputs ++ [.dtlsStateChange .closed, .disconnected], { s with dtlsTransport := d },
      callListener_append _ hcalls hclosed, ⟨rfl, rfl, rfl⟩, rfl, hfingerprint, fun o ho ↦ ?_,
      .close hs ht ?_⟩
    · rcases List.mem_append.mp ho with ho | ho
      · exact hquiet (hall o ho)
      · rcases List.mem_cons.mp ho with rfl | ho
        · trivial
        · rw [List.mem_singleton.mp ho]
          trivial
    · rw [told_append, htold]
      rfl

/-! ## Running the DTLS transport -/

/-- A handshake begins in the given role, unless the DTLS transport has it. -/
theorem callDtls_run (hkept : env.ssl.Kept) (hice : s.iceServer.Invariant)
    (hdtls : s.dtlsTransport.Invariant) {localRole : DtlsRole}
    (hlocal : localRole = .client ∨ localRole = .server) :
    ∃ outputs d, s.callDtls env (s.dtlsTransport.run env.ssl localRole) =
        .ok (outputs, { s with dtlsTransport := d }) ∧ told outputs = [] ∧
      (∀ o ∈ outputs, s.Quiet o) ∧ d.Invariant ∧ d.localRole = localRole ∧
      d.remoteFingerprint = s.dtlsTransport.remoteFingerprint ∧
      (d = s.dtlsTransport ∨ d.state = .connecting) := by
  rcases DtlsTransport.run_spec hkept s.dtlsTransport hlocal with ⟨hsame, hrun⟩ | ⟨-, hrun⟩
  · rw [hrun]
    exact ⟨[], s.dtlsTransport, rfl, rfl, fun _ h ↦ absurd h List.not_mem_nil, hdtls, hsame.symm,
      rfl, Or.inl rfl⟩
  · obtain ⟨calls, d, hrun, hcalls, hd, hstate, hrole, hfingerprint⟩ := hrun
    obtain ⟨outputs, houtputs, htold, hquiet⟩ := callListener_plain env
      (s := { s with dtlsTransport := d }) hice hcalls
    have hfirst : callListener (onDtlsTransport env) { s with dtlsTransport := d } [.connecting] =
        .ok ([.dtlsStateChange .connecting], { s with dtlsTransport := d }) :=
      callListener_singleton rfl
    rw [hrun]
    refine ⟨_, d, callListener_append _ hfirst houtputs, htold, fun o ho ↦ ?_, hd, hrole,
      hfingerprint, Or.inr hstate⟩
    rcases List.mem_cons.mp ho with rfl | ho
    · trivial
    · exact (hquiet o ho).congr rfl

/-- What `MayRunDtlsTransport` does. -/
structure Ran (s t : WebRtcTransport) : Prop where
  iceServer : t.iceServer = s.iceServer
  connectCalled : t.connectCalled = s.connectCalled
  srtpRecvSession : t.srtpRecvSession = s.srtpRecvSession
  fingerprint : t.dtlsTransport.remoteFingerprint = s.dtlsTransport.remoteFingerprint
  dtls : t.dtlsTransport.Invariant
  /-- The role is set once it is needed. -/
  dtlsRole : t.dtlsRole = s.dtlsRole ∨ (s.dtlsRole = .auto ∧ t.dtlsRole = .server)
  same_or : t.dtlsTransport = s.dtlsTransport ∨
    (t.dtlsTransport.state = .connecting ∧ s.dtlsTransport.localRole ≠ s.dtlsRole)
  localRole : s.iceEstablished = true → t.dtlsTransport.localRole = t.dtlsRole

theorem Ran.role (h : Ran s t) (hrole : s.dtlsRole ≠ .none) : t.dtlsRole ≠ .none := by
  rcases h.dtlsRole with heq | ⟨-, heq⟩
  · rwa [heq]
  · rw [heq]
    exact nofun

/-- `MayRunDtlsTransport` **runs the DTLS transport in the role of the transport**, once ICE is
established. -/
theorem mayRunDtlsTransport_spec (hkept : env.ssl.Kept) (hice : s.iceServer.Invariant)
    (hdtls : s.dtlsTransport.Invariant) (hrole : s.dtlsRole ≠ .none) :
    ∃ outputs t, s.mayRunDtlsTransport env = .ok (outputs, t) ∧ told outputs = [] ∧
      (∀ o ∈ outputs, s.Quiet o) ∧ Ran s t := by
  have hnothing : s.iceEstablished = false → ∃ outputs t,
      (.ok ([], s) : Except Fault (List WebRtcOutput × WebRtcTransport)) = .ok (outputs, t) ∧
      told outputs = [] ∧ (∀ o ∈ outputs, s.Quiet o) ∧ Ran s t :=
    fun hs ↦ ⟨[], s, rfl, rfl, fun _ h ↦ absurd h List.not_mem_nil, rfl, rfl, rfl, rfl, hdtls,
      Or.inl rfl, Or.inl rfl, fun h ↦ absurd h (by rw [hs]; exact nofun)⟩
  have hruns : s.dtlsTransport.localRole ≠ s.dtlsRole →
      s.dtlsRole = .client ∨ s.dtlsRole = .server →
      ∃ outputs t, s.callDtls env (s.dtlsTransport.run env.ssl s.dtlsRole) = .ok (outputs, t) ∧
        told outputs = [] ∧ (∀ o ∈ outputs, s.Quiet o) ∧ Ran s t := by
    intro hdiffers hlocal
    obtain ⟨outputs, d, hcall, htold, hquiet, hd, hd', hfingerprint, hsame⟩ :=
      callDtls_run hkept hice hdtls hlocal
    exact ⟨outputs, _, hcall, htold, hquiet, rfl, rfl, rfl, hfingerprint, hd, Or.inl rfl,
      hsame.imp_right fun h ↦ ⟨h, hdiffers⟩, fun _ ↦ hd'⟩
  unfold mayRunDtlsTransport
  split
  · rename_i hsame
    exact ⟨[], s, rfl, rfl, fun _ h ↦ absurd h List.not_mem_nil, rfl, rfl, rfl, rfl, hdtls,
      Or.inl rfl, Or.inl rfl, fun _ ↦ hsame⟩
  rename_i hdiffers
  cases hestablished : s.iceEstablished with
  | false =>
    split
    · exact hnothing hestablished
    · exact hnothing hestablished
    · exact hnothing hestablished
    · rename_i hnone
      exact absurd hnone hrole
  | true =>
    split
    · rename_i hauto
      obtain ⟨outputs, d, hcall, htold, hquiet, hd, hd', hfingerprint, hsame⟩ :=
        callDtls_run (s := { s with dtlsRole := .server }) hkept hice hdtls (Or.inr rfl)
      refine ⟨outputs, _, hcall, htold, fun o ho ↦ (hquiet o ho).congr rfl, rfl, rfl, rfl,
        hfingerprint, hd, Or.inr ⟨hauto, rfl⟩, ?_, fun _ ↦ hd'⟩
      exact hsame.imp_right fun h ↦ ⟨h, hdiffers⟩
    · rename_i hclient
      have hcall := hruns hdiffers (Or.inl hclient)
      rwa [hclient] at hcall
    · rename_i hserver
      have hcall := hruns hdiffers (Or.inr hserver)
      rwa [hserver] at hcall
    · rename_i hnone
      exact absurd hnone hrole

/-! ## Calls of the ICE server -/

/-- What comes of a call of the ICE server. -/
inductive IceEffect (s : WebRtcTransport) (outputs : List WebRtcOutput) (t : WebRtcTransport) : Prop
  | stay (hdtls : t.dtlsTransport = s.dtlsTransport) (hrole : t.dtlsRole = s.dtlsRole)
      (ht : t.iceEstablished = s.iceEstablished) (htold : told outputs = [])
  | establish (ht : t.iceEstablished = true)
      (hlocal : t.dtlsTransport.localRole = t.dtlsRole)
      (hdtls : t.dtlsTransport = s.dtlsTransport ∨
        (t.dtlsTransport.state = .connecting ∧ s.dtlsTransport.localRole ≠ s.dtlsRole))
      (htold : told outputs = if t.dtlsTransport.state = .connected then [true] else [])
  | disconnect (hdtls : t.dtlsTransport = s.dtlsTransport) (hrole : t.dtlsRole = s.dtlsRole)
      (ht : t.iceEstablished = false)
      (htold : told outputs = if s.dtlsTransport.state = .connected then [false] else [])

/-- The members that the ICE server does not change, and the invariant of those that it does. -/
structure KeepsSrtp (s t : WebRtcTransport) : Prop where
  connectCalled : t.connectCalled = s.connectCalled
  srtpRecvSession : t.srtpRecvSession = s.srtpRecvSession
  fingerprint : t.dtlsTransport.remoteFingerprint = s.dtlsTransport.remoteFingerprint
  dtls : t.dtlsTransport.Invariant
  role : t.dtlsRole ≠ .none

/-- A packet is sent, and a tuple selected, without more ado. -/
theorem callListener_silent (env : WebRtcSurroundings) (hice : s.iceServer.Invariant)
    {calls : List IceOutput} (hcalls : IceServer.Silent calls)
    (hselected : ∀ address, .selectedTuple address ∈ calls → s.iceEstablished = true) :
    ∃ outputs, callListener (onIceServer env) s calls = .ok (outputs, s) ∧ told outputs = [] ∧
      ∀ o ∈ outputs, s.Quiet o := by
  induction calls with
  | nil => exact ⟨[], rfl, rfl, fun _ h ↦ absurd h List.not_mem_nil⟩
  | cons call calls ih =>
    obtain ⟨rest, hrest, htold, hquiet⟩ := ih (fun o ho ↦ hcalls o (List.mem_cons_of_mem _ ho))
      fun address hmem ↦ hselected address (List.mem_cons_of_mem _ hmem)
    obtain ⟨first, hfirst, htold', hquiet'⟩ : ∃ first, onIceServer env s call = .ok ([first], s) ∧
        told [first] = [] ∧ s.Quiet first := by
      rcases hcalls call List.mem_cons_self with ⟨packet, tuple, rfl⟩ | ⟨address, rfl⟩
      · exact ⟨_, rfl, rfl, trivial⟩
      · obtain ⟨stored, -, hstored⟩ :=
          exists_selectedTuple hice (hselected address List.mem_cons_self)
        refine ⟨.iceSelectedTupleChange stored.tuple, ?_, rfl, trivial⟩
        change (s.getSelectedTuple >>= fun _ ↦ _) = _
        rw [hstored]
        rfl
    refine ⟨[first] ++ rest, callListener_append _ (callListener_singleton hfirst) hrest, ?_,
      fun o ho ↦ ?_⟩
    · rw [told_append, htold', htold]
      rfl
    · rcases List.mem_cons.mp ho with rfl | ho
      · exact hquiet'
      · exact hquiet o ho

/-- `OnIceServerConnected` and `OnIceServerCompleted`. -/
theorem onIceServerEstablished_spec (hkept : env.ssl.Kept) (hice : s.iceServer.Invariant)
    (hdtls : s.dtlsTransport.Invariant) (hrole : s.dtlsRole ≠ .none) (state : IceState) :
    ∃ outputs t, s.onIceServerEstablished env state = .ok (outputs, t) ∧
      (told outputs = if t.dtlsTransport.state = .connected then [true] else []) ∧
      (∀ o ∈ outputs, s.Quiet o) ∧ Ran s t := by
  obtain ⟨ran, t, hrun, htold, hquiet, ht⟩ := mayRunDtlsTransport_spec hkept hice hdtls hrole
  unfold onIceServerEstablished
  rw [hrun]
  refine ⟨_, t, rfl, ?_, fun o ho ↦ ?_, ht⟩
  · rw [told_append, told, List.filterMap_cons_none rfl]
    change told ran ++ _ = _
    rw [htold]
    split
    · rfl
    · rfl
  · rcases List.mem_append.mp ho with ho | ho
    · rcases List.mem_cons.mp ho with rfl | ho
      · trivial
      · exact hquiet o ho
    · split at ho
      · rw [List.mem_singleton.mp ho]
        trivial
      · cases ho

/-- **A call of the ICE server.** -/
theorem callIce_spec (hkept : env.ssl.Kept) (h : s.Invariant) {calls : List IceOutput}
    {i : IceServer} (hi : i.Invariant) (hmove : IceServer.IceMove s.iceServer calls i) :
    ∃ outputs t, s.callIce env (.ok (calls, i)) = .ok (outputs, t) ∧ t.iceServer = i ∧
      KeepsSrtp s t ∧ (∀ o ∈ outputs, t.Quiet o) ∧ IceEffect s outputs t := by
  have hestablished : ∀ {before : List IceOutput} {call : IceOutput} (state : IceState),
      IceServer.Silent before → i.established = true →
      onIceServer env { s with iceServer := i } call =
        { s with iceServer := i }.onIceServerEstablished env state →
      ∃ outputs t, s.callIce env (.ok (before ++ [call], i)) = .ok (outputs, t) ∧
        t.iceServer = i ∧ KeepsSrtp s t ∧ (∀ o ∈ outputs, t.Quiet o) ∧ IceEffect s outputs t := by
    intro before call state hbefore hstate heq
    obtain ⟨first, hfirst, htold, hquiet⟩ := callListener_silent env
      (s := { s with iceServer := i }) hi hbefore fun _ _ ↦ hstate
    obtain ⟨more, t, hcall, htold', hquiet', ht⟩ := onIceServerEstablished_spec
      (s := { s with iceServer := i }) hkept hi h.dtls h.role state
    refine ⟨first ++ more, t,
      callListener_append _ hfirst (callListener_singleton (heq.trans hcall)), ht.iceServer,
      ⟨ht.connectCalled, ht.srtpRecvSession, ht.fingerprint, ht.dtls, ht.role h.role⟩,
      fun o ho ↦ ?_, .establish ?_ (ht.localRole hstate) ht.same_or ?_⟩
    · rcases List.mem_append.mp ho with ho | ho
      · exact (hquiet o ho).congr ht.iceServer
      · exact (hquiet' o ho).congr ht.iceServer
    · rw [iceEstablished_eq, ht.iceServer]
      exact hstate
    · rw [told_append, htold, htold']
      rfl
  cases hmove with
  | stay houtputs ht hselected =>
    obtain ⟨outputs, hcalls, htold, hquiet⟩ := callListener_silent env
      (s := { s with iceServer := i }) hi houtputs hselected
    exact ⟨outputs, _, hcalls, rfl, ⟨rfl, rfl, rfl, h.dtls, h.role⟩, hquiet, .stay rfl rfl ht htold⟩
  | connect hbefore ht =>
    exact hestablished .connected hbefore (IceServer.established_iff.mpr (Or.inl ht)) rfl
  | complete hbefore ht =>
    exact hestablished .completed hbefore (IceServer.established_iff.mpr (Or.inr ht)) rfl
  | disconnect hbefore hselected hs ht =>
    obtain ⟨first, hfirst, htold, hquiet⟩ := callListener_silent env
      (s := { s with iceServer := i }) hi hbefore fun address hmem ↦
        absurd hmem (hselected address)
    have hlast : callListener (onIceServer env) { s with iceServer := i } [.disconnected] =
        .ok (.iceStateChange .disconnected ::
          if s.dtlsTransport.state = .connected then [.disconnected] else [],
          { s with iceServer := i }) := callListener_singleton rfl
    refine ⟨_, { s with iceServer := i }, callListener_append _ hfirst hlast, rfl,
      ⟨rfl, rfl, rfl, h.dtls, h.role⟩, fun o ho ↦ ?_, .disconnect rfl rfl ?_ ?_⟩
    · rcases List.mem_append.mp ho with ho | ho
      · exact hquiet o ho
      · rcases List.mem_cons.mp ho with rfl | ho
        · trivial
        · split at ho
          · rw [List.mem_singleton.mp ho]
            trivial
          · cases ho
    · change (decide (i.state = .connected) || decide (i.state = .completed)) = false
      rw [ht]
      rfl
    · rw [told_append, htold, told, List.filterMap_cons_none rfl]
      split
      · rfl
      · rfl

end WebRtcTransport

end MediasoupSfu
