import MediasoupSfu.Ice.Invariant

/-!
# Changing the ICE credentials

An ICE restart gives the server new credentials. The remote peer may not know them yet, so the old
ones stay valid until a request comes with the new ones. The server keeps both kinds in four
separate members, and takes an empty old password for "no old credentials".

`CredentialLog` is what is meant: the current credentials, the ones before the last restart, and
whether the current ones have been used since. It is computed from the events alone.
`success_authenticated` compares the server with it.
-/

namespace MediasoupSfu

/-- A username fragment and a password. -/
structure IceCredentials where
  usernameFragment : List Byte
  password : List Byte
  deriving DecidableEq, Repr

/-- What can happen to an ICE server whose credentials are changed by ICE restarts. -/
inductive IceSessionEvent where
  /-- A `TRANSPORT_RESTART_ICE` request: `SetUsernameFragment` and `SetPassword`. -/
  | restart (credentials : IceCredentials)
  | processStunPacket (allocator : Allocator) (packet : StunPacket) (tuple : TransportTuple)
  | removeTuple (tuple : TransportTuple)
  | forceSelectedTuple (tuple : TransportTuple)

namespace StunPacket

/-- A binding request that is complete enough for its credentials to be checked. -/
def Checked (p : StunPacket) : Prop :=
  p.method = binding ∧ p.klass = .request ∧ p.hasFingerprint = true ∧ p.messageIntegrity ≠ none ∧
    p.priority ≠ 0 ∧ p.username ≠ []

instance (p : StunPacket) : Decidable p.Checked := by
  unfold Checked
  infer_instance

/-- A binding request that authenticates with the credentials. -/
def AuthenticatesWith (getHmacSha1 : List Byte → List Byte → List Byte) (p : StunPacket)
    (credentials : IceCredentials) : Prop :=
  p.Checked ∧
    p.checkAuthentication getHmacSha1 credentials.usernameFragment credentials.password = .ok

instance (getHmacSha1 : List Byte → List Byte → List Byte) (p : StunPacket)
    (credentials : IceCredentials) : Decidable (p.AuthenticatesWith getHmacSha1 credentials) := by
  unfold AuthenticatesWith
  infer_instance

end StunPacket

/-! ## The log of the credentials -/

/-- The credentials of a session, as its events determine them. -/
structure CredentialLog where
  current : IceCredentials
  /-- The credentials before the last restart. -/
  previous : Option IceCredentials := none
  /-- A request has authenticated with the current credentials since the last restart. -/
  used : Bool := false

namespace CredentialLog

/-- The log after one more event. -/
def advance (getHmacSha1 : List Byte → List Byte → List Byte) (log : CredentialLog) :
    IceSessionEvent → CredentialLog
  | .restart credentials => { current := credentials, previous := some log.current }
  | .processStunPacket _ packet _ =>
    if packet.AuthenticatesWith getHmacSha1 log.current then { log with used := true } else log
  | .removeTuple _ | .forceSelectedTuple _ => log

/-- The log of a session. -/
def ofEvents (getHmacSha1 : List Byte → List Byte → List Byte) (credentials : IceCredentials)
    (events : List IceSessionEvent) : CredentialLog :=
  events.foldl (advance getHmacSha1) { current := credentials }

/-- The credentials under which a request is to be accepted: the current ones, or else the previous
ones as long as the current ones have not been used. -/
def Accepts (getHmacSha1 : List Byte → List Byte → List Byte) (log : CredentialLog)
    (packet : StunPacket) (credentials : IceCredentials) : Prop :=
  packet.AuthenticatesWith getHmacSha1 credentials ∧
    (credentials = log.current ∨
      (¬packet.AuthenticatesWith getHmacSha1 log.current ∧ log.previous = some credentials ∧
        log.used = false))

end CredentialLog

namespace IceServer

variable {getHmacSha1 : List Byte → List Byte → List Byte} {s t : IceServer}
  {outputs : List IceOutput} {tuple : TransportTuple} {allocator : Allocator} {packet : StunPacket}

/-- One event of a session. -/
def sessionStep (getHmacSha1 : List Byte → List Byte → List Byte) (s : IceServer) :
    IceSessionEvent → Except Fault (List IceOutput × IceServer)
  | .restart credentials =>
    .ok ([], (s.setUsernameFragment credentials.usernameFragment).setPassword credentials.password)
  | .processStunPacket allocator packet tuple =>
    s.step getHmacSha1 (.processStunPacket allocator packet tuple)
  | .removeTuple tuple => s.step getHmacSha1 (.removeTuple tuple)
  | .forceSelectedTuple tuple => s.step getHmacSha1 (.forceSelectedTuple tuple)

/-! ## Handling tuples -/

/-- The four members for credentials. -/
def credentials (s : IceServer) : IceCredentials × IceCredentials :=
  (⟨s.usernameFragment, s.password⟩, ⟨s.oldUsernameFragment, s.oldPassword⟩)

/-- Neither are the credentials changed nor is a STUN packet sent. -/
structure Quiet (s : IceServer) (outputs : List IceOutput) (t : IceServer) : Prop where
  credentials_eq : t.credentials = s.credentials
  silent : ∀ response tuple, IceOutput.sendStunPacket response tuple ∉ outputs

theorem quiet_refl (s : IceServer) : Quiet s [] s := ⟨rfl, fun _ _ ↦ List.not_mem_nil⟩

theorem Quiet.append {u : IceServer} {more : List IceOutput} (h : Quiet s outputs t)
    (h' : Quiet t more u) : Quiet s (outputs ++ more) u where
  credentials_eq := h'.credentials_eq.trans h.credentials_eq
  silent response tuple hmem :=
    (List.mem_append.mp hmem).elim (h.silent response tuple) (h'.silent response tuple)

theorem quiet_setSelectedTuple {address : ℕ} (h : s.setSelectedTuple address = (outputs, t)) :
    Quiet s outputs t := by
  unfold setSelectedTuple at h
  split at h
  · cases h
    exact quiet_refl s
  · cases h
    exact ⟨rfl, by simp⟩

theorem quiet_establish (s : IceServer) (hasUseCandidate : Bool) :
    Quiet s (s.establish hasUseCandidate).1 (s.establish hasUseCandidate).2 := by
  unfold establish
  split
  · exact ⟨rfl, by simp⟩
  · exact ⟨rfl, by simp⟩

theorem quiet_addTuple (s : IceServer) (allocator : Allocator) (tuple : TransportTuple) :
    Quiet s [] (s.addTuple allocator tuple).2 := ⟨rfl, fun _ _ ↦ List.not_mem_nil⟩

theorem quiet_handleFirstTuple {name : String} {hasUseCandidate : Bool}
    (h : s.handleFirstTuple allocator name tuple hasUseCandidate = .ok (outputs, t)) :
    Quiet s outputs t := by
  unfold handleFirstTuple at h
  obtain ⟨-, -, h⟩ := bind_eq_ok.mp h
  obtain ⟨-, -, h⟩ := bind_eq_ok.mp h
  cases h
  exact (quiet_addTuple s allocator tuple).append
    ((quiet_setSelectedTuple rfl).append (quiet_establish _ hasUseCandidate))

theorem quiet_handleNextTuple {name : String} {hasUseCandidate : Bool}
    (h : s.handleNextTuple allocator name tuple hasUseCandidate = .ok (outputs, t)) :
    Quiet s outputs t := by
  unfold handleNextTuple at h
  obtain ⟨-, -, h⟩ := bind_eq_ok.mp h
  obtain ⟨-, -, h⟩ := bind_eq_ok.mp h
  obtain ⟨⟨stored, u⟩, hstore, h⟩ := bind_eq_ok.mp h
  have hu : Quiet s [] u := by
    unfold storeTuple at hstore
    obtain ⟨found, -, hstore⟩ := bind_eq_ok.mp hstore
    cases found with
    | some address =>
      cases hstore
      exact quiet_refl s
    | none =>
      cases hstore
      exact quiet_addTuple s allocator tuple
  cases hasUseCandidate with
  | false =>
    cases h
    exact hu
  | true => exact hu.append (quiet_setSelectedTuple (Except.ok.inj h))

/-- **Handling a tuple** has nothing to do with credentials. -/
theorem quiet_handleTuple {hasUseCandidate : Bool}
    (h : s.handleTuple allocator tuple hasUseCandidate = .ok (outputs, t)) : Quiet s outputs t := by
  unfold handleTuple at h
  split at h
  · exact quiet_handleFirstTuple h
  · exact quiet_handleFirstTuple h
  · obtain ⟨⟨selected, u⟩, hnext, h⟩ := bind_eq_ok.mp h
    cases hasUseCandidate with
    | false =>
      cases h
      exact quiet_handleNextTuple hnext
    | true =>
      cases h
      exact (quiet_handleNextTuple hnext).append (quiet_establish u true)
  · exact quiet_handleNextTuple h

theorem quiet_removeTuple (h : s.removeTuple tuple = (outputs, t)) : Quiet s outputs t := by
  unfold removeTuple at h
  split at h
  · cases h
    exact quiet_refl s
  · dsimp only at h
    split at h
    · cases h
      exact ⟨rfl, fun _ _ ↦ List.not_mem_nil⟩
    · split at h
      · have hselect := quiet_setSelectedTuple h
        exact ⟨hselect.credentials_eq, hselect.silent⟩
      · cases h
        exact ⟨rfl, by simp⟩

theorem quiet_forceSelectedTuple (h : s.forceSelectedTuple tuple = .ok (outputs, t)) :
    Quiet s outputs t := by
  unfold forceSelectedTuple at h
  obtain ⟨-, -, h⟩ := bind_eq_ok.mp h
  obtain ⟨found, -, h⟩ := bind_eq_ok.mp h
  cases found with
  | some address => exact quiet_setSelectedTuple (Except.ok.inj h)
  | none => cases h

/-! ## Answering requests -/

/-- Every success response is authenticated with the password. -/
def SuccessUnder (outputs : List IceOutput) (password : List Byte) : Prop :=
  ∀ response tuple, .sendStunPacket response tuple ∈ outputs → response.klass = .successResponse →
    response.password = password

/-- No success response is sent. -/
def NoSuccess (outputs : List IceOutput) : Prop :=
  ∀ response tuple, .sendStunPacket response tuple ∈ outputs → response.klass ≠ .successResponse

theorem noSuccess_reply {errorCode : BitVec 16}
    (h : s.reply packet tuple errorCode = .ok (outputs, t)) :
    NoSuccess outputs ∧ t.credentials = s.credentials := by
  unfold reply StunPacket.createErrorResponse at h
  obtain ⟨response, hresponse, h⟩ := bind_eq_ok.mp h
  obtain ⟨-, -, hresponse⟩ := bind_eq_ok.mp hresponse
  cases hresponse
  cases h
  refine ⟨fun response tuple hmem ↦ ?_, rfl⟩
  cases List.mem_singleton.mp hmem
  exact nofun

theorem successUnder_acceptRequest
    (h : s.acceptRequest allocator packet tuple = .ok (outputs, t)) :
    SuccessUnder outputs (if s.oldPassword = [] then s.password else s.oldPassword) ∧
      t.credentials = s.credentials := by
  unfold acceptRequest at h
  split at h
  · obtain ⟨hno, hsame⟩ := noSuccess_reply h
    exact ⟨fun response tuple hmem hklass ↦ absurd hklass (hno response tuple hmem), hsame⟩
  · unfold StunPacket.createSuccessResponse at h
    obtain ⟨response, hresponse, h⟩ := bind_eq_ok.mp h
    obtain ⟨-, -, hresponse⟩ := bind_eq_ok.mp hresponse
    obtain ⟨⟨handled, u⟩, hhandle, h⟩ := bind_eq_ok.mp h
    cases hresponse
    cases h
    have hquiet := quiet_handleTuple hhandle
    refine ⟨fun response' tuple' hmem _ ↦ ?_, hquiet.credentials_eq⟩
    rcases List.mem_cons.mp hmem with heq | hmem
    · cases heq
      rfl
    · exact absurd hmem (hquiet.silent response' tuple')

/-- **What a STUN packet does.** A request with the current credentials makes the server forget the
old ones. Any other packet leaves them alone, and a success response to it is one under the old
password. -/
def Answers (getHmacSha1 : List Byte → List Byte → List Byte) (s : IceServer) (packet : StunPacket)
    (outputs : List IceOutput) (t : IceServer) : Prop :=
  (packet.AuthenticatesWith getHmacSha1 s.credentials.1 ∧ SuccessUnder outputs s.password ∧
      t.credentials = s.forgetOldCredentials.credentials) ∨
    (¬packet.AuthenticatesWith getHmacSha1 s.credentials.1 ∧ t.credentials = s.credentials ∧
      (NoSuccess outputs ∨
        (s.oldPassword ≠ [] ∧ packet.AuthenticatesWith getHmacSha1 s.credentials.2 ∧
          SuccessUnder outputs s.oldPassword)))

/-- A packet without the current credentials that gets an error or no answer. -/
theorem answers_refused (hnot : ¬packet.AuthenticatesWith getHmacSha1 s.credentials.1)
    (hanswer : NoSuccess outputs ∧ t.credentials = s.credentials) :
    Answers getHmacSha1 s packet outputs t :=
  Or.inr ⟨hnot, hanswer.2, Or.inl hanswer.1⟩

/-- The password of the response to a request with the current credentials. -/
theorem password_forgetOldCredentials (s : IceServer) :
    (if s.forgetOldCredentials.oldPassword = [] then s.forgetOldCredentials.password
      else s.forgetOldCredentials.oldPassword) = s.password := by
  unfold forgetOldCredentials
  split
  · rfl
  · rename_i hempty
    rw [if_pos (not_not.mp hempty)]

theorem answers_checked (hchecked : packet.Checked)
    (h : s.processRequest getHmacSha1 allocator packet tuple = .ok (outputs, t)) :
    Answers getHmacSha1 s packet outputs t := by
  have hcomplete : ¬(packet.messageIntegrity.isNone ∨ packet.priority = 0 ∨
      packet.username = []) := by
    obtain ⟨-, -, -, hintegrity, hpriority, husername⟩ := hchecked
    rintro (hnone | hzero | hempty)
    · exact hintegrity (Option.isNone_iff_eq_none.mp hnone)
    · exact hpriority hzero
    · exact husername hempty
  -- a check with another result is one that has failed
  have hfailed : ∀ result, packet.checkAuthentication getHmacSha1 s.usernameFragment s.password =
      result → result ≠ .ok → ¬packet.AuthenticatesWith getHmacSha1 s.credentials.1 := by
    intro result hresult hne hauth
    exact hne (hresult.symm.trans hauth.2)
  rw [processRequest, if_neg hcomplete] at h
  split at h
  · rename_i hok
    obtain ⟨hsuccess, hsame⟩ := successUnder_acceptRequest h
    rw [password_forgetOldCredentials] at hsuccess
    exact Or.inl ⟨⟨hchecked, hok⟩, hsuccess, hsame⟩
  · rename_i hunauthorized
    have hnot := hfailed _ hunauthorized nofun
    split at h
    · rename_i hold
      obtain ⟨hsuccess, hsame⟩ := successUnder_acceptRequest h
      rw [if_neg hold.2.1] at hsuccess
      exact Or.inr ⟨hnot, hsame, Or.inr ⟨hold.2.1, ⟨hchecked, hold.2.2⟩, hsuccess⟩⟩
    · exact answers_refused hnot (noSuccess_reply h)
  · rename_i hbad
    exact answers_refused (hfailed _ hbad nofun) (noSuccess_reply h)

theorem answers_unchecked (hchecked : ¬packet.Checked)
    (h : s.processStunPacket getHmacSha1 allocator packet tuple = .ok (outputs, t)) :
    NoSuccess outputs ∧ t.credentials = s.credentials := by
  have hignored : (.ok ([], s) : Except Fault (List IceOutput × IceServer)) = .ok (outputs, t) →
      NoSuccess outputs ∧ t.credentials = s.credentials := by
    intro hok
    cases hok
    exact ⟨fun _ _ hmem ↦ absurd hmem List.not_mem_nil, rfl⟩
  have hreject : (if packet.klass = .request then s.reply packet tuple 400 else .ok ([], s)) =
      .ok (outputs, t) → NoSuccess outputs ∧ t.credentials = s.credentials := by
    intro hok
    split at hok
    · exact noSuccess_reply hok
    · exact hignored hok
  unfold processStunPacket at h
  split at h
  · exact hreject h
  · rename_i hmethod
    split at h
    · exact hreject h
    · rename_i hfingerprint
      split at h
      · rename_i hklass
        rw [processRequest, if_pos] at h
        · exact noSuccess_reply h
        · by_contra hcomplete
          refine hchecked ⟨not_not.mp hmethod, hklass, ?_, fun hnone ↦ hcomplete (Or.inl ?_),
            fun hzero ↦ hcomplete (Or.inr (Or.inl hzero)),
            fun hempty ↦ hcomplete (Or.inr (Or.inr hempty))⟩
          · by_contra hnot
            exact hfingerprint ⟨hnot, by rw [hklass]; exact nofun⟩
          · rw [hnone]
            rfl
      · exact hignored h
      · exact hignored h
      · exact hignored h

theorem answers_processStunPacket
    (h : s.processStunPacket getHmacSha1 allocator packet tuple = .ok (outputs, t)) :
    Answers getHmacSha1 s packet outputs t := by
  by_cases hchecked : packet.Checked
  · have hrequest := hchecked
    obtain ⟨hmethod, hklass, hfingerprint, -⟩ := hrequest
    rw [processStunPacket, if_neg (not_not.mpr hmethod), if_neg fun hnot ↦ hnot.1 hfingerprint,
      hklass] at h
    exact answers_checked hchecked h
  · exact answers_refused (fun hauth ↦ hchecked hauth.1) (answers_unchecked hchecked h)

/-! ## Tuples of accepted requests -/

/-- The state, the tuples and the selected tuple. -/
def connection (s : IceServer) : IceState × List StoredTuple × Option ℕ :=
  (s.state, s.tuples, s.selectedTuple)

/-- A success response is sent. -/
def SendsSuccess (outputs : List IceOutput) : Prop :=
  ∃ response tuple, .sendStunPacket response tuple ∈ outputs ∧ response.klass = .successResponse

theorem connection_reply {errorCode : BitVec 16}
    (h : s.reply packet tuple errorCode = .ok (outputs, t)) : t.connection = s.connection := by
  unfold reply at h
  obtain ⟨response, -, h⟩ := bind_eq_ok.mp h
  cases h
  rfl

theorem connection_forgetOldCredentials (s : IceServer) :
    s.forgetOldCredentials.connection = s.connection := by
  unfold forgetOldCredentials
  split
  · rfl
  · rfl

theorem connection_acceptRequest (h : s.acceptRequest allocator packet tuple = .ok (outputs, t)) :
    t.connection = s.connection ∨ SendsSuccess outputs := by
  unfold acceptRequest at h
  split at h
  · exact Or.inl (connection_reply h)
  · unfold StunPacket.createSuccessResponse at h
    obtain ⟨response, hresponse, h⟩ := bind_eq_ok.mp h
    obtain ⟨-, -, hresponse⟩ := bind_eq_ok.mp hresponse
    obtain ⟨handled, -, h⟩ := bind_eq_ok.mp h
    cases hresponse
    cases h
    exact Or.inr ⟨_, tuple, List.mem_cons_self, rfl⟩

theorem connection_processRequest
    (h : s.processRequest getHmacSha1 allocator packet tuple = .ok (outputs, t)) :
    t.connection = s.connection ∨ SendsSuccess outputs := by
  unfold processRequest at h
  split at h
  · exact Or.inl (connection_reply h)
  · split at h
    · rw [← connection_forgetOldCredentials s]
      exact connection_acceptRequest h
    · split at h
      · exact connection_acceptRequest h
      · exact Or.inl (connection_reply h)
    · exact Or.inl (connection_reply h)

/-- **The tuple of a packet** is handled only if a success response is sent. -/
theorem connection_processStunPacket
    (h : s.processStunPacket getHmacSha1 allocator packet tuple = .ok (outputs, t)) :
    t.connection = s.connection ∨ SendsSuccess outputs := by
  have hignored : (.ok ([], s) : Except Fault (List IceOutput × IceServer)) = .ok (outputs, t) →
      t.connection = s.connection := by
    intro hok
    cases hok
    rfl
  have hreject : (if packet.klass = .request then s.reply packet tuple 400 else .ok ([], s)) =
      .ok (outputs, t) → t.connection = s.connection := by
    intro hok
    split at hok
    · exact connection_reply hok
    · exact hignored hok
  unfold processStunPacket at h
  split at h
  · exact Or.inl (hreject h)
  · split at h
    · exact Or.inl (hreject h)
    · split at h
      · exact connection_processRequest h
      · exact Or.inl (hignored h)
      · exact Or.inl (hignored h)
      · exact Or.inl (hignored h)

/-! ## Sessions -/

/-- The server keeps the credentials of the log, and old ones only as long as they may be
accepted. -/
structure Tracks (log : CredentialLog) (s : IceServer) : Prop where
  current_eq : s.credentials.1 = log.current
  previous_eq : s.oldPassword ≠ [] → log.previous = some s.credentials.2 ∧ log.used = false

theorem Tracks.of_credentials_eq {log : CredentialLog} (h : Tracks log s)
    (heq : t.credentials = s.credentials) : Tracks log t := by
  have hold : t.oldPassword = s.oldPassword := congrArg (fun c ↦ c.2.password) heq
  refine ⟨by rw [heq, h.current_eq], fun hne ↦ ?_⟩
  rw [hold] at hne
  rw [heq]
  exact h.previous_eq hne

/-- **One event.** -/
theorem Tracks.step {log : CredentialLog} (h : Tracks log s) {e : IceSessionEvent}
    (hstep : s.sessionStep getHmacSha1 e = .ok (outputs, t)) :
    Tracks (log.advance getHmacSha1 e) t := by
  cases e with
  | restart credentials =>
    cases hstep
    exact ⟨rfl, fun _ ↦ ⟨congrArg some h.current_eq.symm, rfl⟩⟩
  | processStunPacket allocator packet tuple =>
    change Tracks (if packet.AuthenticatesWith getHmacSha1 log.current then _ else _) t
    rcases answers_processStunPacket hstep with ⟨hauth, -, hsame⟩ | ⟨hnot, hsame, -⟩
    · rw [h.current_eq] at hauth
      rw [if_pos hauth]
      refine Tracks.of_credentials_eq ?_ hsame
      unfold forgetOldCredentials
      split
      · exact ⟨h.current_eq, fun hne ↦ absurd rfl hne⟩
      · rename_i hempty
        exact ⟨h.current_eq, fun hne ↦ absurd hne hempty⟩
    · rw [h.current_eq] at hnot
      rw [if_neg hnot]
      exact h.of_credentials_eq hsame
  | removeTuple tuple =>
    exact h.of_credentials_eq (quiet_removeTuple (Except.ok.inj hstep)).credentials_eq
  | forceSelectedTuple tuple =>
    exact h.of_credentials_eq (quiet_forceSelectedTuple hstep).credentials_eq

/-- A success response answers a request that the log accepts. -/
theorem Tracks.success {log : CredentialLog} (h : Tracks log s) {e : IceSessionEvent}
    (hstep : s.sessionStep getHmacSha1 e = .ok (outputs, t)) {response : StunPacket}
    (hmem : .sendStunPacket response tuple ∈ outputs) (hklass : response.klass = .successResponse) :
    ∃ allocator packet source, e = .processStunPacket allocator packet source ∧
      ∃ credentials, log.Accepts getHmacSha1 packet credentials ∧
        response.password = credentials.password := by
  cases e with
  | restart credentials =>
    cases hstep
    cases hmem
  | processStunPacket allocator packet source =>
    refine ⟨allocator, packet, source, rfl, ?_⟩
    rcases answers_processStunPacket hstep with ⟨hauth, hsuccess, -⟩ | ⟨hnot, -, hanswer⟩
    · rw [h.current_eq] at hauth
      refine ⟨log.current, ⟨hauth, Or.inl rfl⟩, ?_⟩
      rw [hsuccess response tuple hmem hklass, ← h.current_eq]
      rfl
    · rcases hanswer with hno | ⟨hne, hauth, hsuccess⟩
      · exact absurd hklass (hno response tuple hmem)
      · rw [h.current_eq] at hnot
        exact ⟨s.credentials.2, ⟨hauth, Or.inr ⟨hnot, h.previous_eq hne⟩⟩,
          hsuccess response tuple hmem hklass⟩
  | removeTuple source =>
    exact absurd hmem ((quiet_removeTuple (Except.ok.inj hstep)).silent response tuple)
  | forceSelectedTuple source =>
    exact absurd hmem ((quiet_forceSelectedTuple hstep).silent response tuple)

/-- A step of a session. -/
abbrev IceSessionRecord := Run.Record IceServer IceSessionEvent (List IceOutput)

/-- **Credential rollover.** In every session a success response answers a request that
authenticates with the current credentials or, as long as these have not been used, with those
before the last restart, and the response is authenticated with the password of the same
credentials. A packet that gets no success response leaves the tuples alone. -/
theorem success_authenticated (getHmacSha1 : List Byte → List Byte → List Byte)
    (credentials : IceCredentials) (events : List IceSessionEvent) (records : List IceSessionRecord)
    (htrace : Run.trace (sessionStep getHmacSha1)
      (init credentials.usernameFragment credentials.password) events = .ok records) :
    ∀ pre r post, records = pre ++ r :: post →
      (∀ response tuple, .sendStunPacket response tuple ∈ r.output →
        response.klass = .successResponse →
        ∃ allocator packet source, r.event = .processStunPacket allocator packet source ∧
          ∃ accepted,
            (CredentialLog.ofEvents getHmacSha1 credentials (pre.map Run.Record.event)).Accepts
              getHmacSha1 packet accepted ∧ response.password = accepted.password) ∧
      (∀ allocator packet source, r.event = .processStunPacket allocator packet source →
        r.after.connection = r.before.connection ∨ SendsSuccess r.output) := by
  intro pre r post hsplit
  let Inv (hist : List IceSessionRecord) (s : IceServer) : Prop :=
    Tracks (CredentialLog.ofEvents getHmacSha1 credentials (hist.map Run.Record.event)) s
  have hinv : ∀ (hist : List IceSessionRecord) (r : IceSessionRecord), Inv hist r.before →
      r.before.sessionStep getHmacSha1 r.event = .ok (r.output, r.after) →
      Inv (hist ++ [r]) r.after := by
    intro hist r h hstep
    change Tracks (CredentialLog.ofEvents getHmacSha1 credentials
      ((hist ++ [r]).map Run.Record.event)) r.after
    rw [CredentialLog.ofEvents, List.map_append, List.foldl_append]
    exact h.step hstep
  have hstart : Inv [] (init credentials.usernameFragment credentials.password) :=
    ⟨rfl, fun hne ↦ absurd rfl hne⟩
  obtain ⟨htracks, hstep⟩ :=
    Run.trace_invariant hinv events [] _ records hstart htrace pre r post hsplit
  refine ⟨fun response tuple hmem hklass ↦ htracks.success hstep hmem hklass, ?_⟩
  intro allocator packet source hevent
  rw [hevent] at hstep
  exact connection_processStunPacket hstep

/-- After a restart a request with the old credentials is answered under the old password. -/
theorem success_authenticated_old : ∃ accepted,
    (CredentialLog.ofEvents nominatingHmac ⟨[117], [112]⟩ [.restart ⟨[118], [113]⟩]).Accepts
      nominatingHmac nominatingRequest accepted ∧ [112] = accepted.password := by
  let restarted : IceServer := {
    usernameFragment := [118]
    password := [113]
    oldUsernameFragment := [117]
    oldPassword := [112] }
  let answered : IceServer := { restarted with
    state := .completed
    tuples := [⟨1, .udp 7 (.inet 40000 0x01020304)⟩]
    selectedTuple := some 1 }
  let response : StunPacket := {
    klass := .successResponse
    method := StunPacket.binding
    transactionId := 0x0102030405060708090A0B0C
    xorMappedAddress := some (.inet 40000 0x01020304)
    password := [112] }
  let tuple : TransportTuple := .udp 7 (.inet 40000 0x01020304)
  let request : IceSessionEvent := .processStunPacket topAllocator nominatingRequest tuple
  let outputs : List IceOutput := [.sendStunPacket response tuple, .selectedTuple 1, .completed]
  have hstep : restarted.sessionStep nominatingHmac request = .ok (outputs, answered) := by
    decide +kernel
  have htrace : Run.trace (sessionStep nominatingHmac) (init [117] [112])
      [.restart ⟨[118], [113]⟩, request] =
      .ok [⟨init [117] [112], .restart ⟨[118], [113]⟩, [], restarted⟩,
        ⟨restarted, request, outputs, answered⟩] :=
    Run.trace_cons_ok rfl (Run.trace_cons_ok hstep rfl)
  obtain ⟨hsuccess, -⟩ := success_authenticated nominatingHmac ⟨[117], [112]⟩ _ _ htrace
    [_] _ [] rfl
  obtain ⟨_, _, _, hevent, hanswer⟩ := hsuccess response tuple List.mem_cons_self rfl
  cases hevent
  exact hanswer

end IceServer

end MediasoupSfu
