import MediasoupSfu.Ice.Credentials

/-!
# What a call of the ICE server does

To its listener, a call of an ICE server selects a tuple at most, establishes the connection, or
ends it (`IceMove`). The tuples in its list are those of requests with valid credentials
(`tuples_processStunPacket`).
-/

namespace MediasoupSfu

/-- Tuples that compare equal are not told apart. -/
theorem TransportTuple.compare_eq_of_compare {a b : TransportTuple} (h : a.compare b = true)
    (c : TransportTuple) : c.compare a = c.compare b := by
  cases a with
  | udp socket addr =>
    cases b with
    | udp socket' addr' =>
      rw [compare, Bool.and_eq_true, decide_eq_true_iff] at h
      obtain ⟨rfl, haddr⟩ := h
      have haddr' : addr = addr' := by
        cases addr <;> cases addr' <;> simp_all [compareAddresses]
      rw [haddr']
    | tcp connection address => cases h
  | tcp connection address =>
    cases b with
    | udp socket addr => cases h
    | tcp connection' address' =>
      obtain rfl : connection = connection' := of_decide_eq_true h
      cases c <;> rfl

namespace IceServer

variable {getHmacSha1 : List Byte → List Byte → List Byte} {s t : IceServer}
  {outputs : List IceOutput} {tuple : TransportTuple} {allocator : Allocator} {packet : StunPacket}

/-- ICE is 'connected' or 'completed'. -/
def established (s : IceServer) : Bool :=
  decide (s.state = .connected) || decide (s.state = .completed)

theorem established_iff : s.established = true ↔ s.state = .connected ∨ s.state = .completed := by
  rw [established, Bool.or_eq_true, decide_eq_true_iff, decide_eq_true_iff]

theorem Active.established (h : s.Active) : s.established = true := established_iff.mpr h.state_or

theorem Invariant.active (h : s.Invariant) (hs : s.established = true) : s.Active := by
  refine (invariant_iff.mp h).resolve_left fun hidle ↦ ?_
  rcases hidle.state_or with hstate | hstate
  · rw [IceServer.established, hstate] at hs
    cases hs
  · rw [IceServer.established, hstate] at hs
    cases hs

/-- A packet is sent or a tuple is selected, nothing else. -/
def Silent (outputs : List IceOutput) : Prop :=
  ∀ o ∈ outputs, (∃ packet tuple, o = .sendStunPacket packet tuple) ∨
    ∃ address, o = .selectedTuple address

theorem silent_nil : Silent [] := fun _ h ↦ absurd h List.not_mem_nil

theorem Silent.append {more : List IceOutput} (h : Silent outputs) (h' : Silent more) :
    Silent (outputs ++ more) :=
  fun o ho ↦ (List.mem_append.mp ho).elim (h o) (h' o)

theorem silent_sendStunPacket (packet : StunPacket) (tuple : TransportTuple) :
    Silent [.sendStunPacket packet tuple] :=
  fun _ ho ↦ Or.inl ⟨packet, tuple, List.mem_singleton.mp ho⟩

/-- **What a call can do.** -/
inductive IceMove (s : IceServer) : List IceOutput → IceServer → Prop
  | stay {outputs : List IceOutput} {t : IceServer} (houtputs : Silent outputs)
      (ht : t.established = s.established)
      (hselected : ∀ address, .selectedTuple address ∈ outputs → t.established = true) :
      IceMove s outputs t
  | connect {before : List IceOutput} {t : IceServer} (hbefore : Silent before)
      (ht : t.state = .connected) : IceMove s (before ++ [.connected]) t
  | complete {before : List IceOutput} {t : IceServer} (hbefore : Silent before)
      (ht : t.state = .completed) : IceMove s (before ++ [.completed]) t
  | disconnect {before : List IceOutput} {t : IceServer} (hbefore : Silent before)
      (hselected : ∀ address, .selectedTuple address ∉ before) (hs : s.established = true)
      (ht : t.state = .disconnected) :
      IceMove s (before ++ [.disconnected]) t

theorem move_nothing (s : IceServer) : IceMove s [] s :=
  .stay silent_nil rfl fun _ h ↦ absurd h List.not_mem_nil

/-- A packet may be sent first. -/
theorem IceMove.after_sendStunPacket (h : IceMove s outputs t) (response : StunPacket)
    (tuple : TransportTuple) : IceMove s (.sendStunPacket response tuple :: outputs) t := by
  have hsend := silent_sendStunPacket response tuple
  cases h with
  | stay houtputs ht hselected =>
    refine .stay (hsend.append houtputs) ht fun address hmem ↦ ?_
    rcases List.mem_cons.mp hmem with heq | hmem
    · cases heq
    · exact hselected address hmem
  | connect hbefore ht => exact .connect (hsend.append hbefore) ht
  | complete hbefore ht => exact .complete (hsend.append hbefore) ht
  | disconnect hbefore hselected hs ht =>
    refine .disconnect (hsend.append hbefore) (fun address hmem ↦ ?_) hs ht
    rcases List.mem_cons.mp hmem with heq | hmem
    · cases heq
    · exact hselected address hmem

/-! ## Handling a tuple -/

theorem of_setSelectedTuple {address : ℕ} (h : s.setSelectedTuple address = (outputs, t)) :
    Silent outputs ∧ t.state = s.state ∧ t.tuples = s.tuples := by
  unfold setSelectedTuple at h
  split at h
  · cases h
    exact ⟨silent_nil, rfl, rfl⟩
  · cases h
    exact ⟨fun _ ho ↦ Or.inr ⟨address, List.mem_singleton.mp ho⟩, rfl, rfl⟩

/-- The tuples of `t` are those of `s`, and perhaps another one. -/
def AddsAtMost (s : IceServer) (tuple : TransportTuple) (t : IceServer) : Prop :=
  ∀ stored ∈ t.tuples, stored ∈ s.tuples ∨ stored.tuple = tuple

theorem addsAtMost_addTuple (s : IceServer) (allocator : Allocator) (tuple : TransportTuple) :
    AddsAtMost s tuple (s.addTuple allocator tuple).2 := by
  intro stored hmem
  rcases List.mem_cons.mp hmem with rfl | hmem
  · exact Or.inr rfl
  · exact Or.inl hmem

/-- The connection is established with this state. -/
theorem move_establish {before : List IceOutput} (hbefore : Silent before) (u : IceServer)
    (hasUseCandidate : Bool) :
    IceMove s (before ++ (u.establish hasUseCandidate).1) (u.establish hasUseCandidate).2 := by
  unfold establish
  cases hasUseCandidate with
  | false => exact .connect hbefore rfl
  | true => exact .complete hbefore rfl

theorem tuples_establish (s : IceServer) (hasUseCandidate : Bool) :
    (s.establish hasUseCandidate).2.tuples = s.tuples := by
  cases hasUseCandidate with
  | false => rfl
  | true => rfl

theorem move_handleFirstTuple {name : String} {hasUseCandidate : Bool}
    (h : s.handleFirstTuple allocator name tuple hasUseCandidate = .ok (outputs, t)) :
    IceMove s outputs t ∧ AddsAtMost s tuple t := by
  unfold handleFirstTuple at h
  obtain ⟨-, -, h⟩ := bind_eq_ok.mp h
  obtain ⟨-, -, h⟩ := bind_eq_ok.mp h
  have hok : (((s.addTuple allocator tuple).2.setSelectedTuple (s.addTuple allocator tuple).1).1 ++
      (((s.addTuple allocator tuple).2.setSelectedTuple
        (s.addTuple allocator tuple).1).2.establish hasUseCandidate).1,
      (((s.addTuple allocator tuple).2.setSelectedTuple
        (s.addTuple allocator tuple).1).2.establish hasUseCandidate).2) = (outputs, t) :=
    Except.ok.inj h
  cases hselect : (s.addTuple allocator tuple).2.setSelectedTuple
      (s.addTuple allocator tuple).1 with
  | mk selected u =>
    obtain ⟨hsilent, -, htuples⟩ := of_setSelectedTuple hselect
    rw [hselect] at hok
    rw [← (Prod.mk.inj hok).1, ← (Prod.mk.inj hok).2]
    refine ⟨move_establish hsilent u hasUseCandidate, fun stored hmem ↦ ?_⟩
    rw [tuples_establish, htuples] at hmem
    exact addsAtMost_addTuple s allocator tuple stored hmem

/-- What is done in states 'connected' and 'completed', before the state may change. -/
theorem next_handleNextTuple {name : String} {hasUseCandidate : Bool}
    (h : s.handleNextTuple allocator name tuple hasUseCandidate = .ok (outputs, t)) :
    Silent outputs ∧ t.state = s.state ∧ AddsAtMost s tuple t := by
  unfold handleNextTuple at h
  obtain ⟨-, -, h⟩ := bind_eq_ok.mp h
  obtain ⟨-, -, h⟩ := bind_eq_ok.mp h
  obtain ⟨⟨stored, u⟩, hstore, h⟩ := bind_eq_ok.mp h
  have hu : u.state = s.state ∧ AddsAtMost s tuple u := by
    unfold storeTuple at hstore
    obtain ⟨found, -, hstore⟩ := bind_eq_ok.mp hstore
    cases found with
    | some address =>
      cases hstore
      exact ⟨rfl, fun _ hmem ↦ Or.inl hmem⟩
    | none =>
      cases hstore
      exact ⟨rfl, addsAtMost_addTuple s allocator tuple⟩
  cases hasUseCandidate with
  | false =>
    cases h
    exact ⟨silent_nil, hu⟩
  | true =>
    obtain ⟨hsilent, hstate, htuples⟩ := of_setSelectedTuple (Except.ok.inj h)
    exact ⟨hsilent, hstate.trans hu.1, fun stored' hmem ↦ hu.2 stored' (htuples ▸ hmem)⟩

/-- **`HandleTuple`**. -/
theorem move_handleTuple {hasUseCandidate : Bool}
    (h : s.handleTuple allocator tuple hasUseCandidate = .ok (outputs, t)) :
    IceMove s outputs t ∧ AddsAtMost s tuple t := by
  unfold handleTuple at h
  split at h
  · exact move_handleFirstTuple h
  · exact move_handleFirstTuple h
  · rename_i hstate
    have hs : s.established = true := established_iff.mpr (Or.inl hstate)
    obtain ⟨⟨selected, u⟩, hnext, h⟩ := bind_eq_ok.mp h
    obtain ⟨hsilent, hu, hadds⟩ := next_handleNextTuple hnext
    cases hasUseCandidate with
    | false =>
      cases h
      have ht : t.established = true := established_iff.mpr (Or.inl (hu.trans hstate))
      exact ⟨.stay hsilent (ht.trans hs.symm) fun _ _ ↦ ht, hadds⟩
    | true =>
      cases h
      exact ⟨move_establish hsilent u true, hadds⟩
  · rename_i hstate
    have hs : s.established = true := established_iff.mpr (Or.inr hstate)
    obtain ⟨hsilent, hu, hadds⟩ := next_handleNextTuple h
    have ht : t.established = true := established_iff.mpr (Or.inr (hu.trans hstate))
    exact ⟨.stay hsilent (ht.trans hs.symm) fun _ _ ↦ ht, hadds⟩

/-! ## Calls -/

/-- The packet is a request with the credentials of the server, or with the old ones while it keeps
them. -/
def Admits (getHmacSha1 : List Byte → List Byte → List Byte) (s : IceServer)
    (packet : StunPacket) : Prop :=
  packet.AuthenticatesWith getHmacSha1 s.credentials.1 ∨
    (s.oldPassword ≠ [] ∧ packet.AuthenticatesWith getHmacSha1 s.credentials.2)

theorem move_reply {errorCode : BitVec 16}
    (h : s.reply packet tuple errorCode = .ok (outputs, t)) :
    IceMove s outputs t ∧ t.tuples = s.tuples := by
  unfold reply at h
  obtain ⟨response, -, h⟩ := bind_eq_ok.mp h
  cases h
  exact ⟨(move_nothing s).after_sendStunPacket response tuple, rfl⟩

theorem move_acceptRequest (h : s.acceptRequest allocator packet tuple = .ok (outputs, t)) :
    IceMove s outputs t ∧ AddsAtMost s tuple t := by
  unfold acceptRequest at h
  split at h
  · obtain ⟨hmove, htuples⟩ := move_reply h
    exact ⟨hmove, fun stored hmem ↦ Or.inl (htuples ▸ hmem)⟩
  · obtain ⟨response, -, h⟩ := bind_eq_ok.mp h
    obtain ⟨⟨handled, u⟩, hhandle, h⟩ := bind_eq_ok.mp h
    cases h
    obtain ⟨hmove, hadds⟩ := move_handleTuple hhandle
    exact ⟨hmove.after_sendStunPacket _ _, hadds⟩

/-- Forgetting the old credentials changes neither the tuples nor the state. -/
theorem move_forgetOldCredentials (h : IceMove s.forgetOldCredentials outputs t) :
    IceMove s outputs t := by
  have hsame : s.forgetOldCredentials.established = s.established := by
    unfold forgetOldCredentials
    split
    · rfl
    · rfl
  cases h with
  | stay houtputs ht hselected => exact .stay houtputs (ht.trans hsame) hselected
  | connect hbefore ht => exact .connect hbefore ht
  | complete hbefore ht => exact .complete hbefore ht
  | disconnect hbefore hselected hs ht =>
    exact .disconnect hbefore hselected (hsame.symm.trans hs) ht

theorem tuples_forgetOldCredentials (s : IceServer) :
    s.forgetOldCredentials.tuples = s.tuples := by
  unfold forgetOldCredentials
  split
  · rfl
  · rfl

/-- **`ProcessStunPacket`** stores a tuple only for a request with valid credentials. -/
theorem move_processStunPacket
    (h : s.processStunPacket getHmacSha1 allocator packet tuple = .ok (outputs, t)) :
    IceMove s outputs t ∧
      ∀ stored ∈ t.tuples, stored ∈ s.tuples ∨
        (stored.tuple = tuple ∧ Admits getHmacSha1 s packet) := by
  have hreply : ∀ {errorCode}, s.reply packet tuple errorCode = .ok (outputs, t) →
      IceMove s outputs t ∧ ∀ stored ∈ t.tuples, stored ∈ s.tuples ∨
        (stored.tuple = tuple ∧ Admits getHmacSha1 s packet) := by
    intro errorCode hreply
    obtain ⟨hmove, htuples⟩ := move_reply hreply
    exact ⟨hmove, fun stored hmem ↦ Or.inl (htuples ▸ hmem)⟩
  have hignored : (.ok ([], s) : Except Fault (List IceOutput × IceServer)) = .ok (outputs, t) →
      IceMove s outputs t ∧ ∀ stored ∈ t.tuples, stored ∈ s.tuples ∨
        (stored.tuple = tuple ∧ Admits getHmacSha1 s packet) := by
    intro hok
    cases hok
    exact ⟨move_nothing s, fun stored hmem ↦ Or.inl hmem⟩
  have hreject : (if packet.klass = .request then s.reply packet tuple 400 else .ok ([], s)) =
      .ok (outputs, t) → IceMove s outputs t ∧ ∀ stored ∈ t.tuples, stored ∈ s.tuples ∨
        (stored.tuple = tuple ∧ Admits getHmacSha1 s packet) := by
    intro hif
    split at hif
    · exact hreply hif
    · exact hignored hif
  unfold processStunPacket at h
  split at h
  · exact hreject h
  rename_i hmethod
  split at h
  · exact hreject h
  rename_i hfingerprint
  split at h
  · rename_i hklass
    unfold processRequest at h
    split at h
    · exact hreply h
    rename_i hcomplete
    have hchecked : packet.Checked := by
      rw [not_or, not_or, Bool.not_eq_true, Option.isNone_eq_false_iff] at hcomplete
      refine ⟨not_not.mp hmethod, hklass, ?_, ?_, hcomplete.2.1, hcomplete.2.2⟩
      · by_contra hnone
        refine hfingerprint ⟨hnone, ?_⟩
        rw [hklass]
        exact nofun
      · exact Option.isSome_iff_ne_none.mp hcomplete.1
    split at h
    · rename_i hok
      obtain ⟨hmove, hadds⟩ := move_acceptRequest h
      refine ⟨move_forgetOldCredentials hmove, fun stored hmem ↦ ?_⟩
      rw [← tuples_forgetOldCredentials s]
      exact (hadds stored hmem).imp_right fun htuple ↦ ⟨htuple, Or.inl ⟨hchecked, hok⟩⟩
    · split at h
      · rename_i hold
        obtain ⟨hmove, hadds⟩ := move_acceptRequest h
        exact ⟨hmove, fun stored hmem ↦ (hadds stored hmem).imp_right fun htuple ↦
          ⟨htuple, Or.inr ⟨hold.2.1, hchecked, hold.2.2⟩⟩⟩
      · exact hreply h
    · exact hreply h
  · exact hignored h
  · exact hignored h
  · exact hignored h

/-- **`RemoveTuple`**. The tuples that compare equal are gone. -/
theorem move_removeTuple (hs : s.Invariant) (tuple : TransportTuple) :
    IceMove s (s.removeTuple tuple).1 (s.removeTuple tuple).2 ∧
      ∀ stored ∈ (s.removeTuple tuple).2.tuples,
        stored ∈ s.tuples ∧ stored.tuple.compare tuple = false := by
  unfold removeTuple
  cases hfind : s.tuples.find? fun stored ↦ stored.tuple.compare tuple with
  | none =>
    refine ⟨move_nothing s, fun stored hmem ↦ ⟨hmem, ?_⟩⟩
    simpa using List.find?_eq_none.mp hfind stored hmem
  | some removed =>
    have hremoved := List.mem_of_find?_eq_some hfind
    have hactive : s.Active := by
      refine (invariant_iff.mp hs).resolve_left fun hidle ↦ ?_
      rw [hidle.tuples_eq] at hremoved
      cases hremoved
    have hestablished := hactive.established
    -- no other tuple compares equal to one that does
    have hkept : ∀ stored ∈ s.tuples.eraseP fun stored ↦ stored.tuple.compare tuple,
        stored ∈ s.tuples ∧ stored.tuple.compare tuple = false := by
      intro stored hstored
      have htrue : removed.tuple.compare tuple = true := by simpa using List.find?_some hfind
      obtain ⟨before, after, htuples, herase⟩ := eraseP_of_find? hfind
      have hdistinct := hs.distinct
      rw [htuples, List.pairwise_append, List.pairwise_cons] at hdistinct
      rw [herase] at hstored
      rw [htuples, ← TransportTuple.compare_eq_of_compare htrue]
      rcases List.mem_append.mp hstored with hbefore | hafter
      · exact ⟨List.mem_append_left _ hbefore,
          hdistinct.2.2 stored hbefore removed List.mem_cons_self⟩
      · refine ⟨List.mem_append_right _ (List.mem_cons_of_mem _ hafter), ?_⟩
        rw [TransportTuple.compare_comm]
        exact hdistinct.2.1.1 stored hafter
    dsimp only
    split
    · refine ⟨.stay silent_nil rfl fun _ h ↦ absurd h List.not_mem_nil, hkept⟩
    · split
      · rename_i first rest hrest
        obtain ⟨hsilent, hstate, htuples⟩ := of_setSelectedTuple (Prod.eta (setSelectedTuple
          { s with
            tuples := s.tuples.eraseP fun stored ↦ stored.tuple.compare tuple
            selectedTuple := none } first.address)).symm
        have hsame := congrArg (fun state ↦ decide (state = IceState.connected) ||
          decide (state = IceState.completed)) hstate
        refine ⟨.stay hsilent hsame fun _ _ ↦ hsame.trans hestablished, fun stored hmem ↦ ?_⟩
        rw [htuples] at hmem
        exact hkept stored hmem
      · exact ⟨.disconnect silent_nil (fun _ ↦ List.not_mem_nil) hestablished rfl, hkept⟩

/-- **`ForceSelectedTuple`**. -/
theorem move_forceSelectedTuple (h : s.forceSelectedTuple tuple = .ok (outputs, t)) :
    Silent outputs ∧ t.state = s.state ∧ t.tuples = s.tuples := by
  unfold forceSelectedTuple at h
  obtain ⟨-, -, h⟩ := bind_eq_ok.mp h
  obtain ⟨found, -, h⟩ := bind_eq_ok.mp h
  cases found with
  | some address => exact of_setSelectedTuple (Except.ok.inj h)
  | none => cases h

end IceServer

end MediasoupSfu
