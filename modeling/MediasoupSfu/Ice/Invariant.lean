import Mathlib.Data.List.Nodup
import MediasoupSfu.Ice.Server

/-!
# The invariant of the ICE server

An ICE server is idle, with no tuples, or active, with one of its tuples selected, and the state
tells which. `Invariant` says this in terms of the members, `invariant_iff` in terms of the two
kinds.
-/

namespace MediasoupSfu

namespace IceServer

variable {s t : IceServer} {tuple : TransportTuple} {allocator : Allocator}

/-- **The invariant**, between two calls. -/
structure Invariant (s : IceServer) : Prop where
  empty_iff : s.tuples = [] ↔ s.selectedTuple = none
  selected_iff : s.selectedTuple = none ↔ s.state = .new ∨ s.state = .disconnected
  /-- The selected tuple is one of the list. -/
  selected_mem : ∀ address, s.selectedTuple = some address →
    ∃ stored ∈ s.tuples, stored.address = address
  /-- No two stored tuples compare equal. -/
  distinct : s.tuples.Pairwise fun a b ↦ a.tuple.compare b.tuple = false
  /-- Each node has its own memory. -/
  live : (s.tuples.map StoredTuple.address).Nodup

/-- A server without tuples. -/
structure Idle (s : IceServer) : Prop where
  tuples_eq : s.tuples = []
  selectedTuple_eq : s.selectedTuple = none
  state_or : s.state = .new ∨ s.state = .disconnected

/-- The stored tuples are told apart by `Compare` and by their addresses. -/
structure Separate (tuples : List StoredTuple) : Prop where
  distinct : tuples.Pairwise fun a b ↦ a.tuple.compare b.tuple = false
  live : (tuples.map StoredTuple.address).Nodup

/-- A server with a selected tuple. -/
structure Active (s : IceServer) : Prop where
  selected : ∃ stored ∈ s.tuples, s.selectedTuple = some stored.address
  state_or : s.state = .connected ∨ s.state = .completed
  separate : Separate s.tuples

theorem Idle.invariant (h : s.Idle) : s.Invariant where
  empty_iff := ⟨fun _ ↦ h.selectedTuple_eq, fun _ ↦ h.tuples_eq⟩
  selected_iff := ⟨fun _ ↦ h.state_or, fun _ ↦ h.selectedTuple_eq⟩
  selected_mem address hselected := by
    rw [h.selectedTuple_eq] at hselected
    cases hselected
  distinct := by
    rw [h.tuples_eq]
    exact List.Pairwise.nil
  live := by
    rw [h.tuples_eq]
    exact List.nodup_nil

theorem Active.invariant (h : s.Active) : s.Invariant := by
  obtain ⟨stored, hmem, hselected⟩ := h.selected
  refine ⟨⟨fun hempty ↦ ?_, fun hnone ↦ ?_⟩, ⟨fun hnone ↦ ?_, fun hstate ↦ ?_⟩,
    fun address haddress ↦ ⟨stored, hmem, ?_⟩, h.separate.distinct, h.separate.live⟩
  · rw [hempty] at hmem
    cases hmem
  · rw [hselected] at hnone
    cases hnone
  · rw [hselected] at hnone
    cases hnone
  · rcases h.state_or with h' | h' <;> rw [h'] at hstate <;> rcases hstate with h | h <;> cases h
  · rw [hselected] at haddress
    exact Option.some.inj haddress

/-- A server is idle or active. -/
theorem invariant_iff : s.Invariant ↔ s.Idle ∨ s.Active := by
  refine ⟨fun h ↦ ?_, fun h ↦ h.elim Idle.invariant Active.invariant⟩
  cases hselected : s.selectedTuple with
  | none => exact Or.inl ⟨h.empty_iff.mpr hselected, hselected, h.selected_iff.mp hselected⟩
  | some address =>
    obtain ⟨stored, hmem, rfl⟩ := h.selected_mem address hselected
    refine Or.inr ⟨⟨stored, hmem, hselected⟩, ?_, h.distinct, h.live⟩
    have hnot : ¬(s.state = .new ∨ s.state = .disconnected) := by
      rw [← h.selected_iff, hselected]
      exact nofun
    cases hstate : s.state with
    | new => exact absurd (Or.inl hstate) hnot
    | connected => exact Or.inl rfl
    | completed => exact Or.inr rfl
    | disconnected => exact absurd (Or.inr hstate) hnot

/-! ## Looking up tuples -/

theorem tupleAt_eq (hlive : (s.tuples.map StoredTuple.address).Nodup) {stored : StoredTuple}
    (hmem : stored ∈ s.tuples) : s.tupleAt stored.address = .ok stored.tuple := by
  unfold tupleAt
  cases hfind : s.tuples.find? fun node ↦ decide (node.address = stored.address) with
  | none =>
    have hnone := List.find?_eq_none.mp hfind stored hmem
    simp at hnone
  | some node =>
    have haddress : node.address = stored.address := by simpa using List.find?_some hfind
    have hnode := List.mem_of_find?_eq_some hfind
    rw [List.inj_on_of_nodup_map hlive hnode hmem haddress]

/-- **Looking up a tuple**: a stored one that compares equal, or there is none. -/
theorem hasTuple_cases (h : s.Active) (tuple : TransportTuple) :
    (∃ stored ∈ s.tuples, stored.tuple.compare tuple = true ∧
        s.hasTuple tuple = .ok (some stored.address)) ∨
      ((∀ stored ∈ s.tuples, stored.tuple.compare tuple = false) ∧
        s.hasTuple tuple = .ok none) := by
  obtain ⟨selected, hmem, hselected⟩ := h.selected
  have htuple := tupleAt_eq h.separate.live hmem
  cases hcompare : selected.tuple.compare tuple with
  | true =>
    refine Or.inl ⟨selected, hmem, hcompare, ?_⟩
    rw [hasTuple, hselected]
    dsimp only
    rw [htuple]
    exact if_pos hcompare
  | false =>
    have hlist : s.hasTuple tuple = .ok ((s.tuples.find? fun stored ↦
        stored.tuple.compare tuple).map StoredTuple.address) := by
      rw [hasTuple, hselected]
      dsimp only
      rw [htuple]
      exact if_neg (by simp [hcompare])
    cases hfind : s.tuples.find? fun stored ↦ stored.tuple.compare tuple with
    | none =>
      refine Or.inr ⟨fun stored hstored ↦ ?_, by rw [hlist, hfind]; rfl⟩
      simpa using List.find?_eq_none.mp hfind stored hstored
    | some stored =>
      have hfound : stored.tuple.compare tuple = true := by simpa using List.find?_some hfind
      exact Or.inl ⟨stored, List.mem_of_find?_eq_some hfind, hfound, by rw [hlist, hfind]; rfl⟩

/-! ## Keeping the invariant -/

/-- A new tuple is stored beside the others. -/
theorem Separate.addTuple (h : Separate s.tuples)
    (hnew : ∀ stored ∈ s.tuples, stored.tuple.compare tuple = false) :
    Separate (s.addTuple allocator tuple).2.tuples where
  distinct := by
    refine List.pairwise_cons.mpr ⟨fun stored hstored ↦ ?_, h.distinct⟩
    rw [TransportTuple.compare_comm]
    exact hnew stored hstored
  live := List.nodup_cons.mpr ⟨allocator.fresh _, h.live⟩

theorem Active.setSelectedTuple (h : s.Active) {stored : StoredTuple} (hmem : stored ∈ s.tuples) :
    (s.setSelectedTuple stored.address).2.Active := by
  unfold IceServer.setSelectedTuple
  split
  · exact h
  · exact ⟨⟨stored, hmem, rfl⟩, h.state_or, h.separate⟩

theorem Active.establish (h : s.Active) (hasUseCandidate : Bool) :
    (s.establish hasUseCandidate).2.Active := by
  unfold IceServer.establish
  split
  · exact ⟨h.selected, Or.inr rfl, h.separate⟩
  · exact ⟨h.selected, Or.inl rfl, h.separate⟩

/-- In states 'new' and 'disconnected'. -/
theorem Idle.handleFirstTuple (h : s.Idle) (allocator : Allocator) (name : String)
    (tuple : TransportTuple) (hasUseCandidate : Bool) :
    ∃ outputs t, s.handleFirstTuple allocator name tuple hasUseCandidate = .ok (outputs, t) ∧
      t.Active := by
  have hseparate : Separate (s.addTuple allocator tuple).2.tuples := by
    refine Separate.addTuple ?_ ?_
    · rw [h.tuples_eq]
      exact ⟨List.Pairwise.nil, List.nodup_nil⟩
    · rw [h.tuples_eq]
      exact nofun
  set added := s.addTuple allocator tuple with hadded
  have hmem : (⟨added.1, tuple⟩ : StoredTuple) ∈ added.2.tuples := List.mem_cons_self
  have hselect : added.2.setSelectedTuple added.1 =
      ([.selectedTuple added.1], { added.2 with selectedTuple := some added.1 }) := by
    rw [IceServer.setSelectedTuple, if_neg]
    change s.selectedTuple ≠ _
    rw [h.selectedTuple_eq]
    exact nofun
  have hok : s.handleFirstTuple allocator name tuple hasUseCandidate =
      .ok ((added.2.setSelectedTuple added.1).1 ++
        ((added.2.setSelectedTuple added.1).2.establish hasUseCandidate).1,
        ((added.2.setSelectedTuple added.1).2.establish hasUseCandidate).2) := by
    unfold IceServer.handleFirstTuple
    rw [h.tuples_eq, h.selectedTuple_eq]
    rfl
  refine ⟨_, _, hok, ?_⟩
  rw [hselect]
  cases hasUseCandidate with
  | false => exact ⟨⟨_, hmem, rfl⟩, Or.inl rfl, hseparate⟩
  | true => exact ⟨⟨_, hmem, rfl⟩, Or.inr rfl, hseparate⟩

/-- In states 'connected' and 'completed'. -/
theorem Active.storeTuple (h : s.Active) (allocator : Allocator) (tuple : TransportTuple) :
    ∃ stored t, s.storeTuple allocator tuple = .ok (stored.address, t) ∧ t.Active ∧
      stored ∈ t.tuples := by
  unfold IceServer.storeTuple
  rcases hasTuple_cases h tuple with ⟨stored, hmem, -, hfound⟩ | ⟨hnew, hnone⟩
  · rw [hfound]
    exact ⟨stored, s, rfl, h, hmem⟩
  · rw [hnone]
    obtain ⟨selected, hmem, hselected⟩ := h.selected
    exact ⟨⟨(s.addTuple allocator tuple).1, tuple⟩, (s.addTuple allocator tuple).2, rfl,
      ⟨⟨selected, List.mem_cons_of_mem _ hmem, hselected⟩, h.state_or, h.separate.addTuple hnew⟩,
      List.mem_cons_self⟩

theorem Active.handleNextTuple (h : s.Active) (allocator : Allocator) (name : String)
    (tuple : TransportTuple) (hasUseCandidate : Bool) :
    ∃ outputs t, s.handleNextTuple allocator name tuple hasUseCandidate = .ok (outputs, t) ∧
      t.Active := by
  obtain ⟨selected, hselectedMem, hselected⟩ := h.selected
  have hne : (!s.tuples.isEmpty) = true := by
    rw [Bool.not_eq_true', List.isEmpty_eq_false_iff]
    exact List.ne_nil_of_mem hselectedMem
  obtain ⟨stored, t, hstore, ht, hmem⟩ := h.storeTuple allocator tuple
  unfold IceServer.handleNextTuple
  rw [hne, hselected, hstore]
  cases hasUseCandidate with
  | false => exact ⟨[], t, rfl, ht⟩
  | true =>
    exact ⟨(t.setSelectedTuple stored.address).1, (t.setSelectedTuple stored.address).2, rfl,
      ht.setSelectedTuple hmem⟩

theorem Invariant.handleTuple (h : s.Invariant) (allocator : Allocator) (tuple : TransportTuple)
    (hasUseCandidate : Bool) :
    ∃ outputs t, s.handleTuple allocator tuple hasUseCandidate = .ok (outputs, t) ∧ t.Active := by
  unfold IceServer.handleTuple
  rcases invariant_iff.mp h with hidle | hactive
  · rcases hidle.state_or with hstate | hstate
    · rw [hstate]
      exact hidle.handleFirstTuple allocator "new" tuple hasUseCandidate
    · rw [hstate]
      exact hidle.handleFirstTuple allocator "disconnected" tuple hasUseCandidate
  · rcases hactive.state_or with hstate | hstate
    · rw [hstate]
      obtain ⟨outputs, t, hnext, ht⟩ :=
        hactive.handleNextTuple allocator "connected" tuple hasUseCandidate
      dsimp only
      rw [hnext]
      cases hasUseCandidate with
      | false => exact ⟨outputs, t, rfl, ht⟩
      | true => exact ⟨outputs ++ (t.establish true).1, (t.establish true).2, rfl,
          ht.establish true⟩
    · rw [hstate]
      exact hactive.handleNextTuple allocator "completed" tuple hasUseCandidate

/-! ## Calls -/

theorem Separate.eraseP {tuples : List StoredTuple} (h : Separate tuples) (p : StoredTuple → Bool) :
    Separate (tuples.eraseP p) where
  distinct := h.distinct.sublist List.eraseP_sublist
  live := h.live.sublist (List.eraseP_sublist.map _)

/-- Erasing the first element with a property is erasing the one that is found. -/
theorem eraseP_of_find? {tuples : List StoredTuple} {p : StoredTuple → Bool} {removed : StoredTuple}
    (h : tuples.find? p = some removed) :
    ∃ before after, tuples = before ++ removed :: after ∧ tuples.eraseP p = before ++ after := by
  obtain ⟨hp, before, after, rfl, hbefore⟩ := List.find?_eq_some_iff_append.mp h
  refine ⟨before, after, rfl, ?_⟩
  rw [List.eraseP_append_right _ fun stored hstored ↦ by simpa using hbefore stored hstored,
    List.eraseP_cons_of_pos hp]

theorem Invariant.removeTuple (h : s.Invariant) (tuple : TransportTuple) :
    (s.removeTuple tuple).2.Invariant := by
  unfold IceServer.removeTuple
  cases hfind : s.tuples.find? fun stored ↦ stored.tuple.compare tuple with
  | none => exact h
  | some removed =>
    have hremoved := List.mem_of_find?_eq_some hfind
    have hactive : s.Active := by
      refine (invariant_iff.mp h).resolve_left fun hidle ↦ ?_
      rw [hidle.tuples_eq] at hremoved
      cases hremoved
    have hseparate := hactive.separate.eraseP fun stored ↦ stored.tuple.compare tuple
    obtain ⟨selected, hmem, hselected⟩ := hactive.selected
    dsimp only
    split
    · -- the selected tuple is another one, so it stays
      rename_i hne
      refine Active.invariant ⟨⟨selected, ?_, hselected⟩, hactive.state_or, hseparate⟩
      obtain ⟨before, after, htuples, herase⟩ := eraseP_of_find? hfind
      dsimp only
      rw [herase]
      rw [htuples] at hmem
      rcases List.mem_append.mp hmem with hmem | hmem
      · exact List.mem_append_left _ hmem
      · rcases List.mem_cons.mp hmem with rfl | hmem
        · exact absurd hselected hne
        · exact List.mem_append_right _ hmem
    · split
      · rename_i first rest hrest
        refine Active.invariant ⟨⟨first, ?_, rfl⟩, hactive.state_or, hseparate⟩
        exact hrest ▸ List.mem_cons_self
      · rename_i hrest
        exact Idle.invariant ⟨hrest, rfl, Or.inr rfl⟩

theorem Invariant.forceSelectedTuple (h : s.Invariant)
    (hlegal : ∃ stored ∈ s.tuples, stored.tuple.compare tuple = true) :
    ∃ outputs t, s.forceSelectedTuple tuple = .ok (outputs, t) ∧ t.Invariant := by
  obtain ⟨present, hpresent, hcompare⟩ := hlegal
  have hactive : s.Active := by
    refine (invariant_iff.mp h).resolve_left fun hidle ↦ ?_
    rw [hidle.tuples_eq] at hpresent
    cases hpresent
  obtain ⟨selected, -, hselected⟩ := hactive.selected
  rcases hasTuple_cases hactive tuple with ⟨stored, hmem, -, hfound⟩ | ⟨hnew, -⟩
  · unfold IceServer.forceSelectedTuple
    rw [hselected, hfound]
    exact ⟨(s.setSelectedTuple stored.address).1, (s.setSelectedTuple stored.address).2, rfl,
      (hactive.setSelectedTuple hmem).invariant⟩
  · rw [hnew present hpresent] at hcompare
    cases hcompare

theorem reply_eq {packet : StunPacket} (hklass : packet.klass = .request) (s : IceServer)
    (tuple : TransportTuple) (errorCode : BitVec 16) :
    ∃ outputs, s.reply packet tuple errorCode = .ok (outputs, s) := by
  unfold reply StunPacket.createErrorResponse
  rw [hklass]
  exact ⟨_, rfl⟩

theorem Invariant.acceptRequest {packet : StunPacket} (hklass : packet.klass = .request)
    (h : s.Invariant) (allocator : Allocator) (tuple : TransportTuple) :
    ∃ outputs t, s.acceptRequest allocator packet tuple = .ok (outputs, t) ∧ t.Invariant := by
  unfold IceServer.acceptRequest
  split
  · obtain ⟨outputs, hreply⟩ := reply_eq hklass s tuple 487
    exact ⟨outputs, s, hreply, h⟩
  · obtain ⟨outputs, t, hhandle, ht⟩ := h.handleTuple allocator tuple packet.hasUseCandidate
    unfold StunPacket.createSuccessResponse
    rw [hklass, hhandle]
    exact ⟨_, t, rfl, ht.invariant⟩

theorem Invariant.forgetOldCredentials (h : s.Invariant) : s.forgetOldCredentials.Invariant := by
  unfold IceServer.forgetOldCredentials
  split
  · exact ⟨h.empty_iff, h.selected_iff, h.selected_mem, h.distinct, h.live⟩
  · exact h

theorem Invariant.processRequest {packet : StunPacket} (hklass : packet.klass = .request)
    (getHmacSha1 : List Byte → List Byte → List Byte) (h : s.Invariant) (allocator : Allocator)
    (tuple : TransportTuple) :
    ∃ outputs t, s.processRequest getHmacSha1 allocator packet tuple = .ok (outputs, t) ∧
      t.Invariant := by
  have hreply : ∀ errorCode, ∃ outputs t,
      s.reply packet tuple errorCode = .ok (outputs, t) ∧ t.Invariant := by
    intro errorCode
    obtain ⟨outputs, hreply⟩ := reply_eq hklass s tuple errorCode
    exact ⟨outputs, s, hreply, h⟩
  unfold IceServer.processRequest
  split
  · exact hreply 400
  · split
    · exact h.forgetOldCredentials.acceptRequest hklass allocator tuple
    · split
      · exact h.acceptRequest hklass allocator tuple
      · exact hreply 401
    · exact hreply 400

theorem Invariant.processStunPacket (getHmacSha1 : List Byte → List Byte → List Byte)
    (h : s.Invariant) (allocator : Allocator) (packet : StunPacket) (tuple : TransportTuple) :
    ∃ outputs t, s.processStunPacket getHmacSha1 allocator packet tuple = .ok (outputs, t) ∧
      t.Invariant := by
  have hignored : ∃ outputs t, (.ok ([], s) : Except Fault (List IceOutput × IceServer)) =
      .ok (outputs, t) ∧ t.Invariant := ⟨[], s, rfl, h⟩
  have hreject : ∃ outputs t, (if packet.klass = .request then s.reply packet tuple 400
      else .ok ([], s)) = .ok (outputs, t) ∧ t.Invariant := by
    split
    · rename_i hklass
      obtain ⟨outputs, hreply⟩ := reply_eq hklass s tuple 400
      exact ⟨outputs, s, hreply, h⟩
    · exact hignored
  unfold IceServer.processStunPacket
  split
  · exact hreject
  · split
    · exact hreject
    · split
      · rename_i hklass
        exact h.processRequest hklass getHmacSha1 allocator tuple
      · exact hignored
      · exact hignored
      · exact hignored

/-- **Every call keeps the invariant**, without a failed assertion. -/
theorem Invariant.step (getHmacSha1 : List Byte → List Byte → List Byte) (h : s.Invariant)
    (e : IceEvent) (hlegal : s.Legal e) :
    ∃ outputs t, s.step getHmacSha1 e = .ok (outputs, t) ∧ t.Invariant := by
  cases e with
  | processStunPacket allocator packet tuple =>
    exact h.processStunPacket getHmacSha1 allocator packet tuple
  | removeTuple tuple => exact ⟨_, _, rfl, h.removeTuple tuple⟩
  | forceSelectedTuple tuple => exact h.forceSelectedTuple hlegal
  | setUsernameFragment usernameFragment =>
    exact ⟨[], _, rfl, h.empty_iff, h.selected_iff, h.selected_mem, h.distinct, h.live⟩
  | setPassword password =>
    exact ⟨[], _, rfl, h.empty_iff, h.selected_iff, h.selected_mem, h.distinct, h.live⟩

/-! ## Reachable states -/

theorem invariant_init (usernameFragment password : List Byte) :
    (init usernameFragment password).Invariant :=
  Idle.invariant ⟨rfl, rfl, Or.inl rfl⟩

/-- **The ICE server.** In every reachable state the list is empty exactly if no tuple is selected
exactly if the state is 'new' or 'disconnected', the selected tuple is one of the list, the tuples
of the list are pairwise different, and no call fails. -/
theorem reachable_invariant (getHmacSha1 : List Byte → List Byte → List Byte)
    (usernameFragment password : List Byte) (s : IceServer)
    (h : Run.Reachable (step getHmacSha1) Legal (init usernameFragment password) s) :
    s.Invariant ∧ ∀ e, s.Legal e → ∃ outputs t, s.step getHmacSha1 e = .ok (outputs, t) :=
  h.safe (invariant_init usernameFragment password) fun _ e hs hlegal ↦ hs.step getHmacSha1 e hlegal

/-- An allocator that takes an address above those in use. -/
def topAllocator : Allocator where
  allocate live := live.sum + 1
  fresh live hmem := by
    have hle : ∀ a ∈ live, a ≤ live.sum := by
      clear hmem
      induction live with
      | nil => exact nofun
      | cons b live ih =>
        intro a ha
        rw [List.sum_cons]
        rcases List.mem_cons.mp ha with rfl | ha
        · exact Nat.le_add_right _ _
        · exact (ih a ha).trans (Nat.le_add_left _ _)
    exact absurd (hle _ hmem) (Nat.not_succ_le_self _)

/-- A binding request of "u:r" with USE-CANDIDATE, authenticated with the password "p". -/
def nominatingRequest : StunPacket where
  klass := .request
  method := StunPacket.binding
  transactionId := 0x0102030405060708090A0B0C
  data := [0, 1, 0, 52, 33, 18, 164, 66, 1, 2, 3, 4, 5, 6, 7, 8, 9, 10, 11, 12, 0, 6, 0, 3, 117, 58,
    114, 0, 0, 36, 0, 4, 0, 0, 0, 1, 0, 37, 0, 0, 0, 8, 0, 20, 119, 85, 236, 1, 238, 40, 86,
      147, 71,
    86, 113, 56, 33, 155, 239, 182, 133, 179, 134, 23, 128, 40, 0, 4, 184, 198, 94, 237]
  size := 72
  username := [117, 58, 114]
  priority := 1
  hasUseCandidate := true
  messageIntegrity := some 44
  hasFingerprint := true

/-- The HMAC of that request. -/
def nominatingHmac (_key _data : List Byte) : List Byte :=
  [119, 85, 236, 1, 238, 40, 86, 147, 71, 86, 113, 56, 33, 155, 239, 182, 133, 179, 134, 23]

/-- The server after the request. -/
def nominatedServer : IceServer :=
  { init [117] [112] with
    state := .completed
    tuples := [⟨1, .udp 7 (.inet 40000 0x01020304)⟩]
    selectedTuple := some 1 }

/-- A nominated tuple is selected. -/
theorem reachable_invariant_nominated : nominatedServer.Invariant := by
  let response : StunPacket := {
    klass := .successResponse
    method := StunPacket.binding
    transactionId := 0x0102030405060708090A0B0C
    xorMappedAddress := some (.inet 40000 0x01020304)
    password := [112] }
  have hstep : (init [117] [112]).step nominatingHmac
      (.processStunPacket topAllocator nominatingRequest (.udp 7 (.inet 40000 0x01020304))) =
      .ok ([.sendStunPacket response (.udp 7 (.inet 40000 0x01020304)), .selectedTuple 1,
        .completed], nominatedServer) := by
    decide +kernel
  have hlegal : (init [117] [112]).Legal (.processStunPacket topAllocator nominatingRequest
      (.udp 7 (.inet 40000 0x01020304))) := trivial
  exact (reachable_invariant nominatingHmac [117] [112] _ (.step .start hlegal hstep)).1

end IceServer

end MediasoupSfu
