import MediasoupSfu.Library.Run
import Mathlib.Algebra.BigOperators.Group.List.Basic
import Mathlib.Algebra.Order.Ring.Nat

/-!
# The outgoing streams of an SCTP association

An SCTP association starts with `os` outgoing streams. A DataConsumer whose stream id is beyond them
makes the association ask usrsctp for 32 more, if it is connected. Otherwise the increase is
deferred: `desiredOs` remembers it. The request is answered by an `SCTP_STREAM_CHANGE_EVENT` with
the new number of streams.

Three things are missing for the streams to be enough in the end.

* On `SCTP_COMM_UP` the deferred increase is "requested" before `state` becomes `CONNECTED`, so it
  is deferred once more. Nobody comes back to it, and a DataConsumer that needs the same streams
  finds the increase already in progress.
* Only one increase is requested for a DataConsumer, however far its stream id is beyond `os`.
* While an increase is in progress a further one is not requested, and when it was granted the
  stream ids of the DataConsumers are not looked at again.

The streams there will be when usrsctp has granted all that is outstanding are the `awaited` ones.
A step keeps them enough for all handled DataConsumers if and only if it is one of those that are
`Enough` (`covered_step_iff`). So the streams are enough in every state that a run comes to if and
only if all its steps are (`suffices_iff`).
-/

namespace MediasoupSfu

/-! ## The code -/

/-- `SctpAssociation::SctpState`. -/
inductive SctpState where
  | new
  | connecting
  | connected
  | failed
  | closed
  deriving DecidableEq, Repr

/-- What an association requests from usrsctp and tells its listener. -/
inductive SctpEffect where
  /-- `SCTP_ADD_STREAMS` with `sas_outstrms`. -/
  | addStreams (outstrms : BitVec 16)
  | onSctpAssociationConnecting
  | onSctpAssociationConnected
  | onSctpAssociationFailed
  | onSctpAssociationClosed
  deriving DecidableEq, Repr

/-- The notifications of usrsctp that change the state or the number of outgoing streams. -/
inductive SctpNotification where
  | commUp (outboundStreams : BitVec 16)
  | commLost
  | restart (outboundStreams : BitVec 16)
  | shutdownComp
  | cantStrAssoc
  | shutdownEvent
  | streamChange (flags outstrms : BitVec 16)
  deriving DecidableEq, Repr

def maxSctpStreams : BitVec 16 := 65535

/-- `SCTP_STREAM_RESET_DENIED`. -/
def streamResetDenied : BitVec 16 := 0x0004

/-- `SCTP_STREAM_RESET_FAILED`. -/
def streamResetFailed : BitVec 16 := 0x0008

/-- The members of `SctpAssociation` that its outgoing streams depend on. -/
structure OutgoingStreams where
  os : BitVec 16
  desiredOs : BitVec 16 := 0
  state : SctpState := .new
  deriving DecidableEq, Repr

namespace OutgoingStreams

def additionalOs (s : OutgoingStreams) : BitVec 16 :=
  if 32 ≤ maxSctpStreams - s.os then 32 else maxSctpStreams - s.os

/-- `nextDesiredOs`, an `int`. -/
def nextDesiredOs (s : OutgoingStreams) : ℕ := s.os.toNat + s.additionalOs.toNat

def setDesiredOs (s : OutgoingStreams) (desiredOs : BitVec 16) : OutgoingStreams :=
  { s with desiredOs := desiredOs }

@[simp] theorem setDesiredOs_os (s : OutgoingStreams) (desiredOs : BitVec 16) :
    (s.setDesiredOs desiredOs).os = s.os := rfl

@[simp] theorem setDesiredOs_desiredOs (s : OutgoingStreams) (desiredOs : BitVec 16) :
    (s.setDesiredOs desiredOs).desiredOs = desiredOs := rfl

@[simp] theorem setDesiredOs_state (s : OutgoingStreams) (desiredOs : BitVec 16) :
    (s.setDesiredOs desiredOs).state = s.state := rfl

/-- `AddOutgoingStreams(force)`. -/
def addOutgoingStreams (s : OutgoingStreams) (force : Bool) : List SctpEffect × OutgoingStreams :=
  -- Cannot add more outgoing streams.
  if s.additionalOs = 0 then ([], s)
  -- Already in progress, ignore (unless forced).
  else if force = false ∧ s.nextDesiredOs = s.desiredOs.toNat then ([], s)
  -- If not connected, defer it.
  else if s.state ≠ .connected then ([], s.setDesiredOs (BitVec.ofNat 16 s.nextDesiredOs))
  else ([.addStreams s.additionalOs], s.setDesiredOs (BitVec.ofNat 16 s.nextDesiredOs))

/-- `HandleDataConsumer(dataConsumer)`. The subtraction is one of `int`s. -/
def handleDataConsumer (s : OutgoingStreams) (streamId : BitVec 16) :
    List SctpEffect × OutgoingStreams :=
  if (streamId.toNat : ℤ) > s.os.toNat - 1 then s.addOutgoingStreams false else ([], s)

/-- A change of the state that the listener is told of, unless the state is the same. -/
def enter (s : OutgoingStreams) (state : SctpState) (effect : SctpEffect) :
    List SctpEffect × OutgoingStreams :=
  if s.state ≠ state then ([effect], { s with state := state }) else ([], s)

/-- `TransportConnected()`, where `connects` tells if the calls of usrsctp succeed. -/
def transportConnected (s : OutgoingStreams) (connects : Bool) :
    List SctpEffect × OutgoingStreams :=
  if s.state ≠ .new then ([], s)
  else if connects then
    ([.onSctpAssociationConnecting], { s with state := .connecting })
  else ([.onSctpAssociationFailed], { s with state := .failed })

/-- Update our OS, and increase if requested before connected. -/
def updateOs (s : OutgoingStreams) (outboundStreams : BitVec 16) :
    List SctpEffect × OutgoingStreams :=
  if s.desiredOs > outboundStreams then
    { s with os := outboundStreams }.addOutgoingStreams true
  else ([], { s with os := outboundStreams })

/-- `SCTP_COMM_UP` and `SCTP_RESTART`. -/
def established (s : OutgoingStreams) (outboundStreams : BitVec 16) :
    List SctpEffect × OutgoingStreams :=
  let (requests, s) := s.updateOs outboundStreams
  let (effects, s) := s.enter .connected .onSctpAssociationConnected
  (requests ++ effects, s)

/-- `SCTP_STREAM_CHANGE_EVENT`. -/
def streamChange (s : OutgoingStreams) (flags outstrms : BitVec 16) : OutgoingStreams :=
  if flags = 0 then { s with os := outstrms }
  else if flags &&& streamResetDenied ≠ 0 then s
  else if flags &&& streamResetFailed ≠ 0 then s
  else { s with os := outstrms }

/-- `OnUsrSctpReceiveSctpNotification(notification, len)`. -/
def receiveNotification (s : OutgoingStreams) : SctpNotification → List SctpEffect × OutgoingStreams
  | .commUp outboundStreams => s.established outboundStreams
  | .restart outboundStreams => s.established outboundStreams
  | .commLost => s.enter .closed .onSctpAssociationClosed
  | .shutdownComp => s.enter .closed .onSctpAssociationClosed
  | .cantStrAssoc => s.enter .failed .onSctpAssociationFailed
  | .shutdownEvent => s.enter .closed .onSctpAssociationClosed
  | .streamChange flags outstrms => ([], s.streamChange flags outstrms)

end OutgoingStreams

/-! ## Runs

usrsctp grants every increase that is requested, in the order of the requests. An increase that is
deferred until the association is connected counts as one that is still to be requested. -/

/-- An association with what it has asked for and was asked for. -/
structure SctpStreams where
  streams : OutgoingStreams
  /-- The increases that were requested and not granted yet. -/
  outstanding : List (BitVec 16) := []
  /-- The stream ids of the DataConsumers that were handled. -/
  handled : List (BitVec 16) := []

namespace SctpStreams

inductive Event where
  | transportConnected (connects : Bool)
  | handleDataConsumer (streamId : BitVec 16)
  | notification (notification : SctpNotification)
  /-- The `SCTP_STREAM_CHANGE_EVENT` by which the first outstanding increase is granted. -/
  | granted (flags outstrms : BitVec 16)

def start (os : BitVec 16) : SctpStreams := { streams := { os := os } }

/-- The increases among the effects. -/
def requests (effects : List SctpEffect) : List (BitVec 16) :=
  effects.filterMap fun effect ↦ match effect with
    | .addStreams outstrms => some outstrms
    | _ => none

/-- The association did something. -/
def advance (s : SctpStreams) (result : List SctpEffect × OutgoingStreams) : SctpStreams :=
  { s with streams := result.2, outstanding := s.outstanding ++ requests result.1 }

def step (s : SctpStreams) : Event → SctpStreams
  | .transportConnected connects => s.advance (s.streams.transportConnected connects)
  | .handleDataConsumer streamId =>
    { s.advance (s.streams.handleDataConsumer streamId) with handled := streamId :: s.handled }
  | .notification notification => s.advance (s.streams.receiveNotification notification)
  | .granted flags outstrms =>
    { s with
      streams := (s.streams.receiveNotification (.streamChange flags outstrms)).2
      outstanding := s.outstanding.tail }

/-- The flags say that there was a change. -/
def Changed (flags : BitVec 16) : Prop :=
  flags &&& streamResetDenied = 0 ∧ flags &&& streamResetFailed = 0

/-- usrsctp confirms an increase with the number of streams that was asked for. -/
def Grants (s : SctpStreams) : Event → Prop
  | .granted flags outstrms =>
    Changed flags ∧ ∃ n ∈ s.outstanding.head?, outstrms.toNat = s.streams.os.toNat + n.toNat
  | _ => False

/-- What happens to a connected association. The number of its streams does not decrease. -/
def Legal (s : SctpStreams) : Event → Prop
  | .transportConnected _ => True
  | .handleDataConsumer streamId => streamId.toNat < 65535
  | .notification (.commUp _) => True
  | .notification (.restart _) => True
  | .notification (.streamChange _ outstrms) =>
    s.streams.state = .connected ∧ s.streams.os.toNat ≤ outstrms.toNat
  | .notification _ => False
  | .granted flags outstrms => s.Grants (.granted flags outstrms)

/-- An increase is deferred until the association is connected. -/
def Deferred (s : SctpStreams) : Prop :=
  s.streams.state ≠ .connected ∧ s.streams.os.toNat < s.streams.desiredOs.toNat

/-- Once no increase is deferred or outstanding, the streams are enough for the DataConsumers. -/
structure Settled (s : SctpStreams) : Prop where
  os_le : s.streams.os.toNat ≤ 65535
  lt_os : s.outstanding = [] → ¬s.Deferred → ∀ streamId ∈ s.handled,
    streamId.toNat < s.streams.os.toNat

/-- In every state that a run comes to, also if usrsctp goes on to grant what is outstanding there,
the streams are enough. -/
def Suffices (os : BitVec 16) (events : List Event) : Prop :=
  ∀ pre grants, pre <+: events → Run.All step Grants (pre.foldl step (start os)) grants →
    Settled ((pre ++ grants).foldl step (start os))

/-- How many streams are outstanding. -/
def ahead (s : SctpStreams) : ℕ := (s.outstanding.map BitVec.toNat).sum

/-- How many streams there will be when all that is outstanding is granted. -/
def awaited (s : SctpStreams) : ℕ := s.streams.os.toNat + s.ahead

/-- The streams that are requested when an association has `outboundStreams`: none unless more are
desired, and none before it is connected. -/
def reopened (s : SctpStreams) (outboundStreams : BitVec 16) : ℕ :=
  if s.streams.state = .connected ∧ outboundStreams.toNat < s.streams.desiredOs.toNat then
    { s.streams with os := outboundStreams }.additionalOs.toNat
  else 0

/-- The steps that get enough streams. If connected, a DataConsumer must have a stream id below the
awaited streams or those that one increase adds, and the increase must not pass for being in
progress. When the association is established, the streams it has, those that are outstanding and
those requested on that occasion must be enough for the DataConsumers up to now. -/
def Enough (s : SctpStreams) : Event → Prop
  | .handleDataConsumer streamId => s.streams.state = .connected →
      streamId.toNat < s.awaited +
        if s.streams.nextDesiredOs = s.streams.desiredOs.toNat then 0
        else s.streams.additionalOs.toNat
  | .notification (.commUp outboundStreams) => ∀ streamId ∈ s.handled,
      streamId.toNat < outboundStreams.toNat + s.ahead + s.reopened outboundStreams
  | .notification (.restart outboundStreams) => ∀ streamId ∈ s.handled,
      streamId.toNat < outboundStreams.toNat + s.ahead + s.reopened outboundStreams
  | _ => True

end SctpStreams

/-! ## What one call does -/

namespace OutgoingStreams

theorem additionalOs_toNat (s : OutgoingStreams) :
    s.additionalOs.toNat = min 32 (65535 - s.os.toNat) := by
  have hsub : (maxSctpStreams - s.os).toNat = 65535 - s.os.toNat := by
    have := s.os.isLt
    rw [maxSctpStreams]
    bv_omega
  have hstep : (32 : BitVec 16).toNat = 32 := rfl
  rw [additionalOs]
  split <;> rename_i h <;> rw [BitVec.le_def, hsub, hstep] at h
  · rw [hstep]
    omega
  · rw [hsub]
    omega

/-- The sum of `int`s fits into `desiredOs`. -/
theorem toNat_nextDesiredOs (s : OutgoingStreams) :
    (BitVec.ofNat 16 s.nextDesiredOs).toNat = s.nextDesiredOs := by
  have hos := s.os.isLt
  have hadd := s.additionalOs_toNat
  have hnext : s.nextDesiredOs = s.os.toNat + s.additionalOs.toNat := rfl
  exact (BitVec.toNat_ofNat ..).trans (Nat.mod_eq_of_lt (by omega))

@[simp] theorem addOutgoingStreams_os (s : OutgoingStreams) (force : Bool) :
    (s.addOutgoingStreams force).2.os = s.os := by
  rw [addOutgoingStreams]
  split_ifs
  · rfl
  · rfl
  · exact s.setDesiredOs_os _
  · exact s.setDesiredOs_os _

@[simp] theorem addOutgoingStreams_state (s : OutgoingStreams) (force : Bool) :
    (s.addOutgoingStreams force).2.state = s.state := by
  rw [addOutgoingStreams]
  split_ifs
  · rfl
  · rfl
  · exact s.setDesiredOs_state _
  · exact s.setDesiredOs_state _

@[simp] theorem handleDataConsumer_os (s : OutgoingStreams) (streamId : BitVec 16) :
    (s.handleDataConsumer streamId).2.os = s.os := by
  rw [handleDataConsumer]
  split
  · exact s.addOutgoingStreams_os false
  · rfl

@[simp] theorem handleDataConsumer_state (s : OutgoingStreams) (streamId : BitVec 16) :
    (s.handleDataConsumer streamId).2.state = s.state := by
  rw [handleDataConsumer]
  split
  · exact s.addOutgoingStreams_state false
  · rfl

@[simp] theorem updateOs_os (s : OutgoingStreams) (outboundStreams : BitVec 16) :
    (s.updateOs outboundStreams).2.os = outboundStreams := by
  rw [updateOs]
  split
  · exact addOutgoingStreams_os _ true
  · rfl

theorem enter_os (s : OutgoingStreams) (state : SctpState) (effect : SctpEffect) :
    (s.enter state effect).2.os = s.os := by
  rw [enter]
  split <;> rfl

theorem enter_state (s : OutgoingStreams) (state : SctpState) (effect : SctpEffect) :
    (s.enter state effect).2.state = state := by
  rw [enter]
  split_ifs with h
  · rfl
  · exact of_not_not h

@[simp] theorem established_os (s : OutgoingStreams) (outboundStreams : BitVec 16) :
    (s.established outboundStreams).2.os = outboundStreams :=
  (enter_os _ _ _).trans (s.updateOs_os outboundStreams)

@[simp] theorem established_state (s : OutgoingStreams) (outboundStreams : BitVec 16) :
    (s.established outboundStreams).2.state = .connected :=
  enter_state _ _ _

theorem transportConnected_os (s : OutgoingStreams) (connects : Bool) :
    (s.transportConnected connects).2.os = s.os := by
  rw [transportConnected]
  split_ifs <;> rfl

theorem transportConnected_desiredOs (s : OutgoingStreams) (connects : Bool) :
    (s.transportConnected connects).2.desiredOs = s.desiredOs := by
  rw [transportConnected]
  split_ifs <;> rfl

theorem transportConnected_connected_iff (s : OutgoingStreams) (connects : Bool) :
    (s.transportConnected connects).2.state = .connected ↔ s.state = .connected := by
  rw [transportConnected]
  split_ifs with hstate hconnects
  · rfl
  · rw [of_not_not hstate]
    decide
  · rw [of_not_not hstate]
    decide

theorem streamChange_state (s : OutgoingStreams) (flags outstrms : BitVec 16) :
    (s.streamChange flags outstrms).state = s.state := by
  rw [streamChange]
  split_ifs <;> rfl

theorem le_streamChange_os {s : OutgoingStreams} (flags : BitVec 16) {outstrms : BitVec 16}
    (h : s.os.toNat ≤ outstrms.toNat) : s.os.toNat ≤ (s.streamChange flags outstrms).os.toNat := by
  rw [streamChange]
  split_ifs
  · exact h
  · exact Nat.le_refl _
  · exact Nat.le_refl _
  · exact h

/-- Before the association is connected, an increase is only remembered. -/
theorem addOutgoingStreams_of_ne_connected {s : OutgoingStreams} {force : Bool}
    (h : s.state ≠ .connected) : (s.addOutgoingStreams force).1 = [] := by
  rw [addOutgoingStreams]
  split_ifs <;> rfl

theorem lt_desiredOs_of_addOutgoingStreams {s : OutgoingStreams} {force : Bool}
    (h : s.state ≠ .connected) (hos : s.os.toNat < 65535) :
    s.os.toNat < (s.addOutgoingStreams force).2.desiredOs.toNat := by
  have hadd := s.additionalOs_toNat
  have hnext : s.nextDesiredOs = s.os.toNat + s.additionalOs.toNat := rfl
  rw [addOutgoingStreams]
  split_ifs with hzero hprogress
  · have : s.additionalOs.toNat = 0 := by rw [hzero]; rfl
    omega
  · change s.os.toNat < s.desiredOs.toNat
    omega
  · rw [setDesiredOs_desiredOs, s.toNat_nextDesiredOs]
    omega

end OutgoingStreams

namespace SctpStreams

open OutgoingStreams

/-! ### The increases requested -/

/-- How many streams are requested by the effects. -/
def requested (effects : List SctpEffect) : ℕ := ((requests effects).map BitVec.toNat).sum

theorem requested_append (effects effects' : List SctpEffect) :
    requested (effects ++ effects') = requested effects + requested effects' := by
  rw [requested, requests, List.filterMap_append, List.map_append, List.sum_append]
  rfl

theorem requested_addStreams (n : BitVec 16) : requested [.addStreams n] = n.toNat :=
  Nat.add_zero _

theorem requested_addOutgoingStreams {s : OutgoingStreams} (force : Bool)
    (h : s.state = .connected) :
    requested (s.addOutgoingStreams force).1 =
      if force = false ∧ s.nextDesiredOs = s.desiredOs.toNat then 0 else s.additionalOs.toNat := by
  rw [addOutgoingStreams, if_neg (not_not_intro h)]
  split_ifs with hzero hprogress hprogress
  · rfl
  · rw [hzero]
    rfl
  · rfl
  · exact requested_addStreams _

theorem requested_handleDataConsumer {s : OutgoingStreams} (streamId : BitVec 16)
    (h : s.state = .connected) :
    requested (s.handleDataConsumer streamId).1 =
      if s.os.toNat ≤ streamId.toNat ∧ s.nextDesiredOs ≠ s.desiredOs.toNat
      then s.additionalOs.toNat else 0 := by
  rw [handleDataConsumer]
  split_ifs with hbeyond hrequested hrequested
  · rw [requested_addOutgoingStreams false h, if_neg fun hc ↦ hrequested.2 hc.2]
  · rw [requested_addOutgoingStreams false h, if_pos]
    exact ⟨rfl, by_contra fun hc ↦ hrequested ⟨by omega, hc⟩⟩
  · exact absurd hrequested.1 (by omega)
  · rfl

theorem requested_enter (s : OutgoingStreams) (state : SctpState) :
    requested (s.enter state .onSctpAssociationConnected).1 = 0 := by
  rw [enter]
  split <;> rfl

theorem requested_established (s : SctpStreams) (outboundStreams : BitVec 16) :
    requested (s.streams.established outboundStreams).1 = s.reopened outboundStreams := by
  have hsplit : requested (s.streams.established outboundStreams).1 =
      requested (s.streams.updateOs outboundStreams).1 := by
    change requested ((s.streams.updateOs outboundStreams).1 ++ (enter _ _ _).1) = _
    rw [requested_append, requested_enter, Nat.add_zero]
  rw [hsplit, updateOs, reopened]
  split_ifs with hdesired hreopened hreopened
  · have hstate : { s.streams with os := outboundStreams }.state = .connected := hreopened.1
    rw [requested_addOutgoingStreams true hstate, if_neg fun hc ↦ Bool.noConfusion hc.1]
  · have hstate : { s.streams with os := outboundStreams }.state ≠ .connected :=
      fun hc ↦ hreopened ⟨hc, hdesired⟩
    rw [addOutgoingStreams_of_ne_connected hstate]
    rfl
  · exact absurd hreopened.2 hdesired
  · rfl

theorem requests_transportConnected (s : OutgoingStreams) (connects : Bool) :
    requests (s.transportConnected connects).1 = [] := by
  rw [transportConnected]
  split_ifs <;> rfl

theorem ahead_advance (s : SctpStreams) (result : List SctpEffect × OutgoingStreams) :
    (s.advance result).ahead = s.ahead + requested result.1 := by
  rw [ahead, advance, List.map_append, List.sum_append]
  rfl

theorem outstanding_advance {s : SctpStreams} {result : List SctpEffect × OutgoingStreams}
    (h : requests result.1 = []) : (s.advance result).outstanding = s.outstanding := by
  rw [advance, h, List.append_nil]

theorem streamChange_of_changed {s : OutgoingStreams} {flags outstrms : BitVec 16}
    (h : Changed flags) : s.streamChange flags outstrms = { s with os := outstrms } := by
  rw [streamChange, if_neg (not_not_intro h.1), if_neg (not_not_intro h.2), ite_self]

/-! ### The awaited streams -/

theorem awaited_advance (s : SctpStreams) (result : List SctpEffect × OutgoingStreams) :
    (s.advance result).awaited = result.2.os.toNat + s.ahead + requested result.1 := by
  rw [awaited, ahead_advance, ← Nat.add_assoc]
  rfl

theorem awaited_handleDataConsumer {s : SctpStreams} (streamId : BitVec 16)
    (h : s.streams.state = .connected) :
    (s.step (.handleDataConsumer streamId)).awaited = s.awaited +
      if s.streams.os.toNat ≤ streamId.toNat ∧ s.streams.nextDesiredOs ≠ s.streams.desiredOs.toNat
      then s.streams.additionalOs.toNat else 0 := by
  rw [← requested_handleDataConsumer streamId h]
  refine (s.awaited_advance (s.streams.handleDataConsumer streamId)).trans ?_
  rw [handleDataConsumer_os]
  rfl

theorem awaited_established (s : SctpStreams) (outboundStreams : BitVec 16) :
    (s.advance (s.streams.established outboundStreams)).awaited =
      outboundStreams.toNat + s.ahead + s.reopened outboundStreams := by
  rw [awaited_advance, established_os, requested_established]

/-- An increase that is granted is not outstanding any more. -/
theorem awaited_granted {s : SctpStreams} {flags outstrms : BitVec 16}
    (h : s.Legal (.granted flags outstrms)) :
    (s.step (.granted flags outstrms)).awaited = s.awaited := by
  obtain ⟨hflags, n, hn, houtstrms⟩ := h
  obtain ⟨rest, hrest⟩ := List.head?_eq_some_iff.mp hn
  change (s.streams.streamChange flags outstrms).os.toNat +
    (s.outstanding.tail.map BitVec.toNat).sum = s.streams.os.toNat + s.ahead
  rw [streamChange_of_changed hflags, ahead, hrest, List.tail_cons, List.map_cons, List.sum_cons,
    houtstrms, Nat.add_assoc]

/-! ## The invariant -/

/-- If the association is connected, the awaited streams are enough. -/
def Covered (s : SctpStreams) : Prop :=
  s.streams.state = .connected → ∀ streamId ∈ s.handled, streamId.toNat < s.awaited

/-- Otherwise an increase is deferred unless the streams are enough. -/
def Waiting (s : SctpStreams) : Prop :=
  s.streams.state ≠ .connected → s.outstanding = [] ∧
    (s.streams.os.toNat < s.streams.desiredOs.toNat ∨
      ∀ streamId ∈ s.handled, streamId.toNat < s.streams.os.toNat)

theorem settled_of_covered {s : SctpStreams} (hcovered : s.Covered) (hwaiting : s.Waiting) :
    s.Settled := by
  refine ⟨Nat.le_of_lt_succ s.streams.os.isLt, fun hnone hdeferred streamId hmem ↦ ?_⟩
  by_cases hstate : s.streams.state = .connected
  · have hlt := hcovered hstate streamId hmem
    rw [awaited, ahead, hnone] at hlt
    exact hlt
  · rcases (hwaiting hstate).2 with hlt | hlt
    · exact absurd ⟨hstate, hlt⟩ hdeferred
    · exact hlt streamId hmem

theorem waiting_start (os : BitVec 16) : (start os).Waiting :=
  fun _ ↦ ⟨rfl, Or.inr fun _ h ↦ absurd h List.not_mem_nil⟩

theorem covered_start (os : BitVec 16) : (start os).Covered :=
  fun _ _ h ↦ absurd h List.not_mem_nil

/-- A DataConsumer that needs streams of an association that is not connected has them deferred. -/
theorem Waiting.handleDataConsumer {s : SctpStreams} (h : s.Waiting) {streamId : BitVec 16}
    (hlt : streamId.toNat < 65535) : (s.step (.handleDataConsumer streamId)).Waiting := by
  intro hstate
  have hbefore : s.streams.state ≠ .connected := by
    rwa [← s.streams.handleDataConsumer_state streamId]
  change (s.advance (s.streams.handleDataConsumer streamId)).outstanding = [] ∧
    ((s.streams.handleDataConsumer streamId).2.os.toNat <
        (s.streams.handleDataConsumer streamId).2.desiredOs.toNat ∨
      ∀ streamId' ∈ streamId :: s.handled,
        streamId'.toNat < (s.streams.handleDataConsumer streamId).2.os.toNat)
  rw [handleDataConsumer_os, OutgoingStreams.handleDataConsumer]
  split_ifs with hbeyond
  · refine ⟨?_, Or.inl (lt_desiredOs_of_addOutgoingStreams hbefore (by omega))⟩
    rw [outstanding_advance (by rw [addOutgoingStreams_of_ne_connected hbefore]; rfl)]
    exact (h hbefore).1
  · refine ⟨(outstanding_advance rfl).trans (h hbefore).1, (h hbefore).2.imp_right fun hall ↦ ?_⟩
    exact List.forall_mem_cons.mpr ⟨by omega, hall⟩

/-- No step leaves a stream id forgotten while the association is not connected. -/
theorem Waiting.step {s : SctpStreams} (h : s.Waiting) {e : Event} (hlegal : s.Legal e) :
    (s.step e).Waiting := by
  cases e with
  | transportConnected connects =>
    intro hstate
    change (s.streams.transportConnected connects).2.state ≠ .connected at hstate
    change (s.advance (s.streams.transportConnected connects)).outstanding = [] ∧
      ((s.streams.transportConnected connects).2.os.toNat <
          (s.streams.transportConnected connects).2.desiredOs.toNat ∨
        ∀ streamId ∈ s.handled,
          streamId.toNat < (s.streams.transportConnected connects).2.os.toNat)
    rw [outstanding_advance (requests_transportConnected _ _), transportConnected_os,
      transportConnected_desiredOs]
    exact h fun hc ↦ hstate ((transportConnected_connected_iff _ connects).mpr hc)
  | handleDataConsumer streamId => exact h.handleDataConsumer hlegal
  | notification notification =>
    cases notification with
    | commUp outboundStreams => exact fun hne ↦ absurd (established_state _ _) hne
    | restart outboundStreams => exact fun hne ↦ absurd (established_state _ _) hne
    | streamChange flags outstrms =>
      exact fun hne ↦ absurd ((streamChange_state _ _ _).trans hlegal.1) hne
    | commLost | shutdownComp | cantStrAssoc | shutdownEvent => exact hlegal.elim
  | granted flags outstrms =>
    intro hstate
    have hbefore : s.streams.state ≠ .connected := by
      rwa [← s.streams.streamChange_state flags outstrms]
    obtain ⟨-, n, hn, -⟩ := hlegal
    rw [(h hbefore).1] at hn
    exact absurd hn (Option.not_mem_none n)

/-! ### Which steps keep the streams covered -/

theorem covered_handleDataConsumer_iff {s : SctpStreams} (h : s.Covered) (streamId : BitVec 16) :
    (s.step (.handleDataConsumer streamId)).Covered ↔ s.Enough (.handleDataConsumer streamId) := by
  have hstate : (s.step (.handleDataConsumer streamId)).streams.state = s.streams.state :=
    s.streams.handleDataConsumer_state streamId
  rw [Covered, hstate]
  refine forall_congr' fun hconnected ↦ ?_
  have hawaited : s.awaited = s.streams.os.toNat + s.ahead := rfl
  change (∀ streamId' ∈ streamId :: s.handled, _) ↔ _
  rw [awaited_handleDataConsumer streamId hconnected, List.forall_mem_cons]
  constructor
  · rintro ⟨hlt, -⟩
    split_ifs at hlt ⊢ with hrequested hprogress hprogress <;> omega
  · intro hlt
    refine ⟨?_, fun streamId' hmem ↦ Nat.lt_add_right _ (h hconnected streamId' hmem)⟩
    split_ifs at hlt ⊢ with hprogress hrequested hrequested <;> omega

theorem covered_established_iff (s : SctpStreams) (outboundStreams : BitVec 16) :
    (s.advance (s.streams.established outboundStreams)).Covered ↔
      ∀ streamId ∈ s.handled,
        streamId.toNat < outboundStreams.toNat + s.ahead + s.reopened outboundStreams := by
  rw [Covered, awaited_established]
  exact forall_prop_of_true (established_state _ _)

/-- The awaited streams stay enough as long as they do not get fewer. -/
theorem Covered.mono {s t : SctpStreams} (h : s.Covered)
    (hstate : t.streams.state = .connected → s.streams.state = .connected)
    (hhandled : t.handled = s.handled) (hawaited : s.awaited ≤ t.awaited) : t.Covered := by
  intro hconnected streamId hmem
  rw [hhandled] at hmem
  exact Nat.lt_of_lt_of_le (h (hstate hconnected) streamId hmem) hawaited

/-- A step keeps the awaited streams enough if and only if it is one of those that are `Enough`. -/
theorem covered_step_iff {s : SctpStreams} (h : s.Covered) {e : Event} (hlegal : s.Legal e) :
    (s.step e).Covered ↔ s.Enough e := by
  cases e with
  | transportConnected connects =>
    refine iff_of_true (h.mono (transportConnected_connected_iff _ connects).mp rfl ?_) trivial
    change s.awaited ≤ (s.advance (s.streams.transportConnected connects)).awaited
    rw [awaited_advance, transportConnected_os]
    exact Nat.le_add_right _ _
  | handleDataConsumer streamId => exact covered_handleDataConsumer_iff h streamId
  | notification notification =>
    cases notification with
    | commUp outboundStreams => exact covered_established_iff s outboundStreams
    | restart outboundStreams => exact covered_established_iff s outboundStreams
    | streamChange flags outstrms =>
      refine iff_of_true (h.mono (streamChange_state _ _ _).symm.trans rfl ?_) trivial
      change s.awaited ≤ (s.advance ([], s.streams.streamChange flags outstrms)).awaited
      rw [awaited_advance, awaited]
      exact Nat.add_le_add_right (le_streamChange_os flags hlegal.2) _
    | commLost | shutdownComp | cantStrAssoc | shutdownEvent => exact hlegal.elim
  | granted flags outstrms =>
    refine iff_of_true (h.mono (streamChange_state _ _ _).symm.trans rfl ?_) trivial
    exact Nat.le_of_eq (awaited_granted hlegal).symm

/-! ## Whole runs -/

/-- The confirmations by which all that is outstanding is granted. -/
def confirmations : ℕ → List (BitVec 16) → List Event
  | _, [] => []
  | os, n :: rest =>
    .granted 0 (BitVec.ofNat 16 (os + n.toNat)) :: confirmations (os + n.toNat) rest

/-- usrsctp can grant all that is outstanding unless these are more streams than there are. -/
theorem grants_confirmations {s : SctpStreams} (h : s.awaited < 2 ^ 16) :
    Run.All step Grants s (confirmations s.streams.os.toNat s.outstanding) ∧
      ∃ t, (confirmations s.streams.os.toNat s.outstanding).foldl step s = t ∧
        t.outstanding = [] ∧ t.handled = s.handled ∧ t.streams.state = s.streams.state ∧
        t.streams.os.toNat = s.awaited := by
  obtain ⟨streams, outstanding, handled⟩ := s
  induction outstanding generalizing streams with
  | nil => exact ⟨trivial, _, rfl, rfl, rfl, rfl, rfl⟩
  | cons n rest ih =>
    let t : OutgoingStreams :=
      { streams with os := BitVec.ofNat 16 (streams.os.toNat + n.toNat) }
    have hawaited : awaited ⟨streams, n :: rest, handled⟩ =
        streams.os.toNat + n.toNat + (rest.map BitVec.toNat).sum := by
      rw [awaited, ahead, List.map_cons, List.sum_cons, Nat.add_assoc]
    have hos : t.os.toNat = streams.os.toNat + n.toNat :=
      (BitVec.toNat_ofNat ..).trans (Nat.mod_eq_of_lt (by omega))
    have hgranted : awaited ⟨t, rest, handled⟩ = awaited ⟨streams, n :: rest, handled⟩ := by
      rw [hawaited, ← hos]
      rfl
    have hrest := ih t (by rwa [hgranted])
    rw [hgranted, hos] at hrest
    exact ⟨⟨⟨⟨BitVec.zero_and, BitVec.zero_and⟩, n, rfl, hos⟩, hrest.1⟩, hrest.2⟩

theorem Grants.legal {s : SctpStreams} {e : Event} (h : s.Grants e) : s.Legal e := by
  cases e with
  | granted flags outstrms => exact h
  | transportConnected | handleDataConsumer | notification => exact h.elim

theorem Grants.enough {s : SctpStreams} {e : Event} (h : s.Grants e) : s.Enough e := by
  cases e with
  | granted flags outstrms => trivial
  | transportConnected | handleDataConsumer | notification => exact h.elim

/-- The streams are enough in a covered state, and stay so while increases are granted. -/
theorem settled_of_grants {s : SctpStreams} (hcovered : s.Covered) (hwaiting : s.Waiting)
    {grants : List Event} (h : Run.All step Grants s grants) : Settled (grants.foldl step s) := by
  refine settled_of_covered ?_ ?_
  · exact h.preserves Covered
      (fun _ _ ht hgrants ↦ (covered_step_iff ht hgrants.legal).mpr hgrants.enough) hcovered
  · exact h.preserves Waiting (fun _ _ ht hgrants ↦ ht.step hgrants.legal) hwaiting

/-- If nothing is missing after all that is outstanding was granted, the streams are covered. -/
theorem covered_of_settled {s : SctpStreams}
    (h : ∀ grants, Run.All step Grants s grants → Settled (grants.foldl step s)) : s.Covered := by
  intro hconnected streamId hmem
  by_contra hlt
  have hfits : s.awaited < 2 ^ 16 := by
    have := streamId.isLt
    omega
  obtain ⟨hgrants, t, ht, hnone, hhandled, hstate, hos⟩ := grants_confirmations hfits
  have hsettled := h _ hgrants
  rw [ht] at hsettled
  have := hsettled.lt_os hnone (fun hdeferred ↦ hdeferred.1 (hstate.trans hconnected)) streamId
    (hhandled ▸ hmem)
  omega

/-- **When the streams are enough.** They are in every state that a run comes to if and only if its
steps are `Enough`. -/
theorem suffices_iff (os : BitVec 16) (events : List Event)
    (hlegal : Run.All step Legal (start os) events) :
    Suffices os events ↔ Run.All step Enough (start os) events := by
  have hcovered : (∀ pre, pre <+: events → Covered (pre.foldl step (start os))) ↔
      Run.All step Enough (start os) events :=
    Run.All.forall_prefix_iff Covered (fun _ _ hs he ↦ covered_step_iff hs he) (covered_start os)
      hlegal
  rw [← hcovered, Suffices]
  constructor
  · intro h pre hpre
    refine covered_of_settled fun grants hgrants ↦ ?_
    rw [← List.foldl_append]
    exact h pre grants hpre hgrants
  · intro h pre grants hpre hgrants
    have hwaiting : Waiting (pre.foldl step (start os)) :=
      (hlegal.of_prefix hpre).preserves Waiting (fun _ _ hs he ↦ hs.step he) (waiting_start os)
    rw [List.foldl_append]
    exact settled_of_grants (h pre hpre) hwaiting hgrants

/-- Two DataConsumers get an increase each, the second one after the first was granted. -/
theorem suffices_two : Suffices 1024
    [.transportConnected true, .notification (.commUp 1024), .handleDataConsumer 1030,
      .granted 0 1056, .handleDataConsumer 1060, .granted 0 1088] := by
  refine (suffices_iff 1024 _ ?_).mpr ?_
  · have h1030 : (1030 : BitVec 16).toNat < 65535 := by decide
    have h1060 : (1060 : BitVec 16).toNat < 65535 := by decide
    exact ⟨trivial, trivial, h1030, ⟨⟨rfl, rfl⟩, _, rfl, rfl⟩, h1060, ⟨⟨rfl, rfl⟩, _, rfl, rfl⟩,
      trivial⟩
  · exact ⟨trivial, fun _ h ↦ absurd h List.not_mem_nil, fun _ ↦ by decide, trivial,
      fun _ ↦ by decide, trivial, trivial⟩

/-- The increase that a DataConsumer needs before the association is connected is never requested:
afterwards nothing is outstanding, and its stream is missing. -/
theorem not_suffices_deferred : ¬∀ os events, Run.All step Legal (start os) events →
    Suffices os events := by
  intro h
  have hsuffices : Suffices 1024 [.handleDataConsumer 1024, .transportConnected true,
      .notification (.commUp 1024)] :=
    have hid : (1024 : BitVec 16).toNat < 65535 := by decide
    h _ _ ⟨hid, trivial, trivial, trivial⟩
  have hsettled := hsuffices _ [] (List.prefix_refl _) trivial
  exact absurd (hsettled.lt_os rfl (fun hdeferred ↦ hdeferred.1 rfl) 1024 List.mem_cons_self)
    (by decide)

end SctpStreams

end MediasoupSfu
