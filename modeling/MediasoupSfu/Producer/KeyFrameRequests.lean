import MediasoupSfu.Library.Owned
import MediasoupSfu.Library.Run
import MediasoupSfu.Utils.Byte
import Mathlib.Data.Fintype.Option

/-!
# Key frame requests

A producer asks for key frames through its `KeyFrameRequestManager`. After a request it waits for
the key frame: the SSRC has a `PendingKeyFrameInfo`, whose timer sends the request once more if it
is asked for again. If there is a delay, then a `KeyFrameRequestDelayer` keeps what is asked for
within the delay after a request until its timer expires.

The two kinds of objects are owned by the maps of the manager, and a timer that expires hands over
the object that it belongs to. So whether this object is still the one in the map is a question,
which the code answers with an assertion; here it follows from `Owned.Map.Owns`.

What happens to an SSRC depends only on its `Demand`, the flags of its two objects
(`step_cases`). A key frame that is needed is remembered in one of them (`KeyFrameRequests.served`),
and each request of a timer uses up some of them.
-/

namespace MediasoupSfu

/-- `PendingKeyFrameInfo`. -/
structure PendingKeyFrameInfo where
  retryOnTimeout : Bool := true
  /-- The timer is active. -/
  armed : Bool := true
  deriving DecidableEq, Repr

/-- `KeyFrameRequestDelayer`. -/
structure KeyFrameRequestDelayer where
  keyFrameRequested : Bool := false
  /-- The timer is active. -/
  armed : Bool := true
  deriving DecidableEq, Repr

/-- The members of `KeyFrameRequestManager`. -/
structure KeyFrameRequestManager where
  /-- 0 means disabled. -/
  keyFrameRequestDelay : BitVec 32
  mapSsrcPendingKeyFrameInfo : Owned.Map (BitVec 32) PendingKeyFrameInfo := {}
  mapSsrcKeyFrameRequestDelayer : Owned.Map (BitVec 32) KeyFrameRequestDelayer := {}

/-- What can happen to a manager. -/
inductive KeyFrameEvent where
  | keyFrameNeeded (ssrc : BitVec 32)
  | forceKeyFrameNeeded (ssrc : BitVec 32)
  | keyFrameReceived (ssrc : BitVec 32)
  /-- The timer of a `PendingKeyFrameInfo` expires. -/
  | keyFrameRequestTimeout (pendingKeyFrameInfo : ℕ)
  /-- The timer of a `KeyFrameRequestDelayer` expires. -/
  | keyFrameDelayTimeout (keyFrameRequestDelayer : ℕ)
  deriving DecidableEq, Repr

/-- The object behind a pointer. -/
def deref {κ ν : Type} (m : Owned.Map κ ν) (p : ℕ) : Except Fault (κ × ν) :=
  match m.objects p with
  | some object => .ok object
  | none => .error .outOfBounds

namespace KeyFrameRequestManager

/-! ## The code -/

/-- The end of `KeyFrameNeeded`: the SSRCs for which `OnKeyFrameNeeded` is called. -/
def requestKeyFrame (s : KeyFrameRequestManager) (ssrc : BitVec 32) :
    Except Fault (List (BitVec 32) × KeyFrameRequestManager) :=
  match s.mapSsrcPendingKeyFrameInfo.entries ssrc with
  -- There is a pending key frame for the given ssrc. Re-request the key frame if not received on
  -- time.
  | some p => do
    let (key, info) ← deref s.mapSsrcPendingKeyFrameInfo p
    return ([], { s with
      mapSsrcPendingKeyFrameInfo :=
        s.mapSsrcPendingKeyFrameInfo.set p key { info with retryOnTimeout := true } })
  | none =>
    .ok ([ssrc], { s with
      mapSsrcPendingKeyFrameInfo := s.mapSsrcPendingKeyFrameInfo.create ssrc {} })

/-- `KeyFrameNeeded(ssrc)`. -/
def keyFrameNeeded (s : KeyFrameRequestManager) (ssrc : BitVec 32) :
    Except Fault (List (BitVec 32) × KeyFrameRequestManager) :=
  if 0 < s.keyFrameRequestDelay then
    match s.mapSsrcKeyFrameRequestDelayer.entries ssrc with
    -- There is a delayer for the given ssrc, so enable it and return.
    | some p => do
      let (key, delayer) ← deref s.mapSsrcKeyFrameRequestDelayer p
      return ([], { s with
        mapSsrcKeyFrameRequestDelayer :=
          s.mapSsrcKeyFrameRequestDelayer.set p key { delayer with keyFrameRequested := true } })
    -- Otherwise create a delayer (not yet enabled) and continue.
    | none =>
      requestKeyFrame { s with
        mapSsrcKeyFrameRequestDelayer := s.mapSsrcKeyFrameRequestDelayer.create ssrc {} } ssrc
  else s.requestKeyFrame ssrc

/-- Create or replace the delayer for an ssrc. -/
def restartDelayer (s : KeyFrameRequestManager) (ssrc : BitVec 32) : KeyFrameRequestManager :=
  match s.mapSsrcKeyFrameRequestDelayer.entries ssrc with
  | some p =>
    { s with mapSsrcKeyFrameRequestDelayer :=
        (s.mapSsrcKeyFrameRequestDelayer.delete p).create ssrc {} }
  | none =>
    { s with mapSsrcKeyFrameRequestDelayer := s.mapSsrcKeyFrameRequestDelayer.create ssrc {} }

/-- `ForceKeyFrameNeeded(ssrc)`. -/
def forceKeyFrameNeeded (s : KeyFrameRequestManager) (ssrc : BitVec 32) :
    Except Fault (List (BitVec 32) × KeyFrameRequestManager) :=
  let s := if 0 < s.keyFrameRequestDelay then s.restartDelayer ssrc else s
  match s.mapSsrcPendingKeyFrameInfo.entries ssrc with
  | some p => do
    let (key, _) ← deref s.mapSsrcPendingKeyFrameInfo p
    return ([ssrc], { s with
      mapSsrcPendingKeyFrameInfo :=
        s.mapSsrcPendingKeyFrameInfo.set p key { retryOnTimeout := true, armed := true } })
  | none =>
    .ok ([ssrc], { s with
      mapSsrcPendingKeyFrameInfo := s.mapSsrcPendingKeyFrameInfo.create ssrc {} })

/-- `KeyFrameReceived(ssrc)`. -/
def keyFrameReceived (s : KeyFrameRequestManager) (ssrc : BitVec 32) : KeyFrameRequestManager :=
  match s.mapSsrcPendingKeyFrameInfo.entries ssrc with
  | some p =>
    { s with
      mapSsrcPendingKeyFrameInfo := (s.mapSsrcPendingKeyFrameInfo.delete p).erase ssrc }
  | none => s

/-- `OnKeyFrameRequestTimeout(pendingKeyFrameInfo)`. Its timer has expired. -/
def onKeyFrameRequestTimeout (s : KeyFrameRequestManager) (pendingKeyFrameInfo : ℕ) :
    Except Fault (List (BitVec 32) × KeyFrameRequestManager) := do
  let (ssrc, info) ← deref s.mapSsrcPendingKeyFrameInfo pendingKeyFrameInfo
  msAssert (s.mapSsrcPendingKeyFrameInfo.entries ssrc).isSome
    "PendingKeyFrameInfo not present in the map"
  if ¬info.retryOnTimeout then
    return ([], { s with
      mapSsrcPendingKeyFrameInfo :=
        (s.mapSsrcPendingKeyFrameInfo.delete pendingKeyFrameInfo).erase ssrc })
  -- Best effort in case the PLI/FIR was lost. Do not retry on timeout.
  else
    return ([ssrc], { s with
      mapSsrcPendingKeyFrameInfo := s.mapSsrcPendingKeyFrameInfo.set pendingKeyFrameInfo ssrc
        { retryOnTimeout := false, armed := true } })

/-- `OnKeyFrameDelayTimeout(keyFrameRequestDelayer)`. Its timer has expired. -/
def onKeyFrameDelayTimeout (s : KeyFrameRequestManager) (keyFrameRequestDelayer : ℕ) :
    Except Fault (List (BitVec 32) × KeyFrameRequestManager) := do
  let (ssrc, delayer) ← deref s.mapSsrcKeyFrameRequestDelayer keyFrameRequestDelayer
  msAssert (s.mapSsrcKeyFrameRequestDelayer.entries ssrc).isSome
    "KeyFrameRequestDelayer not present in the map"
  let s := { s with
    mapSsrcKeyFrameRequestDelayer :=
      (s.mapSsrcKeyFrameRequestDelayer.delete keyFrameRequestDelayer).erase ssrc }
  -- Ask for a new key frame as normal if needed.
  if delayer.keyFrameRequested then s.keyFrameNeeded ssrc else return ([], s)

/-- One event, with the SSRCs for which `OnKeyFrameNeeded` is called. -/
def step (s : KeyFrameRequestManager) :
    KeyFrameEvent → Except Fault (List (BitVec 32) × KeyFrameRequestManager)
  | .keyFrameNeeded ssrc => s.keyFrameNeeded ssrc
  | .forceKeyFrameNeeded ssrc => s.forceKeyFrameNeeded ssrc
  | .keyFrameReceived ssrc => .ok ([], s.keyFrameReceived ssrc)
  | .keyFrameRequestTimeout p => do
    -- The timer is not active any more when it calls back.
    let (ssrc, info) ← deref s.mapSsrcPendingKeyFrameInfo p
    onKeyFrameRequestTimeout { s with
      mapSsrcPendingKeyFrameInfo :=
        s.mapSsrcPendingKeyFrameInfo.set p ssrc { info with armed := false } } p
  | .keyFrameDelayTimeout p => do
    let (ssrc, delayer) ← deref s.mapSsrcKeyFrameRequestDelayer p
    onKeyFrameDelayTimeout { s with
      mapSsrcKeyFrameRequestDelayer :=
        s.mapSsrcKeyFrameRequestDelayer.set p ssrc { delayer with armed := false } } p

/-- A timer expires only if it is active. -/
def Legal (s : KeyFrameRequestManager) : KeyFrameEvent → Prop
  | .keyFrameRequestTimeout p =>
    ∃ ssrc info, s.mapSsrcPendingKeyFrameInfo.objects p = some (ssrc, info) ∧ info.armed = true
  | .keyFrameDelayTimeout p =>
    ∃ ssrc delayer, s.mapSsrcKeyFrameRequestDelayer.objects p = some (ssrc, delayer) ∧
      delayer.armed = true
  | _ => True

/-! ## What is remembered about an SSRC -/

end KeyFrameRequestManager

/-- What a manager remembers about an SSRC: `retryOnTimeout` of its pending key frame and
`keyFrameRequested` of its delayer. -/
structure Demand where
  retryOnTimeout : Option Bool := none
  keyFrameRequested : Option Bool := none
  deriving DecidableEq, Repr

/-- What can happen to an SSRC. -/
inductive DemandEvent where
  | needed | forced | received | requestTimeout | delayTimeout
  deriving DecidableEq, Repr

namespace Demand

/-- Whether a request goes out, and what is remembered then. -/
def request (d : Demand) : Bool × Demand :=
  (d.retryOnTimeout.isNone, { d with retryOnTimeout := some true })

def need (delays : Bool) (d : Demand) : Bool × Demand :=
  if delays then
    if d.keyFrameRequested.isSome then (false, { d with keyFrameRequested := some true })
    else { d with keyFrameRequested := some false }.request
  else d.request

def react (delays : Bool) (d : Demand) : DemandEvent → Bool × Demand
  | .needed => d.need delays
  | .forced =>
    (true, ⟨some true, if delays then some false else d.keyFrameRequested⟩)
  | .received => (false, { d with retryOnTimeout := none })
  | .requestTimeout =>
    if d.retryOnTimeout = some true then (true, { d with retryOnTimeout := some false })
    else (false, { d with retryOnTimeout := none })
  | .delayTimeout =>
    if d.keyFrameRequested = some true then { d with keyFrameRequested := none }.need delays
    else (false, { d with keyFrameRequested := none })

/-- A key frame will be asked for when a timer expires. -/
def Remembers (d : Demand) : Prop :=
  d.retryOnTimeout = some true ∨ d.keyFrameRequested = some true

/-- How many requests the timers can still make. -/
def potential (d : Demand) : ℕ :=
  (if d.retryOnTimeout = some true then 1 else 0) +
    if d.keyFrameRequested = some true then 2 else 0

theorem potential_le (d : Demand) : d.potential ≤ 3 := by
  unfold potential
  split <;> split <;> decide

/-- A key frame that is needed is asked for at once or remembered. -/
theorem need_remembers {delays : Bool} {d : Demand} (h : (d.need delays).1 = false) :
    (d.need delays).2.Remembers := by
  unfold need at h ⊢
  cases delays with
  | false => exact Or.inl rfl
  | true =>
    by_cases hdelayer : d.keyFrameRequested.isSome = true
    · rw [if_pos rfl, if_pos hdelayer]
      exact Or.inr rfl
    · rw [if_pos rfl, if_neg hdelayer]
      exact Or.inl rfl

/-- What is remembered stays so until a request goes out or the key frame is received. -/
theorem react_remembers {delays : Bool} {d : Demand} {e : DemandEvent} (hd : d.Remembers)
    (hsilent : (d.react delays e).1 = false) (he : e ≠ .received) :
    (d.react delays e).2.Remembers := by
  cases e with
  | needed => exact need_remembers hsilent
  | forced => cases hsilent
  | received => exact absurd rfl he
  | requestTimeout =>
    rw [react] at hsilent ⊢
    by_cases hretry : d.retryOnTimeout = some true
    · rw [if_pos hretry] at hsilent
      cases hsilent
    · rw [if_neg hretry]
      exact Or.inr (hd.resolve_left hretry)
  | delayTimeout =>
    rw [react] at hsilent ⊢
    by_cases hrequested : d.keyFrameRequested = some true
    · rw [if_pos hrequested] at hsilent ⊢
      exact need_remembers hsilent
    · rw [if_neg hrequested]
      exact Or.inl (hd.resolve_right hrequested)

/-- A request that a timer makes uses up one that it can make. -/
theorem react_potential {delays : Bool} {d : Demand} {e : DemandEvent}
    (he : e = .requestTimeout ∨ e = .delayTimeout) :
    (if (d.react delays e).1 then 1 else 0) + (d.react delays e).2.potential ≤ d.potential := by
  obtain ⟨retry, requested⟩ := d
  revert delays retry requested
  rcases he with rfl | rfl <;> decide

end Demand

namespace KeyFrameRequestManager

variable {s t : KeyFrameRequestManager} {ssrc : BitVec 32}

/-- What the manager remembers about an SSRC. -/
def demand (s : KeyFrameRequestManager) (ssrc : BitVec 32) : Demand where
  retryOnTimeout := (s.mapSsrcPendingKeyFrameInfo.lookup ssrc).map (·.retryOnTimeout)
  keyFrameRequested := (s.mapSsrcKeyFrameRequestDelayer.lookup ssrc).map (·.keyFrameRequested)

/-- A manager that waits for a request: the maps own their objects, whose timers are active. -/
structure Sound (s : KeyFrameRequestManager) : Prop where
  pendingOwns : s.mapSsrcPendingKeyFrameInfo.Owns
  delayerOwns : s.mapSsrcKeyFrameRequestDelayer.Owns
  pendingArmed : ∀ {ssrc info},
    s.mapSsrcPendingKeyFrameInfo.lookup ssrc = some info → info.armed = true
  delayerArmed : ∀ {ssrc delayer},
    s.mapSsrcKeyFrameRequestDelayer.lookup ssrc = some delayer → delayer.armed = true

/-- From `s` the manager comes to `t` with the given output, as an SSRC reacts. -/
structure Reacts (s : KeyFrameRequestManager) (ssrc : BitVec 32) (reaction : Bool × Demand)
    (output : List (BitVec 32)) (t : KeyFrameRequestManager) : Prop where
  sound : t.Sound
  delay : t.keyFrameRequestDelay = s.keyFrameRequestDelay
  output : output = if reaction.1 then [ssrc] else []
  demand : t.demand ssrc = reaction.2
  other : ∀ other, other ≠ ssrc → t.demand other = s.demand other

theorem sound_init (delay : BitVec 32) : Sound { keyFrameRequestDelay := delay } :=
  ⟨Owned.Map.owns_empty, Owned.Map.owns_empty, nofun, nofun⟩

/-- A change of the pending key frame of an SSRC. -/
theorem Sound.reacts_pending (hs : s.Sound)
    {m : Owned.Map (BitVec 32) PendingKeyFrameInfo} {v : Option PendingKeyFrameInfo}
    (hm : m.Owns ∧ ∀ k, m.lookup k =
      if k = ssrc then v else s.mapSsrcPendingKeyFrameInfo.lookup k)
    (harmed : ∀ info, v = some info → info.armed = true) (emits : Bool) :
    s.Reacts ssrc (emits, { s.demand ssrc with retryOnTimeout := v.map (·.retryOnTimeout) })
      (if emits then [ssrc] else []) { s with mapSsrcPendingKeyFrameInfo := m } where
  sound := by
    refine ⟨hm.1, hs.delayerOwns, fun {k info} hk ↦ ?_, hs.delayerArmed⟩
    rw [hm.2 k] at hk
    split at hk
    · exact harmed info hk
    · exact hs.pendingArmed hk
  delay := rfl
  output := rfl
  demand := by
    rw [demand, hm.2 ssrc, if_pos rfl]
    rfl
  other k hk := by
    rw [demand, hm.2 k, if_neg hk]
    rfl

/-- A change of the delayer of an SSRC. -/
theorem Sound.reacts_delayer (hs : s.Sound)
    {m : Owned.Map (BitVec 32) KeyFrameRequestDelayer} {v : Option KeyFrameRequestDelayer}
    (hm : m.Owns ∧ ∀ k, m.lookup k =
      if k = ssrc then v else s.mapSsrcKeyFrameRequestDelayer.lookup k)
    (harmed : ∀ delayer, v = some delayer → delayer.armed = true) :
    s.Reacts ssrc
      (false, { s.demand ssrc with keyFrameRequested := v.map (·.keyFrameRequested) })
      [] { s with mapSsrcKeyFrameRequestDelayer := m } where
  sound := by
    refine ⟨hs.pendingOwns, hm.1, hs.pendingArmed, fun {k delayer} hk ↦ ?_⟩
    rw [hm.2 k] at hk
    split at hk
    · exact harmed delayer hk
    · exact hs.delayerArmed hk
  delay := rfl
  output := rfl
  demand := by
    rw [demand, hm.2 ssrc, if_pos rfl]
    rfl
  other k hk := by
    rw [demand, hm.2 k, if_neg hk]
    rfl

/-- A silent change, and then a reaction to what is remembered after it. -/
theorem Reacts.trans {u : KeyFrameRequestManager} {d : Demand} {reaction : Bool × Demand}
    {output : List (BitVec 32)} (hst : s.Reacts ssrc (false, d) [] t)
    (htu : t.Reacts ssrc reaction output u) : s.Reacts ssrc reaction output u where
  sound := htu.sound
  delay := htu.delay.trans hst.delay
  output := htu.output
  demand := htu.demand
  other k hk := (htu.other k hk).trans (hst.other k hk)

theorem deref_eq {κ ν : Type} {m : Owned.Map κ ν} {p : ℕ} {object : κ × ν}
    (h : m.objects p = some object) : deref m p = .ok object := by
  rw [deref, h]

/-! ### The operations -/

theorem requestKeyFrame_reacts (hs : s.Sound) (ssrc : BitVec 32) :
    ∃ output t, s.requestKeyFrame ssrc = .ok (output, t) ∧
      s.Reacts ssrc (s.demand ssrc).request output t := by
  cases hentry : s.mapSsrcPendingKeyFrameInfo.entries ssrc with
  | none =>
    have hlookup := Owned.Map.lookup_of_no_entry hentry
    refine ⟨_, _, by rw [requestKeyFrame, hentry], ?_⟩
    have hreacts := hs.reacts_pending (hs.pendingOwns.create hentry {})
      (fun info hinfo ↦ by cases hinfo; rfl) true
    rw [Demand.request, demand, hlookup]
    exact hreacts
  | some p =>
    obtain ⟨info, hinfo⟩ := hs.pendingOwns.object_of_entry hentry
    have hlookup := hs.pendingOwns.lookup_of_object hinfo
    have harmed := hs.pendingArmed hlookup
    refine ⟨[], _, by rw [requestKeyFrame, hentry]; simp only [deref_eq hinfo]; rfl, ?_⟩
    have hreacts := hs.reacts_pending
      (hs.pendingOwns.set hinfo { info with retryOnTimeout := true })
      (fun info hinfo ↦ by cases hinfo; exact harmed) false
    rw [Demand.request, demand, hlookup]
    exact hreacts

theorem keyFrameNeeded_reacts (hs : s.Sound) (ssrc : BitVec 32) :
    ∃ output t, s.keyFrameNeeded ssrc = .ok (output, t) ∧
      s.Reacts ssrc ((s.demand ssrc).need (0 < s.keyFrameRequestDelay)) output t := by
  rw [keyFrameNeeded, Demand.need]
  by_cases hdelay : 0 < s.keyFrameRequestDelay
  · rw [if_pos hdelay, decide_eq_true hdelay, if_pos rfl]
    cases hentry : s.mapSsrcKeyFrameRequestDelayer.entries ssrc with
    | none =>
      have hlookup := Owned.Map.lookup_of_no_entry hentry
      have hcreated := hs.reacts_delayer (hs.delayerOwns.create hentry {})
        (fun delayer hdelayer ↦ by cases hdelayer; rfl)
      obtain ⟨output, t, hok, ht⟩ := requestKeyFrame_reacts hcreated.sound ssrc
      refine ⟨output, t, hok, ?_⟩
      rw [hcreated.demand] at ht
      rw [if_neg (by rw [demand, hlookup]; exact Bool.false_ne_true)]
      exact hcreated.trans ht
    | some p =>
      obtain ⟨delayer, hdelayer⟩ := hs.delayerOwns.object_of_entry hentry
      have hlookup := hs.delayerOwns.lookup_of_object hdelayer
      have harmed := hs.delayerArmed hlookup
      refine ⟨[], _, by simp only [deref_eq hdelayer]; rfl, ?_⟩
      have hreacts := hs.reacts_delayer
        (hs.delayerOwns.set hdelayer { delayer with keyFrameRequested := true })
        (fun delayer hdelayer ↦ by cases hdelayer; exact harmed)
      rw [if_pos (by rw [demand, hlookup]; rfl)]
      exact hreacts
  · rw [if_neg hdelay, decide_eq_false hdelay, if_neg Bool.false_ne_true]
    exact requestKeyFrame_reacts hs ssrc

/-- The delayer of an SSRC starts anew. -/
theorem restartDelayer_reacts (hs : s.Sound) (ssrc : BitVec 32) :
    s.Reacts ssrc (false, { s.demand ssrc with keyFrameRequested := some false }) []
      (s.restartDelayer ssrc) := by
  rw [restartDelayer]
  cases hentry : s.mapSsrcKeyFrameRequestDelayer.entries ssrc with
  | none =>
    exact hs.reacts_delayer (hs.delayerOwns.create hentry {})
      (fun delayer hdelayer ↦ by cases hdelayer; rfl)
  | some p =>
    obtain ⟨delayer, hdelayer⟩ := hs.delayerOwns.object_of_entry hentry
    exact hs.reacts_delayer (hs.delayerOwns.replace hdelayer {})
      (fun delayer hdelayer ↦ by cases hdelayer; rfl)

theorem forceKeyFrameNeeded_reacts (hs : s.Sound) (ssrc : BitVec 32) :
    ∃ output t, s.forceKeyFrameNeeded ssrc = .ok (output, t) ∧
      s.Reacts ssrc ((s.demand ssrc).react (0 < s.keyFrameRequestDelay) .forced) output t := by
  -- with the pending key frame
  have hforce : ∀ {u : KeyFrameRequestManager}, u.Sound → ∃ output t,
      (match u.mapSsrcPendingKeyFrameInfo.entries ssrc with
        | some p => do
          let (key, _) ← deref u.mapSsrcPendingKeyFrameInfo p
          return ([ssrc], { u with
            mapSsrcPendingKeyFrameInfo :=
              u.mapSsrcPendingKeyFrameInfo.set p key { retryOnTimeout := true, armed := true } })
        | none =>
          .ok ([ssrc], { u with
            mapSsrcPendingKeyFrameInfo := u.mapSsrcPendingKeyFrameInfo.create ssrc {} }) :
        Except Fault (List (BitVec 32) × KeyFrameRequestManager)) = .ok (output, t) ∧
      u.Reacts ssrc (true, { u.demand ssrc with retryOnTimeout := some true }) output t := by
    intro u hu
    cases hentry : u.mapSsrcPendingKeyFrameInfo.entries ssrc with
    | none =>
      exact ⟨_, _, rfl, hu.reacts_pending (hu.pendingOwns.create hentry {})
        (fun info hinfo ↦ by cases hinfo; rfl) true⟩
    | some p =>
      obtain ⟨info, hinfo⟩ := hu.pendingOwns.object_of_entry hentry
      refine ⟨[ssrc], _, by simp only [deref_eq hinfo]; rfl, ?_⟩
      exact hu.reacts_pending (hu.pendingOwns.set hinfo { retryOnTimeout := true, armed := true })
        (fun info hinfo ↦ by cases hinfo; rfl) true
  rw [forceKeyFrameNeeded, Demand.react]
  by_cases hdelay : 0 < s.keyFrameRequestDelay
  · have hrestarted := restartDelayer_reacts hs ssrc
    obtain ⟨output, t, hok, ht⟩ := hforce hrestarted.sound
    refine ⟨output, t, ?_, ?_⟩
    · rw [if_pos hdelay]
      exact hok
    · rw [decide_eq_true hdelay, if_pos rfl]
      rw [hrestarted.demand] at ht
      exact hrestarted.trans ht
  · obtain ⟨output, t, hok, ht⟩ := hforce hs
    refine ⟨output, t, ?_, ?_⟩
    · rw [if_neg hdelay]
      exact hok
    · rw [decide_eq_false hdelay, if_neg Bool.false_ne_true]
      exact ht

theorem keyFrameReceived_reacts (hs : s.Sound) (ssrc : BitVec 32) :
    s.Reacts ssrc ((s.demand ssrc).react (0 < s.keyFrameRequestDelay) .received) []
      (s.keyFrameReceived ssrc) := by
  rw [keyFrameReceived, Demand.react]
  cases hentry : s.mapSsrcPendingKeyFrameInfo.entries ssrc with
  | none =>
    have hlookup := Owned.Map.lookup_of_no_entry hentry
    refine ⟨hs, rfl, rfl, ?_, fun _ _ ↦ rfl⟩
    rw [demand, hlookup]
    rfl
  | some p =>
    obtain ⟨info, hinfo⟩ := hs.pendingOwns.object_of_entry hentry
    exact hs.reacts_pending (hs.pendingOwns.remove hinfo) nofun false

/-- The assertion holds of an object that is in the map. -/
theorem onKeyFrameRequestTimeout_eq {p : ℕ} {info : PendingKeyFrameInfo}
    (hp : s.mapSsrcPendingKeyFrameInfo.objects p = some (ssrc, info))
    (hentry : s.mapSsrcPendingKeyFrameInfo.entries ssrc = some p) :
    s.onKeyFrameRequestTimeout p = .ok
      (if info.retryOnTimeout then
        ([ssrc], { s with
          mapSsrcPendingKeyFrameInfo :=
            s.mapSsrcPendingKeyFrameInfo.set p ssrc { retryOnTimeout := false, armed := true } })
      else
        ([], { s with
          mapSsrcPendingKeyFrameInfo := (s.mapSsrcPendingKeyFrameInfo.delete p).erase ssrc })) := by
  rw [onKeyFrameRequestTimeout, deref_eq hp]
  simp only [bind, Except.bind, hentry, Option.isSome_some, msAssert_true]
  cases hretry : info.retryOnTimeout <;> rfl

theorem onKeyFrameDelayTimeout_eq {p : ℕ} {delayer : KeyFrameRequestDelayer}
    (hp : s.mapSsrcKeyFrameRequestDelayer.objects p = some (ssrc, delayer))
    (hentry : s.mapSsrcKeyFrameRequestDelayer.entries ssrc = some p) :
    s.onKeyFrameDelayTimeout p =
      let t := { s with
        mapSsrcKeyFrameRequestDelayer := (s.mapSsrcKeyFrameRequestDelayer.delete p).erase ssrc }
      if delayer.keyFrameRequested then t.keyFrameNeeded ssrc else .ok ([], t) := by
  rw [onKeyFrameDelayTimeout, deref_eq hp]
  simp only [bind, Except.bind, hentry, Option.isSome_some, msAssert_true]
  rfl

/-- The timer of a pending key frame that is in the map expires. -/
theorem requestTimeout_reacts (hs : s.Sound) {p : ℕ} {info : PendingKeyFrameInfo}
    (hp : s.mapSsrcPendingKeyFrameInfo.objects p = some (ssrc, info)) :
    ∃ output t, s.step (.keyFrameRequestTimeout p) = .ok (output, t) ∧
      s.Reacts ssrc ((s.demand ssrc).react (0 < s.keyFrameRequestDelay) .requestTimeout)
        output t := by
  have hlookup := hs.pendingOwns.lookup_of_object hp
  have hentry := hs.pendingOwns.entry_of_object hp
  set fired := s.mapSsrcPendingKeyFrameInfo.set p ssrc { info with armed := false }
  have howns := hs.pendingOwns.set hp { info with armed := false }
  have hobject : fired.objects p = some (ssrc, { info with armed := false }) :=
    Function.update_self _ _ _
  have hpresent : fired.entries ssrc = some p := hentry
  -- what the map is afterwards, compared with what it was before
  have hafter : ∀ {m : Owned.Map (BitVec 32) PendingKeyFrameInfo} {value},
      (m.Owns ∧ ∀ k, m.lookup k = if k = ssrc then value else fired.lookup k) →
      m.Owns ∧ ∀ k, m.lookup k =
        if k = ssrc then value else s.mapSsrcPendingKeyFrameInfo.lookup k := by
    intro m value hm
    refine ⟨hm.1, fun k ↦ ?_⟩
    rw [hm.2 k]
    by_cases hk : k = ssrc
    · rw [if_pos hk, if_pos hk]
    · rw [if_neg hk, if_neg hk, howns.2 k, if_neg hk]
  have hstep : s.step (.keyFrameRequestTimeout p) = onKeyFrameRequestTimeout
      { s with mapSsrcPendingKeyFrameInfo := fired } p := by
    simp only [step, deref_eq hp]
    rfl
  rw [onKeyFrameRequestTimeout_eq (s := { s with mapSsrcPendingKeyFrameInfo := fired }) hobject
    hpresent] at hstep
  rw [hstep, Demand.react]
  by_cases hretry : info.retryOnTimeout = true
  · refine ⟨[ssrc], _, congrArg _ (if_pos hretry), ?_⟩
    rw [if_pos (by rw [demand, hlookup, Option.map_some, hretry])]
    exact hs.reacts_pending
      (hafter (howns.1.set hobject { retryOnTimeout := false, armed := true }))
      (fun info hinfo ↦ by cases hinfo; rfl) true
  · refine ⟨[], _, congrArg _ (if_neg hretry), ?_⟩
    rw [if_neg (by rw [demand, hlookup]; exact fun h ↦ hretry (Option.some.inj h))]
    exact hs.reacts_pending (hafter (howns.1.remove hobject)) nofun false

/-- The timer of a delayer that is in the map expires. -/
theorem delayTimeout_reacts (hs : s.Sound) {p : ℕ} {delayer : KeyFrameRequestDelayer}
    (hp : s.mapSsrcKeyFrameRequestDelayer.objects p = some (ssrc, delayer)) :
    ∃ output t, s.step (.keyFrameDelayTimeout p) = .ok (output, t) ∧
      s.Reacts ssrc ((s.demand ssrc).react (0 < s.keyFrameRequestDelay) .delayTimeout)
        output t := by
  have hlookup := hs.delayerOwns.lookup_of_object hp
  have hentry := hs.delayerOwns.entry_of_object hp
  set fired := s.mapSsrcKeyFrameRequestDelayer.set p ssrc { delayer with armed := false }
  have howns := hs.delayerOwns.set hp { delayer with armed := false }
  have hobject : fired.objects p = some (ssrc, { delayer with armed := false }) :=
    Function.update_self _ _ _
  have hpresent : fired.entries ssrc = some p := hentry
  have hremoved := howns.1.remove hobject
  have hgone := hs.reacts_delayer (v := none) (m := (fired.delete p).erase ssrc)
    ⟨hremoved.1, fun k ↦ by
      rw [hremoved.2 k]
      by_cases hk : k = ssrc
      · rw [if_pos hk, if_pos hk]
      · rw [if_neg hk, if_neg hk, howns.2 k, if_neg hk]⟩ nofun
  have hstep : s.step (.keyFrameDelayTimeout p) = onKeyFrameDelayTimeout
      { s with mapSsrcKeyFrameRequestDelayer := fired } p := by
    simp only [step, deref_eq hp]
    rfl
  rw [onKeyFrameDelayTimeout_eq (s := { s with mapSsrcKeyFrameRequestDelayer := fired }) hobject
    hpresent] at hstep
  rw [hstep, Demand.react]
  by_cases hrequested : delayer.keyFrameRequested = true
  · obtain ⟨output, t, hok, ht⟩ := keyFrameNeeded_reacts hgone.sound ssrc
    refine ⟨output, t, (if_pos hrequested).trans hok, ?_⟩
    rw [if_pos (by rw [demand, hlookup, Option.map_some, hrequested])]
    rw [hgone.demand, hgone.delay] at ht
    exact hgone.trans ht
  · refine ⟨[], _, if_neg hrequested, ?_⟩
    rw [if_neg (by rw [demand, hlookup]; exact fun h ↦ hrequested (Option.some.inj h))]
    exact hgone

/-! ### One step -/

/-- The SSRC that an event is about, and what happens to it. -/
def about (s : KeyFrameRequestManager) : KeyFrameEvent → Option (BitVec 32 × DemandEvent)
  | .keyFrameNeeded ssrc => some (ssrc, .needed)
  | .forceKeyFrameNeeded ssrc => some (ssrc, .forced)
  | .keyFrameReceived ssrc => some (ssrc, .received)
  | .keyFrameRequestTimeout p =>
    (s.mapSsrcPendingKeyFrameInfo.objects p).map fun object ↦ (object.1, .requestTimeout)
  | .keyFrameDelayTimeout p =>
    (s.mapSsrcKeyFrameRequestDelayer.objects p).map fun object ↦ (object.1, .delayTimeout)

theorem eq_of_about_received {e : KeyFrameEvent} (h : s.about e = some (ssrc, .received)) :
    e = .keyFrameReceived ssrc := by
  cases e with
  | keyFrameNeeded _ => cases h
  | forceKeyFrameNeeded _ => cases h
  | keyFrameReceived _ =>
    cases h
    rfl
  | keyFrameRequestTimeout p =>
    obtain ⟨_, -, h⟩ := Option.map_eq_some_iff.mp h
    cases h
  | keyFrameDelayTimeout p =>
    obtain ⟨_, -, h⟩ := Option.map_eq_some_iff.mp h
    cases h

/-- A legal event returns, and only the SSRC that it is about reacts. -/
theorem step_cases (hs : s.Sound) {e : KeyFrameEvent} (hlegal : s.Legal e) :
    ∃ ssrc event output t, s.about e = some (ssrc, event) ∧ s.step e = .ok (output, t) ∧
      s.Reacts ssrc ((s.demand ssrc).react (0 < s.keyFrameRequestDelay) event) output t := by
  cases e with
  | keyFrameNeeded ssrc =>
    obtain ⟨output, t, hok, ht⟩ := keyFrameNeeded_reacts hs ssrc
    exact ⟨ssrc, _, output, t, rfl, hok, ht⟩
  | forceKeyFrameNeeded ssrc =>
    obtain ⟨output, t, hok, ht⟩ := forceKeyFrameNeeded_reacts hs ssrc
    exact ⟨ssrc, _, output, t, rfl, hok, ht⟩
  | keyFrameReceived ssrc => exact ⟨ssrc, _, [], _, rfl, rfl, keyFrameReceived_reacts hs ssrc⟩
  | keyFrameRequestTimeout p =>
    obtain ⟨ssrc, info, hp, -⟩ := hlegal
    obtain ⟨output, t, hok, ht⟩ := requestTimeout_reacts hs hp
    exact ⟨ssrc, _, output, t, by rw [about, hp]; rfl, hok, ht⟩
  | keyFrameDelayTimeout p =>
    obtain ⟨ssrc, delayer, hp, -⟩ := hlegal
    obtain ⟨output, t, hok, ht⟩ := delayTimeout_reacts hs hp
    exact ⟨ssrc, _, output, t, by rw [about, hp]; rfl, hok, ht⟩

/-- A pending key frame or a delayer asks for the key frame when its timer expires. -/
def Serves (s : KeyFrameRequestManager) (ssrc : BitVec 32) : Prop :=
  (∃ p info, s.mapSsrcPendingKeyFrameInfo.entries ssrc = some p ∧
    s.mapSsrcPendingKeyFrameInfo.objects p = some (ssrc, info) ∧ info.retryOnTimeout = true ∧
    info.armed = true) ∨
  ∃ p delayer, s.mapSsrcKeyFrameRequestDelayer.entries ssrc = some p ∧
    s.mapSsrcKeyFrameRequestDelayer.objects p = some (ssrc, delayer) ∧
    delayer.keyFrameRequested = true ∧ delayer.armed = true

/-- What is remembered about an SSRC is in an object of the maps. -/
theorem Sound.serves (hs : s.Sound) (hremembers : (s.demand ssrc).Remembers) : s.Serves ssrc := by
  rcases hremembers with hretry | hrequested
  · obtain ⟨info, hlookup, hinfo⟩ := Option.map_eq_some_iff.mp hretry
    obtain ⟨p, hentry, hp⟩ := hs.pendingOwns.exists_object hlookup
    exact Or.inl ⟨p, info, hentry, hp, hinfo, hs.pendingArmed hlookup⟩
  · obtain ⟨delayer, hlookup, hdelayer⟩ := Option.map_eq_some_iff.mp hrequested
    obtain ⟨p, hentry, hp⟩ := hs.delayerOwns.exists_object hlookup
    exact Or.inr ⟨p, delayer, hentry, hp, hdelayer, hs.delayerArmed hlookup⟩

end KeyFrameRequestManager

/-! ## Runs -/

namespace KeyFrameRequests

open KeyFrameRequestManager

/-- A step of a manager, with the SSRCs for which `OnKeyFrameNeeded` is called. -/
abbrev Step := Run.Record KeyFrameRequestManager KeyFrameEvent (List (BitVec 32))

/-- `KeyFrameNeeded(ssrc)` is called, from outside or by the timer of a delayer. -/
def Calls (r : Step) (ssrc : BitVec 32) : Prop :=
  r.event = .keyFrameNeeded ssrc ∨ ∃ p delayer, r.event = .keyFrameDelayTimeout p ∧
    r.before.mapSsrcKeyFrameRequestDelayer.objects p = some (ssrc, delayer) ∧
    delayer.keyFrameRequested = true

/-- A request goes out or the key frame is received. -/
def Answers (r : Step) (ssrc : BitVec 32) : Prop :=
  ssrc ∈ r.output ∨ r.event = .keyFrameReceived ssrc

/-- `KeyFrameNeeded(ssrc)` was called and not answered since. -/
def Unanswered (hist : List Step) (ssrc : BitVec 32) : Prop :=
  ∃ pre r post, hist = pre ++ r :: post ∧ Calls r ssrc ∧ ∀ r' ∈ r :: post, ¬Answers r' ssrc

/-- The events that are no calls. -/
def IsTimeout : KeyFrameEvent → Prop
  | .keyFrameRequestTimeout _ | .keyFrameDelayTimeout _ => True
  | _ => False

variable {s t : KeyFrameRequestManager} {ssrc other : BitVec 32} {e : KeyFrameEvent}
  {event : DemandEvent} {output : List (BitVec 32)} {hist : List Step}

/-- An SSRC that reacts without a request is not among those for which one goes out. -/
theorem silent_of_not_mem {reaction : Bool × Demand} (ht : s.Reacts ssrc reaction output t)
    (h : ssrc ∉ output) : reaction.1 = false := by
  rw [ht.output] at h
  cases hemits : reaction.1 with
  | false => rfl
  | true =>
    rw [hemits, if_pos rfl] at h
    exact absurd (List.mem_singleton_self ssrc) h

/-- What is unanswered is remembered after one more step. -/
theorem unanswered_step (hs : s.Sound) (habout : s.about e = some (ssrc, event))
    (ht : s.Reacts ssrc ((s.demand ssrc).react (0 < s.keyFrameRequestDelay) event) output t)
    (hinv : ∀ ssrc, Unanswered hist ssrc → (s.demand ssrc).Remembers)
    (h : Unanswered (hist ++ [⟨s, e, output, t⟩]) other) : (t.demand other).Remembers := by
  obtain ⟨pre, r, post, hsplit, hcalls, hanswers⟩ := h
  rcases Run.split_concat hsplit with ⟨-, rfl, -⟩ | ⟨post', rfl, rfl⟩
  · have hsilent : other ∉ output := fun h ↦ hanswers _ List.mem_cons_self (Or.inl h)
    rcases hcalls with hevent | ⟨p, delayer, hevent, hp, hrequested⟩
    · obtain rfl : e = .keyFrameNeeded other := hevent
      cases habout
      rw [ht.demand]
      exact Demand.need_remembers (silent_of_not_mem ht hsilent)
    · obtain rfl : e = .keyFrameDelayTimeout p := hevent
      change s.mapSsrcKeyFrameRequestDelayer.objects p = _ at hp
      rw [about, hp] at habout
      cases habout
      have hdemand : (s.demand other).keyFrameRequested = some true := by
        rw [demand, hs.delayerOwns.lookup_of_object hp, Option.map_some, hrequested]
      rw [Demand.react, if_pos hdemand] at ht
      rw [ht.demand]
      exact Demand.need_remembers (silent_of_not_mem ht hsilent)
  · have hlast : ¬Answers ⟨s, e, output, t⟩ other :=
      hanswers _ (List.mem_cons_of_mem _ (List.mem_append_right _ (List.mem_singleton_self _)))
    have hremembers : (s.demand other).Remembers := by
      refine hinv other ⟨pre, r, post', rfl, hcalls, fun r' hr' ↦ hanswers r' ?_⟩
      rw [← List.cons_append]
      exact List.mem_append_left _ hr'
    by_cases hother : other = ssrc
    · subst hother
      rw [ht.demand]
      refine Demand.react_remembers hremembers
        (silent_of_not_mem ht fun h ↦ hlast (Or.inl h)) fun hreceived ↦ hlast (Or.inr ?_)
      subst hreceived
      exact eq_of_about_received habout
    · rw [ht.other other hother]
      exact hremembers

/-- The timers make as many requests for an SSRC as its objects allow. -/
theorem timeout_step (htimeout : IsTimeout e) (habout : s.about e = some (ssrc, event))
    (ht : s.Reacts ssrc ((s.demand ssrc).react (0 < s.keyFrameRequestDelay) event) output t)
    (other : BitVec 32) :
    output.count other + (t.demand other).potential ≤ (s.demand other).potential := by
  have hevent : event = .requestTimeout ∨ event = .delayTimeout := by
    cases e with
    | keyFrameRequestTimeout p =>
      obtain ⟨_, -, h⟩ := Option.map_eq_some_iff.mp habout
      cases h
      exact Or.inl rfl
    | keyFrameDelayTimeout p =>
      obtain ⟨_, -, h⟩ := Option.map_eq_some_iff.mp habout
      cases h
      exact Or.inr rfl
    | _ => exact htimeout.elim
  by_cases hother : other = ssrc
  · subst hother
    have hcount : output.count other =
        if ((s.demand other).react (0 < s.keyFrameRequestDelay) event).1 then 1 else 0 := by
      rw [ht.output]
      split
      · exact List.count_singleton_self
      · exact List.count_nil
    rw [hcount, ht.demand]
    exact Demand.react_potential hevent
  · have hcount : output.count other = 0 := by
      refine List.count_eq_zero.mpr fun hmem ↦ hother ?_
      rw [ht.output] at hmem
      split at hmem
      · exact List.mem_singleton.mp hmem
      · exact absurd hmem List.not_mem_nil
    rw [hcount, ht.other other hother, Nat.zero_add]

/-- **Served demand.** In every run from an empty manager no assertion fails, and a key frame that
is needed and was neither asked for nor received since is asked for when a timer expires. From every
state that is reached the timers alone make at most three requests for each SSRC. -/
theorem served (delay : BitVec 32) :
    (∀ es, Run.Obeys step Legal { keyFrameRequestDelay := delay } es →
      ∃ records, Run.trace step { keyFrameRequestDelay := delay } es = .ok records ∧
        ∀ pre r post ssrc, records = pre ++ r :: post → Unanswered (pre ++ [r]) ssrc →
          r.after.Serves ssrc) ∧
    ∀ s, Run.Reachable step Legal { keyFrameRequestDelay := delay } s →
      ∀ timeouts, (∀ e ∈ timeouts, IsTimeout e) → Run.Obeys step Legal s timeouts →
        ∃ records, Run.trace step s timeouts = .ok records ∧
          ∀ ssrc, (records.flatMap Run.Record.output).count ssrc ≤ 3 := by
  constructor
  · intro es hlegal
    obtain ⟨records, htrace, -, hafter⟩ := Run.Obeys.trace (fun _ ↦ True)
      (fun hist s ↦ s.Sound ∧ ∀ ssrc, Unanswered hist ssrc → (s.demand ssrc).Remembers)
      (fun hist s e ⟨hs, hinv⟩ _ hlegal ↦ by
        obtain ⟨ssrc, event, output, t, habout, hok, ht⟩ := step_cases hs hlegal
        exact ⟨output, t, hok, ht.sound, fun _ ↦ unanswered_step hs habout ht hinv⟩)
      es [] _ ⟨sound_init delay, fun _ ⟨_, _, _, hnil, _⟩ ↦ by simp at hnil⟩ (fun _ _ ↦ trivial)
      hlegal
    refine ⟨records, htrace, fun pre r post ssrc hsplit hunanswered ↦ ?_⟩
    obtain ⟨hs, hinv⟩ := hafter pre r post hsplit
    exact hs.serves (hinv ssrc hunanswered)
  · intro s hreachable timeouts htimeouts hlegal
    have hsound : s.Sound := by
      refine hreachable.invariant (sound_init delay) fun s e a t hs hlegal hok ↦ ?_
      obtain ⟨_, _, _, _, -, hok', ht⟩ := step_cases hs hlegal
      cases hok.symm.trans hok'
      exact ht.sound
    obtain ⟨records, htrace, ⟨t, -, hcount⟩, -⟩ := Run.Obeys.trace IsTimeout
      (fun hist s ↦ s.Sound ∧ ∀ ssrc,
        (hist.flatMap Run.Record.output).count ssrc + (s.demand ssrc).potential ≤ 3)
      (fun hist s e ⟨hs, hinv⟩ htimeout hlegal ↦ by
        obtain ⟨ssrc, event, output, t, habout, hok, ht⟩ := step_cases hs hlegal
        refine ⟨output, t, hok, ht.sound, fun other ↦ ?_⟩
        have hother := timeout_step htimeout habout ht other
        have hpast := hinv other
        rw [List.flatMap_append, List.flatMap_singleton, List.count_append]
        change _ + output.count other + _ ≤ 3
        omega)
      timeouts [] s ⟨hsound, fun ssrc ↦ (Nat.zero_add _).trans_le (s.demand ssrc).potential_le⟩
      htimeouts hlegal
    refine ⟨records, htrace, fun ssrc ↦ ?_⟩
    have hssrc := hcount ssrc
    rw [List.nil_append] at hssrc
    omega

/-- A key frame that is needed twice within the delay: the second time it is remembered by the
delayer, whose timer then has it requested once more when the first request is not answered. -/
theorem served_twice_needed :
    (∃ records, Run.trace step { keyFrameRequestDelay := 1 }
        [.keyFrameNeeded 5, .keyFrameNeeded 5, .keyFrameDelayTimeout 0] = .ok records ∧
      ∀ pre r post ssrc, records = pre ++ r :: post → Unanswered (pre ++ [r]) ssrc →
        r.after.Serves ssrc) ∧
    ∃ records, Run.trace step { keyFrameRequestDelay := 1 } [] = .ok records ∧
      ∀ ssrc, (records.flatMap Run.Record.output).count ssrc ≤ 3 := by
  refine ⟨(served 1).1 _ ⟨trivial, fun a s ha ↦ ⟨trivial, fun b t hb ↦ ⟨?_, fun _ _ _ ↦ trivial⟩⟩⟩,
    (served 1).2 _ .start [] nofun trivial⟩
  obtain ⟨rfl, rfl⟩ := Prod.mk.inj (Except.ok.inj ha)
  obtain ⟨rfl, rfl⟩ := Prod.mk.inj (Except.ok.inj hb)
  exact ⟨5, _, rfl, rfl⟩

end KeyFrameRequests

end MediasoupSfu
