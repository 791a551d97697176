import MediasoupSfu.Library.Run
import MediasoupSfu.Utils.Byte
import Mathlib.Data.Set.Insert
import Mathlib.Tactic.Common

/-!
# Ports of the configured range

The port manager has a vector of flags for each transport and IP, one flag for each port from
`rtcMinPort` to `rtcMaxPort`. `Bind` starts at a random index and goes around the vector once,
passing over the ports in use and those on which the operating system cannot bind.

The vector is made with `rtcMaxPort - rtcMinPort + 1` flags, and this number is a `uint16_t`. If the
range consists of all ports there are thus no flags at all, and nothing can be bound. A range that
begins with port zero fails in another way: to bind on it means that the operating system chooses
the port. For all other ranges index and port determine each other, so what the flags say is exactly
which sockets are in use (`Represents`), and the manager does what it is for
(`portManager_correct_iff`).
-/

namespace MediasoupSfu

/-! ## The code -/

/-- `RTC::PortManager::Transport`. -/
inductive PortTransport where
  | udp
  | tcp
  deriving DecidableEq, Repr

/-- `AF_INET` or `AF_INET6`. -/
inductive IpFamily where
  | inet
  | inet6
  deriving DecidableEq, Repr

/-- The errors of libuv that are told apart. -/
inductive UvError where
  | emfile
  | eaddrnotavail
  | other (code : ℕ)
  deriving DecidableEq, Repr

/-- What `Settings::SetConfiguration` accepts. -/
structure PortSettings where
  rtcMinPort : BitVec 16 := 10000
  rtcMaxPort : BitVec 16 := 59999
  le : rtcMinPort ≤ rtcMaxPort := by decide

/-- What libuv makes of IP addresses. -/
structure UvAddresses where
  /-- `uv_inet_pton` succeeds. -/
  inetPton : IpFamily → String → Bool
  /-- The error of `uv_ip4_addr` or `uv_ip6_addr`, if any. -/
  ipAddr : IpFamily → String → Option UvError
  /-- `uv_ip4_name` or `uv_ip6_name` of the address that the string was parsed to. -/
  ipName : IpFamily → String → Except UvError String

/-- What the operating system does during a call of `Bind`, in which each port is tried at most
once. -/
structure UvSockets where
  /-- The error of `uv_udp_init_ex` or `uv_tcp_init`, if any. -/
  init : BitVec 16 → Option UvError
  /-- The error of `uv_udp_bind` or `uv_tcp_bind` on a port, if any. -/
  bind : BitVec 16 → Option UvError
  /-- The error of `uv_listen`, if any. -/
  listen : BitVec 16 → Option UvError
  /-- The port to which the socket is bound, as `uv_udp_getsockname` tells it. -/
  localPort : BitVec 16 → BitVec 16
  /-- It is the one asked for, but with zero the operating system chooses. -/
  localPort_eq : ∀ port, port ≠ 0 → localPort port = port

/-- The errors that `Bind` throws. -/
inductive BindError where
  /-- The `MediaSoupTypeError` of `NormalizeIp`. -/
  | invalidIp
  /-- "uv_ip4_addr() failed" or "uv_ip6_addr() failed". -/
  | ipAddrFailed (err : UvError)
  /-- "unknown IP family". -/
  | unknownFamily
  /-- "no more available ports". -/
  | noMorePorts (numAttempts : ℕ)
  /-- "uv_udp_init_ex() failed" or "uv_tcp_init() failed". -/
  | initFailed (err : UvError)
  /-- "port bind failed due to too many open files". -/
  | tooManyOpenFiles (port : BitVec 16)
  /-- "port bind failed due to address not available". -/
  | addressNotAvailable (port : BitVec 16)
  deriving DecidableEq, Repr

/-- The class variables of `PortManager`, and `Crypto::seed`. -/
structure PortManager where
  mapUdpIpPorts : String → Option (List Bool) := fun _ ↦ none
  mapTcpIpPorts : String → Option (List Bool) := fun _ ↦ none
  seed : BitVec 32 := 0

/-- What comes of a call of `Bind`. -/
structure BindResult where
  /-- The ports on which `uv_udp_bind`, `uv_tcp_bind` or `uv_listen` failed. -/
  refused : List (BitVec 16 × UvError) := []
  /-- The IP and the port of the socket. -/
  socket : Except BindError (String × BitVec 16)

/-- `Utils::Crypto::GetRandomUInt(min, max)`. -/
def getRandomUInt (seed min max : BitVec 32) : BitVec 32 × BitVec 32 :=
  let seed := 214013 * seed + 2531011
  let max := if max = 4294967295 then max - 1 else max
  let min := if max < min then max else min
  (((seed >>> 4) &&& 0x7FFF7FFF) % (max - min + 1) + min, seed)

namespace UvAddresses

/-- `Utils::IP::GetFamily(ip)`. -/
def getFamily (uv : UvAddresses) (ip : String) : Option IpFamily :=
  if 46 ≤ ip.utf8ByteSize then none
  else if uv.inetPton .inet ip then some .inet
  else if uv.inetPton .inet6 ip then some .inet6
  else none

/-- `Utils::IP::NormalizeIp(ip)`. -/
def normalizeIp (uv : UvAddresses) (ip : String) : Except BindError String :=
  match uv.getFamily ip with
  | none => .error .invalidIp
  | some family =>
    match uv.ipAddr family ip, uv.ipName family ip with
    | none, .ok name => .ok name
    | _, _ => .error .invalidIp

end UvAddresses

/-- Bind on a port and, with TCP, listen. -/
def UvSockets.tryBind (uv : UvSockets) (transport : PortTransport) (port : BitVec 16) :
    Option UvError :=
  match transport with
  | .udp => uv.bind port
  -- `uv_tcp_bind` may succeed even if later `uv_listen` fails.
  | .tcp =>
    match uv.bind port with
    | none => uv.listen port
    | some err => some err

namespace PortManager

/-- The vectors of a transport. -/
def mapIpPorts (s : PortManager) : PortTransport → String → Option (List Bool)
  | .udp => s.mapUdpIpPorts
  | .tcp => s.mapTcpIpPorts

/-- Put a vector into the map of a transport. -/
def setPorts (s : PortManager) (transport : PortTransport) (ip : String) (ports : List Bool) :
    PortManager :=
  match transport with
  | .udp => { s with mapUdpIpPorts := Function.update s.mapUdpIpPorts ip (some ports) }
  | .tcp => { s with mapTcpIpPorts := Function.update s.mapTcpIpPorts ip (some ports) }

/-- The `uint16_t numPorts` of `GetPorts`. -/
def numPorts (settings : PortSettings) : BitVec 16 :=
  settings.rtcMaxPort - settings.rtcMinPort + 1

/-- `GetPorts(transport, ip)`. -/
def getPorts (settings : PortSettings) (s : PortManager) (transport : PortTransport)
    (ip : String) : List Bool × PortManager :=
  match s.mapIpPorts transport ip with
  | some ports => (ports, s)
  | none =>
    let ports := List.replicate (numPorts settings).toNat false
    (ports, s.setPorts transport ip ports)

/-- The port of an index. -/
def portAt (settings : PortSettings) (portIdx : ℕ) : BitVec 16 :=
  BitVec.ofNat 16 (portIdx + settings.rtcMinPort.toNat)

/-- The loop of `Bind` with this many attempts left: the index and the port of the socket. -/
def tryPorts (settings : PortSettings) (uv : UvSockets) (transport : PortTransport)
    (ports : List Bool) :
    ℕ → ℕ → Except Fault (List (BitVec 16 × UvError) × Except BindError (ℕ × BitVec 16))
  -- All the ports in the range were tried.
  | 0, _ => .ok ([], .error (.noMorePorts ports.length))
  | attempts + 1, last =>
    let portIdx := (last + 1) % ports.length
    let port := portAt settings portIdx
    match ports[portIdx]? with
    | none => .error .outOfBounds
    -- This port is in use.
    | some true => tryPorts settings uv transport ports attempts portIdx
    | some false =>
      match uv.init port with
      | some err => .ok ([], .error (.initFailed err))
      | none =>
        match uv.tryBind transport port with
        | none => .ok ([], .ok (portIdx, uv.localPort port))
        | some .emfile => .ok ([(port, .emfile)], .error (.tooManyOpenFiles port))
        | some .eaddrnotavail =>
          .ok ([(port, .eaddrnotavail)], .error (.addressNotAvailable port))
        -- Otherwise try again with the next port.
        | some (.other code) => do
          let (refused, socket) ← tryPorts settings uv transport ports attempts portIdx
          return ((port, .other code) :: refused, socket)

/-- The part of `Bind` after `GetPorts`. -/
def bindAny (settings : PortSettings) (uv : UvSockets) (s : PortManager)
    (transport : PortTransport) (ip : String) (ports : List Bool) :
    Except Fault (BindResult × PortManager) := do
  let (portIdx, seed) := getRandomUInt s.seed 0 (BitVec.ofNat 32 ports.length - 1)
  let s := { s with seed := seed }
  match ← tryPorts settings uv transport ports ports.length portIdx.toNat with
  | (refused, .error err) => return (⟨refused, .error err⟩, s)
  -- Mark the port as unavailable.
  | (refused, .ok (portIdx, port)) =>
    return (⟨refused, .ok (ip, port)⟩, s.setPorts transport ip (ports.set portIdx true))

/-- `Bind(transport, ip)`. -/
def bind (settings : PortSettings) (addresses : UvAddresses) (uv : UvSockets) (s : PortManager)
    (transport : PortTransport) (ip : String) : Except Fault (BindResult × PortManager) :=
  match addresses.normalizeIp ip with
  | .error err => .ok (⟨[], .error err⟩, s)
  | .ok ip =>
    let (ports, s) := s.getPorts settings transport ip
    match addresses.getFamily ip with
    | none => .ok (⟨[], .error .unknownFamily⟩, s)
    | some family =>
      match addresses.ipAddr family ip with
      | some err => .ok (⟨[], .error (.ipAddrFailed err)⟩, s)
      | none => s.bindAny settings uv transport ip ports

/-- `Unbind(transport, ip, port)`. -/
def unbind (settings : PortSettings) (s : PortManager) (transport : PortTransport) (ip : String)
    (port : BitVec 16) : Except Fault PortManager :=
  if port < settings.rtcMinPort ∨ settings.rtcMaxPort < port then .ok s
  else
    let portIdx := port.toNat - settings.rtcMinPort.toNat
    match s.mapIpPorts transport ip with
    | none => .ok s
    | some ports =>
      -- Mark the port as available.
      if portIdx < ports.length then .ok (s.setPorts transport ip (ports.set portIdx false))
      else .error .outOfBounds

end PortManager

/-! ## Runs -/

/-- A call of the port manager. -/
inductive PortCall where
  | bind (uv : UvSockets) (transport : PortTransport) (ip : String)
  | unbind (transport : PortTransport) (ip : String) (port : BitVec 16)

/-- A call with what comes of it. -/
def PortManager.step (settings : PortSettings) (addresses : UvAddresses) (s : PortManager) :
    PortCall → Except Fault (Option BindResult × PortManager)
  | .bind uv transport ip => do
    let (result, s) ← s.bind settings addresses uv transport ip
    return (some result, s)
  | .unbind transport ip port => do
    let s ← s.unbind settings transport ip port
    return (none, s)

/-- A transport, an IP and a port. -/
structure PortSocket where
  transport : PortTransport
  ip : String
  port : BitVec 16
  deriving DecidableEq, Repr

/-- The sockets in use after a call. -/
def socketsAfter (used : Set PortSocket)
    (r : Run.Record PortManager PortCall (Option BindResult)) : Set PortSocket :=
  match r.event, r.output with
  | .bind _ transport _, some ⟨_, .ok (ip, port)⟩ => insert ⟨transport, ip, port⟩ used
  | .unbind transport ip port, _ => used \ {⟨transport, ip, port⟩}
  | _, _ => used

/-- The sockets that are bound and not unbound since. -/
def inUse (records : List (Run.Record PortManager PortCall (Option BindResult))) :
    Set PortSocket :=
  records.foldl socketsAfter ∅

/-- The sockets that `Bind` returned. -/
def returned (records : List (Run.Record PortManager PortCall (Option BindResult))) :
    Set PortSocket :=
  {socket | ∃ r ∈ records, ∃ uv ip refused, r.event = .bind uv socket.transport ip ∧
    r.output = some ⟨refused, .ok (socket.ip, socket.port)⟩}

/-- A port of the range. -/
def PortSettings.InRange (settings : PortSettings) (port : BitVec 16) : Prop :=
  settings.rtcMinPort ≤ port ∧ port ≤ settings.rtcMaxPort

namespace PortManager

/-- `Unbind` is called for ports that `Bind` returned. -/
def Lawful (settings : PortSettings) (addresses : UvAddresses) (s : PortManager)
    (calls : List PortCall) : Prop :=
  ∀ before transport ip port after records,
    calls = before ++ .unbind transport ip port :: after →
    Run.trace (step settings addresses) s before = .ok records →
    ⟨transport, ip, port⟩ ∈ returned records

/-- The flag of a port, if there is one, is not set. -/
def Available (settings : PortSettings) (s : PortManager) (socket : PortSocket) : Prop :=
  ∀ ports, s.mapIpPorts socket.transport socket.ip = some ports →
    ports[socket.port.toNat - settings.rtcMinPort.toNat]? = some false

/-- Each port of the range is in use or was tried and refused. -/
def Exhausted (settings : PortSettings) (uv : UvSockets) (used : Set PortSocket)
    (transport : PortTransport) (ip : String) (refused : List (BitVec 16 × UvError)) : Prop :=
  ∀ port, settings.InRange port → ⟨transport, ip, port⟩ ∈ used ∨
    ∃ err, uv.tryBind transport port = some err ∧ (port, err) ∈ refused

/-- What the port manager is for, with these sockets in use before the call. -/
structure StepCorrect (settings : PortSettings) (addresses : UvAddresses) (used : Set PortSocket)
    (r : Run.Record PortManager PortCall (Option BindResult)) : Prop where
  /-- The ports that are not in use are available. -/
  available : ∀ socket, settings.InRange socket.port →
    (r.before.Available settings socket ↔ socket ∉ used)
  /-- A port that is bound is in the range and was not in use. -/
  bound : ∀ uv transport ip refused name port, r.event = .bind uv transport ip →
    r.output = some ⟨refused, .ok (name, port)⟩ →
    addresses.normalizeIp ip = .ok name ∧ settings.InRange port ∧ ⟨transport, name, port⟩ ∉ used
  /-- There are no more available ports only if the range is exhausted. -/
  exhausted : ∀ uv transport ip refused numAttempts, r.event = .bind uv transport ip →
    r.output = some ⟨refused, .error (.noMorePorts numAttempts)⟩ →
    ∃ name, addresses.normalizeIp ip = .ok name ∧
      Exhausted settings uv used transport name refused
  /-- A port that is unbound becomes available, and no other one does. -/
  unbound : ∀ transport ip port, r.event = .unbind transport ip port →
    ∀ socket, settings.InRange socket.port → (r.after.Available settings socket ↔
      r.before.Available settings socket ∨ socket = ⟨transport, ip, port⟩)

/-! ## The loop over the ports -/

/-- What is known after the loop. -/
def Searched (settings : PortSettings) (uv : UvSockets) (transport : PortTransport)
    (ports : List Bool) (attempts last : ℕ) (refused : List (BitVec 16 × UvError)) :
    Except BindError (ℕ × BitVec 16) → Prop
  | .ok (portIdx, port) => ports[portIdx]? = some false ∧
      uv.tryBind transport (portAt settings portIdx) = none ∧
      port = uv.localPort (portAt settings portIdx)
  | .error (.noMorePorts _) => ∀ k, 1 ≤ k → k ≤ attempts →
      ports[(last + k) % ports.length]? = some true ∨
        ∃ err, uv.tryBind transport (portAt settings ((last + k) % ports.length)) = some err ∧
          (portAt settings ((last + k) % ports.length), err) ∈ refused
  | .error (.initFailed err) => ∃ port, uv.init port = some err
  | .error (.tooManyOpenFiles port) => uv.tryBind transport port = some .emfile
  | .error (.addressNotAvailable port) => uv.tryBind transport port = some .eaddrnotavail
  | .error _ => False

/-- One more attempt, at a port that is in use or refused. -/
theorem Searched.cons {settings : PortSettings} {uv : UvSockets} {transport : PortTransport}
    {ports : List Bool} {attempts last : ℕ} {refused refused' : List (BitVec 16 × UvError)}
    {result : Except BindError (ℕ × BitVec 16)}
    (h : Searched settings uv transport ports attempts ((last + 1) % ports.length) refused result)
    (hsubset : refused ⊆ refused')
    (hfirst : ports[(last + 1) % ports.length]? = some true ∨
      ∃ err, uv.tryBind transport (portAt settings ((last + 1) % ports.length)) = some err ∧
        (portAt settings ((last + 1) % ports.length), err) ∈ refused') :
    Searched settings uv transport ports (attempts + 1) last refused' result := by
  match result, h with
  | .ok _, h => exact h
  | .error (.noMorePorts _), h =>
    intro k hk hle
    obtain rfl | hlt := hk.eq_or_lt
    · exact hfirst
    · have hrest := h (k - 1) (by omega) (by omega)
      rw [Nat.mod_add_mod, show last + 1 + (k - 1) = last + k by omega] at hrest
      exact hrest.imp_right fun ⟨err, htry, hmem⟩ ↦ ⟨err, htry, hsubset hmem⟩
  | .error (.initFailed _), h => exact h
  | .error (.tooManyOpenFiles _), h => exact h
  | .error (.addressNotAvailable _), h => exact h

/-- **The loop** looks at as many ports as there are attempts. -/
theorem tryPorts_spec (settings : PortSettings) (uv : UvSockets) (transport : PortTransport)
    {ports : List Bool} (hports : 0 < ports.length) (attempts last : ℕ) :
    ∃ refused result, tryPorts settings uv transport ports attempts last = .ok (refused, result) ∧
      Searched settings uv transport ports attempts last refused result := by
  induction attempts generalizing last with
  | zero => exact ⟨[], _, rfl, fun k hk hle ↦ absurd (hk.trans hle) (by decide)⟩
  | succ attempts ih =>
    obtain ⟨refused, result, hrest, hsearched⟩ := ih ((last + 1) % ports.length)
    have hlt : (last + 1) % ports.length < ports.length := Nat.mod_lt _ hports
    rw [tryPorts]
    cases hflag : ports[(last + 1) % ports.length]? with
    | none => exact absurd (List.getElem?_eq_none_iff.mp hflag) (Nat.not_le.mpr hlt)
    | some used =>
      cases used with
      | true =>
        exact ⟨refused, result, hrest, hsearched.cons (List.Subset.refl _) (Or.inl hflag)⟩
      | false =>
        dsimp only
        cases hinit : uv.init (portAt settings ((last + 1) % ports.length)) with
        | some err => exact ⟨[], _, rfl, _, hinit⟩
        | none =>
          cases htry : uv.tryBind transport (portAt settings ((last + 1) % ports.length)) with
          | none => exact ⟨[], _, rfl, hflag, htry, rfl⟩
          | some err =>
            cases err with
            | emfile => exact ⟨_, _, rfl, htry⟩
            | eaddrnotavail => exact ⟨_, _, rfl, htry⟩
            | other code =>
              refine ⟨_, result, ?_, hsearched.cons (List.subset_cons_self _ refused)
                (Or.inr ⟨.other code, htry, List.mem_cons_self⟩)⟩
              dsimp only
              rw [hrest]
              rfl

/-- A way around visits every index. -/
theorem exists_add_mod_eq (start : ℕ) {i size : ℕ} (hi : i < size) :
    ∃ k, 1 ≤ k ∧ k ≤ size ∧ (start + k) % size = i := by
  have hstart : start % size < size := Nat.mod_lt _ (by omega)
  by_cases hbefore : start % size < i
  · refine ⟨i - start % size, by omega, by omega, ?_⟩
    rw [← Nat.mod_add_mod, show start % size + (i - start % size) = i by omega]
    exact Nat.mod_eq_of_lt hi
  · refine ⟨i + size - start % size, by omega, by omega, ?_⟩
    rw [← Nat.mod_add_mod, show start % size + (i + size - start % size) = i + size by omega,
      Nat.add_mod_right]
    exact Nat.mod_eq_of_lt hi

/-! ## Flags and ports -/

section Range

variable {settings : PortSettings} (hmin : 0 < settings.rtcMinPort)

include hmin

theorem toNat_numPorts : (numPorts settings).toNat =
    settings.rtcMaxPort.toNat - settings.rtcMinPort.toNat + 1 := by
  have hle := settings.le
  rw [numPorts]
  bv_omega

/-- The port of an index is in the range. -/
theorem inRange_portAt {i : ℕ} (hi : i < (numPorts settings).toNat) :
    settings.InRange (portAt settings i) ∧
      (portAt settings i).toNat - settings.rtcMinPort.toNat = i := by
  have hle := settings.le
  rw [toNat_numPorts hmin] at hi
  rw [PortSettings.InRange, portAt]
  bv_omega

/-- The index of a port in the range. -/
theorem portAt_sub {port : BitVec 16} (hport : settings.InRange port) :
    port.toNat - settings.rtcMinPort.toNat < (numPorts settings).toNat ∧
      portAt settings (port.toNat - settings.rtcMinPort.toNat) = port := by
  obtain ⟨hfirst, hlast⟩ := hport
  rw [toNat_numPorts hmin, portAt]
  bv_omega

end Range

/-- The flags tell which ports are in use. -/
structure Flags (settings : PortSettings) (ports : List Bool) (used : Set (BitVec 16)) : Prop where
  length : ports.length = (numPorts settings).toNat
  iff : ∀ port, settings.InRange port →
    (ports[port.toNat - settings.rtcMinPort.toNat]? = some true ↔ port ∈ used)

/-- Each vector tells which ports of its transport and IP are in use. -/
structure Represents (settings : PortSettings) (s : PortManager) (used : Set PortSocket) :
    Prop where
  flags : ∀ transport ip ports, s.mapIpPorts transport ip = some ports →
    Flags settings ports {port | ⟨transport, ip, port⟩ ∈ used}
  unused : ∀ transport ip port, s.mapIpPorts transport ip = none → ⟨transport, ip, port⟩ ∉ used

theorem represents_init (settings : PortSettings) (seed : BitVec 32) :
    Represents settings { seed := seed } ∅ := by
  refine ⟨fun transport ip ports h ↦ ?_, fun _ _ _ _ ↦ id⟩
  cases transport <;> cases h

theorem mapIpPorts_setPorts (s : PortManager) (transport transport' : PortTransport)
    (ip ip' : String) (ports : List Bool) :
    (s.setPorts transport ip ports).mapIpPorts transport' ip' =
      if transport' = transport ∧ ip' = ip then some ports else s.mapIpPorts transport' ip' := by
  cases transport <;> cases transport' <;> simp [setPorts, mapIpPorts, Function.update_apply]

namespace Flags

variable {settings : PortSettings} {ports : List Bool} {used used' : Set (BitVec 16)}

theorem replicate (settings : PortSettings) (hused : ∀ port, port ∉ used) :
    Flags settings (List.replicate (numPorts settings).toNat false) used := by
  refine ⟨List.length_replicate, fun port _ ↦ iff_of_false (fun h ↦ ?_) (hused port)⟩
  obtain ⟨-, hfalse⟩ := List.mem_replicate.mp (List.mem_of_getElem? h)
  cases hfalse

/-- A port in the range is either available or in use. -/
theorem getElem?_eq_false (hmin : 0 < settings.rtcMinPort) (h : Flags settings ports used)
    {port : BitVec 16} (hport : settings.InRange port) :
    ports[port.toNat - settings.rtcMinPort.toNat]? = some false ↔ port ∉ used := by
  rw [← h.iff port hport]
  have hlt := (portAt_sub hmin hport).1
  rw [← h.length] at hlt
  rw [List.getElem?_eq_getElem hlt]
  cases ports[port.toNat - settings.rtcMinPort.toNat] <;> decide

/-- The flag of one port is set or cleared. -/
theorem set (hmin : 0 < settings.rtcMinPort) (h : Flags settings ports used) {i : ℕ}
    (hi : i < ports.length) {flag : Bool} (hat : portAt settings i ∈ used' ↔ flag = true)
    (hother : ∀ port, port ≠ portAt settings i → (port ∈ used' ↔ port ∈ used)) :
    Flags settings (ports.set i flag) used' := by
  refine ⟨List.length_set.trans h.length, fun port hport ↦ ?_⟩
  obtain ⟨-, hindex⟩ := inRange_portAt hmin (h.length ▸ hi)
  by_cases heq : port = portAt settings i
  · rw [heq, hindex, hat, List.getElem?_set_self hi, Option.some.injEq]
  · have hne : i ≠ port.toNat - settings.rtcMinPort.toNat := by
      rintro rfl
      exact heq (portAt_sub hmin hport).2.symm
    rw [List.getElem?_set_ne hne, h.iff port hport, hother port heq]

end Flags

namespace Represents

variable {settings : PortSettings} {s : PortManager} {used used' : Set PortSocket}

/-- Random numbers leave the flags as they are. -/
theorem setSeed (h : Represents settings s used) (seed : BitVec 32) :
    Represents settings { s with seed := seed } used :=
  have heq : ({ s with seed := seed } : PortManager).mapIpPorts = s.mapIpPorts := by
    funext transport
    cases transport <;> rfl
  ⟨fun transport ip ports hports ↦ h.flags transport ip ports (heq ▸ hports),
    fun transport ip port hports ↦ h.unused transport ip port (heq ▸ hports)⟩

/-- A vector is put into the map. -/
theorem setPorts (h : Represents settings s used) {transport : PortTransport} {ip : String}
    {ports : List Bool} (hports : Flags settings ports {port | ⟨transport, ip, port⟩ ∈ used'})
    (hother : ∀ transport' ip' port, ¬(transport' = transport ∧ ip' = ip) →
      (⟨transport', ip', port⟩ ∈ used' ↔ ⟨transport', ip', port⟩ ∈ used)) :
    Represents settings (s.setPorts transport ip ports) used' := by
  constructor
  · intro transport' ip' ports' hports'
    rw [mapIpPorts_setPorts] at hports'
    by_cases heq : transport' = transport ∧ ip' = ip
    · rw [if_pos heq] at hports'
      obtain ⟨rfl, rfl⟩ := heq
      obtain rfl := Option.some.inj hports'
      exact hports
    · rw [if_neg heq] at hports'
      obtain ⟨hlength, hiff⟩ := h.flags transport' ip' ports' hports'
      exact ⟨hlength, fun port hport ↦ (hiff port hport).trans (hother _ _ port heq).symm⟩
  · intro transport' ip' port hnone
    rw [mapIpPorts_setPorts] at hnone
    by_cases heq : transport' = transport ∧ ip' = ip
    · rw [if_pos heq] at hnone
      cases hnone
    · rw [if_neg heq] at hnone
      rw [hother _ _ port heq]
      exact h.unused transport' ip' port hnone

/-- The ports that are not in use are available. -/
theorem available_iff (hmin : 0 < settings.rtcMinPort) (h : Represents settings s used)
    {socket : PortSocket} (hport : settings.InRange socket.port) :
    s.Available settings socket ↔ socket ∉ used := by
  rw [Available]
  cases hports : s.mapIpPorts socket.transport socket.ip with
  | none =>
    exact iff_of_true (fun ports heq ↦ by cases heq) (h.unused _ _ socket.port hports)
  | some ports =>
    have hflag := (h.flags _ _ ports hports).getElem?_eq_false hmin hport
    exact ⟨fun hall ↦ hflag.mp (hall ports rfl), fun hfree ports' heq ↦
      Option.some.inj heq ▸ hflag.mpr hfree⟩

/-- `GetPorts`, which adds a vector if there is none. -/
theorem getPorts (h : Represents settings s used) (transport : PortTransport) (ip : String) :
    Flags settings (s.getPorts settings transport ip).1 {port | ⟨transport, ip, port⟩ ∈ used} ∧
      Represents settings (s.getPorts settings transport ip).2 used := by
  rw [PortManager.getPorts]
  cases hports : s.mapIpPorts transport ip with
  | some ports => exact ⟨h.flags transport ip ports hports, h⟩
  | none =>
    have hnew := Flags.replicate settings (h.unused transport ip · hports)
    exact ⟨hnew, h.setPorts hnew fun _ _ _ _ ↦ Iff.rfl⟩

end Represents

/-! ## Steps -/

section Steps

variable {settings : PortSettings} {s : PortManager} {used : Set PortSocket}

/-- **Binding**: what comes of the loop is what the call is for. -/
theorem bindAny_spec (hmin : 0 < settings.rtcMinPort) (h : Represents settings s used)
    (uv : UvSockets) (transport : PortTransport) (ip : String) {ports : List Bool}
    (hports : Flags settings ports {port | ⟨transport, ip, port⟩ ∈ used}) :
    ∃ refused socket after,
      s.bindAny settings uv transport ip ports = .ok (⟨refused, socket⟩, after) ∧
      match socket with
      | .ok (name, port) => name = ip ∧ settings.InRange port ∧ ⟨transport, ip, port⟩ ∉ used ∧
        Represents settings after (insert ⟨transport, ip, port⟩ used)
      | .error err => Represents settings after used ∧
        ∀ numAttempts, err = .noMorePorts numAttempts →
          Exhausted settings uv used transport ip refused := by
  have hlength := hports.length
  have hpos : 0 < ports.length := by
    rw [hlength, toNat_numPorts hmin]
    exact Nat.succ_pos _
  rw [bindAny]
  obtain ⟨refused, result, hloop, hsearched⟩ := tryPorts_spec settings uv transport hpos
    ports.length (getRandomUInt s.seed 0 (BitVec.ofNat 32 ports.length - 1)).1.toNat
  dsimp only
  rw [hloop]
  match result, hsearched with
  | .ok (portIdx, port), hsearched =>
    obtain ⟨hfree, -, rfl⟩ := hsearched
    obtain ⟨hlt, -⟩ := List.getElem?_eq_some_iff.mp hfree
    obtain ⟨hrange, hindex⟩ := inRange_portAt hmin (hlength ▸ hlt)
    -- the port is not zero, so the socket is bound to it
    have hlocal : uv.localPort (portAt settings portIdx) = portAt settings portIdx := by
      refine uv.localPort_eq _ fun hzero ↦ ?_
      have hle := hrange.1
      rw [hzero] at hle
      bv_omega
    rw [hlocal]
    refine ⟨refused, _, _, rfl, rfl, hrange, ?_, (h.setSeed _).setPorts ?_ ?_⟩
    · have hflag := hports.getElem?_eq_false hmin hrange
      rw [hindex] at hflag
      exact hflag.mp hfree
    · refine hports.set hmin hlt (iff_of_true (Set.mem_insert _ _) rfl) fun port hne ↦ ?_
      refine Set.mem_insert_iff.trans (or_iff_right fun heq ↦ hne ?_)
      exact (PortSocket.mk.inj heq).2.2
    · intro transport' ip' port hne
      refine Set.mem_insert_iff.trans (or_iff_right fun heq ↦ hne ?_)
      obtain ⟨htransport, hip, -⟩ := PortSocket.mk.inj heq
      exact ⟨htransport, hip⟩
  | .error err, hsearched =>
    refine ⟨refused, _, _, rfl, h.setSeed _, fun numAttempts heq port hport ↦ ?_⟩
    obtain rfl := heq
    obtain ⟨hlt, hat⟩ := portAt_sub hmin hport
    rw [← hlength] at hlt
    obtain ⟨k, hk, hle, hmod⟩ := exists_add_mod_eq
      (getRandomUInt s.seed 0 (BitVec.ofNat 32 ports.length - 1)).1.toNat hlt
    have hvisited := hsearched k hk hle
    rw [hmod, hat] at hvisited
    exact hvisited.imp_left (hports.iff port hport).mp

/-- What comes of `Bind`. -/
theorem bind_spec (hmin : 0 < settings.rtcMinPort) (h : Represents settings s used)
    (addresses : UvAddresses) (uv : UvSockets) (transport : PortTransport) (ip : String) :
    ∃ refused socket after,
      s.bind settings addresses uv transport ip = .ok (⟨refused, socket⟩, after) ∧
      match socket with
      | .ok (name, port) => addresses.normalizeIp ip = .ok name ∧ settings.InRange port ∧
        ⟨transport, name, port⟩ ∉ used ∧
        Represents settings after (insert ⟨transport, name, port⟩ used)
      | .error err => Represents settings after used ∧
        ∀ numAttempts, err = .noMorePorts numAttempts →
          ∃ name, addresses.normalizeIp ip = .ok name ∧
            Exhausted settings uv used transport name refused := by
  rw [bind]
  cases hname : addresses.normalizeIp ip with
  | error err =>
    refine ⟨[], _, s, rfl, h, fun numAttempts heq ↦ ?_⟩
    -- `NormalizeIp` throws another error
    rw [UvAddresses.normalizeIp] at hname
    split at hname
    · cases hname.trans (congrArg _ heq)
    · split at hname <;> cases hname.trans (congrArg _ heq)
  | ok name =>
    obtain ⟨hports, hafter⟩ := h.getPorts transport name
    dsimp only
    cases addresses.getFamily name with
    | none => exact ⟨[], _, _, rfl, hafter, fun _ heq ↦ by cases heq⟩
    | some family =>
      dsimp only
      cases addresses.ipAddr family name with
      | some err => exact ⟨[], _, _, rfl, hafter, fun _ heq ↦ by cases heq⟩
      | none =>
        obtain ⟨refused, socket, after, hbind, hspec⟩ :=
          bindAny_spec hmin hafter uv transport name hports
        refine ⟨refused, socket, after, hbind, ?_⟩
        match socket, hspec with
        | .ok (_, port), hspec =>
          obtain ⟨rfl, hspec⟩ := hspec
          exact ⟨rfl, hspec⟩
        | .error err, hspec => exact ⟨hspec.1, fun n heq ↦ ⟨name, rfl, hspec.2 n heq⟩⟩

/-- What comes of `Unbind`. -/
theorem unbind_spec (hmin : 0 < settings.rtcMinPort) (h : Represents settings s used)
    (transport : PortTransport) (ip : String) (port : BitVec 16) :
    ∃ after, s.unbind settings transport ip port = .ok after ∧
      Represents settings after (used \ {⟨transport, ip, port⟩}) := by
  have hother : ∀ socket, socket ≠ ⟨transport, ip, port⟩ →
      (socket ∈ used \ {⟨transport, ip, port⟩} ↔ socket ∈ used) :=
    fun socket hne ↦ and_iff_left hne
  rw [unbind]
  split
  · rename_i hout
    -- a port out of the range has no flag
    refine ⟨s, rfl, fun transport' ip' ports hports ↦ ?_, fun transport' ip' port' hnone hmem ↦
      h.unused transport' ip' port' hnone hmem.1⟩
    obtain ⟨hlength, hiff⟩ := h.flags transport' ip' ports hports
    refine ⟨hlength, fun port' hport ↦ (hiff port' hport).trans (hother _ fun heq ↦ ?_).symm⟩
    obtain ⟨-, -, rfl⟩ := PortSocket.mk.inj heq
    exact hout.elim (BitVec.not_lt.mpr hport.1) (BitVec.not_lt.mpr hport.2)
  · rename_i hin
    have hport : settings.InRange port := by
      rw [not_or, BitVec.not_lt, BitVec.not_lt] at hin
      exact hin
    dsimp only
    cases hports : s.mapIpPorts transport ip with
    | none =>
      refine ⟨s, rfl, ?_⟩
      rwa [Set.sdiff_singleton_eq_self (h.unused transport ip port hports)]
    | some ports =>
      have hflags := h.flags transport ip ports hports
      obtain ⟨hlt, hat⟩ := portAt_sub hmin hport
      rw [← hflags.length] at hlt
      dsimp only
      rw [if_pos hlt]
      refine ⟨_, rfl, h.setPorts (hflags.set hmin hlt ?_ fun port' hne ↦ ?_) ?_⟩
      · rw [hat]
        exact iff_of_false (fun hmem ↦ hmem.2 rfl) Bool.false_ne_true
      · exact hother _ fun heq ↦ hne (by rw [hat]; exact (PortSocket.mk.inj heq).2.2)
      · intro transport' ip' port' hne
        refine hother _ fun heq ↦ hne ?_
        obtain ⟨htransport, hip, -⟩ := PortSocket.mk.inj heq
        exact ⟨htransport, hip⟩

/-- **One call.** -/
theorem step_spec (hmin : 0 < settings.rtcMinPort) (addresses : UvAddresses)
    (h : Represents settings s used) (call : PortCall) :
    ∃ output after, step settings addresses s call = .ok (output, after) ∧
      StepCorrect settings addresses used ⟨s, call, output, after⟩ ∧
      Represents settings after (socketsAfter used ⟨s, call, output, after⟩) := by
  cases call with
  | bind uv transport ip =>
    obtain ⟨refused, socket, after, hbind, hspec⟩ := bind_spec hmin h addresses uv transport ip
    refine ⟨some ⟨refused, socket⟩, after, by rw [step, hbind]; rfl, ⟨fun socket hport ↦
      h.available_iff hmin hport, ?_, ?_, fun _ _ _ heq ↦ by cases heq⟩, ?_⟩
    · intro uv' transport' ip' refused' name port heq hout
      obtain ⟨-, rfl, rfl⟩ := PortCall.bind.inj heq
      obtain ⟨-, rfl⟩ := BindResult.mk.inj (Option.some.inj hout)
      exact ⟨hspec.1, hspec.2.1, hspec.2.2.1⟩
    · intro uv' transport' ip' refused' numAttempts heq hout
      obtain ⟨rfl, rfl, rfl⟩ := PortCall.bind.inj heq
      obtain ⟨rfl, rfl⟩ := BindResult.mk.inj (Option.some.inj hout)
      exact hspec.2 numAttempts rfl
    · match socket, hspec with
      | .ok (name, port), hspec => exact hspec.2.2.2
      | .error err, hspec => exact hspec.1
  | unbind transport ip port =>
    obtain ⟨after, hunbind, hafter⟩ := unbind_spec hmin h transport ip port
    refine ⟨none, after, by rw [step, hunbind]; rfl, ⟨fun socket hport ↦
      h.available_iff hmin hport, ?_, ?_, ?_⟩, hafter⟩
    · intro _ _ _ _ _ _ heq
      cases heq
    · intro _ _ _ _ _ heq
      cases heq
    · intro transport' ip' port' heq socket hport
      obtain ⟨rfl, rfl, rfl⟩ := PortCall.unbind.inj heq
      rw [hafter.available_iff hmin hport, h.available_iff hmin hport, Set.mem_sdiff, not_and_or,
        not_not]
      rfl

end Steps

/-! ## All runs -/

/-- The port manager does what it is for in every run. -/
def Correct (settings : PortSettings) : Prop :=
  ∀ (addresses : UvAddresses) (seed : BitVec 32) (calls : List PortCall),
    Lawful settings addresses { seed := seed } calls →
    ∃ records, Run.trace (step settings addresses) { seed := seed } calls = .ok records ∧
      ∀ before r after, records = before ++ r :: after →
        StepCorrect settings addresses (inUse before) r

/-- **One call of a run.** -/
theorem record_spec {settings : PortSettings} (hmin : 0 < settings.rtcMinPort)
    {addresses : UvAddresses} {used : Set PortSocket}
    {r : Run.Record PortManager PortCall (Option BindResult)}
    (h : Represents settings r.before used)
    (hr : step settings addresses r.before r.event = .ok (r.output, r.after)) :
    StepCorrect settings addresses used r ∧ Represents settings r.after (socketsAfter used r) := by
  obtain ⟨output, after, hstep, hcorrect, hafter⟩ := step_spec hmin addresses h r.event
  obtain ⟨hout, hto⟩ := Prod.mk.inj (Except.ok.inj (hr.symm.trans hstep))
  rw [← hout, ← hto] at hcorrect hafter
  exact ⟨hcorrect, hafter⟩

/-- The flags tell which sockets are in use after these calls. -/
def RunInv (settings : PortSettings)
    (records : List (Run.Record PortManager PortCall (Option BindResult))) (s : PortManager) :
    Prop :=
  Represents settings s (inUse records)

theorem runInv_step {settings : PortSettings} (hmin : 0 < settings.rtcMinPort)
    (addresses : UvAddresses)
    (h : List (Run.Record PortManager PortCall (Option BindResult)))
    (r : Run.Record PortManager PortCall (Option BindResult)) (hs : RunInv settings h r.before)
    (hr : step settings addresses r.before r.event = .ok (r.output, r.after)) :
    RunInv settings (h ++ [r]) r.after := by
  rw [RunInv, inUse, List.foldl_append]
  exact (record_spec hmin hs hr).2

theorem correct_of_pos {settings : PortSettings} (hmin : 0 < settings.rtcMinPort) :
    Correct settings := by
  intro addresses seed calls _
  have hinit : RunInv settings [] { seed := seed } := represents_init settings seed
  have htotal : ∀ s call, (∃ used, Represents settings s used) → ∃ output after,
      step settings addresses s call = .ok (output, after) ∧
        ∃ used, Represents settings after used := by
    rintro s call ⟨used, hs⟩
    obtain ⟨output, after, hstep, -, hafter⟩ := step_spec hmin addresses hs call
    exact ⟨output, after, hstep, _, hafter⟩
  obtain ⟨records, hrecords⟩ := Run.trace_total htotal calls { seed := seed } ⟨∅, hinit⟩
  refine ⟨records, hrecords, fun before r after hsplit ↦ ?_⟩
  obtain ⟨hbefore, hr, -⟩ := Run.trace_invariant_after (runInv_step hmin addresses) hinit hrecords
    hsplit
  exact (record_spec hmin hbefore hr).1

/-! ## A range that begins with port zero -/

/-- IPv4 addresses only, all of which are valid. -/
def someAddresses : UvAddresses where
  inetPton family _ := family = .inet
  ipAddr _ _ := none
  ipName _ ip := .ok ip

/-- All ports are taken by other processes. On port zero, though, the operating system chooses
one. -/
def allTaken : UvSockets where
  init _ := none
  bind port := if port = 0 then none else some (.other 98)
  listen _ := none
  localPort port := if port = 0 then 65535 else port
  localPort_eq _ hne := if_neg hne

/-- The first call, with all ports taken. -/
def bindTaken : PortCall := .bind allTaken .udp "127.0.0.1"

/-- The first call goes on to the loop. -/
theorem step_bindTaken (settings : PortSettings) {refused : List (BitVec 16 × UvError)}
    {result : Except BindError (ℕ × BitVec 16)}
    (hloop : let ports := List.replicate (numPorts settings).toNat false
      tryPorts settings allTaken .udp ports ports.length
        (getRandomUInt 0 0 (BitVec.ofNat 32 ports.length - 1)).1.toNat = .ok (refused, result)) :
    ∃ after, step settings someAddresses {} bindTaken =
      .ok (some ⟨refused, result.map fun (_, port) ↦ ("127.0.0.1", port)⟩, after) := by
  have hbind : ({} : PortManager).bind settings someAddresses allTaken .udp "127.0.0.1" =
      (({} : PortManager).getPorts settings .udp "127.0.0.1").2.bindAny settings allTaken .udp
        "127.0.0.1" (List.replicate (numPorts settings).toNat false) := by
    rfl
  rw [bindTaken, step, hbind, bindAny]
  dsimp only at hloop ⊢
  rw [show (({} : PortManager).getPorts settings .udp "127.0.0.1").2.seed = 0 from rfl, hloop]
  cases result with
  | error err => exact ⟨_, rfl⟩
  | ok socket => exact ⟨_, rfl⟩

/-- Without any flags there is nothing to try. -/
theorem step_bindTaken_of_zero {settings : PortSettings} (h : (numPorts settings).toNat = 0) :
    ∃ after, step settings someAddresses {} bindTaken =
      .ok (some ⟨[], .error (.noMorePorts 0)⟩, after) :=
  @step_bindTaken settings [] (.error (.noMorePorts 0)) (by rw [h]; rfl)

/-- What is right for all runs is right for the first call. -/
theorem Correct.bindTaken {settings : PortSettings} (h : Correct settings)
    {refused : List (BitVec 16 × UvError)} {socket : Except BindError (String × BitVec 16)}
    {after : PortManager}
    (hstep : step settings someAddresses {} bindTaken = .ok (some ⟨refused, socket⟩, after)) :
    StepCorrect settings someAddresses ∅
      ⟨{}, PortManager.bindTaken, some ⟨refused, socket⟩, after⟩ := by
  have hlawful : Lawful settings someAddresses {} [PortManager.bindTaken] := by
    intro before transport ip port after records hcalls
    cases before with
    | nil => cases hcalls
    | cons call before => cases before <;> cases hcalls
  obtain ⟨records, hrecords, hall⟩ := h someAddresses 0 [PortManager.bindTaken] hlawful
  rw [Run.trace_cons_ok hstep rfl] at hrecords
  exact hall [] _ [] (Except.ok.inj hrecords).symm

/-- Port zero is refused by nobody. -/
theorem tryBind_allTaken {port : BitVec 16} :
    (allTaken.tryBind .udp port = none ↔ port = 0) ∧
      ∀ err, allTaken.tryBind .udp port = some err → err = .other 98 := by
  have htry : allTaken.tryBind .udp port = if port = 0 then none else some (.other 98) := rfl
  rw [htry]
  by_cases hport : port = 0
  · rw [if_pos hport]
    exact ⟨iff_of_true rfl hport, fun _ heq ↦ by cases heq⟩
  · rw [if_neg hport]
    exact ⟨iff_of_false (Option.some_ne_none _) hport, fun _ heq ↦ (Option.some.inj heq).symm⟩

theorem pos_of_correct {settings : PortSettings} (h : Correct settings) :
    0 < settings.rtcMinPort := by
  by_contra hmin
  have hzero : settings.rtcMinPort = 0 := by bv_omega
  have hrange : settings.InRange 0 := by
    rw [PortSettings.InRange, hzero]
    exact ⟨BitVec.le_refl 0, BitVec.le_def.mpr (Nat.zero_le _)⟩
  by_cases hnone : (numPorts settings).toNat = 0
  · -- no flags at all: nothing was tried
    obtain ⟨after, hstep⟩ := step_bindTaken_of_zero hnone
    obtain ⟨name, -, hports⟩ := (h.bindTaken hstep).exhausted _ _ _ _ _ rfl rfl
    rcases hports 0 hrange with hused | ⟨err, -, hrefused⟩
    · exact hused
    · exact absurd hrefused List.not_mem_nil
  · have hlength : (List.replicate (numPorts settings).toNat false).length =
        (numPorts settings).toNat := List.length_replicate
    have hpos : 0 < (List.replicate (numPorts settings).toNat false).length := by omega
    obtain ⟨refused, result, hloop, hsearched⟩ := tryPorts_spec settings allTaken .udp hpos
      (List.replicate (numPorts settings).toNat false).length
      (getRandomUInt 0 0 (BitVec.ofNat 32
        (List.replicate (numPorts settings).toNat false).length - 1)).1.toNat
    obtain ⟨after, hstep⟩ := step_bindTaken settings hloop
    have hcorrect := h.bindTaken hstep
    match result, hsearched with
    | .ok (portIdx, port), ⟨_, htry, hport⟩ =>
      -- the socket is on a port that is not in the range, which would else consist of all ports
      rw [tryBind_allTaken.1.mp htry] at hport
      obtain ⟨-, ⟨-, hlast⟩, -⟩ := hcorrect.bound _ _ _ _ _ _ rfl rfl
      rw [hport, show allTaken.localPort 0 = 65535 from rfl] at hlast
      refine hnone ?_
      rw [numPorts, hzero]
      bv_omega
    | .error (.noMorePorts _), hvisited =>
      obtain ⟨k, hk, hle, hmod⟩ := exists_add_mod_eq (getRandomUInt 0 0 (BitVec.ofNat 32
        (List.replicate (numPorts settings).toNat false).length - 1)).1.toNat hpos
      have hfirst := hvisited k hk hle
      rw [hmod, portAt, hzero] at hfirst
      rcases hfirst with hused | ⟨err, htry, -⟩
      · cases (List.mem_replicate.mp (List.mem_of_getElem? hused)).2
      · exact absurd (htry.symm.trans (tryBind_allTaken.1.mpr rfl)) (Option.some_ne_none _)
    | .error (.initFailed err), ⟨port, hinit⟩ => cases hinit
    | .error (.tooManyOpenFiles port), htry => cases tryBind_allTaken.2 _ htry
    | .error (.addressNotAvailable port), htry => cases tryBind_allTaken.2 _ htry

/-- **The port manager.** With the ports of this range, every port that is bound is in the range and
was available, a port that is unbound becomes available again, and there are no more available ports
only if each one is in use or was tried and refused. This is so exactly if port zero is not in the
range. -/
theorem portManager_correct_iff (settings : PortSettings) :
    Correct settings ↔ 0 < settings.rtcMinPort :=
  ⟨pos_of_correct, correct_of_pos⟩

/-- **All ports**: the range is accepted, but `Bind` finds no available port in it. -/
theorem portManager_allPorts :
    (∃ after, step ⟨0, 65535, by decide⟩ someAddresses {} bindTaken =
        .ok (some ⟨[], .error (.noMorePorts 0)⟩, after)) ∧
      ¬Correct ⟨0, 65535, by decide⟩ :=
  ⟨step_bindTaken_of_zero (by decide), fun h ↦ absurd (pos_of_correct h) (by decide)⟩

end PortManager

end MediasoupSfu
