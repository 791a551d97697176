import MediasoupSfu.Ice.StunPacket
import MediasoupSfu.Library.Run

/-!
# The ICE server

An `IceServer` answers STUN binding requests and keeps the tuples that have sent one with valid
credentials. One of the stored tuples is selected, by the nomination of the remote peer, by media
that comes from it, or because it is the only one left.

The tuples live in a `std::list`, whose nodes do not move, and `selectedTuple` points to one of the
nodes. A node is modelled by its address together with its tuple; an address is followed by looking
for the node, and an address without a node is a fault. Where a new node lies is up to the
`Allocator`, which only has to keep off the nodes there are: an address may be given out again once
its node is gone.

The state, the list and the pointer are written in different places. `Invariant` is what ties them
together; no call breaks it, and as long as it holds no assertion fails (`reachable_invariant`).
-/

namespace MediasoupSfu

/-- Where the memory for a node is taken from, given the addresses in use. -/
structure Allocator where
  allocate : List ℕ → ℕ
  /-- No memory in use is given out. -/
  fresh : ∀ live, allocate live ∉ live

/-- A node of the list of tuples. -/
structure StoredTuple where
  address : ℕ
  tuple : TransportTuple
  deriving DecidableEq, Repr

/-- `IceServer::IceState`. -/
inductive IceState where
  | new
  | connected
  | completed
  | disconnected
  deriving DecidableEq, Repr

/-- The members of `IceServer`. -/
structure IceServer where
  usernameFragment : List Byte
  password : List Byte
  oldUsernameFragment : List Byte := []
  oldPassword : List Byte := []
  state : IceState := .new
  tuples : List StoredTuple := []
  /-- The address of a node. -/
  selectedTuple : Option ℕ := none
  deriving DecidableEq, Repr

/-- The calls of the listener. -/
inductive IceOutput where
  | sendStunPacket (packet : StunPacket) (tuple : TransportTuple)
  | selectedTuple (address : ℕ)
  | connected
  | completed
  | disconnected
  deriving DecidableEq, Repr

/-- What can happen to an ICE server. -/
inductive IceEvent where
  | processStunPacket (allocator : Allocator) (packet : StunPacket) (tuple : TransportTuple)
  | removeTuple (tuple : TransportTuple)
  | forceSelectedTuple (tuple : TransportTuple)
  | setUsernameFragment (usernameFragment : List Byte)
  | setPassword (password : List Byte)

namespace IceServer

/-! ## Tuples -/

/-- The tuple at an address. -/
def tupleAt (s : IceServer) (address : ℕ) : Except Fault TransportTuple :=
  match s.tuples.find? fun stored ↦ stored.address = address with
  | some stored => .ok stored.tuple
  | none => .error .outOfBounds

/-- `AddTuple(tuple)`. -/
def addTuple (s : IceServer) (allocator : Allocator) (tuple : TransportTuple) : ℕ × IceServer :=
  let address := allocator.allocate (s.tuples.map StoredTuple.address)
  (address, { s with tuples := ⟨address, tuple⟩ :: s.tuples })

/-- `HasTuple(tuple)`. -/
def hasTuple (s : IceServer) (tuple : TransportTuple) : Except Fault (Option ℕ) :=
  match s.selectedTuple with
  | none => .ok none
  | some selectedTuple => do
    -- Check the current selected tuple.
    if (← s.tupleAt selectedTuple).compare tuple then return some selectedTuple
    -- Otherwise check other stored tuples.
    else return (s.tuples.find? fun stored ↦ stored.tuple.compare tuple).map StoredTuple.address

/-- `SetSelectedTuple(storedTuple)`. -/
def setSelectedTuple (s : IceServer) (storedTuple : ℕ) : List IceOutput × IceServer :=
  if s.selectedTuple = some storedTuple then ([], s)
  else ([.selectedTuple storedTuple], { s with selectedTuple := some storedTuple })

/-- Set the state to 'connected' or, with a nominated tuple, to 'completed'. -/
def establish (s : IceServer) (hasUseCandidate : Bool) : List IceOutput × IceServer :=
  if hasUseCandidate then ([.completed], { s with state := .completed })
  else ([.connected], { s with state := .connected })

/-- `HandleTuple` in states 'new' and 'disconnected', `name` being the name of the state. -/
def handleFirstTuple (s : IceServer) (allocator : Allocator) (name : String)
    (tuple : TransportTuple)
    (hasUseCandidate : Bool) : Except Fault (List IceOutput × IceServer) := do
  msAssert s.tuples.isEmpty
    ("state is '" ++ name ++ "' but there are " ++ toString s.tuples.length ++ " tuples")
  msAssert s.selectedTuple.isNone ("state is '" ++ name ++ "' but there is selected tuple")
  let (storedTuple, s) := s.addTuple allocator tuple
  let (selected, s) := s.setSelectedTuple storedTuple
  let (established, s) := s.establish hasUseCandidate
  return (selected ++ established, s)

/-- The stored tuple for a tuple. If a new tuple store it. -/
def storeTuple (s : IceServer) (allocator : Allocator) (tuple : TransportTuple) :
    Except Fault (ℕ × IceServer) := do
  match ← s.hasTuple tuple with
  | some storedTuple => return (storedTuple, s)
  | none => return s.addTuple allocator tuple

/-- `HandleTuple` in states 'connected' and 'completed', `name` being the name of the state. -/
def handleNextTuple (s : IceServer) (allocator : Allocator) (name : String) (tuple : TransportTuple)
    (hasUseCandidate : Bool) : Except Fault (List IceOutput × IceServer) := do
  msAssert (!s.tuples.isEmpty) ("state is '" ++ name ++ "' but there are no tuples")
  msAssert s.selectedTuple.isSome ("state is '" ++ name ++ "' but there is not selected tuple")
  let (storedTuple, s) ← s.storeTuple allocator tuple
  if hasUseCandidate then return s.setSelectedTuple storedTuple else return ([], s)

/-- `HandleTuple(tuple, hasUseCandidate)`. -/
def handleTuple (s : IceServer) (allocator : Allocator) (tuple : TransportTuple)
    (hasUseCandidate : Bool) : Except Fault (List IceOutput × IceServer) :=
  match s.state with
  | .new => s.handleFirstTuple allocator "new" tuple hasUseCandidate
  | .disconnected => s.handleFirstTuple allocator "disconnected" tuple hasUseCandidate
  | .connected => do
    let (selected, s) ← s.handleNextTuple allocator "connected" tuple hasUseCandidate
    -- Only a nominated tuple changes the state.
    if hasUseCandidate then
      let (established, s) := s.establish hasUseCandidate
      return (selected ++ established, s)
    else return (selected, s)
  | .completed => s.handleNextTuple allocator "completed" tuple hasUseCandidate

/-- `RemoveTuple(tuple)`. -/
def removeTuple (s : IceServer) (tuple : TransportTuple) : List IceOutput × IceServer :=
  match s.tuples.find? fun stored ↦ stored.tuple.compare tuple with
  -- If not found, ignore.
  | none => ([], s)
  | some removedTuple =>
    -- Remove from the list of tuples.
    let s' := { s with tuples := s.tuples.eraseP fun stored ↦ stored.tuple.compare tuple }
    -- If this is not the selected tuple, stop here.
    if s.selectedTuple ≠ some removedTuple.address then ([], s')
    else
      let s' := { s' with selectedTuple := none }
      match s'.tuples with
      -- Mark the first tuple as selected tuple (if any).
      | first :: _ => s'.setSelectedTuple first.address
      | [] => ([.disconnected], { s' with state := .disconnected })

/-- `ForceSelectedTuple(tuple)`. -/
def forceSelectedTuple (s : IceServer) (tuple : TransportTuple) :
    Except Fault (List IceOutput × IceServer) := do
  msAssert s.selectedTuple.isSome
    "cannot force the selected tuple if there was not a selected tuple"
  match ← s.hasTuple tuple with
  | some storedTuple => return s.setSelectedTuple storedTuple
  | none =>
    .error (.assertion
      "cannot force the selected tuple if the given tuple was not already a valid tuple")

/-! ## STUN packets -/

/-- Reply with an error. -/
def reply (s : IceServer) (packet : StunPacket) (tuple : TransportTuple) (errorCode : BitVec 16) :
    Except Fault (List IceOutput × IceServer) := do
  let response ← packet.createErrorResponse errorCode
  return ([.sendStunPacket response tuple], s)

/-- A request with valid credentials. -/
def acceptRequest (s : IceServer) (allocator : Allocator) (packet : StunPacket)
    (tuple : TransportTuple) : Except Fault (List IceOutput × IceServer) :=
  -- The remote peer must be ICE controlling.
  if packet.iceControlled ≠ 0 then s.reply packet tuple 487
  else do
    let response ← packet.createSuccessResponse
    let response := { response with xorMappedAddress := some tuple.getRemoteAddress }
    -- Authenticate the response.
    let response := response.authenticate (if s.oldPassword = [] then s.password else s.oldPassword)
    let (handled, s) ← s.handleTuple allocator tuple packet.hasUseCandidate
    return (.sendStunPacket response tuple :: handled, s)

/-- New ICE credentials applied. -/
def forgetOldCredentials (s : IceServer) : IceServer :=
  if s.oldPassword ≠ [] then { s with oldUsernameFragment := [], oldPassword := [] } else s

/-- A binding request. -/
def processRequest (getHmacSha1 : List Byte → List Byte → List Byte) (s : IceServer)
    (allocator : Allocator) (packet : StunPacket) (tuple : TransportTuple) :
    Except Fault (List IceOutput × IceServer) :=
  -- USERNAME, MESSAGE-INTEGRITY and PRIORITY are required.
  if packet.messageIntegrity.isNone ∨ packet.priority = 0 ∨ packet.username = [] then
    s.reply packet tuple 400
  else match packet.checkAuthentication getHmacSha1 s.usernameFragment s.password with
  | .ok => s.forgetOldCredentials.acceptRequest allocator packet tuple
  | .unauthorized =>
    -- We may have changed our usernameFragment and password, so check the old ones.
    if s.oldUsernameFragment ≠ [] ∧ s.oldPassword ≠ [] ∧
        packet.checkAuthentication getHmacSha1 s.oldUsernameFragment s.oldPassword = .ok then
      s.acceptRequest allocator packet tuple
    else s.reply packet tuple 401
  | .badRequest => s.reply packet tuple 400

/-- `ProcessStunPacket(packet, tuple)`. -/
def processStunPacket (getHmacSha1 : List Byte → List Byte → List Byte) (s : IceServer)
    (allocator : Allocator) (packet : StunPacket) (tuple : TransportTuple) :
    Except Fault (List IceOutput × IceServer) :=
  -- Must be a Binding method.
  if packet.method ≠ StunPacket.binding then
    if packet.klass = .request then s.reply packet tuple 400 else .ok ([], s)
  -- Must use FINGERPRINT (optional for ICE STUN indications).
  else if ¬packet.hasFingerprint ∧ packet.klass ≠ .indication then
    if packet.klass = .request then s.reply packet tuple 400 else .ok ([], s)
  else match packet.klass with
  | .request => s.processRequest getHmacSha1 allocator packet tuple
  | .indication | .successResponse | .errorResponse => .ok ([], s)

/-! ## Runs -/

/-- `SetUsernameFragment(usernameFragment)`. -/
def setUsernameFragment (s : IceServer) (usernameFragment : List Byte) : IceServer :=
  { s with oldUsernameFragment := s.usernameFragment, usernameFragment := usernameFragment }

/-- `SetPassword(password)`. -/
def setPassword (s : IceServer) (password : List Byte) : IceServer :=
  { s with oldPassword := s.password, password := password }

/-- `IceServer(listener, usernameFragment, password)`. -/
def init (usernameFragment password : List Byte) : IceServer where
  usernameFragment := usernameFragment
  password := password

/-- One call. -/
def step (getHmacSha1 : List Byte → List Byte → List Byte) (s : IceServer) :
    IceEvent → Except Fault (List IceOutput × IceServer)
  | .processStunPacket allocator packet tuple =>
    s.processStunPacket getHmacSha1 allocator packet tuple
  | .removeTuple tuple => .ok (s.removeTuple tuple)
  | .forceSelectedTuple tuple => s.forceSelectedTuple tuple
  | .setUsernameFragment usernameFragment => .ok ([], s.setUsernameFragment usernameFragment)
  | .setPassword password => .ok ([], s.setPassword password)

/-- `ForceSelectedTuple` is only called on a tuple that is present. -/
def Legal (s : IceServer) : IceEvent → Prop
  | .forceSelectedTuple tuple => ∃ stored ∈ s.tuples, stored.tuple.compare tuple = true
  | _ => True

end IceServer

end MediasoupSfu
