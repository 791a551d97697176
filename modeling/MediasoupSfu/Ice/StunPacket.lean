import MediasoupSfu.Ice.TransportTuple
import MediasoupSfu.Library.Memory

/-!
# STUN messages

The members of a `StunPacket`, the check of its MESSAGE-INTEGRITY and the responses that are built
for it. The HMAC comes from the cryptographic library and is a parameter: a function of a key and of
the bytes to be authenticated.
-/

namespace MediasoupSfu

open Memory

/-- `StunPacket::Class`. -/
inductive StunClass where
  | request
  | indication
  | successResponse
  | errorResponse
  deriving DecidableEq, Repr

/-- `StunPacket::Authentication`. -/
inductive Authentication where
  | ok
  | unauthorized
  | badRequest
  deriving DecidableEq, Repr

/-- The members of `StunPacket`. -/
structure StunPacket where
  klass : StunClass
  method : BitVec 16
  transactionId : BitVec 96
  data : List Byte := []
  /-- The full message size (including header). -/
  size : ℕ := 0
  username : List Byte := []
  priority : BitVec 32 := 0
  iceControlling : BitVec 64 := 0
  iceControlled : BitVec 64 := 0
  hasUseCandidate : Bool := false
  /-- Where in `data` the 20 bytes of MESSAGE-INTEGRITY are. -/
  messageIntegrity : Option ℕ := none
  hasFingerprint : Bool := false
  xorMappedAddress : Option SockAddr := none
  errorCode : BitVec 16 := 0
  password : List Byte := []
  deriving DecidableEq, Repr

namespace StunPacket

/-- `Method::BINDING`. -/
def binding : BitVec 16 := 1

/-- The byte `':'`. -/
def colon : Byte := 0x3A

/-- The USERNAME attribute begins with the local username plus ":". -/
def namesLocal (p : StunPacket) (localUsername : List Byte) : Bool :=
  decide (p.username.take (localUsername.length + 1) = localUsername ++ [colon])

/-- The bytes before MESSAGE-INTEGRITY. If there is FINGERPRINT it is discarded from the header
length field. -/
def authenticated (p : StunPacket) (messageIntegrity : ℕ) : List Byte :=
  let data :=
    if p.hasFingerprint then splice p.data 2 (Byte.set2Bytes (BitVec.ofNat 16 (p.size - 20 - 8)))
    else p.data
  data.take (messageIntegrity - 4)

/-- `CheckAuthentication(localUsername, localPassword)`. -/
def checkAuthentication (getHmacSha1 : List Byte → List Byte → List Byte) (p : StunPacket)
    (localUsername localPassword : List Byte) : Authentication :=
  match p.klass with
  | .request | .indication =>
    match p.messageIntegrity with
    | none => .badRequest
    | some messageIntegrity =>
      if p.username = [] then .badRequest
      else if ¬p.namesLocal localUsername then .unauthorized
      else if slice p.data messageIntegrity 20 =
          getHmacSha1 localPassword (p.authenticated messageIntegrity) then .ok
      else .unauthorized
  -- This method cannot check authentication in received responses.
  | .successResponse | .errorResponse => .badRequest

/-- `CreateSuccessResponse()`. -/
def createSuccessResponse (p : StunPacket) : Except Fault StunPacket := do
  msAssert (p.klass = .request) "attempt to create a success response for a non Request STUN packet"
  return { klass := .successResponse, method := p.method, transactionId := p.transactionId }

/-- `CreateErrorResponse(errorCode)`. -/
def createErrorResponse (p : StunPacket) (errorCode : BitVec 16) : Except Fault StunPacket := do
  msAssert (p.klass = .request) "attempt to create an error response for a non Request STUN packet"
  return { klass := .errorResponse, method := p.method, transactionId := p.transactionId
           errorCode }

/-- `Authenticate(password)`. -/
def authenticate (p : StunPacket) (password : List Byte) : StunPacket :=
  if p.klass = .errorResponse then p else { p with password := password }

end StunPacket

end MediasoupSfu
