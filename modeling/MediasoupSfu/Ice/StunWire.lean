import MediasoupSfu.Ice.StunPacket

/-!
# STUN messages on the wire

`Serialize` writes a message into a buffer and `Parse` reads one back. A message is a header of 20
bytes and a sequence of attributes, each with a type, a length and a value that is padded to a
multiple of four bytes. The padding is not written: it keeps what the buffer held before.

Two attributes are about the bytes before them. MESSAGE-INTEGRITY is an HMAC, for which the length
field of the header must not count FINGERPRINT; FINGERPRINT is a CRC. Both functions are parameters.
A buffer that is serialized into is assumed to have room for the message.

The position of `Parse` is a 16-bit number, so in a message of about 2 ^ 16 bytes it might come
round. That is why `parseAttributes` counts its rounds.
-/

namespace MediasoupSfu

open Memory

/-- `StunPacket::Attribute`, those that are read or written. -/
inductive StunAttribute where
  | username
  | messageIntegrity
  | errorCode
  | xorMappedAddress
  | priority
  | useCandidate
  | fingerprint
  | iceControlled
  | iceControlling
  deriving DecidableEq, Repr

namespace StunAttribute

/-- The attribute type. -/
def code : StunAttribute → BitVec 16
  | username => 0x0006
  | messageIntegrity => 0x0008
  | errorCode => 0x0009
  | xorMappedAddress => 0x0020
  | priority => 0x0024
  | useCandidate => 0x0025
  | fingerprint => 0x8028
  | iceControlled => 0x8029
  | iceControlling => 0x802A

/-- The attribute of a type. -/
def ofCode (attrType : BitVec 16) : Option StunAttribute :=
  [username, messageIntegrity, errorCode, xorMappedAddress, priority, useCandidate, fingerprint,
    iceControlled, iceControlling].find? fun attr ↦ attr.code = attrType

@[simp] theorem ofCode_code (attr : StunAttribute) : ofCode attr.code = some attr := by
  cases attr <;> rfl

end StunAttribute

namespace StunClass

/-- The value of the enumerator. -/
def toBits : StunClass → BitVec 16
  | request => 0
  | indication => 1
  | successResponse => 2
  | errorResponse => 3

/-- `static_cast<Class>(msgClass)` of a number of two bits. -/
def ofBits (msgClass : Byte) : StunClass :=
  if msgClass = 0 then request
  else if msgClass = 1 then indication
  else if msgClass = 2 then successResponse
  else errorResponse

end StunClass

namespace StunPacket

/-- `StunPacket::magicCookie`. -/
def magicCookie : List Byte := [0x21, 0x12, 0xA4, 0x42]

/-- The 12 bytes of the transaction id. -/
def transactionIdBytes (p : StunPacket) : List Byte := Byte.bytesOf 12 p.transactionId.toNat

/-! ## Serializing -/

/-- The buffer that is written and how far. -/
structure Writer where
  buffer : List Byte
  pos : ℕ

namespace Writer

/-- Overwrite some bytes. -/
def set (w : Writer) (i : ℕ) (value : List Byte) : Writer :=
  { w with buffer := splice w.buffer i value }

/-- Add an attribute. -/
def add (w : Writer) (attr : StunAttribute) (value : List Byte) (paddedLen : ℕ) : Writer :=
  let w := w.set w.pos (Byte.set2Bytes attr.code)
  let w := w.set (w.pos + 2) (Byte.set2Bytes (BitVec.ofNat 16 value.length))
  let w := w.set (w.pos + 4) value
  { w with pos := w.pos + (4 + paddedLen) }

end Writer

/-- `usernamePaddedLen`. -/
def usernamePaddedLen (p : StunPacket) : ℕ :=
  if p.username ≠ [] then (Byte.padTo4Bytes (BitVec.ofNat 16 p.username.length)).toNat else 0

/-- `addXorMappedAddress`, with the address. -/
def addedXorMappedAddress (p : StunPacket) : Option SockAddr :=
  if p.method = binding ∧ p.klass = .successResponse then p.xorMappedAddress else none

/-- `xorMappedAddressPaddedLen`. -/
def xorMappedAddressPaddedLen : SockAddr → ℕ
  | .inet _ _ => 8
  | .inet6 _ _ => 20

/-- The size of XOR-MAPPED-ADDRESS, if it is added. -/
def xorMappedAddressSize (p : StunPacket) : ℕ :=
  match p.addedXorMappedAddress with
  | some address => 4 + xorMappedAddressPaddedLen address
  | none => 0

/-- `addErrorCode`. -/
def addErrorCode (p : StunPacket) : Bool :=
  decide (p.errorCode ≠ 0) && decide (p.klass = .errorResponse)

/-- `addMessageIntegrity`. -/
def addMessageIntegrity (p : StunPacket) : Bool :=
  decide (p.klass ≠ .errorResponse) && decide (p.password ≠ [])

/-- The total required size for the entire packet. -/
def requiredSize (p : StunPacket) : ℕ :=
  20 + (if p.username ≠ [] then 4 + p.usernamePaddedLen else 0) +
    (if p.priority ≠ 0 then 4 + 4 else 0) + (if p.iceControlling ≠ 0 then 4 + 8 else 0) +
    (if p.iceControlled ≠ 0 then 4 + 8 else 0) + (if p.hasUseCandidate then 4 else 0) +
    p.xorMappedAddressSize +
    (if p.addErrorCode then 4 + 4 else 0) + (if p.addMessageIntegrity then 4 + 20 else 0) + (4 + 4)

/-- The type field, merged of class and method. -/
def typeField (method : BitVec 16) (klass : StunClass) : BitVec 16 :=
  (method &&& 0x0f80) <<< 2 ||| (method &&& 0x0070) <<< 1 ||| (method &&& 0x000f) |||
    (klass.toBits &&& 0x02) <<< 7 ||| (klass.toBits &&& 0x01) <<< 4

/-- Write the header. -/
def writeHeader (p : StunPacket) (buffer : List Byte) : Writer :=
  let w : Writer := { buffer, pos := 20 }
  let w := w.set 0 (Byte.set2Bytes (typeField p.method p.klass))
  let w := w.set 2 (Byte.set2Bytes (BitVec.ofNat 16 p.requiredSize - 20))
  let w := w.set 4 magicCookie
  w.set 8 p.transactionIdBytes

/-- Bytes XORed with a key. -/
def xorBytes (bytes key : List Byte) : List Byte := List.zipWith (· ^^^ ·) bytes key

/-- The value of XOR-MAPPED-ADDRESS. -/
def xorMappedAddressValue (p : StunPacket) : SockAddr → List Byte
  | .inet port addr =>
    [0, 0x01] ++ xorBytes (Byte.set2Bytes port) magicCookie ++ xorBytes (Byte.set4Bytes addr)
    magicCookie
  | .inet6 port addr =>
    [0, 0x02] ++ xorBytes (Byte.set2Bytes port) magicCookie ++
      xorBytes (Byte.bytesOf 16 addr.toNat) (magicCookie ++ p.transactionIdBytes)

/-- The value of ERROR-CODE. -/
def errorCodeValue (p : StunPacket) : List Byte :=
  let codeClass : Byte := (p.errorCode / 100).setWidth 8
  let codeNumber : Byte := p.errorCode.setWidth 8 - codeClass * 100
  Byte.set2Bytes 0 ++ [codeClass, codeNumber]

/-- Add XOR-MAPPED-ADDRESS. -/
def writeXorMappedAddress (p : StunPacket) (w : Writer) : Writer :=
  match p.addedXorMappedAddress with
  | some address =>
    w.add .xorMappedAddress (p.xorMappedAddressValue address) (xorMappedAddressPaddedLen address)
  | none => w

/-- Write the attributes in front of MESSAGE-INTEGRITY. -/
def writeAttributes (p : StunPacket) (w : Writer) : Writer :=
  let w := if p.usernamePaddedLen ≠ 0 then w.add .username p.username p.usernamePaddedLen else w
  let w := if p.priority ≠ 0 then w.add .priority (Byte.set4Bytes p.priority) 4 else w
  let w := if p.iceControlling ≠ 0 then w.add .iceControlling (Byte.set8Bytes p.iceControlling) 8
    else w
  let w := if p.iceControlled ≠ 0 then w.add .iceControlled (Byte.set8Bytes p.iceControlled) 8
    else w
  let w := if p.hasUseCandidate then w.add .useCandidate [] 0 else w
  let w := p.writeXorMappedAddress w
  if p.addErrorCode then w.add .errorCode p.errorCodeValue 4 else w

/-- Write MESSAGE-INTEGRITY. FINGERPRINT is ignored in the length field as long as the HMAC is
computed. -/
def writeMessageIntegrity (getHmacSha1 : List Byte → List Byte → List Byte) (p : StunPacket)
    (w : Writer) : Writer :=
  let w := w.set 2 (Byte.set2Bytes (BitVec.ofNat 16 (p.requiredSize - 20 - 8)))
  let computedMessageIntegrity := getHmacSha1 p.password (w.buffer.take w.pos)
  let w := w.add .messageIntegrity computedMessageIntegrity 20
  -- Restore length field.
  w.set 2 (Byte.set2Bytes (BitVec.ofNat 16 (p.requiredSize - 20)))

/-- The CRC32 of the packet up to (but excluding) the FINGERPRINT attribute, XORed with
0x5354554e. -/
def computedFingerprint (getCrc32 : List Byte → BitVec 32) (data : List Byte) : BitVec 32 :=
  getCrc32 data ^^^ 0x5354554e

/-- Write FINGERPRINT. -/
def writeFingerprint (getCrc32 : List Byte → BitVec 32) (w : Writer) : Writer :=
  w.add .fingerprint (Byte.set4Bytes (computedFingerprint getCrc32 (w.buffer.take w.pos))) 4

/-- `Serialize(buffer)`. -/
def serialize (getHmacSha1 : List Byte → List Byte → List Byte) (getCrc32 : List Byte → BitVec 32)
    (p : StunPacket) (buffer : List Byte) : Except Fault StunPacket := do
  let w := p.writeAttributes (p.writeHeader buffer)
  let messageIntegrity := if p.addMessageIntegrity then some (w.pos + 4) else none
  let w := if p.addMessageIntegrity then p.writeMessageIntegrity getHmacSha1 w else w
  let w := writeFingerprint getCrc32 w
  msAssert (w.pos = p.requiredSize) "pos != this->size"
  let data := w.buffer.take p.requiredSize
  return { p with data, size := p.requiredSize, messageIntegrity, hasFingerprint := true }

/-! ## Parsing -/

/-- `IsStun(data, len)`. -/
def isStun (data : List Byte) : Except Fault Bool :=
  -- STUN headers are 20 bytes.
  if data.length < 20 then .ok false
  else do
    let b ← Byte.get1Byte data 0
    -- Magic cookie must match.
    return decide (b < 3) && decide (slice data 4 4 = magicCookie)

/-- Where `Parse` is. -/
structure Parser where
  packet : StunPacket
  pos : ℕ := 20
  hasMessageIntegrity : Bool := false
  /-- The position of the FINGERPRINT attribute and its value. -/
  fingerprint : Option (ℕ × BitVec 32) := none
  deriving DecidableEq, Repr

/-- How `Parse` ends. -/
inductive ParseOutcome where
  | packet (packet : StunPacket)
  /-- `nullptr`. -/
  | discarded
  /-- The attributes have not come to an end. -/
  | unfinished
  deriving DecidableEq, Repr

namespace ParseOutcome

theorem packet_ne_unfinished (p : StunPacket) : packet p ≠ unfinished := by
  rintro ⟨⟩

theorem discarded_ne_unfinished : discarded ≠ unfinished := by
  rintro ⟨⟩

theorem not_packet_discarded : ¬∃ p, discarded = packet p := by
  rintro ⟨_, ⟨⟩⟩

instance (outcome : ParseOutcome) (P : StunPacket → Prop) [DecidablePred P] :
    Decidable (∃ p, outcome = packet p ∧ P p) :=
  match outcome with
  | packet p => decidable_of_iff (P p) (by simp)
  | discarded | unfinished => .isFalse (by simp)

end ParseOutcome

namespace Parser

/-- Read the value of an attribute. -/
def readValue (s : Parser) (attrType : BitVec 16) (attrValue : List Byte) :
    Except Fault (Option Parser) :=
  match StunAttribute.ofCode attrType with
  | some .username => .ok (some { s with packet.username := attrValue })
  | some .priority =>
    if attrValue.length ≠ 4 then .ok none
    else do
      let priority ← Byte.get4Bytes attrValue 0
      return some { s with packet.priority := priority }
  | some .iceControlling =>
    if attrValue.length ≠ 8 then .ok none
    else do
      let iceControlling ← Byte.get8Bytes attrValue 0
      return some { s with packet.iceControlling := iceControlling }
  | some .iceControlled =>
    if attrValue.length ≠ 8 then .ok none
    else do
      let iceControlled ← Byte.get8Bytes attrValue 0
      return some { s with packet.iceControlled := iceControlled }
  | some .useCandidate =>
    if attrValue.length ≠ 0 then .ok none
    else .ok (some { s with packet.hasUseCandidate := true })
  | some .messageIntegrity =>
    if attrValue.length ≠ 20 then .ok none
    else .ok (some { s with
      hasMessageIntegrity := true, packet.messageIntegrity := some (s.pos + 4) })
  | some .fingerprint =>
    if attrValue.length ≠ 4 then .ok none
    else do
      let fingerprint ← Byte.get4Bytes attrValue 0
      return some { s with fingerprint := some (s.pos, fingerprint), packet.hasFingerprint := true }
  | some .errorCode =>
    if attrValue.length < 4 then .ok none
    else do
      let errorClass ← Byte.get1Byte attrValue 2
      let errorNumber ← Byte.get1Byte attrValue 3
      let errorCode := BitVec.ofNat 16 (errorClass.toNat * 100 + errorNumber.toNat)
      return some { s with packet.errorCode := errorCode }
  | some .xorMappedAddress | none => .ok (some s)

/-- Check the order of the attributes, read one and set the next attribute position. -/
def readAttribute (s : Parser) (attrType : BitVec 16) (attrValue : List Byte) :
    Except Fault (Option Parser) :=
  -- FINGERPRINT must be the last attribute.
  if s.fingerprint.isSome then .ok none
  -- After a MESSAGE-INTEGRITY attribute just FINGERPRINT is allowed.
  else if s.hasMessageIntegrity ∧ attrType ≠ StunAttribute.fingerprint.code then .ok none
  else do
    match ← s.readValue attrType attrValue with
    | none => return none
    | some t =>
      let pos := (Byte.padTo4Bytes (BitVec.ofNat 16 (s.pos + 4 + attrValue.length))).toNat
      return some { t with pos }

/-- One round of the loop. -/
def parseAttribute (data : List Byte) (s : Parser) : Except Fault (Option Parser) := do
  let attrType ← Byte.get2Bytes data s.pos
  let attrLength ← Byte.get2Bytes data (s.pos + 2)
  -- Ensure the attribute length is not greater than the remaining size.
  if s.pos + 4 + attrLength.toNat > data.length then return none
  else s.readAttribute attrType (slice data (s.pos + 4) attrLength.toNat)

/-- What is checked behind the loop. -/
def finish (getCrc32 : List Byte → BitVec 32) (data : List Byte) (s : Parser) : ParseOutcome :=
  -- Ensure current position matches the total length.
  if s.pos ≠ data.length then .discarded
  -- If it has FINGERPRINT attribute then verify it.
  else match s.fingerprint with
    | some (fingerprintAttrPos, fingerprint) =>
      if fingerprint ≠ computedFingerprint getCrc32 (data.take fingerprintAttrPos) then .discarded
      else .packet s.packet
    | none => .packet s.packet

/-- The attributes, in at most so many rounds. -/
def parseAttributes (getCrc32 : List Byte → BitVec 32) (data : List Byte) :
    ℕ → Parser → Except Fault ParseOutcome
  | 0, s => if s.pos + 4 ≤ data.length then .ok .unfinished else .ok (s.finish getCrc32 data)
  | rounds + 1, s =>
    -- Ensure there are at least 4 remaining bytes (attribute with 0 length).
    if s.pos + 4 ≤ data.length then do
      match ← parseAttribute data s with
      | none => return .discarded
      | some t => parseAttributes getCrc32 data rounds t
    else .ok (s.finish getCrc32 data)

end Parser

/-- `Parse(data, len)`, in at most so many rounds of its loop. -/
def parse (getCrc32 : List Byte → BitVec 32) (rounds : ℕ) (data : List Byte) :
    Except Fault ParseOutcome := do
  if ¬(← isStun data) then return .discarded
  else
    let msgType ← Byte.get2Bytes data 0
    let msgLength ← Byte.get2Bytes data 2
    -- length field must be total size minus header's 20 bytes, and must be multiple of 4 Bytes.
    if msgLength.toNat ≠ data.length - 20 ∨ msgLength &&& 0x03 ≠ 0 then return .discarded
    else
      let msgMethod : BitVec 16 :=
        (msgType &&& 0x000f) ||| (msgType &&& 0x00e0) >>> 1 ||| (msgType &&& 0x3E00) >>> 2
      let b₀ ← Byte.get1Byte data 0
      let b₁ ← Byte.get1Byte data 1
      let msgClass : Byte := (b₀ &&& 0x01) <<< 1 ||| (b₁ &&& 0x10) >>> 4
      let packet : StunPacket := {
        klass := StunClass.ofBits msgClass
        method := msgMethod
        transactionId := BitVec.ofNat 96 (Byte.valueOf (slice data 8 12))
        data := data
        size := data.length }
      Parser.parseAttributes getCrc32 data rounds { packet }

/-! ## Checking in place -/

/-- Compare the computed HMAC-SHA1 with the MESSAGE-INTEGRITY in the packet. The length field of the
header is modified, and later restored. -/
def compareIntegrity (getHmacSha1 : List Byte → List Byte → List Byte) (p : StunPacket)
    (messageIntegrity : ℕ) (localPassword : List Byte) : Authentication × StunPacket :=
  let data :=
    if p.hasFingerprint then splice p.data 2 (Byte.set2Bytes (BitVec.ofNat 16 (p.size - 20 - 8)))
    else p.data
  let computedMessageIntegrity := getHmacSha1 localPassword (data.take (messageIntegrity - 4))
  let result :=
    if slice data messageIntegrity 20 = computedMessageIntegrity then Authentication.ok
    else .unauthorized
  -- Restore the header length field.
  let data :=
    if p.hasFingerprint then splice data 2 (Byte.set2Bytes (BitVec.ofNat 16 (p.size - 20)))
      else data
  (result, { p with data })

/-- `CheckAuthentication(localUsername, localPassword)` with what it does to the packet. -/
def checkAuthenticationInPlace (getHmacSha1 : List Byte → List Byte → List Byte) (p : StunPacket)
    (localUsername localPassword : List Byte) : Authentication × StunPacket :=
  match p.klass with
  | .request | .indication =>
    match p.messageIntegrity with
    | none => (.badRequest, p)
    | some messageIntegrity =>
      if p.username = [] then (.badRequest, p)
      else if ¬p.namesLocal localUsername then (.unauthorized, p)
      else p.compareIntegrity getHmacSha1 messageIntegrity localPassword
  | .successResponse | .errorResponse => (.badRequest, p)

end StunPacket

end MediasoupSfu
