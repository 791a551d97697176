import MediasoupSfu.Utils.Byte

/-!
# Transport tuples

A `TransportTuple` says how a remote endpoint is reached: through a UDP socket at a remote address,
or through a TCP connection. Sockets and connections are known by their pointers. The sockets of the
worker are bound to IPv4 and IPv6 addresses, so these are the families of an address.
-/

namespace MediasoupSfu

/-- A `struct sockaddr`. -/
inductive SockAddr where
  /-- `AF_INET`. -/
  | inet (port : BitVec 16) (addr : BitVec 32)
  /-- `AF_INET6`. -/
  | inet6 (port : BitVec 16) (addr : BitVec 128)
  deriving DecidableEq, Repr

/-- `Utils::IP::CompareAddresses(addr1, addr2)`. -/
def compareAddresses : SockAddr → SockAddr → Bool
  | .inet port₁ addr₁, .inet port₂ addr₂ => decide (port₁ = port₂) && decide (addr₁ = addr₂)
  | .inet6 port₁ addr₁, .inet6 port₂ addr₂ => decide (port₁ = port₂) && decide (addr₁ = addr₂)
  | _, _ => false

/-- `TransportTuple`, with its protocol as the constructor. -/
inductive TransportTuple where
  | udp (udpSocket : ℕ) (udpRemoteAddr : SockAddr)
  /-- The address is that of the peer of the connection. -/
  | tcp (tcpConnection : ℕ) (peerAddress : SockAddr)
  deriving DecidableEq, Repr

namespace TransportTuple

/-- `Compare(tuple)`. -/
def compare : TransportTuple → TransportTuple → Bool
  | .udp udpSocket₁ addr₁, .udp udpSocket₂ addr₂ =>
    decide (udpSocket₁ = udpSocket₂) && compareAddresses addr₁ addr₂
  | .tcp tcpConnection₁ _, .tcp tcpConnection₂ _ => decide (tcpConnection₁ = tcpConnection₂)
  | _, _ => false

/-- `GetRemoteAddress()`. -/
def getRemoteAddress : TransportTuple → SockAddr
  | .udp _ udpRemoteAddr => udpRemoteAddr
  | .tcp _ peerAddress => peerAddress

end TransportTuple

theorem compareAddresses_comm (a b : SockAddr) : compareAddresses a b = compareAddresses b a := by
  cases a <;> cases b <;> simp [compareAddresses, eq_comm]

theorem TransportTuple.compare_comm (a b : TransportTuple) : a.compare b = b.compare a := by
  cases a <;> cases b <;> simp [compare, eq_comm, compareAddresses_comm]

end MediasoupSfu
