import VirtualRouter.Collection.Table
import VirtualRouter.Port.VirtualPort
import VirtualRouter.Topology.Verdict
import VirtualRouter.Tunnel.Header

/-!
Packets that wait for the address of their next hop. Each waits under a token of its own, handed out in turn, and is
taken out at most once.
-/

namespace VirtualRouter

/-- The name of one request for an address. -/
structure Token where
  number : UInt64
  deriving DecidableEq, Repr, Inhabited

namespace Token

/-- The token handed out after this one; after the highest comes the first again. -/
def next (t : Token) : Token := ⟨t.number + 1⟩

/-- The token as text. -/
def text (t : Token) : String := String.ofList ('#' :: Numeral.decimal t.number.toNat)

end Token

/-- A packet from a tunnel. -/
structure TunnelledPacket where
  buffer : Buffer
  inPort : PortNumber
  data : Octets
  packet : Packet
  /-- The match of the packet as it left the tunnel. -/
  incoming : HeaderMatch
  header : TunnelHeader
  deriving DecidableEq

/-- A packet that the simulation has decided on. -/
structure DecidedPacket where
  buffer : Buffer
  /-- The virtual port that it came in by. -/
  ingress : PortId
  data : Octets
  /-- The port that the simulation takes it to come from. -/
  source : PortId := ingress
  packet : Packet
  /-- The match of the packet as received. -/
  incoming : HeaderMatch
  /-- The headers that the simulation wants it to have on the way out. -/
  wanted : HeaderMatch
  elements : ElementSet
  deriving DecidableEq

/-- A packet from one local port to another. -/
structure LocalPacket extends DecidedPacket where
  egress : PortId
  deriving DecidableEq

/-- A packet that waits for an address. -/
inductive ParkedPacket where
  | tunnelled (packet : TunnelledPacket)
  | toLocal (packet : LocalPacket)
  deriving DecidableEq

namespace ParkedPacket

/-- The switch's handle of the packet. -/
def buffer : ParkedPacket → Buffer
  | tunnelled p => p.buffer
  | toLocal p => p.buffer

/-- The packet came from a local port. -/
def isLocal : ParkedPacket → Bool
  | tunnelled _ => false
  | toLocal _ => true

end ParkedPacket

/-- The waiting packets and the next token. -/
structure Parking where
  nextToken : Token := ⟨0⟩
  waiting : Table Token ParkedPacket := .empty
  deriving DecidableEq

namespace Parking

instance : Inhabited Parking := ⟨{}⟩

/-- Parks a packet; the answer is its token. -/
def park (p : Parking) (packet : ParkedPacket) : Parking × Token :=
  ({ nextToken := p.nextToken.next, waiting := p.waiting.insert p.nextToken packet }, p.nextToken)

/-- Takes out the packet of a token, if one waits. -/
def take (p : Parking) (token : Token) : Parking × Option ParkedPacket :=
  ({ p with waiting := p.waiting.erase token }, p.waiting.get? token)

/-- A packet waits under the token. -/
def contains (p : Parking) (token : Token) : Bool := p.waiting.contains token

/-- The number of waiting packets. -/
def size (p : Parking) : Nat := p.waiting.size

/-- No packet waits. -/
def isEmpty (p : Parking) : Bool := p.waiting.isEmpty

end Parking

end VirtualRouter
