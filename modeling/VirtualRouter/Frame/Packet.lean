import VirtualRouter.Datapath.Notice

/-!
The headers of a packet, as far as the controller looks at them: the Ethernet header, the IPv4 header of an IPv4
packet, the ports of a UDP or TCP packet or the type and code of an ICMP packet, and the DHCP message that a client
sends to a server. The exact match of a packet constrains the ingress port and every header field the packet has.
-/

namespace VirtualRouter

/-! ### Protocol numbers -/

/-- The ethertype of IPv4. -/
def ethertypeIpv4 : UInt16 := 0x0800

/-- The protocol number of ICMP. -/
def protocolIcmp : UInt8 := 1

/-- The protocol number of TCP. -/
def protocolTcp : UInt8 := 6

/-- The protocol number of UDP. -/
def protocolUdp : UInt8 := 17

/-- The UDP port that DHCP clients send from. -/
def dhcpClientPort : UInt16 := 68

/-- The UDP port that DHCP servers listen on. -/
def dhcpServerPort : UInt16 := 67

/-! ### Headers -/

/-- What an IPv4 header says about the packet. -/
structure Ipv4Header where
  src : Ipv4
  dst : Ipv4
  protocol : UInt8
  deriving DecidableEq, Repr

/-- The ports of a transport header; for ICMP, its type and its code. -/
structure TransportPorts where
  src : UInt16
  dst : UInt16
  deriving DecidableEq, Repr

/-- A message from a DHCP client to a server. -/
structure DhcpMessage where
  opcode : UInt8
  /-- The whole UDP payload. -/
  payload : Octets
  deriving DecidableEq, Repr

/-- The message asks for an answer. -/
def DhcpMessage.isBootRequest (m : DhcpMessage) : Bool := m.opcode = 1

/-- The headers of a packet. -/
structure Packet where
  dlSrc : Mac
  dlDst : Mac
  ethertype : UInt16
  ipv4 : Option Ipv4Header := none
  transport : Option TransportPorts := none
  dhcp : Option DhcpMessage := none
  deriving DecidableEq, Repr

namespace Packet

/-- The packet carries IPv4. -/
def isIpv4 (p : Packet) : Bool := p.ipv4.isSome

/-- The DHCP message of the packet, if it asks for an answer. -/
def bootRequest? (p : Packet) : Option DhcpMessage := p.dhcp.filter (·.isBootRequest)

/-- The match that exactly this packet's headers agree with, arriving on a port. -/
def exactMatch (p : Packet) (inPort : PortNumber) : HeaderMatch where
  inPort := some inPort
  dlSrc := some p.dlSrc
  dlDst := some p.dlDst
  dlType := some p.ethertype
  nwProto := p.ipv4.map (·.protocol)
  nwSrc := p.ipv4.map (·.src)
  nwDst := p.ipv4.map (·.dst)
  tpSrc := p.transport.map (·.src)
  tpDst := p.transport.map (·.dst)

end Packet

/-! ### Refusal -/

/-- The header that a packet's bytes fail to hold. -/
inductive Layer where
  | ethernet
  | ipv4
  | udp
  | tcp
  | icmp
  | dhcp
  deriving DecidableEq, Repr

/-- The name of a header. -/
def Layer.name : Layer → String
  | .ethernet => "ethernet"
  | .ipv4 => "ipv4"
  | .udp => "udp"
  | .tcp => "tcp"
  | .icmp => "icmp"
  | .dhcp => "dhcp"

/-- Why bytes are no packet. -/
inductive PacketError where
  | empty
  | malformed (layer : Layer)
  deriving DecidableEq, Repr

/-- The report of refused bytes. -/
def PacketError.message : PacketError → String
  | .empty => "empty packet"
  | .malformed layer => "malformed " ++ layer.name ++ " header"

end VirtualRouter
