import VirtualRouter.Frame.Packet

/-!
Reading headers from bytes. Every layer first checks the lengths it needs and refuses the packet if they do not fit;
only then are its fields read, at fixed offsets and big-endian. A read that left the bytes at hand would be an
overrun, which the length checks rule out.

An Ethernet header takes 14 bytes. An IPv4 header takes at least 20; its length field, in words of four bytes, must
neither exceed the bytes at hand nor the total length, and the total length not the bytes at hand. The version and
the checksums are not looked at, and bytes after the total length are no part of the packet. Transport headers are
read only in the first fragment: UDP with a length field from 8 to the bytes at hand, TCP with a data offset from 20
to the bytes at hand, ICMP with eight bytes. A UDP payload from port 68 to port 67 must hold 240 bytes of DHCP.
-/

namespace VirtualRouter

namespace Packet

/-- Why reading stops: a read outside of the bytes, or bytes that hold no packet. -/
inductive Stop where
  | overrun
  | refused (error : PacketError)
  deriving DecidableEq, Repr

/-- A read that may stop. -/
abbrev Reading (α : Type) := Except Stop α

/-! ### Fields at an offset -/

/-- One byte. -/
def octet (d : Octets) (i : Nat) : Reading UInt8 :=
  match d[i]? with
  | some o => .ok o
  | none => .error .overrun

/-- Two bytes as a number, the first one counting more. -/
def wordOf (high low : UInt8) : UInt16 := UInt16.ofNat (high.toNat * 256 + low.toNat)

/-- Two bytes as a number. -/
def word (d : Octets) (i : Nat) : Reading UInt16 := do
  return wordOf (← octet d i) (← octet d (i + 1))

/-- Six bytes as an Ethernet address. -/
def mac (d : Octets) (i : Nat) : Reading Mac := do
  return ⟨← octet d i, ← octet d (i + 1), ← octet d (i + 2), ← octet d (i + 3), ← octet d (i + 4), ← octet d (i + 5)⟩

/-- Four bytes as a network address. -/
def address (d : Octets) (i : Nat) : Reading Ipv4 := do
  return ⟨← octet d i, ← octet d (i + 1), ← octet d (i + 2), ← octet d (i + 3)⟩

/-- The bytes from one offset up to another. -/
def slice (d : Octets) (start stop : Nat) : Reading Octets :=
  if start ≤ stop ∧ stop ≤ d.length then .ok ((d.drop start).take (stop - start)) else .error .overrun

/-- Refuses the packet for a header unless its lengths fit. -/
def require (layer : Layer) (fits : Bool) : Reading Unit :=
  if fits then .ok () else .error (.refused (.malformed layer))

/-! ### Transport headers -/

/-- What the bytes after an IPv4 header hold. -/
structure TransportPart where
  ports : Option TransportPorts := none
  dhcp : Option DhcpMessage := none

/-- Reads a DHCP message from a UDP payload. -/
def readDhcp (d : Octets) : Reading DhcpMessage := do
  require .dhcp (240 ≤ d.length)
  return { opcode := ← octet d 0, payload := d }

/-- Reads a UDP header, and the DHCP message after it if the ports are those of a client and a server. -/
def readUdp (d : Octets) : Reading TransportPart := do
  require .udp (8 ≤ d.length)
  let length := (← word d 4).toNat
  require .udp (length ≤ d.length ∧ 8 ≤ length)
  let ports : TransportPorts := ⟨← word d 0, ← word d 2⟩
  if ports.src = dhcpClientPort ∧ ports.dst = dhcpServerPort then
    return { ports, dhcp := some (← readDhcp (← slice d 8 length)) }
  else
    return { ports }

/-- Reads a TCP header. -/
def readTcp (d : Octets) : Reading TransportPart := do
  require .tcp (20 ≤ d.length)
  let length := (← octet d 12).toNat / 16 * 4
  require .tcp (length ≤ d.length ∧ 20 ≤ length)
  return { ports := some ⟨← word d 0, ← word d 2⟩ }

/-- Reads the type and code of an ICMP message. -/
def readIcmp (d : Octets) : Reading TransportPart := do
  require .icmp (8 ≤ d.length)
  return { ports := some ⟨(← octet d 0).toUInt16, (← octet d 1).toUInt16⟩ }

/-- Reads the transport header of a protocol, if it is one of the three known. -/
def readTransport (protocol : UInt8) (d : Octets) : Reading TransportPart :=
  if protocol = protocolUdp then readUdp d
  else if protocol = protocolTcp then readTcp d
  else if protocol = protocolIcmp then readIcmp d
  else return {}

/-! ### Network and link headers -/

/-- Reads an IPv4 header, and the transport header after it unless the packet is a later fragment. -/
def readIpv4 (d : Octets) : Reading (Ipv4Header × TransportPart) := do
  require .ipv4 (20 ≤ d.length)
  let headerLength := (← octet d 0).toNat % 16 * 4
  let totalLength := (← word d 2).toNat
  require .ipv4 (headerLength ≤ d.length ∧ headerLength ≤ totalLength ∧ totalLength ≤ d.length)
  let header : Ipv4Header := { src := ← address d 12, dst := ← address d 16, protocol := ← octet d 9 }
  if (← word d 6).toNat % 0x2000 = 0 then
    return (header, ← readTransport header.protocol (← slice d headerLength totalLength))
  else
    return (header, {})

/-- Reads the headers of a packet. -/
def read (d : Octets) : Reading Packet := do
  if d.isEmpty then throw (.refused .empty)
  require .ethernet (14 ≤ d.length)
  let dlDst ← mac d 0
  let dlSrc ← mac d 6
  let ethertype ← word d 12
  if ethertype = ethertypeIpv4 then
    let (header, part) ← readIpv4 (← slice d 14 d.length)
    return { dlSrc, dlDst, ethertype, ipv4 := some header, transport := part.ports, dhcp := part.dhcp }
  else
    return { dlSrc, dlDst, ethertype }

/-- The headers of a packet. An overrun would count as a malformed Ethernet header. -/
def parse (d : Octets) : Except PacketError Packet :=
  match read d with
  | .ok p => .ok p
  | .error (.refused e) => .error e
  | .error .overrun => .error (.malformed .ethernet)

end Packet

end VirtualRouter
