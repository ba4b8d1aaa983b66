import VirtualRouter.Address.Identifier
import VirtualRouter.Address.Mac
import VirtualRouter.Address.Ipv4

/-!
Tunnel headers. Between hosts the two Ethernet addresses of a packet carry where it came from, where it goes and
the next hop on the way:

    source       ingress port, 4 bytes | next hop, bytes 0 and 1
    destination  next hop, bytes 2 and 3 | egress port, 4 bytes

Ports travel as their low 32 bits, big-endian. A reserved ingress marks an ICMP error that a peer passes on.
-/

namespace VirtualRouter

/-- What a packet's Ethernet addresses say inside a tunnel. -/
structure TunnelHeader where
  ingress : PortId
  egress : PortId
  nextHop : Ipv4
  deriving DecidableEq, Repr

namespace TunnelHeader

/-- One byte of a number, counted from the lowest. -/
def byteOf (n : UInt32) (k : Nat) : UInt8 := UInt8.ofNat (n.toNat >>> (8 * k))

/-- The number of four bytes, the first one counting most. -/
def ofBytes (a b c d : UInt8) : UInt32 :=
  UInt32.ofNat (((a.toNat * 256 + b.toNat) * 256 + c.toNat) * 256 + d.toNat)

/-- The Ethernet addresses, source first, that carry a header. -/
def encode (h : TunnelHeader) : Mac × Mac :=
  let i := h.ingress.short
  let e := h.egress.short
  (⟨byteOf i 3, byteOf i 2, byteOf i 1, byteOf i 0, h.nextHop.o0, h.nextHop.o1⟩,
   ⟨h.nextHop.o2, h.nextHop.o3, byteOf e 3, byteOf e 2, byteOf e 1, byteOf e 0⟩)

/-- The header that a source and a destination address carry. -/
def decode (src dst : Mac) : TunnelHeader where
  ingress := .ofShort (ofBytes src.o0 src.o1 src.o2 src.o3)
  egress := .ofShort (ofBytes dst.o2 dst.o3 dst.o4 dst.o5)
  nextHop := ⟨src.o4, src.o5, dst.o0, dst.o1⟩

theorem ofBytes_byteOf (n : UInt32) : ofBytes (byteOf n 3) (byteOf n 2) (byteOf n 1) (byteOf n 0) = n := by
  have bound := n.toNat_lt
  apply UInt32.toNat_inj.1
  simp only [ofBytes, byteOf, UInt8.toNat_ofNat', UInt32.toNat_ofNat', Nat.shiftRight_eq_div_pow]
  omega

/-- The next hop crosses a tunnel whole, a port as its low 32 bits. -/
theorem decode_encode (h : TunnelHeader) :
    decode h.encode.1 h.encode.2 = ⟨.ofShort h.ingress.short, .ofShort h.egress.short, h.nextHop⟩ := by
  simp only [decode, encode, ofBytes_byteOf]

/-- The ingress that marks a passed-on ICMP error. -/
def icmpRelayIngress : UInt32 := 5

/-- A peer passes on an ICMP error. -/
def isIcmpRelay (h : TunnelHeader) : Bool := h.ingress.short = icmpRelayIngress

/-- A short port identifier as eight hexadecimal digits after the mark of the base. -/
def shortText (s : UInt32) : List Char := '0' :: 'x' :: Numeral.fixed 16 8 s.toNat

/-- The header as text. -/
def text (h : TunnelHeader) : String :=
  String.ofList ("ingress ".toList ++ shortText h.ingress.short ++ " egress ".toList ++ shortText h.egress.short ++
    " next-hop ".toList ++ h.nextHop.textChars)

end TunnelHeader

end VirtualRouter
