import VirtualRouter.Tunnel.Header

/-! Tunnel headers and pairs of Ethernet addresses. The twelve octets of a pair are, as one number, the low 32 bits of the
    ingress, the next hop and the low 32 bits of the egress in a row. So a header comes back cut to what travels, every pair
    is the one of some header, and two headers share a pair exactly if what travels of them is the same. -/

namespace VirtualRouter

/-- The number that octets stand for, the first one counting most. -/
def bigEndian (octets : List UInt8) : Nat := octets.foldl (fun n o => n * 256 + o.toNat) 0

namespace PortId

/-- The lowest 32 bits of the identifier. -/
def low (p : PortId) : Nat := p.id.toNat % 0x100000000

theorem toNat_short (p : PortId) : p.short.toNat = p.low := UInt32.toNat_ofNat'

theorem short_eq_iff {p q : PortId} : p.short = q.short ↔ p.low = q.low := by
  rw [← UInt32.toNat_inj, toNat_short, toNat_short]

end PortId

namespace TunnelHeader

theorem toNat_byteOf (n : UInt32) (k : Nat) : (byteOf n k).toNat = (n.toNat >>> (8 * k)) % 256 := UInt8.toNat_ofNat'

theorem toNat_ofBytes (a b c d : UInt8) :
    (ofBytes a b c d).toNat = ((a.toNat * 256 + b.toNat) * 256 + c.toNat) * 256 + d.toNat := by
  have := a.toNat_lt
  have := b.toNat_lt
  have := c.toNat_lt
  have := d.toNat_lt
  rw [ofBytes, UInt32.toNat_ofNat']
  omega

/-- The bytes of a number of four bytes are these four. -/
theorem byteOf_ofBytes (a b c d : UInt8) : byteOf (ofBytes a b c d) 3 = a ∧ byteOf (ofBytes a b c d) 2 = b ∧
    byteOf (ofBytes a b c d) 1 = c ∧ byteOf (ofBytes a b c d) 0 = d := by
  have := a.toNat_lt
  have := b.toNat_lt
  have := c.toNat_lt
  have := d.toNat_lt
  simp only [← UInt8.toNat_inj, toNat_byteOf, toNat_ofBytes, Nat.shiftRight_eq_div_pow]
  omega

/-- Every pair of addresses carries a header, which is sent as this pair. -/
theorem encode_decode (src dst : Mac) : (decode src dst).encode = (src, dst) := by
  obtain ⟨src3, src2, src1, src0⟩ := byteOf_ofBytes src.o0 src.o1 src.o2 src.o3
  obtain ⟨dst3, dst2, dst1, dst0⟩ := byteOf_ofBytes dst.o2 dst.o3 dst.o4 dst.o5
  simp only [encode, decode, PortId.short_ofShort, src3, src2, src1, src0, dst3, dst2, dst1, dst0]

/-- The addresses depend on what travels of the header, and tell it. -/
theorem encode_eq_iff {h h' : TunnelHeader} : h.encode = h'.encode ↔
    h.ingress.short = h'.ingress.short ∧ h.egress.short = h'.egress.short ∧ h.nextHop = h'.nextHop := by
  constructor
  · intro same
    have travelled : decode h.encode.1 h.encode.2 = decode h'.encode.1 h'.encode.2 := by rw [same]
    rw [decode_encode, decode_encode, mk.injEq] at travelled
    obtain ⟨ingress, egress, nextHop⟩ := travelled
    refine ⟨?_, ?_, nextHop⟩
    · simpa using congrArg PortId.short ingress
    · simpa using congrArg PortId.short egress
  · rintro ⟨ingress, egress, nextHop⟩
    rw [encode, encode, ingress, egress, nextHop]

/-- Nothing else is in the addresses, and nothing comes twice. -/
theorem bigEndian_encode (h : TunnelHeader) : bigEndian (h.encode.1.octets ++ h.encode.2.octets) =
    (h.ingress.low * 0x100000000 + bigEndian h.nextHop.octets) * 0x100000000 + h.egress.low := by
  have := h.ingress.short.toNat_lt
  have := h.egress.short.toNat_lt
  rw [← PortId.toNat_short, ← PortId.toNat_short]
  simp only [bigEndian, encode, Mac.octets, Ipv4.octets, List.cons_append, List.nil_append, List.foldl_cons,
    List.foldl_nil, toNat_byteOf, Nat.shiftRight_eq_div_pow]
  omega

/-- What a header says of the way of a packet crosses a tunnel exactly, but for all bits of the two ports above the lowest
    32, which do not cross it at all. -/
theorem encode_exact :
    (∀ h : TunnelHeader, bigEndian (h.encode.1.octets ++ h.encode.2.octets) =
      (h.ingress.low * 0x100000000 + bigEndian h.nextHop.octets) * 0x100000000 + h.egress.low) ∧
    (∀ h : TunnelHeader,
      let received := decode h.encode.1 h.encode.2
      received.ingress.id.toNat = h.ingress.low ∧ received.egress.id.toNat = h.egress.low ∧
        received.nextHop = h.nextHop ∧ (received.isIcmpRelay = true ↔ h.ingress.low = 0x05)) ∧
    (∀ src dst, (decode src dst).encode = (src, dst)) ∧
    ∀ h h' : TunnelHeader, h.encode = h'.encode ↔ h.ingress.low = h'.ingress.low ∧
      h.egress.low = h'.egress.low ∧ h.nextHop = h'.nextHop := by
  refine ⟨bigEndian_encode, fun h => ?_, encode_decode, fun h h' => ?_⟩
  · rw [decode_encode]
    refine ⟨h.ingress.toNat_short, h.egress.toNat_short, rfl, ?_⟩
    rw [isIcmpRelay, decide_eq_true_iff, PortId.short_ofShort, ← UInt32.toNat_inj, PortId.toNat_short]
    rfl
  · rw [encode_eq_iff, PortId.short_eq_iff, PortId.short_eq_iff]

example : encode ⟨.ofShort 0x0a0b0c0d, .ofShort 0x11223344, ⟨192, 168, 7, 9⟩⟩ =
    (⟨0x0a, 0x0b, 0x0c, 0x0d, 192, 168⟩, ⟨7, 9, 0x11, 0x22, 0x33, 0x44⟩) := by
  decide

end TunnelHeader

end VirtualRouter
