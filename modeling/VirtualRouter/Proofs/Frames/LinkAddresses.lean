import VirtualRouter.Proofs.Flows.Coverage
import VirtualRouter.Proofs.Frames.Reading

/-! Where a frame keeps its Ethernet addresses: in its first twelve bytes, the destination before the source. Nothing else
    that is read depends on them, so that a frame with other addresses is read as the same packet with these addresses. -/

namespace VirtualRouter

namespace Packet

/-- A frame with other Ethernet addresses. -/
def overwrite (src dst : Mac) (d : Octets) : Octets := dst.octets ++ src.octets ++ d.drop 12

theorem readBody_readdressed {src dst : Mac} {ethertype : UInt16} {d : Octets} {p : Packet}
    (read : readBody src dst ethertype d = .ok p) (src' dst' : Mac) :
    readBody src' dst' ethertype d = .ok (p.readdressed src' dst') := by
  rw [readBody_eq_ok_iff] at read ⊢
  rcases read with ⟨ipv4, header, part, read, rfl⟩ | ⟨other, rfl⟩
  · exact .inl ⟨ipv4, header, part, read, rfl⟩
  · exact .inr ⟨other, rfl⟩

/-- A packet has an IPv4 header exactly if its ethertype is that of IPv4. -/
theorem isIpv4_of_parse {d : Octets} {p : Packet} (read : parse d = .ok p) :
    p.isIpv4 = true ↔ p.ethertype = ethertypeIpv4 := by
  obtain ⟨src, dst, high, low, rest, rfl, body⟩ := parse_inv read
  rcases readBody_eq_ok_iff.1 body with ⟨ipv4, header, part, -, rfl⟩ | ⟨other, rfl⟩
  · exact iff_of_true rfl ipv4
  · exact iff_of_false Bool.false_ne_true other

/-- A frame with other Ethernet addresses is read as the same packet with these addresses. -/
theorem parse_overwrite {d : Octets} {p : Packet} (read : parse d = .ok p) (src dst : Mac) :
    parse (overwrite src dst d) = .ok (p.readdressed src dst) := by
  obtain ⟨src₀, dst₀, high, low, rest, rfl, body⟩ := parse_inv read
  have kept : overwrite src dst (dst₀.octets ++ src₀.octets ++ high :: low :: rest) =
      dst.octets ++ src.octets ++ high :: low :: rest := rfl
  rw [kept, parse_framed]
  exact readBody_readdressed body src dst

end Packet

end VirtualRouter
