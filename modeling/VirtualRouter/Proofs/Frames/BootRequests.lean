import VirtualRouter.Proofs.Frames.Reading

/-! Which frames ask for an address, byte by byte. A frame that is read as a packet has a DHCP request for a payload exactly
    if it is of IPv4, no later fragment and of UDP, and a datagram from port 68 to port 67 with this payload stands where
    the length of the IPv4 header says, the payload beginning with the code of a request. -/

namespace VirtualRouter

namespace Packet

variable {d payload : Octets} {m : DhcpMessage} {part : TransportPart} {header : Ipv4Header}

theorem wordOf_inj {high low high' low' : UInt8} : wordOf high low = wordOf high' low' ↔ high = high' ∧ low = low' := by
  refine ⟨fun same => ?_, by rintro ⟨rfl, rfl⟩; rfl⟩
  have sums := congrArg UInt16.toNat same
  have := high.toNat_lt
  have := low.toNat_lt
  have := high'.toNat_lt
  have := low'.toNat_lt
  simp only [wordOf, UInt16.toNat_ofNat'] at sums
  exact ⟨UInt8.toNat_inj.1 (by omega), UInt8.toNat_inj.1 (by omega)⟩

/-! ### UDP -/

/-- The bytes begin with a UDP datagram from the port of DHCP clients to the one of servers, with this payload. -/
def BeginsDhcp (d payload : Octets) : Prop :=
  ∃ high low sum sum', [0, 68, 0, 67, high, low, sum, sum'] ++ payload <+: d ∧
    (wordOf high low).toNat = 8 + payload.length

theorem exists_eight (long : 8 ≤ d.length) :
    ∃ a b c e high low sum sum' rest, d = a :: b :: c :: e :: high :: low :: sum :: sum' :: rest := by
  match d, long with
  | a :: b :: c :: e :: high :: low :: sum :: sum' :: rest, _ => exact ⟨a, b, c, e, high, low, sum, sum', rest, rfl⟩

theorem readUdp_inv (read : readUdp d = .ok part) :
    ∃ a b c e high low sum sum' rest, d = a :: b :: c :: e :: high :: low :: sum :: sum' :: rest ∧
      (wordOf high low).toNat ≤ 8 + rest.length ∧ 8 ≤ (wordOf high low).toNat ∧
      part.ports = some ⟨wordOf a b, wordOf c e⟩ ∧
      if wordOf a b = dhcpClientPort ∧ wordOf c e = dhcpServerPort then
        ∃ m, readDhcp (rest.take ((wordOf high low).toNat - 8)) = .ok m ∧ part.dhcp = some m
      else part.dhcp = none := by
  simp only [readUdp, bind_eq_ok_iff, require_eq_ok_iff, decide_eq_true_eq] at read
  obtain ⟨-, long, read⟩ := read
  obtain ⟨a, b, c, e, high, low, sum, sum', rest, rfl⟩ := exists_eight long
  refine ⟨a, b, c, e, high, low, sum, sum', rest, rfl, ?_⟩
  simp at read
  obtain ⟨⟨fits, large⟩, read⟩ := read
  refine ⟨by omega, large, ?_⟩
  split at read
  · rename_i ports
    simp only [bind_eq_ok_iff, map_eq_ok_iff, slice_eq_ok_iff] at read
    obtain ⟨_, ⟨-, rfl⟩, m, message, rfl⟩ := read
    rw [if_pos ports]
    exact ⟨rfl, m, message, rfl⟩
  · rename_i ports
    cases read
    rw [if_neg ports]
    exact ⟨rfl, rfl⟩

/-- A datagram has a DHCP message exactly if it goes from the port of clients to the one of servers. -/
theorem dhcp_of_readUdp (read : readUdp d = .ok part) :
    part.dhcp = some m ↔ BeginsDhcp d m.payload ∧ m.payload[0]? = some m.opcode := by
  obtain ⟨a, b, c, e, high, low, sum, sum', rest, rfl, fits, large, -, message⟩ := readUdp_inv read
  have client : wordOf a b = dhcpClientPort ↔ a = 0 ∧ b = 68 := @wordOf_inj a b 0 68
  have server : wordOf c e = dhcpServerPort ↔ c = 0 ∧ e = 67 := @wordOf_inj c e 0 67
  constructor
  · intro carried
    split at message
    · rename_i ports
      obtain ⟨m', readMessage, same⟩ := message
      obtain rfl := Option.some.inj (same.symm.trans carried)
      obtain ⟨-, code, payload⟩ := readDhcp_eq_ok_iff.1 readMessage
      obtain ⟨rfl, rfl⟩ := client.1 ports.1
      obtain ⟨rfl, rfl⟩ := server.1 ports.2
      refine ⟨⟨high, low, sum, sum', ?_, ?_⟩, payload ▸ code⟩
      · simpa [← payload] using List.take_prefix ..
      · rw [← payload, List.length_take]
        omega
    · cases message.symm.trans carried
  · rintro ⟨⟨high', low', sum₁, sum₂, begins, length⟩, code⟩
    simp only [List.cons_append, List.nil_append, List.cons_prefix_cons] at begins
    obtain ⟨rfl, rfl, rfl, rfl, rfl, rfl, rfl, rfl, begins⟩ := begins
    rw [if_pos ⟨rfl, rfl⟩] at message
    obtain ⟨m', readMessage, same⟩ := message
    obtain ⟨-, code', payload⟩ := readDhcp_eq_ok_iff.1 readMessage
    have whole : rest.take ((wordOf high' low').toNat - 8) = m.payload := by
      rw [length, Nat.add_sub_cancel_left]
      exact (List.prefix_iff_eq_take.1 begins).symm
    rw [whole] at code' payload
    rw [same]
    grind [DhcpMessage]

theorem BeginsDhcp.of_take {k : Nat} (begins : BeginsDhcp (d.take k) payload) : BeginsDhcp d payload := by
  obtain ⟨high, low, sum, sum', begins, length⟩ := begins
  exact ⟨high, low, sum, sum', begins.trans (List.take_prefix ..), length⟩

/-- A datagram that is read lies within the bytes that it is read from. -/
theorem BeginsDhcp.take {k : Nat} (begins : BeginsDhcp d payload) (read : readUdp (d.take k) = .ok part) :
    BeginsDhcp (d.take k) payload := by
  obtain ⟨high, low, sum, sum', begins, length⟩ := begins
  obtain ⟨a, b, c, e, high', low', sum₁, sum₂, rest, same, fits, -⟩ := readUdp_inv read
  -- The length that was checked is the one of the whole, since both begin with the same eight bytes.
  have inside : 8 + rest.length ≤ k := by
    have length := congrArg List.length same
    simp only [List.length_take, List.length_cons] at length
    omega
  have shared : (wordOf high low).toNat = (wordOf high' low').toNat := by
    obtain ⟨u, eq⟩ := begins
    obtain ⟨u', eq'⟩ := same ▸ List.take_prefix k d
    have heads := eq.trans eq'.symm
    simp only [List.cons_append, List.nil_append, List.cons.injEq] at heads
    obtain ⟨-, -, -, -, rfl, rfl, -⟩ := heads
    rfl
  refine ⟨high, low, sum, sum', List.prefix_take_iff.2 ⟨begins, ?_⟩, length⟩
  simp only [List.length_append, List.length_cons, List.length_nil]
  omega

/-! ### IPv4 -/

theorem dhcp_of_readTransport {protocol : UInt8} (read : readTransport protocol d = .ok part)
    (other : protocol ≠ protocolUdp) : part.dhcp = none := by
  unfold readTransport at read
  rw [if_neg other] at read
  split at read
  · simp only [readTcp, bind_eq_ok_iff, pure_eq_ok_iff] at read
    grind
  · split at read
    · simp only [readIcmp, bind_eq_ok_iff, pure_eq_ok_iff] at read
      grind
    · cases read
      rfl

/-- Behind the Ethernet header comes an IPv4 packet that has this DHCP message. -/
structure HoldsDhcp (d payload : Octets) : Prop where
  first : ∃ flags, word d 6 = .ok flags ∧ flags.toNat % 0x2000 = 0
  protocol : octet d 9 = .ok protocolUdp
  datagram : ∃ length, octet d 0 = .ok length ∧ BeginsDhcp (d.drop (length.toNat % 16 * 4)) payload

theorem dhcp_of_readIpv4 (read : readIpv4 d = .ok (header, part)) :
    part.dhcp = some m ↔ HoldsDhcp d m.payload ∧ m.payload[0]? = some m.opcode := by
  obtain ⟨first, total, flags, atFirst, -, atFlags, -, -, atProtocol, -, -, -, read⟩ := readIpv4_eq_ok_iff.1 read
  split at read
  · rename_i unfragmented
    obtain ⟨payload, cut, read⟩ := read
    obtain ⟨-, rfl⟩ := slice_eq_ok_iff.1 cut
    by_cases udp : header.protocol = protocolUdp
    · -- The datagram is read from the bytes up to the total length, and what follows them is no part of it.
      rw [udp] at read atProtocol
      have read : readUdp _ = .ok part := read
      rw [dhcp_of_readUdp read]
      refine and_congr_left fun _ => ⟨fun begins => ?_, fun held => ?_⟩
      · exact ⟨⟨flags, atFlags, unfragmented⟩, atProtocol, first, atFirst, begins.of_take⟩
      · obtain ⟨first', atFirst', begins⟩ := held.datagram
        cases atFirst.symm.trans atFirst'
        exact begins.take read
    · rw [dhcp_of_readTransport read udp]
      refine iff_of_false nofun fun held => udp ?_
      exact Except.ok.inj (atProtocol.symm.trans held.1.protocol)
  · rename_i later
    rw [read]
    refine iff_of_false nofun fun held => later ?_
    obtain ⟨flags', atFlags', first⟩ := held.1.first
    cases atFlags.symm.trans atFlags'
    exact first

/-- A packet with a DHCP message is of UDP, and goes from the port of clients to the one of servers. -/
theorem ports_of_readIpv4 (read : readIpv4 d = .ok (header, part)) (carried : part.dhcp = some m) :
    header.protocol = protocolUdp ∧ part.ports = some ⟨dhcpClientPort, dhcpServerPort⟩ := by
  obtain ⟨_, _, _, -, -, -, -, -, -, -, -, -, read⟩ := readIpv4_eq_ok_iff.1 read
  split at read
  · obtain ⟨payload, -, read⟩ := read
    by_cases udp : header.protocol = protocolUdp
    · rw [udp] at read
      obtain ⟨a, b, c, e, _, _, _, _, _, -, -, -, ports, message⟩ := readUdp_inv read
      split at message
      · rename_i between
        rw [ports, between.1, between.2]
        exact ⟨udp, rfl⟩
      · cases message.symm.trans carried
    · cases (dhcp_of_readTransport read udp).symm.trans carried
  · cases (congrArg TransportPart.dhcp read).symm.trans carried

/-! ### Frames -/

/-- The frame asks a DHCP server for an address with this payload: it has the ethertype of IPv4, and the IPv4 packet behind
    its Ethernet header is no later fragment and of UDP, with a datagram from port 68 to port 67, whose payload begins
    with the code of a request. -/
structure CarriesRequest (d payload : Octets) : Prop where
  ethertype : word d 12 = .ok ethertypeIpv4
  held : HoldsDhcp (d.drop 14) payload
  code : payload[0]? = some 1

/-- The DHCP request that a packet has is the one that its frame carries. -/
theorem bootRequest?_eq_some_iff {p : Packet} (read : parse d = .ok p) :
    p.bootRequest? = some m ↔ m.opcode = 1 ∧ CarriesRequest d m.payload := by
  obtain ⟨src, dst, high, low, rest, rfl, body⟩ := parse_inv read
  have ethertype : word (dst.octets ++ src.octets ++ high :: low :: rest) 12 = .ok (wordOf high low) := rfl
  have behind : (dst.octets ++ src.octets ++ high :: low :: rest).drop 14 = rest := rfl
  rcases readBody_eq_ok_iff.1 body with ⟨ipv4, header, part, headers, rfl⟩ | ⟨other, rfl⟩
  · simp only [bootRequest?, Option.filter_eq_some_iff, dhcp_of_readIpv4 headers, DhcpMessage.isBootRequest,
      decide_eq_true_eq]
    constructor
    · rintro ⟨⟨held, code⟩, request⟩
      exact ⟨request, ethertype.trans (congrArg _ ipv4), behind ▸ held, request ▸ code⟩
    · rintro ⟨request, carries⟩
      exact ⟨⟨behind ▸ carries.held, request ▸ carries.code⟩, request⟩
  · refine iff_of_false nofun fun carries => other ?_
    exact Except.ok.inj (ethertype.symm.trans carries.2.ethertype)

/-- A broadcast request without options: 240 bytes in a datagram of 248 in an IPv4 packet of 268. -/
example (rest : Octets) (short : rest.length = 239) : CarriesRequest
    ([255, 255, 255, 255, 255, 255, 2, 0, 0, 0, 0, 9, 8, 0] ++
      [0x45, 0, 1, 12, 0, 0, 0, 0, 64, 17, 0, 0, 0, 0, 0, 0, 255, 255, 255, 255] ++ [0, 68, 0, 67, 0, 248, 0, 0] ++
      1 :: rest) (1 :: rest) := by
  have length : (wordOf 0 248).toNat = 8 + (1 :: rest).length := by
    rw [List.length_cons, short]
    rfl
  exact ⟨rfl, ⟨⟨0, rfl, rfl⟩, rfl, 0x45, rfl, 0, 248, 0, 0, List.prefix_rfl, length⟩, rfl⟩

/-- A packet has no DHCP request exactly if its frame carries none. -/
theorem bootRequest?_eq_none_iff {p : Packet} (read : parse d = .ok p) :
    p.bootRequest? = none ↔ ∀ payload, ¬CarriesRequest d payload := by
  rw [Option.eq_none_iff_forall_ne_some]
  constructor
  · exact fun none payload carries => none ⟨1, payload⟩ ((bootRequest?_eq_some_iff read).2 ⟨rfl, carries⟩)
  · exact fun none m request => none m.payload ((bootRequest?_eq_some_iff read).1 request).2

end Packet

end VirtualRouter
