import VirtualRouter.Proofs.Frames.BootRequests
import VirtualRouter.Proofs.Frames.LinkAddresses
import VirtualRouter.Topology.Verdict

/-! What every reading of a frame keeps to. Each header is read after its lengths have been checked, and the checks are
    enough for every field and every part that is cut out, whatever the lengths in the headers say, so that no read leaves
    the bytes. And no header is there without the one that announces it: a transport header follows an IPv4 header that
    names one of three protocols, in a first fragment only, and a DHCP message a UDP header with the ports of a client and a
    server. -/

namespace VirtualRouter

namespace Packet

variable {d : Octets} {i start stop : Nat} {layer : Layer} {fits : Bool} {p : Packet} {m : DhcpMessage}
  {part : TransportPart} {header : Ipv4Header} {protocol : UInt8}

/-! ### Staying inside of the bytes -/

/-- No read leaves the bytes: an overrun would end the reading, and nothing goes on after one. -/
def Inside {α : Type} (r : Reading α) : Prop := r ≠ .error .overrun

theorem inside_pure {α : Type} (a : α) : Inside (pure a) := nofun

theorem Inside.bind {α β : Type} {r : Reading α} {f : α → Reading β} (first : Inside r)
    (rest : ∀ a, r = .ok a → Inside (f a)) : Inside (r >>= f) := by
  cases r with
  | ok a => exact rest a rfl
  | error stop => exact fun overrun => first (congrArg Except.error (Except.error.inj overrun))

/-- What is read after a check may rely on it. -/
theorem inside_require {α : Type} {f : Unit → Reading α} (rest : fits = true → Inside (f ())) :
    Inside (require layer fits >>= f) := by
  cases fits with
  | true => exact rest rfl
  | false => nofun

theorem inside_octet (here : i < d.length) : Inside (octet d i) := by
  rw [octet, List.getElem?_eq_getElem here]
  intro overrun
  cases overrun

theorem inside_word (here : i + 1 < d.length) : Inside (word d i) :=
  (inside_octet (by omega)).bind fun _ _ => (inside_octet here).bind fun _ _ => inside_pure _

theorem inside_address (here : i + 3 < d.length) : Inside (address d i) :=
  (inside_octet (by omega)).bind fun _ _ => (inside_octet (by omega)).bind fun _ _ =>
    (inside_octet (by omega)).bind fun _ _ => (inside_octet here).bind fun _ _ => inside_pure _

theorem inside_mac (here : i + 5 < d.length) : Inside (mac d i) :=
  (inside_octet (by omega)).bind fun _ _ => (inside_octet (by omega)).bind fun _ _ =>
    (inside_octet (by omega)).bind fun _ _ => (inside_octet (by omega)).bind fun _ _ =>
      (inside_octet (by omega)).bind fun _ _ => (inside_octet here).bind fun _ _ => inside_pure _

theorem inside_slice (ordered : start ≤ stop) (here : stop ≤ d.length) : Inside (slice d start stop) := by
  rw [slice, if_pos ⟨ordered, here⟩]
  intro overrun
  cases overrun

theorem inside_readDhcp (d : Octets) : Inside (readDhcp d) := by
  refine inside_require fun long => ?_
  have long : 240 ≤ d.length := of_decide_eq_true long
  exact (inside_octet (by omega)).bind fun _ _ => inside_pure _

theorem inside_readUdp (d : Octets) : Inside (readUdp d) := by
  refine inside_require fun long => ?_
  have long : 8 ≤ d.length := of_decide_eq_true long
  refine (inside_word (by omega)).bind fun length _ => inside_require fun fits => ?_
  obtain ⟨here, ordered⟩ : length.toNat ≤ d.length ∧ 8 ≤ length.toNat := of_decide_eq_true fits
  refine (inside_word (by omega)).bind fun src _ => (inside_word (by omega)).bind fun dst _ => ?_
  dsimp only
  split
  · exact (inside_slice ordered here).bind fun payload _ => (inside_readDhcp payload).bind fun _ _ => inside_pure _
  · exact inside_pure _

theorem inside_readTcp (d : Octets) : Inside (readTcp d) := by
  refine inside_require fun long => ?_
  have long : 20 ≤ d.length := of_decide_eq_true long
  refine (inside_octet (by omega)).bind fun offset _ => inside_require fun _ => ?_
  exact (inside_word (by omega)).bind fun _ _ => (inside_word (by omega)).bind fun _ _ => inside_pure _

theorem inside_readIcmp (d : Octets) : Inside (readIcmp d) := by
  refine inside_require fun long => ?_
  have long : 8 ≤ d.length := of_decide_eq_true long
  exact (inside_octet (by omega)).bind fun _ _ => (inside_octet (by omega)).bind fun _ _ => inside_pure _

theorem inside_readTransport (protocol : UInt8) (d : Octets) : Inside (readTransport protocol d) := by
  unfold readTransport
  split
  · exact inside_readUdp d
  · split
    · exact inside_readTcp d
    · split
      · exact inside_readIcmp d
      · exact inside_pure _

/-- The two lengths of an IPv4 header are compared with each other and with the bytes, and neither with the 20 bytes of
    the header: its fields are there since these were asked for first. -/
theorem inside_readIpv4 (d : Octets) : Inside (readIpv4 d) := by
  refine inside_require fun long => ?_
  have long : 20 ≤ d.length := of_decide_eq_true long
  refine (inside_octet (by omega)).bind fun first _ => (inside_word (by omega)).bind fun total _ =>
    inside_require fun fits => ?_
  obtain ⟨-, ordered, here⟩ : first.toNat % 16 * 4 ≤ d.length ∧ first.toNat % 16 * 4 ≤ total.toNat ∧
      total.toNat ≤ d.length := of_decide_eq_true fits
  refine (inside_address (by omega)).bind fun src _ => (inside_address (by omega)).bind fun dst _ =>
    (inside_octet (by omega)).bind fun protocol _ => (inside_word (by omega)).bind fun flags _ => ?_
  dsimp only
  split
  · exact (inside_slice ordered here).bind fun payload _ =>
      (inside_readTransport protocol payload).bind fun _ _ => inside_pure _
  · exact inside_pure _

theorem inside_read (d : Octets) : Inside (read d) := by
  unfold read
  dsimp only
  split
  · nofun
  refine inside_require fun long => ?_
  have long : 14 ≤ d.length := of_decide_eq_true long
  refine (inside_mac (by omega)).bind fun dst _ => (inside_mac (by omega)).bind fun src _ =>
    (inside_word (by omega)).bind fun ethertype _ => ?_
  split
  · exact (inside_slice long (Nat.le_refl _)).bind fun rest _ =>
      (inside_readIpv4 rest).bind fun _ _ => inside_pure _
  · exact inside_pure _

/-! ### Headers above one another -/

/-- The bytes that say where a fragment of an IPv4 packet belongs, less the three flags above them, are zero. -/
def FirstFragment (d : Octets) : Prop := ∃ high, d[20]? = some high ∧ high.toNat % 32 = 0 ∧ d[21]? = some 0

theorem wordOf_mod_eq_zero_iff {high low : UInt8} :
    (wordOf high low).toNat % 0x2000 = 0 ↔ high.toNat % 32 = 0 ∧ low = 0 := by
  have := high.toNat_lt
  have := low.toNat_lt
  rw [wordOf, UInt16.toNat_ofNat', ← UInt8.toNat_inj, UInt8.toNat_zero]
  omega

theorem isSome_ports_of_readTransport (read : readTransport protocol d = .ok part) :
    part.ports.isSome = true ↔ protocol = 1 ∨ protocol = 6 ∨ protocol = 17 := by
  unfold readTransport at read
  split at read
  · rename_i udp
    obtain ⟨_, _, _, _, _, _, _, _, _, -, -, -, ports, -⟩ := readUdp_inv read
    rw [ports]
    exact iff_of_true rfl (.inr (.inr udp))
  · split at read
    · rename_i tcp
      simp only [readTcp, bind_eq_ok_iff, pure_eq_ok_iff] at read
      obtain ⟨-, -, -, -, -, -, -, -, -, -, rfl⟩ := read
      exact iff_of_true rfl (.inr (.inl tcp))
    · split at read
      · rename_i icmp
        simp only [readIcmp, bind_eq_ok_iff, pure_eq_ok_iff] at read
        obtain ⟨-, -, -, -, -, -, rfl⟩ := read
        exact iff_of_true rfl (.inl icmp)
      · rename_i notUdp notTcp notIcmp
        cases read
        refine iff_of_false Bool.false_ne_true ?_
        rintro (icmp | tcp | udp)
        · exact notIcmp icmp
        · exact notTcp tcp
        · exact notUdp udp

/-- An IPv4 packet has a transport header exactly if it is a first fragment of a protocol that is known. -/
theorem isSome_ports_of_readIpv4 (read : readIpv4 d = .ok (header, part)) : part.ports.isSome = true ↔
    (∃ high, d[6]? = some high ∧ high.toNat % 32 = 0 ∧ d[7]? = some 0) ∧
      (header.protocol = 1 ∨ header.protocol = 6 ∨ header.protocol = 17) := by
  obtain ⟨first, total, flags, -, -, atFlags, -, -, -, -, -, -, read⟩ := readIpv4_eq_ok_iff.1 read
  obtain ⟨high, low, atHigh, atLow, rfl⟩ := word_eq_ok_iff.1 atFlags
  split at read
  · rename_i unfragmented
    rw [wordOf_mod_eq_zero_iff] at unfragmented
    obtain ⟨payload, -, read⟩ := read
    rw [isSome_ports_of_readTransport read]
    exact (and_iff_right ⟨high, atHigh, unfragmented.1, unfragmented.2 ▸ atLow⟩).symm
  · rename_i later
    rw [read]
    refine iff_of_false Bool.false_ne_true ?_
    rintro ⟨⟨high', atHigh', zero, atLow'⟩, -⟩
    cases atHigh.symm.trans atHigh'
    cases atLow.symm.trans atLow'
    exact later (wordOf_mod_eq_zero_iff.2 ⟨zero, rfl⟩)

/-- A datagram from the port of DHCP clients to the one of servers has a DHCP message. -/
theorem isSome_dhcp_of_readIpv4 (read : readIpv4 d = .ok (header, part)) :
    part.dhcp.isSome = true ↔ part.ports = some ⟨dhcpClientPort, dhcpServerPort⟩ ∧ header.protocol = protocolUdp := by
  constructor
  · intro carried
    obtain ⟨m, carried⟩ := Option.isSome_iff_exists.1 carried
    exact (ports_of_readIpv4 read carried).symm
  · rintro ⟨ports, udp⟩
    obtain ⟨_, _, _, -, -, -, -, -, -, -, -, -, read⟩ := readIpv4_eq_ok_iff.1 read
    split at read
    · obtain ⟨payload, -, read⟩ := read
      rw [udp] at read
      obtain ⟨a, b, c, e, _, _, _, _, _, -, -, -, same, message⟩ := readUdp_inv read
      obtain ⟨client, server⟩ := TransportPorts.mk.inj (Option.some.inj (same.symm.trans ports))
      rw [if_pos ⟨client, server⟩] at message
      obtain ⟨m, -, carried⟩ := message
      exact Option.isSome_iff_exists.2 ⟨m, carried⟩
    · cases (congrArg TransportPart.ports read).symm.trans ports

theorem payload_of_readUdp (read : readUdp d = .ok part) (carried : part.dhcp = some m) : 240 ≤ m.payload.length := by
  obtain ⟨a, b, c, e, high, low, _, _, rest, -, -, -, -, message⟩ := readUdp_inv read
  split at message
  · obtain ⟨m', readMessage, same⟩ := message
    obtain rfl := Option.some.inj (same.symm.trans carried)
    obtain ⟨long, -, payload⟩ := readDhcp_eq_ok_iff.1 readMessage
    exact payload ▸ long
  · cases message.symm.trans carried

/-- The payload of a DHCP message is a part of the packet in one piece, long enough for all fields of fixed length, and
    begins with the code. -/
theorem payload_of_readIpv4 (read : readIpv4 d = .ok (header, part)) (carried : part.dhcp = some m) :
    m.payload <:+: d ∧ 240 ≤ m.payload.length ∧ m.payload[0]? = some m.opcode := by
  obtain ⟨held, code⟩ := (dhcp_of_readIpv4 read).1 carried
  obtain ⟨length, -, high, low, sum, sum', begins, -⟩ := held.datagram
  refine ⟨?_, ?_, code⟩
  · exact (List.infix_append_right ..).trans (begins.isInfix.trans (List.drop_suffix ..).isInfix)
  · obtain ⟨udp, -⟩ := ports_of_readIpv4 read carried
    obtain ⟨_, _, _, -, -, -, -, -, -, -, -, -, read⟩ := readIpv4_eq_ok_iff.1 read
    split at read
    · obtain ⟨payload, -, read⟩ := read
      rw [udp] at read
      exact payload_of_readUdp read carried
    · cases (congrArg TransportPart.dhcp read).symm.trans carried

/-- Each header is there exactly where the one before it announces it, and the DHCP message is what the bytes hold. -/
structure Layered (d : Octets) (p : Packet) : Prop where
  network : p.ipv4.isSome = true ↔ p.ethertype = 0x0800
  transport : p.transport.isSome = true ↔
    FirstFragment d ∧ ∃ header, p.ipv4 = some header ∧
      (header.protocol = 1 ∨ header.protocol = 6 ∨ header.protocol = 17)
  dhcp : p.dhcp.isSome = true ↔ p.transport = some ⟨68, 67⟩ ∧ ∃ header, p.ipv4 = some header ∧ header.protocol = 17
  message : ∀ m, p.dhcp = some m → m.payload <:+: d ∧ 240 ≤ m.payload.length ∧ m.payload[0]? = some m.opcode

theorem layered_of_parse (read : parse d = .ok p) : p.Layered d := by
  have network := isIpv4_of_parse read
  obtain ⟨src, dst, high, low, rest, rfl, body⟩ := parse_inv read
  rcases readBody_eq_ok_iff.1 body with ⟨-, header, part, headers, rfl⟩ | ⟨-, rfl⟩
  · constructor
    · exact network
    · have held := isSome_ports_of_readIpv4 headers
      simp only [Option.some.injEq, exists_eq_left']
      exact held
    · have held := isSome_dhcp_of_readIpv4 headers
      simp only [Option.some.injEq, exists_eq_left']
      exact held
    · intro m carried
      obtain ⟨inside, long, code⟩ := payload_of_readIpv4 headers carried
      have behind : rest <:+ dst.octets ++ src.octets ++ high :: low :: rest :=
        ⟨dst.octets ++ src.octets ++ [high, low], rfl⟩
      exact ⟨inside.trans behind.isInfix, long, code⟩
  · constructor
    · exact network
    · refine iff_of_false Bool.false_ne_true ?_
      rintro ⟨-, _, ⟨⟩, -⟩
    · refine iff_of_false Bool.false_ne_true ?_
      rintro ⟨⟨⟩, -⟩
    · exact fun _ => nofun

end Packet

/-- Ports are asked for only together with a network header, and this only with the ethertype of IPv4. -/
structure HeaderMatch.Layered (pattern : HeaderMatch) : Prop where
  transport : pattern.tpSrc.isSome = true ∨ pattern.tpDst.isSome = true →
    pattern.nwProto.isSome = true ∧ pattern.nwSrc.isSome = true ∧ pattern.nwDst.isSome = true
  network : pattern.nwProto.isSome = true ∨ pattern.nwSrc.isSome = true ∨ pattern.nwDst.isSome = true →
    pattern.dlType = some 0x0800

namespace Packet
variable {d : Octets} {p : Packet}

theorem Layered.exactMatch (layered : p.Layered d) (number : PortNumber) : (p.exactMatch number).Layered := by
  constructor
  · intro ports
    have transport : p.transport.isSome = true := by simpa [Packet.exactMatch] using ports
    obtain ⟨-, header, ipv4, -⟩ := layered.transport.1 transport
    simp [Packet.exactMatch, ipv4]
  · intro addresses
    have ipv4 : p.ipv4.isSome = true := by simpa [Packet.exactMatch] using addresses
    exact congrArg some (layered.network.1 ipv4)

/-- Whatever the bytes are, no read leaves them, and they are refused only by a check. What is read of them is a packet
    in layers, and so is its exact match. -/
theorem parse_layered (d : Octets) :
    read d ≠ .error .overrun ∧ (∀ e, parse d = .error e ↔ read d = .error (.refused e)) ∧
      ∀ p, parse d = .ok p → p.Layered d ∧ ∀ number, (p.exactMatch number).Layered := by
  have inside : read d ≠ .error .overrun := inside_read d
  refine ⟨inside, fun e => ?_, fun p read => ⟨layered_of_parse read, (layered_of_parse read).exactMatch⟩⟩
  unfold parse
  split
  · rename_i read
    simp [read]
  · rename_i read
    simp [read]
  · rename_i read
    exact absurd read inside

end Packet

namespace Sample

/-- A DHCP request behind an IPv4 header with one word of options, with two bytes after it. -/
def solicitation : Octets :=
  [255, 255, 255, 255, 255, 255, 2, 0, 0, 0, 0, 9, 8, 0] ++
    [0x46, 0, 1, 16, 0, 0, 0x40, 0, 64, 17, 0, 0, 0, 0, 0, 0, 255, 255, 255, 255, 0, 0, 0, 0] ++
    [0, 68, 0, 67, 0, 248, 0, 0] ++ 1 :: List.replicate 239 0 ++ [0, 0]

def solicitor : Packet where
  dlSrc := ⟨2, 0, 0, 0, 0, 9⟩
  dlDst := .broadcast
  ethertype := 0x0800
  ipv4 := some ⟨⟨0, 0, 0, 0⟩, ⟨255, 255, 255, 255⟩, 17⟩
  transport := some ⟨68, 67⟩
  dhcp := some ⟨1, 1 :: List.replicate 239 0⟩

end Sample

theorem Packet.parse_layered_solicitation :
    parse Sample.solicitation = .ok Sample.solicitor ∧ Sample.solicitor.Layered Sample.solicitation ∧
      ∀ number, (Sample.solicitor.exactMatch number).Layered := by
  have read : parse Sample.solicitation = .ok Sample.solicitor := by decide +kernel
  exact ⟨read, (parse_layered Sample.solicitation).2.2 Sample.solicitor read⟩

end VirtualRouter
