import VirtualRouter.Proofs.Frames.Padding

/-! Frames as senders write them. A frame is given by the values of its headers, with options, padding and payloads of any
    length that fits, and only its lengths, and what tells one header from another, follow from these. Every such frame is
    read as the packet with these values, and the exact match of the packet constrains them and nothing else. -/

namespace VirtualRouter

/-! ### Numbers and options -/

/-- A number of two bytes, the first one counting more. -/
def twoBytes (w : UInt16) : Octets := [UInt8.ofNat (w.toNat / 256), UInt8.ofNat w.toNat]

/-- A number of four bytes, the first one counting most. -/
def fourBytes (w : UInt32) : Octets := twoBytes (UInt16.ofNat (w.toNat / 65536)) ++ twoBytes (UInt16.ofNat w.toNat)

/-- What a header has after its first 20 bytes: up to ten words of four bytes. -/
structure HeaderOptions where
  octets : Octets
  whole : octets.length % 4 = 0
  short : octets.length ≤ 40

/-- The length of the header, in words of four bytes. -/
def HeaderOptions.words (o : HeaderOptions) : Nat := 5 + o.octets.length / 4

theorem HeaderOptions.words_bounds (o : HeaderOptions) : 5 ≤ o.words ∧ o.words ≤ 15 := by
  have := o.short
  unfold words
  omega

theorem HeaderOptions.words_eq (o : HeaderOptions) : o.words * 4 = 20 + o.octets.length := by
  have := o.whole
  unfold words
  omega

/-! ### Transport headers -/

/-- A UDP datagram, with the bytes that come after its length. -/
structure Datagram where
  src : UInt16
  dst : UInt16
  checksum : UInt16
  payload : Octets
  surplus : Octets
  /-- From the port of DHCP clients to the one of servers go DHCP messages. -/
  message : src = dhcpClientPort → dst = dhcpServerPort → 240 ≤ payload.length

namespace Datagram

def octets (u : Datagram) : Octets :=
  twoBytes u.src ++ twoBytes u.dst ++ twoBytes (UInt16.ofNat (8 + u.payload.length)) ++ twoBytes u.checksum ++
    u.payload ++ u.surplus

/-- The DHCP message of the datagram: the payload up to the datagram's length. -/
def message? (u : Datagram) : Option DhcpMessage :=
  if u.src = dhcpClientPort ∧ u.dst = dhcpServerPort then some ⟨u.payload.headD 0, u.payload⟩ else none

end Datagram

/-- A TCP segment. -/
structure Segment where
  src : UInt16
  dst : UInt16
  sequence : UInt32
  acknowledgment : UInt32
  reserved : Fin 16
  flags : UInt8
  window : UInt16
  checksum : UInt16
  urgent : UInt16
  options : HeaderOptions
  payload : Octets

def Segment.octets (s : Segment) : Octets :=
  twoBytes s.src ++ twoBytes s.dst ++ fourBytes s.sequence ++ fourBytes s.acknowledgment ++
    [UInt8.ofNat (s.options.words * 16 + s.reserved), s.flags] ++ twoBytes s.window ++ twoBytes s.checksum ++
    twoBytes s.urgent ++ s.options.octets ++ s.payload

/-- An ICMP message: a header of eight bytes, of which the type says what the last four mean, and what follows. -/
structure IcmpMessage where
  kind : UInt8
  code : UInt8
  checksum : UInt16
  rest : UInt32
  payload : Octets

def IcmpMessage.octets (m : IcmpMessage) : Octets :=
  [m.kind, m.code] ++ twoBytes m.checksum ++ fourBytes m.rest ++ m.payload

/-! ### IPv4 -/

/-- What an IPv4 packet holds. Only a packet without a fragment offset begins with a transport header. -/
inductive Content where
  | udp (datagram : Datagram)
  | tcp (segment : Segment)
  | icmp (message : IcmpMessage)
  | other (protocol : UInt8) (unknown : protocol ≠ protocolUdp ∧ protocol ≠ protocolTcp ∧ protocol ≠ protocolIcmp)
      (payload : Octets)
  | fragment (protocol : UInt8) (offset : Fin 0x2000) (later : offset ≠ 0) (payload : Octets)

namespace Content

def protocol : Content → UInt8
  | udp _ => protocolUdp
  | tcp _ => protocolTcp
  | icmp _ => protocolIcmp
  | other protocol _ _ => protocol
  | fragment protocol _ _ _ => protocol

/-- Where the content belongs in the packet that it is a fragment of, in units of eight bytes. -/
def offset : Content → Fin 0x2000
  | fragment _ offset _ _ => offset
  | _ => 0

def octets : Content → Octets
  | udp datagram => datagram.octets
  | tcp segment => segment.octets
  | icmp message => message.octets
  | other _ _ payload => payload
  | fragment _ _ _ payload => payload

/-- The ports, or the type and the code. -/
def ports : Content → Option TransportPorts
  | udp datagram => some ⟨datagram.src, datagram.dst⟩
  | tcp segment => some ⟨segment.src, segment.dst⟩
  | icmp message => some ⟨message.kind.toUInt16, message.code.toUInt16⟩
  | _ => none

def message? : Content → Option DhcpMessage
  | udp datagram => datagram.message?
  | _ => none

end Content

/-- An IPv4 packet. -/
structure Ipv4Packet where
  service : UInt8
  identification : UInt16
  flags : Fin 8
  lifetime : UInt8
  checksum : UInt16
  src : Ipv4
  dst : Ipv4
  options : HeaderOptions
  content : Content
  fits : 20 + options.octets.length + content.octets.length ≤ 65535

def Ipv4Packet.octets (i : Ipv4Packet) : Octets :=
  [UInt8.ofNat (4 * 16 + i.options.words), i.service] ++
    twoBytes (UInt16.ofNat (20 + i.options.octets.length + i.content.octets.length)) ++ twoBytes i.identification ++
    twoBytes (UInt16.ofNat (i.flags * 0x2000 + i.content.offset)) ++ [i.lifetime, i.content.protocol] ++
    twoBytes i.checksum ++ i.src.octets ++ i.dst.octets ++ i.options.octets ++ i.content.octets

/-! ### Ethernet -/

/-- An Ethernet frame: of any other ethertype with any payload, or an IPv4 packet with any bytes after it. -/
inductive Frame where
  | other (src dst : Mac) (ethertype : UInt16) (unknown : ethertype ≠ ethertypeIpv4) (payload : Octets)
  | ipv4 (src dst : Mac) (packet : Ipv4Packet) (trailer : Octets)

namespace Frame

def octets : Frame → Octets
  | other src dst ethertype _ payload => dst.octets ++ src.octets ++ twoBytes ethertype ++ payload
  | ipv4 src dst packet trailer => dst.octets ++ src.octets ++ twoBytes ethertypeIpv4 ++ packet.octets ++ trailer

/-- The values of the headers. -/
def packet : Frame → Packet
  | other src dst ethertype _ _ => { dlSrc := src, dlDst := dst, ethertype }
  | ipv4 src dst packet _ =>
    { dlSrc := src
      dlDst := dst
      ethertype := ethertypeIpv4
      ipv4 := some ⟨packet.src, packet.dst, packet.content.protocol⟩
      transport := packet.content.ports
      dhcp := packet.content.message? }

/-- The match that constrains the values of the headers that the frame has, and the port that it comes in by. -/
def pattern (number : PortNumber) : Frame → HeaderMatch
  | other src dst ethertype _ _ =>
    { inPort := some number, dlSrc := some src, dlDst := some dst, dlType := some ethertype }
  | ipv4 src dst packet _ =>
    { inPort := some number
      dlSrc := some src
      dlDst := some dst
      dlType := some ethertypeIpv4
      nwProto := some packet.content.protocol
      nwSrc := some packet.src
      nwDst := some packet.dst
      tpSrc := packet.content.ports.map (·.src)
      tpDst := packet.content.ports.map (·.dst) }

end Frame

/-! ### Reading what was written -/

namespace Packet
variable {d rest : Octets} {i : Nat}

theorem wordOf_twoBytes (w : UInt16) : wordOf (UInt8.ofNat (w.toNat / 256)) (UInt8.ofNat w.toNat) = w := by
  have bound := w.toNat_lt
  refine UInt16.toNat_inj.1 ?_
  simp only [wordOf, UInt16.toNat_ofNat', UInt8.toNat_ofNat']
  omega

theorem octet_drop (k : Nat) : octet (d.drop i) k = octet d (i + k) := by
  rw [octet, octet, List.getElem?_drop]

theorem octet_at {o : UInt8} (here : d.drop i = o :: rest) : octet d i = .ok o := by
  rw [← Nat.add_zero i, ← octet_drop, here]
  rfl

theorem word_at {w : UInt16} (here : d.drop i = twoBytes w ++ rest) : word d i = .ok w := by
  have moved : word (d.drop i) 0 = word d i := by simp only [word, octet_drop, Nat.add_zero, Nat.zero_add]
  rw [← moved, here]
  exact congrArg _ (wordOf_twoBytes w)

theorem address_at {address : Ipv4} (here : d.drop i = address.octets ++ rest) : Packet.address d i = .ok address := by
  have moved : Packet.address (d.drop i) 0 = Packet.address d i := by
    simp only [Packet.address, octet_drop, Nat.add_zero, Nat.zero_add]
  rw [← moved, here]
  rfl

theorem slice_at {e : Octets} {stop : Nat} (here : d.drop i = e ++ rest) (ends : stop = i + e.length)
    (inside : stop ≤ d.length) : slice d i stop = .ok e := by
  rw [slice_eq_ok_iff, here, ends, Nat.add_sub_cancel_left, List.take_left]
  exact ⟨⟨by omega, ends ▸ inside⟩, rfl⟩

theorem readUdp_octets (u : Datagram) (fits : u.octets.length ≤ 65535) :
    readUdp u.octets = .ok { ports := some ⟨u.src, u.dst⟩, dhcp := u.message? } := by
  have length : u.octets.length = 8 + u.payload.length + u.surplus.length := by
    simp [Datagram.octets, twoBytes]
    omega
  have written : (UInt16.ofNat (8 + u.payload.length)).toNat = 8 + u.payload.length := by
    rw [UInt16.toNat_ofNat']
    omega
  have atLength : word u.octets 4 = .ok (UInt16.ofNat (8 + u.payload.length)) := word_at rfl
  have atSrc : word u.octets 0 = .ok u.src := word_at rfl
  have atDst : word u.octets 2 = .ok u.dst := word_at rfl
  simp only [readUdp, bind_eq_ok_iff, require_eq_ok_iff, decide_eq_true_eq]
  refine ⟨(), by omega, _, atLength, (), by omega, _, atSrc, _, atDst, ?_⟩
  unfold Datagram.message?
  split
  · rename_i ports
    have long := u.message ports.1 ports.2
    have opcode : u.payload[0]? = some (u.payload.headD 0) := by
      cases payload : u.payload with
      | nil => simp [payload] at long
      | cons => rfl
    -- The surplus comes after the length, and so is no part of the message.
    have cut : slice u.octets 8 (UInt16.ofNat (8 + u.payload.length)).toNat = .ok u.payload :=
      slice_at rfl written (by omega)
    simp only [bind_eq_ok_iff, pure_eq_ok_iff]
    exact ⟨_, cut, _, readDhcp_eq_ok_iff.2 ⟨long, opcode, rfl⟩, rfl⟩
  · rfl

theorem readTcp_octets (s : Segment) : readTcp s.octets = .ok { ports := some ⟨s.src, s.dst⟩ } := by
  have length : s.octets.length = 20 + s.options.octets.length + s.payload.length := by
    simp [Segment.octets, twoBytes, fourBytes]
    omega
  have written : (UInt8.ofNat (s.options.words * 16 + s.reserved)).toNat / 16 * 4 = 20 + s.options.octets.length := by
    have := s.options.words_bounds
    have := s.options.words_eq
    rw [UInt8.toNat_ofNat']
    omega
  have atOffset : octet s.octets 12 = .ok (UInt8.ofNat (s.options.words * 16 + s.reserved)) := octet_at rfl
  have atSrc : word s.octets 0 = .ok s.src := word_at rfl
  have atDst : word s.octets 2 = .ok s.dst := word_at rfl
  simp only [readTcp, bind_eq_ok_iff, require_eq_ok_iff, decide_eq_true_eq, pure_eq_ok_iff]
  exact ⟨(), by omega, _, atOffset, (), by omega, _, atSrc, _, atDst, rfl⟩

theorem readIcmp_octets (m : IcmpMessage) :
    readIcmp m.octets = .ok { ports := some ⟨m.kind.toUInt16, m.code.toUInt16⟩ } := by
  have length : 8 ≤ m.octets.length := by
    simp [IcmpMessage.octets, twoBytes, fourBytes]
  have atKind : octet m.octets 0 = .ok m.kind := octet_at rfl
  have atCode : octet m.octets 1 = .ok m.code := octet_at rfl
  simp only [readIcmp, bind_eq_ok_iff, require_eq_ok_iff, decide_eq_true_eq, pure_eq_ok_iff]
  exact ⟨(), length, _, atKind, _, atCode, rfl⟩

/-- The transport header of a packet without a fragment offset. -/
theorem readTransport_octets (c : Content) (first : c.offset = 0) (fits : c.octets.length ≤ 65535) :
    readTransport c.protocol c.octets = .ok { ports := c.ports, dhcp := c.message? } := by
  cases c with
  | udp u => exact readUdp_octets u fits
  | tcp s => exact readTcp_octets s
  | icmp m => exact readIcmp_octets m
  | other protocol unknown payload =>
    simp only [readTransport, Content.protocol, unknown, if_false]
    rfl
  | fragment protocol offset later payload => exact absurd first later

theorem readIpv4_octets (i : Ipv4Packet) :
    readIpv4 i.octets =
      .ok (⟨i.src, i.dst, i.content.protocol⟩, { ports := i.content.ports, dhcp := i.content.message? }) := by
  have fits := i.fits
  have words := i.options.words_bounds
  have length : i.octets.length = 20 + i.options.octets.length + i.content.octets.length := by
    simp [Ipv4Packet.octets, twoBytes, Ipv4.octets]
    omega
  have header : (UInt8.ofNat (4 * 16 + i.options.words)).toNat % 16 * 4 = 20 + i.options.octets.length := by
    rw [← i.options.words_eq, UInt8.toNat_ofNat']
    omega
  have total : (UInt16.ofNat (20 + i.options.octets.length + i.content.octets.length)).toNat =
      20 + i.options.octets.length + i.content.octets.length := by
    rw [UInt16.toNat_ofNat']
    omega
  have offset : (UInt16.ofNat (i.flags * 0x2000 + i.content.offset)).toNat % 0x2000 = i.content.offset := by
    rw [UInt16.toNat_ofNat']
    omega
  refine readIpv4_eq_ok_iff.2 ⟨_, _, _, octet_at rfl, word_at rfl, word_at rfl, address_at rfl, address_at rfl,
    octet_at rfl, by omega, by omega, by omega, ?_⟩
  rw [header, total, offset]
  split
  · rename_i first
    have behind : i.octets.drop (20 + i.options.octets.length) = i.content.octets ++ [] := by
      rw [List.append_nil, Ipv4Packet.octets]
      exact List.drop_left' (by simp [twoBytes, Ipv4.octets]; omega)
    exact ⟨_, slice_at behind rfl (by omega), readTransport_octets i.content (Fin.ext first) (by omega)⟩
  · -- Only a later fragment has an offset, and it has no transport header.
    rename_i later
    cases content : i.content with
    | fragment => rfl
    | _ => simp [content, Content.offset] at later

end Packet

/-- Every frame is read as the packet with the values of its headers, whose exact match constrains these values. -/
theorem Frame.parse_octets (f : Frame) :
    Packet.parse f.octets = .ok f.packet ∧ ∀ number, f.packet.exactMatch number = f.pattern number := by
  refine ⟨?_, fun number => by cases f <;> rfl⟩
  cases f with
  | other src dst ethertype unknown payload =>
    have framed : (Frame.other src dst ethertype unknown payload).octets = dst.octets ++ src.octets ++
        UInt8.ofNat (ethertype.toNat / 256) :: UInt8.ofNat ethertype.toNat :: payload := by simp [octets, twoBytes]
    rw [framed, Packet.parse_framed, Packet.wordOf_twoBytes]
    exact Packet.readBody_eq_ok_iff.2 (.inr ⟨unknown, rfl⟩)
  | ipv4 src dst packet trailer =>
    have ethertype : twoBytes ethertypeIpv4 = [8, 0] := rfl
    have framed : (Frame.ipv4 src dst packet trailer).octets =
        dst.octets ++ src.octets ++ 8 :: 0 :: packet.octets ++ trailer := by simp [octets, ethertype]
    rw [framed]
    refine Packet.parse_append ((Packet.parse_framed 8 0).2 ?_) trailer
    exact Packet.readBody_eq_ok_iff.2 (.inl ⟨rfl, _, _, Packet.readIpv4_octets packet, rfl⟩)

/-- An echo request that is not to be fragmented, with one word of options and a byte after it. -/
example : (Frame.ipv4 ⟨2, 0, 0, 0, 0, 9⟩ ⟨2, 0, 0, 0, 0, 1⟩
    { service := 0, identification := 1, flags := 2, lifetime := 64, checksum := 0, src := ⟨10, 0, 0, 5⟩,
      dst := ⟨10, 0, 1, 7⟩, options := ⟨[1, 1, 1, 0], rfl, by decide⟩, content := .icmp ⟨8, 0, 0, 7, []⟩,
      fits := by decide } [0]).octets =
    [2, 0, 0, 0, 0, 1, 2, 0, 0, 0, 0, 9, 8, 0] ++
      [0x46, 0, 0, 32, 0, 1, 0x40, 0, 64, 1, 0, 0, 10, 0, 0, 5, 10, 0, 1, 7, 1, 1, 1, 0] ++ [8, 0, 0, 0, 0, 0, 0, 7] ++ [0] := by
  decide

end VirtualRouter
