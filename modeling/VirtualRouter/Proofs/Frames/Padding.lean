import VirtualRouter.Proofs.Frames.Reading
import VirtualRouter.Proofs.Run.History

/-! Frames with bytes behind them. Every length is checked against the bytes at hand from above only, and every field is
    read at an offset from the front, so that a frame that is read is read as the same packet with any bytes after it.
    The controller does with it what it does with the frame alone: only what it passes on or keeps of the bytes is
    longer. -/

namespace VirtualRouter

/-! ### Reading -/

namespace Packet

variable {d padding : Octets} {i start stop : Nat}

theorem octet_append {o : UInt8} (read : octet d i = .ok o) : octet (d ++ padding) i = .ok o := by
  rw [octet_eq_ok_iff] at read ⊢
  obtain ⟨inside, -⟩ := List.getElem?_eq_some_iff.1 read
  rwa [List.getElem?_append_left inside]

theorem word_append {w : UInt16} (read : word d i = .ok w) : word (d ++ padding) i = .ok w := by
  simp only [word, bind_eq_ok_iff, pure_eq_ok_iff] at read ⊢
  obtain ⟨high, first, low, second, rfl⟩ := read
  exact ⟨high, octet_append first, low, octet_append second, rfl⟩

theorem address_append {address : Ipv4} (read : Packet.address d i = .ok address) :
    Packet.address (d ++ padding) i = .ok address := by
  simp only [Packet.address, bind_eq_ok_iff, pure_eq_ok_iff] at read ⊢
  obtain ⟨o0, first, o1, second, o2, third, o3, fourth, rfl⟩ := read
  exact ⟨o0, octet_append first, o1, octet_append second, o2, octet_append third, o3, octet_append fourth, rfl⟩

theorem slice_append {e : Octets} (read : slice d start stop = .ok e) : slice (d ++ padding) start stop = .ok e := by
  rw [slice_eq_ok_iff] at read ⊢
  obtain ⟨⟨ordered, inside⟩, rfl⟩ := read
  refine ⟨⟨ordered, ?_⟩, ?_⟩
  · rw [List.length_append]
    omega
  · rw [List.drop_append_of_le_length (by omega), List.take_append_of_le_length (by rw [List.length_drop]; omega)]

/-- What comes after the total length of an IPv4 packet is not looked at. -/
theorem readIpv4_append {header : Ipv4Header} {part : TransportPart} (read : readIpv4 d = .ok (header, part)) :
    readIpv4 (d ++ padding) = .ok (header, part) := by
  have more : d.length ≤ (d ++ padding).length := by simp
  rw [readIpv4_eq_ok_iff] at read ⊢
  obtain ⟨first, total, flags, atFirst, atTotal, atFlags, atSrc, atDst, atProtocol, long, ordered, inside, read⟩ := read
  refine ⟨first, total, flags, octet_append atFirst, word_append atTotal, word_append atFlags, address_append atSrc,
    address_append atDst, octet_append atProtocol, Nat.le_trans long more, ordered, Nat.le_trans inside more, ?_⟩
  split
  · obtain ⟨payload, cut, read⟩ : ∃ payload, _ := by rwa [if_pos ‹_›] at read
    exact ⟨payload, slice_append cut, read⟩
  · rwa [if_neg ‹_›] at read

/-- A frame that is read is read as the same packet with any bytes after it. -/
theorem parse_append {p : Packet} (read : parse d = .ok p) (padding : Octets) : parse (d ++ padding) = .ok p := by
  obtain ⟨src, dst, high, low, rest, rfl, body⟩ := parse_inv read
  have framed : dst.octets ++ src.octets ++ high :: low :: rest ++ padding =
      dst.octets ++ src.octets ++ high :: low :: (rest ++ padding) := by simp
  rw [framed, parse_framed, readBody_eq_ok_iff]
  rcases readBody_eq_ok_iff.1 body with ⟨ipv4, header, part, headers, same⟩ | other
  · exact .inl ⟨ipv4, header, part, readIpv4_append headers, same⟩
  · exact .inr other

end Packet

/-! ### Turns that differ in bytes -/

/-- The call without the bytes that are to be sent. -/
def Call.sansBytes : Call → Call
  | sendPacket buffer inPort actions _ answer => sendPacket buffer inPort actions [] answer
  | call => call

/-- The waiting packet without its bytes. -/
def ParkedPacket.sansBytes : ParkedPacket → ParkedPacket
  | tunnelled p => tunnelled { p with data := [] }
  | toLocal p => toLocal { p with data := [] }

/-- The packet with bytes after it. -/
def DecidedPacket.padded (d : DecidedPacket) (padding : Octets) : DecidedPacket := { d with data := d.data ++ padding }

/-- The same collaborators, but that the switch answers for bytes as these do for the bytes with the padding after them. -/
def Answers.unpadded (a : Answers) (padding : Octets) : Answers :=
  { a with sendPacket := fun buffer inPort actions data => a.sendPacket buffer inPort actions (data ++ padding) }

/-- The turns have made the same calls and leave the same state, but for the bytes that are sent and that wait. -/
structure Turn.SameButBytes (t u : Turn) : Prop where
  calls : u.calls.map Call.sansBytes = t.calls.map Call.sansBytes
  rest : u.controller = { t.controller with parking := u.controller.parking }
  nextToken : u.controller.parking.nextToken = t.controller.parking.nextToken
  waiting : ∀ token, (u.controller.parking.waiting.get? token).map ParkedPacket.sansBytes =
    (t.controller.parking.waiting.get? token).map ParkedPacket.sansBytes

namespace Turn
variable {a : Answers} {t : Turn} {padding : Octets}

theorem SameButBytes.refl (t : Turn) : t.SameButBytes t := ⟨rfl, rfl, rfl, fun _ => rfl⟩

theorem SameButBytes.along {u : Turn} {x y : Trail} (h : t.SameButBytes u) (counts : y.counts = x.counts)
    (calls : y.calls.map Call.sansBytes = x.calls.map Call.sansBytes) : (t.along x).SameButBytes (u.along y) := by
  refine ⟨?_, ?_, h.nextToken, h.waiting⟩
  · simp only [calls_along, List.map_append, h.calls, calls]
  · rw [controller_along, controller_along, h.rest, counts]
    rfl

theorem requestAddress_sansBytes {p q : ParkedPacket} (same : q.sansBytes = p.sansBytes) (port : PortId) (nextHop : Ipv4) :
    (t.requestAddress port nextHop p).SameButBytes (t.requestAddress port nextHop q) := by
  refine ⟨rfl, rfl, rfl, fun token => ?_⟩
  simp only [requestAddress, call, count, Parking.park, Table.get?_insert]
  split
  · exact congrArg some same
  · rfl

theorem installForward_unpadded (a : Answers) (padding : Octets) (pattern : HeaderMatch) (buffer : Buffer)
    (actions : List Action) (data : Octets) :
    (t.installForward (a.unpadded padding) pattern buffer actions data).1.SameButBytes
        (t.installForward a pattern buffer actions (data ++ padding)).1 ∧
      (t.installForward a pattern buffer actions (data ++ padding)).2 =
        (t.installForward (a.unpadded padding) pattern buffer actions data).2 := by
  cases answer : a.addRule (t.controller.flows.forwarding pattern buffer actions) with
  | ok =>
    rw [installForward_ok a t _ answer, installForward_ok (a.unpadded padding) t _ answer]
    -- The bytes occur in one call only, which is left out if the switch holds the packet.
    refine ⟨(SameButBytes.refl t).along ?_ ?_, rfl⟩
    all_goals
      unfold Trail.accepted Trail.emission
      split <;> rfl
  | error error =>
    rw [installForward_error a t _ answer, installForward_error (a.unpadded padding) t _ answer]
    exact ⟨.refl _, rfl⟩

theorem forwardExact_unpadded (d : DecidedPacket) (ports : OrderedSet PortNumber) (wanted : HeaderMatch) :
    (t.forwardExact (a.unpadded padding) d ports wanted).SameButBytes
      (t.forwardExact a (d.padded padding) ports wanted) := by
  obtain ⟨installed, accepted⟩ := t.installForward_unpadded a padding d.incoming d.buffer
    (Action.between d.incoming wanted ports.toList) d.data
  simp only [forwardExact, DecidedPacket.padded, accepted]
  split
  · refine ⟨installed.calls, ?_, installed.nextToken, installed.waiting⟩
    simp only [record]
    rw [installed.rest]
  · rw [releaseElements_eq, releaseElements_eq]
    exact installed.along rfl rfl

theorem forward_unpadded (d : DecidedPacket) (out : PortId) (nextHop : Ipv4) :
    (t.forward (a.unpadded padding) d out nextHop).SameButBytes (t.forward a (d.padded padding) out nextHop) := by
  have towards : t.controller.towards (d.padded padding) out nextHop = t.controller.towards d out nextHop := rfl
  have hosts : (a.unpadded padding).participants = a.participants := rfl
  unfold forward
  rw [towards, hosts]
  split
  · exact requestAddress_sansBytes (by rfl) ..
  · dsimp only
    split
    · exact .refl _
    · exact forwardExact_unpadded ..

/-- Carrying out a verdict makes use of the packet's bytes only where the packet is sent on. -/
theorem carryOut_unpadded (d : DecidedPacket) (v : Verdict) :
    (t.carryOut (a.unpadded padding) d v).SameButBytes (t.carryOut a (d.padded padding) v) := by
  cases v with
  | forward out nextHop => exact forward_unpadded ..
  | _ => exact .refl _

theorem decide_unpadded (buffer : Buffer) (data : Octets) (arrival : Arrival) :
    (t.decide (a.unpadded padding) buffer data arrival).SameButBytes
      (t.decide a buffer (data ++ padding) arrival) := by
  have process : (a.unpadded padding).process = a.process := rfl
  unfold decide
  rw [process]
  dsimp only
  split
  · exact .refl _
  · exact carryOut_unpadded ..

theorem packetFromPort_unpadded (buffer : Buffer) (data : Octets) (ingress : VirtualPort) (arrival : Arrival) :
    (t.packetFromPort (a.unpadded padding) buffer data ingress arrival).SameButBytes
      (t.packetFromPort a buffer (data ++ padding) ingress arrival) := by
  unfold packetFromPort
  split
  · exact .refl _
  · split
    · exact decide_unpadded ..
    · exact .refl _

theorem packetFromTunnel_padded (p : TunnelledPacket) :
    (t.packetFromTunnel p).SameButBytes (t.packetFromTunnel { p with data := p.data ++ padding }) := by
  unfold packetFromTunnel
  dsimp only
  split
  · exact requestAddress_sansBytes (by rfl) ..
  · exact .refl _

end Turn

/-- A frame that is read as a packet is read as the same one with any bytes after it, and is dealt with alike: by the same
    calls, to which the collaborators give the same answers, and with the same state afterwards, but for the bytes that
    are sent or wait. -/
theorem Packet.padding_ignored {d : Octets} {p : Packet} (read : parse d = .ok p) (padding : Octets) :
    parse (d ++ padding) = .ok p ∧
    ∀ (c : Controller) (a : Answers) (n m : PacketIn), n.data = d → m.data = d ++ padding → m.buffer = n.buffer →
      m.inPort = n.inPort →
        (c.step (a.unpadded padding) (.packetIn n)).SameButBytes (c.step a (.packetIn m)) := by
  have again := parse_append read padding
  refine ⟨again, fun c a n m data data' buffer inPort => ?_⟩
  have read : parse n.data = .ok p := data ▸ read
  have again : parse m.data = .ok p := data' ▸ again
  show (Turn.packetIn (a.unpadded padding) n ⟨c, []⟩).SameButBytes (Turn.packetIn a m ⟨c, []⟩)
  have number := congrArg c.ingressNumber inPort
  cases source : c.ingress (c.ingressNumber n.inPort) with
  | unknown =>
    rw [Course.packetIn_unknown _ c source, Course.packetIn_unknown _ c (number ▸ source), buffer]
    exact .refl _
  | tunnel =>
    have tunnelled : c.tunnelled m p = { c.tunnelled n p with data := (c.tunnelled n p).data ++ padding } := by
      simp only [Controller.tunnelled, data, data', buffer, number]
    rw [Course.packetIn_tunnel _ c source read, Course.packetIn_tunnel _ c (number ▸ source) again, tunnelled]
    exact Turn.packetFromTunnel_padded _
  | port ingress =>
    have arrival : c.arrival m ingress p = c.arrival n ingress p := by
      simp only [Controller.arrival, number]
    rw [Course.packetIn_port _ c source read, Course.packetIn_port _ c (number ▸ source) again, arrival, buffer, data, data']
    exact Turn.packetFromPort_unpadded ..

namespace Sample

/-- A frame whose IPv4 header is of no version and has no length, so that the ICMP message begins where the header does. -/
def headless : Octets :=
  [2, 0, 0, 0, 0, 1, 2, 0, 0, 0, 0, 9, 8, 0] ++ [0, 42, 0, 20, 0, 0, 0, 0, 64, 1, 0, 0, 10, 0, 0, 1, 10, 0, 0, 2]

def headlessPacket : Packet where
  dlSrc := ⟨2, 0, 0, 0, 0, 9⟩
  dlDst := (port 1).mac
  ethertype := ethertypeIpv4
  ipv4 := some ⟨⟨10, 0, 0, 1⟩, ⟨10, 0, 0, 2⟩, protocolIcmp⟩
  transport := some ⟨0, 42⟩

end Sample

theorem Packet.padding_ignored_headless :
    let a := Sample.delivering .empty
    parse (Sample.headless ++ [1, 2, 3]) = .ok Sample.headlessPacket ∧
      Turn.SameButBytes
        ((Sample.attached a).2.step (a.unpadded [1, 2, 3]) (.packetIn (.whole ⟨7⟩ ⟨1⟩ Sample.headless)))
        ((Sample.attached a).2.step a (.packetIn (.whole ⟨7⟩ ⟨1⟩ (Sample.headless ++ [1, 2, 3])))) :=
  have ignored := padding_ignored (by decide +kernel : parse Sample.headless = .ok Sample.headlessPacket) [1, 2, 3]
  ⟨ignored.1, ignored.2 _ _ _ _ rfl rfl rfl rfl⟩

end VirtualRouter
