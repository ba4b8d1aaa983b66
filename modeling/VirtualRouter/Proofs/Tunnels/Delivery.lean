import VirtualRouter.Proofs.Flows.Rewriting
import VirtualRouter.Proofs.Frames.LinkAddresses
import VirtualRouter.Proofs.Run.History

/-! The way of a packet from one host to another. The first host sends it through the tunnel with other Ethernet addresses
    and otherwise as it came. They name the port that it is for by its low 32 bits, and the second host looks for the
    attached port whose identifier has these and no others. So the packet gets to a port of a short identifier, and to
    none of a longer one, however distinct the low bits of all identifiers are. -/

namespace VirtualRouter

/-- A host sends a packet of one of its virtual ports to a port of another host, by a rule for the tunnel to it: the
    simulation has decided so and wants the packet to go on as it came. -/
structure Departs (c : Controller) (a : Answers) (n : PacketIn) (out : PortId) (nextHop : Ipv4) (tunnel : PortNumber)
    (rule : FlowRule) : Prop where
  decided : ∃ arrival outcome, .process arrival outcome ∈ (c.step a (.packetIn n)).calls ∧
    outcome.verdict = .ok (.forward out nextHop) ∧ outcome.arrival.incoming = arrival.incoming ∧
    outcome.wanted = arrival.incoming
  away : c.ports.byId out = none
  single : a.participants out = none
  located : ∃ host, c.tunnels.locations.get? out = some host ∧ c.tunnels.towards host = some tunnel
  installs : .addRule rule (.ok ()) ∈ (c.step a (.packetIn n)).calls

variable {c : Controller} {a : Answers} {n : PacketIn} {out : PortId} {nextHop : Ipv4} {tunnel : PortNumber}
  {rule : FlowRule} {packet : Packet}

/-! ### Leaving the first host -/

theorem Controller.towards_tunnel {d : DecidedPacket} {host : Ipv4} (located : c.tunnels.locations.get? out = some host)
    (tunnelled : c.tunnels.towards host = some tunnel) :
    c.towards d out nextHop none = (OrderedSet.empty.insert tunnel, { d.wanted with
      dlSrc := some (TunnelHeader.encode ⟨d.source, out, nextHop⟩).1
      dlDst := some (TunnelHeader.encode ⟨d.source, out, nextHop⟩).2 }) := by
  simp [towards, TunnelTable.towardsPort, located, tunnelled]

namespace Departs

theorem course (departs : Departs c a n out nextHop tunnel rule) : ∃ packet d c' x,
    Packet.parse n.data = .ok packet ∧ d.incoming = packet.exactMatch (c.ingressNumber n.inPort) ∧
      d.wanted = d.incoming ∧ Course.CarriesOut a c d (.forward out nextHop) c' x ∧ .addRule rule (.ok ()) ∈ x.calls := by
  obtain ⟨arrival, outcome, processed, verdict, kept, plain⟩ := departs.decided
  have installs := departs.installs
  have once := Entry.decided_first ⟨c, a, .packetIn n⟩
  obtain ⟨c', x, course, eq⟩ := Course.step_course a c (.packetIn n)
  rw [eq] at processed installs
  rw [Entry.calls, eq] at once
  -- Only where the simulation gets the packet is there a decision among the calls.
  cases course with
  | arrives course =>
    cases course with
    | unknown => simp [Trail.calls_freeing] at processed
    | malformed => simp [Trail.calls_freeing] at processed
    | astray => simp at processed
    | parked => simp at processed
    | dhcp => simp [Trail.calls_freeing] at processed
    | misdelivered => simp at processed
    | failed _ _ _ _ failure =>
      simp only [Turn.calls_along, Trail.calls_append, Trail.calls_count, Trail.calls_call, Trail.calls_discard,
        Trail.calls_freeing, Trail.calls_release, List.nil_append, List.append_nil, List.cons_append, List.mem_cons,
        List.mem_append, List.mem_ite_nil_right, List.mem_map, List.not_mem_nil, Call.process.injEq, reduceCtorEq,
        and_false, exists_const, or_self, or_false] at processed
      obtain ⟨rfl, rfl⟩ := processed
      rw [verdict] at failure
      cases failure
    | @decided packet ingress decision _ x _ read _ _ decided course =>
      -- The packet is decided on once, before anything else, so that this decision is the one that departs.
      have unasked : .process arrival outcome ∉ x.calls := by
        intro again
        have decides := List.filterMap_eq_nil_iff.1 once (.process arrival outcome) (by simpa using again)
        cases decides
      simp only [Turn.calls_along, Trail.calls_append, Trail.calls_count, Trail.calls_call, List.nil_append,
        List.cons_append, List.mem_cons, Call.process.injEq, unasked, or_false, reduceCtorEq, false_or]
        at processed installs
      obtain ⟨rfl, rfl⟩ := processed
      obtain rfl := Except.ok.inj (verdict.symm.trans decided)
      exact ⟨packet, _, _, x, read, kept, plain.trans kept.symm, course, installs⟩

/-- The rule changes the Ethernet addresses to those that name the port and the next hop, and nothing else. -/
theorem perform (departs : Departs c a n out nextHop tunnel rule) : ∃ packet src dst,
    Packet.parse n.data = .ok packet ∧ (TunnelHeader.decode src dst).egress = .ofShort out.short ∧
      (TunnelHeader.decode src dst).nextHop = nextHop ∧
      ∀ h : Addressing, h.dlSrc = packet.dlSrc → h.dlDst = packet.dlDst →
        Action.perform rule.actions h = [(tunnel, { h with dlSrc := src, dlDst := dst })] := by
  obtain ⟨packet, d, c', x, read, incoming, plain, course, installs⟩ := departs.course
  obtain ⟨host, located, tunnelled⟩ := departs.located
  have towards : c.towards d out nextHop none = _ := Controller.towards_tunnel located tunnelled
  cases course with
  | parked here =>
    rw [departs.away] at here
    cases here
  | stranded _ nowhere =>
    rw [departs.single, towards] at nowhere
    exact absurd nowhere Bool.false_ne_true
  | refused => simp [Trail.calls_freeing] at installs
  | forwarded =>
    simp only [Trail.calls_append, Trail.calls_call, Trail.addRule_mem_accepted, List.cons_append, List.nil_append,
      List.mem_cons, reduceCtorEq, false_or] at installs
    obtain rfl := installs
    have names := TunnelHeader.decode_encode ⟨d.source, out, nextHop⟩
    refine ⟨packet, _, _, read, congrArg TunnelHeader.egress names, congrArg TunnelHeader.nextHop names,
      fun h src dst => ?_⟩
    have hsrc : d.incoming.dlSrc = some h.dlSrc := by
      rw [incoming, src]
      rfl
    have hdst : d.incoming.dlDst = some h.dlDst := by
      rw [incoming, dst]
      rfl
    rw [Controller.routing, actions_forwarding, departs.single, towards, Action.perform_between, plain]
    exact congrArg (fun copy => [(tunnel, copy)]) (Addressing.rewritten_addresses _ _ hsrc hdst)

end Departs

/-! ### Coming in to the second host -/

/-- A packet from a tunnel waits if the port that it names is attached, and is left to the switch otherwise. -/
theorem Controller.step_tunnelled (enters : c.ingress (c.ingressNumber n.inPort) = .tunnel)
    (read : Packet.parse n.data = .ok packet) :
    ((c.ports.byId (c.tunnelled n packet).header.egress).isSome = true ∧
        (c.step a (.packetIn n)).calls =
          [.resolve c.parking.nextToken (c.tunnelled n packet).header.egress (c.tunnelled n packet).header.nextHop] ∧
        (c.step a (.packetIn n)).controller.parking = (c.parking.park (.tunnelled (c.tunnelled n packet))).1) ∨
      ((c.ports.byId (c.tunnelled n packet).header.egress).isSome = false ∧ (c.step a (.packetIn n)).calls = [] ∧
        (c.step a (.packetIn n)).controller.parking = c.parking) := by
  obtain ⟨c', x, course, eq⟩ := Course.step_course a c (.packetIn n)
  rw [eq]
  cases course with
  | arrives course =>
    cases course with
    | unknown source =>
      rw [enters] at source
      cases source
    | malformed _ unread =>
      rw [read] at unread
      cases unread
    | astray _ same away =>
      obtain rfl := Except.ok.inj (read.symm.trans same)
      exact .inr ⟨away, rfl, rfl⟩
    | parked _ same here =>
      obtain rfl := Except.ok.inj (read.symm.trans same)
      exact .inl ⟨here, rfl, rfl⟩
    | dhcp source | misdelivered source | failed source | decided source =>
      rw [enters] at source
      cases source

/-- A packet that one host sends to a port of another has nothing but its Ethernet addresses changed on the way. There it
    waits for its next hop behind the port, under the match that it comes in with, if the port's identifier has no bits
    but the low 32. Otherwise the other host does not find the port, asks nothing and keeps nothing, although the port
    is attached and no other attached port has the same low bits. -/
theorem Departs.delivery {A B : Controller} {a b : Answers} {m n : PacketIn} {h copy : Addressing} {via : PortNumber}
    (departs : Departs A a m out nextHop tunnel rule) (read : Packet.parse m.data = .ok packet)
    (src : h.dlSrc = packet.dlSrc) (dst : h.dlDst = packet.dlDst) (sent : (via, copy) ∈ Action.perform rule.actions h)
    (carried : n.data = Packet.overwrite copy.dlSrc copy.dlDst m.data)
    (enters : B.ingress (B.ingressNumber n.inPort) = .tunnel) (attached : (B.ports.byId out).isSome = true)
    (distinct : ∀ other, (B.ports.byId other).isSome = true → other.short = out.short → other = out) :
    via = tunnel ∧ copy = { h with dlSrc := copy.dlSrc, dlDst := copy.dlDst } ∧
      ∃ frame, Packet.parse n.data = .ok frame ∧
        (out = .ofShort out.short → (B.step b (.packetIn n)).calls = [.resolve B.parking.nextToken out nextHop] ∧
          (B.step b (.packetIn n)).controller.parking = (B.parking.park (.tunnelled (B.tunnelled n frame))).1) ∧
        (out ≠ .ofShort out.short → (B.step b (.packetIn n)).calls = [] ∧
          (B.step b (.packetIn n)).controller.parking = B.parking) := by
  obtain ⟨packet', src', dst', read', egress, hop, performs⟩ := departs.perform
  obtain rfl := Except.ok.inj (read.symm.trans read')
  rw [performs h src dst, List.mem_singleton] at sent
  cases sent
  have frameRead : Packet.parse n.data = .ok (packet.readdressed src' dst') := by
    rw [carried]
    exact Packet.parse_overwrite read src' dst'
  refine ⟨rfl, rfl, _, frameRead, ?_⟩
  have egress : (B.tunnelled n (packet.readdressed src' dst')).header.egress = .ofShort out.short := egress
  have hop : (B.tunnelled n (packet.readdressed src' dst')).header.nextHop = nextHop := hop
  have step := Controller.step_tunnelled (a := b) enters frameRead
  rw [egress, hop] at step
  rcases step with ⟨here, calls, parking⟩ | ⟨away, calls, parking⟩
  · -- The port that is found has the same low bits, and no other attached port has these.
    have short : .ofShort out.short = out := distinct _ here (PortId.short_ofShort _)
    exact ⟨fun _ => ⟨by rw [calls, short], parking⟩, fun long => absurd short.symm long⟩
  · refine ⟨fun short => ?_, fun _ => ⟨calls, parking⟩⟩
    rw [← short, attached] at away
    cases away

/-! ### From one host to another -/

namespace Sample
variable (long : Bool)

/-- A port of the other host, whose identifier is seven, or seven above the low 32 bits. -/
def far : VirtualPort := { port 7 with id := ⟨.ofNat (if long then 0x100000007 else 7)⟩ }

def sending : Answers := answers (.ok ()) (.forward (far long).id ⟨10, 0, 0, 1⟩)

/-- The first host, with a tunnel to the other. -/
def sender : History × Controller :=
  handled default (sending long)
    [.portAttached (port 1), .tunnelAdded ⟨100⟩ ⟨192, 168, 0, 2⟩, .portLocated (far long).id ⟨192, 168, 0, 2⟩]

/-- The other host, with a tunnel to the first. -/
def receiver : History × Controller :=
  handled default (sending long) [.portAttached (far long), .tunnelAdded ⟨100⟩ ⟨192, 168, 0, 1⟩]

def relayRule : FlowRule :=
  (default : FlowSettings).forwarding flow .unbuffered
    [.setDlSrc ⟨0, 0, 0, 1, 10, 0⟩, .setDlDst ⟨0, 1, 0, 0, 0, 7⟩, .output ⟨100⟩]

def arrival : Arrival where
  inPort := (port 1).id
  incoming := flow
  packet := { dlSrc := ⟨2, 0, 0, 0, 0, 9⟩, dlDst := (port 1).mac, ethertype := 0x88cc }

/-- The packet as it comes in to the other host. -/
def relayed : PacketIn := .whole .unbuffered ⟨100⟩ [0, 1, 0, 0, 0, 7, 0, 0, 0, 1, 10, 0, 0x88, 0xcc]

theorem departs : Departs (sender long).2 (sending long) (notice .unbuffered) (far long).id ⟨10, 0, 0, 1⟩ ⟨100⟩ relayRule where
  decided := ⟨arrival, (sending long).process arrival, by revert long; decide +kernel, rfl, rfl, rfl⟩
  away := by revert long; decide +kernel
  single := rfl
  located := ⟨⟨192, 168, 0, 2⟩, by revert long; decide +kernel, by revert long; decide +kernel⟩
  installs := by revert long; decide +kernel

theorem keys_receiver : (receiver long).2.ports.ports.keys = [(far long).id] := by
  revert long
  decide +kernel

theorem only_far (other : PortId) (here : ((receiver long).2.ports.byId other).isSome = true)
    (_ : other.short = (far long).id.short) : other = (far long).id := by
  have known : other ∈ (receiver long).2.ports.ports.keys := Table.contains_iff.1 here
  rw [keys_receiver] at known
  exact List.mem_singleton.1 known

end Sample

/-- A packet to a port with a short identifier makes the other host ask for its next hop. -/
theorem delivery_short :
    ((Sample.receiver false).2.step (Sample.sending false) (.packetIn Sample.relayed)).calls =
      [.resolve ⟨0⟩ (Sample.far false).id ⟨10, 0, 0, 1⟩] := by
  let h : Addressing := ⟨⟨2, 0, 0, 0, 0, 9⟩, (Sample.port 1).mac, default, default, 0, 0⟩
  have read : Packet.parse (Sample.notice .unbuffered).data =
      .ok { dlSrc := h.dlSrc, dlDst := h.dlDst, ethertype := 0x88cc } := by
    decide +kernel
  obtain ⟨-, -, frame, -, found, -⟩ := Departs.delivery (b := Sample.sending false) (h := h) (Sample.departs false) read
    rfl rfl (List.mem_singleton.2 rfl) (show Sample.relayed.data = _ from rfl) (by decide +kernel) (by decide +kernel)
    (Sample.only_far false)
  exact (found (by decide +kernel)).1

/-- A packet to a port with a longer identifier is lost, although no other port has the same low bits. -/
theorem delivery_long_lost :
    (∃ past, Run default false past (Sample.sender true).2) ∧ (∃ past, Run default false past (Sample.receiver true).2) ∧
      Departs (Sample.sender true).2 (Sample.sending true) (Sample.notice .unbuffered) (Sample.far true).id ⟨10, 0, 0, 1⟩
        ⟨100⟩ Sample.relayRule ∧
      (∀ h, Action.perform Sample.relayRule.actions h =
        [(⟨100⟩, { h with dlSrc := ⟨0, 0, 0, 1, 10, 0⟩, dlDst := ⟨0, 1, 0, 0, 0, 7⟩ })]) ∧
      Sample.relayed.data =
        Packet.overwrite ⟨0, 0, 0, 1, 10, 0⟩ ⟨0, 1, 0, 0, 0, 7⟩ (Sample.notice .unbuffered).data ∧
      (Sample.receiver true).2.ingress ⟨100⟩ = .tunnel ∧
      ((Sample.receiver true).2.ports.byId (Sample.far true).id).isSome = true ∧
      (∀ other, ((Sample.receiver true).2.ports.byId other).isSome = true →
        other.short = (Sample.far true).id.short → other = (Sample.far true).id) ∧
      ((Sample.receiver true).2.step (Sample.sending true) (.packetIn Sample.relayed)).calls = [] :=
  ⟨⟨_, Sample.run_handled _ _ _⟩, ⟨_, Sample.run_handled _ _ _⟩, Sample.departs true, fun _ => rfl, rfl,
    by decide +kernel, by decide +kernel, Sample.only_far true, by decide +kernel⟩

end VirtualRouter
