import VirtualRouter.Proofs.Flows.PacketMatches
import VirtualRouter.Proofs.Flows.Permanence
import VirtualRouter.Proofs.Frames.BootRequests
import VirtualRouter.Proofs.Ports.Attachment
import VirtualRouter.Proofs.Tunnels.Pairing

/-! What becomes of a packet that comes in. The tests go in a fixed order, each one asked only of what the earlier ones let
    through: the port number has to be known, the bytes have to be a packet, a tunnel goes before a virtual port with the
    same number, a DHCP request goes before any look at its destination, and the simulation decides on what is left. -/

namespace VirtualRouter

variable {config : Config} {observed : Bool} {history past : History} {c : Controller} {x : Entry} {n : PacketIn}
  {number : PortNumber} {port : VirtualPort} {packet : Packet} {request : DhcpMessage} {error : PacketError}

/-! ### Where packets come in -/

/-- Packets with this port number come in by the virtual port: it is attached with the number, and no tunnel has it. -/
structure History.Enters (history : History) (number : PortNumber) (port : VirtualPort) : Prop where
  attached : history.Attached port
  numbered : port.number = number
  direct : ∀ host, ¬history.TunnelTo number host

namespace Run

theorem isTunnel_iff (run : Run config observed history c) :
    c.tunnels.isTunnel number = true ↔ ∃ host, history.TunnelTo number host := by
  have paired := run.paired number
  simp only [← run.towards_iff, paired, TunnelTable.isTunnel, Table.contains, Option.isSome_iff_exists]

theorem ingress_tunnel_iff (run : Run config observed history c) :
    c.ingress number = .tunnel ↔ ∃ host, history.TunnelTo number host := by
  rw [← run.isTunnel_iff, Controller.ingress]
  grind

theorem ingress_port_iff (run : Run config observed history c) :
    c.ingress number = .port port ↔ history.Enters number port := by
  have enters : history.Enters number port ↔
      (¬∃ host, history.TunnelTo number host) ∧ history.Attached port ∧ port.number = number := by
    rw [not_exists]
    exact ⟨fun h => ⟨h.direct, h.attached, h.numbered⟩, fun ⟨direct, attached, same⟩ => ⟨attached, same, direct⟩⟩
  rw [enters, ← run.isTunnel_iff, ← run.byNumber_iff, Controller.ingress]
  grind

theorem ingress_unknown_iff (run : Run config observed history c) : c.ingress number = .unknown ↔
    (∀ host, ¬history.TunnelTo number host) ∧ ∀ port, history.Attached port → port.number ≠ number := by
  have none : c.ports.byNumber number = none ↔ ∀ port, history.Attached port → port.number ≠ number := by
    simp [Option.eq_none_iff_forall_ne_some, run.byNumber_iff]
  rw [← not_exists, ← run.isTunnel_iff, ← none, Controller.ingress]
  grind

end Run

/-! ### What is done with them -/

namespace Entry

/-- The event brings a packet that counts as coming in by this port number: the one that it came in by, or the service
    target in place of the switch's own stack, if one is set. -/
structure ArrivesBy (x : Entry) (n : PacketIn) (number : PortNumber) : Prop where
  event : x.event = .packetIn n
  number : number = if n.inPort = .switchLocal then x.before.serviceTarget.getD n.inPort else n.inPort

/-- The calls that have the switch forget its copy of a packet, if it holds one. -/
def discards (x : Entry) (buffer : Buffer) : List Call :=
  if buffer.isBuffered then [.freeBuffer buffer (x.answers.freeBuffer buffer)] else []

theorem ArrivesBy.ingressNumber (arrives : x.ArrivesBy n number) : x.before.ingressNumber n.inPort = number :=
  arrives.number.symm

section Calls
variable (event : x.event = .packetIn n)
include event

theorem calls_packetIn : x.calls = (Turn.packetIn x.answers n ⟨x.before, []⟩).calls := by
  rw [calls, event]
  rfl

theorem calls_unknown (source : x.before.ingress (x.before.ingressNumber n.inPort) = .unknown) :
    x.calls = x.discards n.buffer := by
  rw [calls_packetIn event, Course.packetIn_unknown x.answers x.before source]
  simp [Trail.calls_freeing, discards]

theorem calls_malformed (unread : Packet.parse n.data = .error error) : x.calls = x.discards n.buffer := by
  by_cases source : x.before.ingress (x.before.ingressNumber n.inPort) = .unknown
  · exact calls_unknown event source
  · rw [calls_packetIn event, Course.packetIn_malformed x.answers x.before source unread]
    simp [Trail.calls_freeing, discards]

theorem calls_tunnel (source : x.before.ingress (x.before.ingressNumber n.inPort) = .tunnel)
    (read : Packet.parse n.data = .ok packet) :
    x.calls =
      let header := TunnelHeader.decode packet.dlSrc packet.dlDst
      if (x.before.ports.byId header.egress).isSome then
        [.resolve x.before.parking.nextToken header.egress header.nextHop]
      else [] := by
  have calls : x.calls = (Turn.packetFromTunnel (x.before.tunnelled n packet)
      (Turn.along ⟨x.before, []⟩ (.count .packetsIn))).calls := by
    rw [calls_packetIn event, Course.packetIn_tunnel x.answers x.before source read]
  rw [calls, Turn.packetFromTunnel, apply_ite Turn.calls, Turn.count_eq]
  rfl

theorem calls_dhcp (source : x.before.ingress (x.before.ingressNumber n.inPort) = .port port)
    (read : Packet.parse n.data = .ok packet) (boot : packet.bootRequest? = some request) :
    x.calls = .dhcp port request packet.dlSrc :: x.discards n.buffer := by
  rw [calls_packetIn event, Course.packetIn_port x.answers x.before source read, Turn.packetFromPort]
  simp [Controller.arrival, boot, Turn.count_eq, Turn.call_eq, Turn.freeBuffer_eq, Trail.calls_freeing, discards]

theorem calls_misdelivered (source : x.before.ingress (x.before.ingressNumber n.inPort) = .port port)
    (read : Packet.parse n.data = .ok packet) (plain : packet.bootRequest? = none)
    (elsewhere : ¬(packet.dlDst = port.mac ∨ packet.dlDst.isMulticast = true)) :
    x.calls =
      let rule := x.before.flows.blackhole (packet.exactMatch (x.before.ingressNumber n.inPort)) n.buffer
      [.addRule rule (x.answers.addRule rule)] := by
  rw [calls_packetIn event, Course.packetIn_port x.answers x.before source read, Turn.packetFromPort]
  simp [Controller.arrival, plain, elsewhere, Turn.count_eq, Turn.blackhole_eq]

theorem decides_addressed (source : x.before.ingress (x.before.ingressNumber n.inPort) = .port port)
    (read : Packet.parse n.data = .ok packet) (plain : packet.bootRequest? = none)
    (addressed : packet.dlDst = port.mac ∨ packet.dlDst.isMulticast = true) :
    x.Decides n port packet (x.answers.process (x.before.arrival n port packet)) := by
  obtain ⟨c', trail, course, -, calls⟩ := x.course
  rw [event] at course
  cases course with
  | arrives course =>
    cases course with
    | unknown source' | astray source' | parked source' => cases source.symm.trans source'
    | malformed _ unread => cases read.symm.trans unread
    | dhcp _ read' boot =>
      cases read.symm.trans read'
      cases plain.symm.trans boot
    | misdelivered source' read' _ elsewhere =>
      cases source.symm.trans source'
      cases read.symm.trans read'
      exact absurd addressed elsewhere
    | failed source' read' | decided source' read' =>
      cases source.symm.trans source'
      cases read.symm.trans read'
      exact decides_of_calls event source read calls

end Calls

theorem outcomes_le_one (x : Entry) : (x.calls.filterMap Call.outcome?).length ≤ 1 := by
  have first := x.decided_first
  cases calls : x.calls with
  | nil => exact Nat.zero_le 1
  | cons call rest =>
    rw [calls, List.tail_cons] at first
    rw [List.filterMap_cons, first]
    split <;> simp

theorem Decides.plain {o : Outcome} (decides : x.Decides n port packet o) : packet.bootRequest? = none := by
  cases boot : packet.bootRequest? with
  | none => rfl
  | some request =>
    have asked := decides.asked
    rw [calls_dhcp decides.event decides.source decides.read boot, discards] at asked
    split at asked <;> simp at asked

end Entry

namespace Run

/-- The simulation is asked about a packet exactly if it comes in by a virtual port, is no DHCP request and is sent to the
    port or to a group, and it is asked about this packet. -/
theorem asked_iff (run : Run config observed past x.before) {arrival : Arrival} {o : Outcome} :
    .process arrival o ∈ x.calls ↔ ∃ n number port packet, x.ArrivesBy n number ∧ past.Enters number port ∧
      Packet.parse n.data = .ok packet ∧ (∀ payload, ¬Packet.CarriesRequest n.data payload) ∧
      (packet.dlDst = port.mac ∨ packet.dlDst.isMulticast = true) ∧
      arrival = ⟨port.id, packet.exactMatch number, packet⟩ ∧ o = x.answers.process arrival := by
  constructor
  · intro asked
    obtain ⟨n, port, packet, rest, rfl, decides, -, -⟩ := Entry.follows_of_process asked
    exact ⟨n, _, port, packet, ⟨decides.event, rfl⟩, run.ingress_port_iff.1 decides.source, decides.read,
      (Packet.bootRequest?_eq_none_iff decides.read).1 decides.plain, decides.addressed, rfl, decides.outcome⟩
  · rintro ⟨n, number, port, packet, arrives, enters, read, plain, addressed, rfl, rfl⟩
    cases arrives.ingressNumber
    have plain := (Packet.bootRequest?_eq_none_iff read).2 plain
    exact (Entry.decides_addressed arrives.event (run.ingress_port_iff.2 enters) read plain addressed).asked

theorem calls_from_tunnel (run : Run config observed past x.before) (arrives : x.ArrivesBy n number)
    (read : Packet.parse n.data = .ok packet) {host : Ipv4} (tunnel : past.TunnelTo number host) :
    let header := TunnelHeader.decode packet.dlSrc packet.dlDst
    (∀ egress, past.Attached egress → egress.id = header.egress →
        x.calls = [.resolve x.before.parking.nextToken header.egress header.nextHop]) ∧
      ((∀ egress, past.Attached egress → egress.id ≠ header.egress) → x.calls = []) := by
  cases arrives.ingressNumber
  rw [Entry.calls_tunnel arrives.event (run.ingress_tunnel_iff.2 ⟨host, tunnel⟩) read]
  refine ⟨fun egress attached here => if_pos ?_, fun away => if_neg ?_⟩
  · rw [← here, run.attached_iff.2 attached]
    rfl
  · rw [run.byId_eq_none fun egress here attached => away egress attached here]
    nofun

theorem calls_from_port (run : Run config observed past x.before) (arrives : x.ArrivesBy n number)
    (read : Packet.parse n.data = .ok packet) (enters : past.Enters number port) :
    (∀ payload, Packet.CarriesRequest n.data payload →
        x.calls = .dhcp port ⟨1, payload⟩ packet.dlSrc :: x.discards n.buffer) ∧
      ((∀ payload, ¬Packet.CarriesRequest n.data payload) →
        ¬(packet.dlDst = port.mac ∨ packet.dlDst.isMulticast = true) →
        let rule := config.flows.blackhole (packet.exactMatch number) n.buffer
        x.calls = [.addRule rule (x.answers.addRule rule)]) := by
  cases arrives.ingressNumber
  have source := run.ingress_port_iff.2 enters
  refine ⟨fun payload carries => ?_, fun plain elsewhere => ?_⟩
  · exact Entry.calls_dhcp arrives.event source read ((Packet.bootRequest?_eq_some_iff read).2 ⟨rfl, carries⟩)
  · have flows : x.before.flows = config.flows := run.settings.flows
    rw [← flows]
    exact Entry.calls_misdelivered arrives.event source read ((Packet.bootRequest?_eq_none_iff read).2 plain) elsewhere

/-- The simulation is asked at most once during an event, and this exactly if a packet comes in by an attached port whose
    number no tunnel has, its bytes are a packet but no DHCP request, and it is sent to the port or to a group: no other
    event asks it. All other packets have one outcome each. From a port that is neither virtual nor a tunnel, or with bytes
    that are no packet, the switch's copy is freed and nothing else done. From a tunnel, also if a virtual port has its
    number, one address is asked for if the port that the Ethernet addresses name is attached, and nothing done if not. A
    DHCP request goes to the DHCP service, as the payload of its datagram with the port and the sender, before the copy is
    freed. A packet sent to another station is dropped by one rule with its exact match, which with settings that can be
    used ends by itself. -/
theorem packet_dispatched (run : Run config observed past x.before) :
    (x.calls.filterMap Call.outcome?).length ≤ 1 ∧
      (∀ arrival o, .process arrival o ∈ x.calls ↔ ∃ n number port packet,
        x.ArrivesBy n number ∧ past.Enters number port ∧ Packet.parse n.data = .ok packet ∧
          (∀ payload, ¬Packet.CarriesRequest n.data payload) ∧
          (packet.dlDst = port.mac ∨ packet.dlDst.isMulticast = true) ∧
          arrival = ⟨port.id, packet.exactMatch number, packet⟩ ∧ o = x.answers.process arrival) ∧
      ∀ n number, x.ArrivesBy n number →
        ((∀ host, ¬past.TunnelTo number host) → (∀ port, past.Attached port → port.number ≠ number) →
          x.calls = x.discards n.buffer) ∧
        (∀ error, Packet.parse n.data = .error error → x.calls = x.discards n.buffer) ∧
        ∀ packet, Packet.parse n.data = .ok packet →
          (∀ host, past.TunnelTo number host →
            let header := TunnelHeader.decode packet.dlSrc packet.dlDst
            (∀ egress, past.Attached egress → egress.id = header.egress →
              x.calls = [.resolve x.before.parking.nextToken header.egress header.nextHop]) ∧
            ((∀ egress, past.Attached egress → egress.id ≠ header.egress) → x.calls = [])) ∧
          ∀ port, past.Enters number port →
            (∀ payload, Packet.CarriesRequest n.data payload →
              x.calls = .dhcp port ⟨1, payload⟩ packet.dlSrc :: x.discards n.buffer) ∧
            ((∀ payload, ¬Packet.CarriesRequest n.data payload) →
              ¬(packet.dlDst = port.mac ∨ packet.dlDst.isMulticast = true) →
              let rule := config.flows.blackhole (packet.exactMatch number) n.buffer
              x.calls = [.addRule rule (x.answers.addRule rule)] ∧ rule.isDrop = true ∧
                rule.pattern = packet.exactMatch number ∧ (config.validate = .ok () → rule.IsTemporary)) := by
  refine ⟨x.outcomes_le_one, fun _ _ => run.asked_iff, fun n number arrives => ⟨fun direct free => ?_, ?_, ?_⟩⟩
  · cases arrives.ingressNumber
    exact Entry.calls_unknown arrives.event (run.ingress_unknown_iff.2 ⟨direct, free⟩)
  · exact fun error unread => Entry.calls_malformed arrives.event unread
  · refine fun packet read => ⟨fun host tunnel => run.calls_from_tunnel arrives read tunnel, fun port enters => ?_⟩
    obtain ⟨dhcp, misdelivered⟩ := run.calls_from_port arrives read enters
    refine ⟨dhcp, fun plain elsewhere => ⟨misdelivered plain elsewhere, rfl, rfl, fun valid => ?_⟩⟩
    exact FlowRule.isTemporary_blackhole valid ..

end Run

namespace Sample

/-- A tunnel is laid on the number of the first port, while the port stays attached; then a packet comes in by it. -/
def overlapping : Entry where
  before := (handled default (delivering .empty) [.portAttached (Sample.port 1), .tunnelAdded ⟨1⟩ .localhost]).2
  answers := delivering .empty
  event := .packetIn (notice ⟨7⟩)

end Sample

/-- A packet to the address of the port that it comes in by is not put to the simulation if a tunnel has the number of the
    port: its addresses are read as those of a packet from a tunnel, here towards the same port. -/
theorem packet_dispatched_overlapping :
    (∀ arrival o, .process arrival o ∉ Sample.overlapping.calls) ∧
      Sample.overlapping.calls = [.resolve ⟨0⟩ (Sample.port 1).id ⟨0, 9, 2, 0⟩] := by
  have run : Run default false
      (Sample.handled default (Sample.delivering .empty)
        [.portAttached (Sample.port 1), .tunnelAdded ⟨1⟩ .localhost]).1 Sample.overlapping.before :=
    Sample.run_handled default (Sample.delivering .empty) _
  have tunnel : History.TunnelTo _ ⟨1⟩ .localhost := run.towards_iff.1 (by decide +kernel)
  have attached : History.Attached _ (Sample.port 1) := run.attached_iff.1 (by decide +kernel)
  have arrives : Sample.overlapping.ArrivesBy (Sample.notice ⟨7⟩) ⟨1⟩ := ⟨rfl, by decide⟩
  have read : Packet.parse (Sample.notice ⟨7⟩).data =
      .ok { dlSrc := ⟨2, 0, 0, 0, 0, 9⟩, dlDst := ⟨2, 0, 0, 0, 0, 1⟩, ethertype := 0x88cc } := by decide +kernel
  obtain ⟨-, asked, outcomes⟩ := Run.packet_dispatched run
  refine ⟨fun arrival o mem => ?_, ?_⟩
  · obtain ⟨n, number, port, packet, arrives', enters, -⟩ := (asked arrival o).1 mem
    cases arrives'.event
    cases arrives'.ingressNumber.symm.trans arrives.ingressNumber
    exact enters.direct _ tunnel
  · exact (((outcomes _ _ arrives).2.2 _ read).1 _ tunnel).1 _ attached (by decide)

end VirtualRouter
