import VirtualRouter.Proofs.Flows.Resumption
import VirtualRouter.Proofs.Frames.LinkAddresses

/-! Which packets of a tunnel share a flow. What a packet from a tunnel is about stands in its Ethernet addresses and
    nowhere else. A flow for its exact match therefore serves one port and one next hop. A flow that leaves the Ethernet
    addresses open takes packets to every port and every next hop, and sends them all out of one port. -/

namespace VirtualRouter

/-- All packets that come in by a port and that the rule covers go through the tunnel to one port and one next hop. -/
def FlowRule.ServesOnly (rule : FlowRule) (number : PortNumber) (egress : PortId) (nextHop : Ipv4) : Prop :=
  ∀ d frame, Packet.parse d = .ok frame → rule.pattern.Covers (frame.exactMatch number) →
    (TunnelHeader.decode frame.dlSrc frame.dlDst).egress = egress ∧
      (TunnelHeader.decode frame.dlSrc frame.dlDst).nextHop = nextHop

variable {config : Config} {observed : Bool} {history past : History} {c : Controller} {x : Entry} {token : Token}
  {mac : Mac} {p : TunnelledPacket} {rule : FlowRule}

theorem Controller.fromTunnel?_inv {n : PacketIn} (h : c.fromTunnel? n = some p) :
    ∃ packet, Packet.parse n.data = .ok packet ∧ p = c.tunnelled n packet := by
  unfold fromTunnel? at h
  split at h
  · rename_i packet _ read
    exact ⟨packet, read, (Option.some.inj h).symm⟩
  · cases h

/-- A packet that waits since it came from a tunnel is as it came: nothing has been lost of its bytes, its exact match or
    what its addresses say. -/
theorem Run.waiting_tunnelled (run : Run config observed history c)
    (waits : c.parking.waiting.get? token = some (.tunnelled p)) :
    Packet.parse p.data = .ok p.packet ∧ p.incoming = p.packet.exactMatch p.inPort ∧
      p.header = .decode p.packet.dlSrc p.packet.dlDst := by
  obtain ⟨-, y, -, n, -, parks, -⟩ := run.waiting_parked waits
  obtain ⟨packet, read, rfl⟩ := Controller.fromTunnel?_inv (parks.2.tunnel p rfl)
  exact ⟨read, rfl, rfl⟩

namespace FlowRule

theorem servesOnly_of_pinned {number : PortNumber} {src dst : Mac} (pinsSrc : rule.pattern.dlSrc = some src)
    (pinsDst : rule.pattern.dlDst = some dst) :
    rule.ServesOnly number (TunnelHeader.decode src dst).egress (TunnelHeader.decode src dst).nextHop := by
  intro d frame _ covers
  obtain rfl := Option.some.inj (covers.dlSrc.of_pinned pinsSrc)
  obtain rfl := Option.some.inj (covers.dlDst.of_pinned pinsDst)
  exact ⟨rfl, rfl⟩

/-- A rule that covers a packet with every pair of Ethernet addresses serves more than one port. -/
theorem not_servesOnly_of_covers {number : PortNumber} {egress : PortId} {nextHop : Ipv4} {d : Octets} {packet : Packet}
    (read : Packet.parse d = .ok packet)
    (covers : ∀ src dst, rule.pattern.Covers ((packet.readdressed src dst).exactMatch number)) :
    ¬rule.ServesOnly number egress nextHop := by
  intro serves
  -- The same bytes, for the port whose short identifier is one higher.
  let other : TunnelHeader := ⟨egress, .ofShort (egress.short + 1), nextHop⟩
  have same : (TunnelHeader.decode other.encode.1 other.encode.2).egress = egress :=
    (serves _ _ (Packet.parse_overwrite read other.encode.1 other.encode.2) (covers _ _)).1
  rw [TunnelHeader.decode_encode] at same
  have short : egress.short + 1 = egress.short := by simpa [other] using congrArg PortId.short same
  simp at short

end FlowRule

/-- A flow that an address brings about for a packet from a tunnel sends all that it covers out of the port that the
    packet is for. It covers packets for this port and next hop only, exactly if the settings ask for exact matches. With
    wide matches, a packet of the same bytes with any other Ethernet addresses is covered too. -/
theorem Run.tunnel_flow_unmasked_iff (run : Run config observed past x.before)
    (follows : x.answers.widen = config.flows.policy.widen) (answer : x.event = .addressResolved token (some mac))
    (waits : x.before.parking.waiting.get? token = some (.tunnelled p)) (installs : .addRule rule (.ok ()) ∈ x.calls) :
    (∃ egress, x.before.ports.byId p.header.egress = some egress ∧
      ∀ h, (Action.perform rule.actions h).map Prod.fst = [egress.number]) ∧
    (rule.ServesOnly p.inPort p.header.egress p.header.nextHop ↔ config.flows.wildcards = false) ∧
    (config.flows.wildcards = true → ∀ src dst,
      Packet.parse (Packet.overwrite src dst p.data) = .ok (p.packet.readdressed src dst) ∧
        rule.pattern.Covers ((p.packet.readdressed src dst).exactMatch p.inPort)) := by
  obtain ⟨read, incoming, header⟩ := run.waiting_tunnelled waits
  obtain ⟨-, egress, here, ruled⟩ := Entry.rule_resumed answer waits installs
  have pattern : rule.pattern = config.flows.policy.widen .tunnelForward (p.packet.exactMatch p.inPort) := by
    rw [ruled, ← follows, ← incoming]
    rfl
  have masks (wide : config.flows.wildcards = true) (src dst : Mac) :
      rule.pattern.Covers ((p.packet.readdressed src dst).exactMatch p.inPort) := by
    rw [pattern, FlowSettings.policy, if_pos wide]
    exact ((HeaderMatch.Covers.self _).widen .networkOnly .tunnelForward).readdressed (.inl rfl) (.inl rfl)
  refine ⟨⟨egress, here, fun h => ?_⟩, ⟨fun serves => ?_, fun narrow => ?_⟩, fun wide src dst => ?_⟩
  · rw [ruled, actions_forwarding, Action.perform_between]
    rfl
  · exact Bool.eq_false_iff.2 fun wide => FlowRule.not_servesOnly_of_covers read (masks wide) serves
  · rw [FlowSettings.policy, narrow] at pattern
    rw [header]
    exact FlowRule.servesOnly_of_pinned (by rw [pattern]; rfl) (by rw [pattern]; rfl)
  · exact ⟨Packet.parse_overwrite read src dst, masks wide src dst⟩

/-! ### Two ports behind one tunnel -/

namespace Sample

def obliging (config : Config) : Answers := follow config (answers (.ok ()) .noRoute)

/-- A packet from the peer to one of the ports here. -/
def fromPeer (egress : VirtualPort) : PacketIn :=
  let header := TunnelHeader.encode ⟨(port 9).id, egress.id, ⟨10, 0, 0, 1⟩⟩
  .whole .unbuffered ⟨100⟩ (header.2.octets ++ header.1.octets ++ [0x88, 0xcc])

def crossing : HeaderMatch where
  inPort := some ⟨100⟩
  dlSrc := some ⟨0, 0, 0, 9, 10, 0⟩
  dlDst := some ⟨0, 1, 0, 0, 0, 1⟩
  dlType := some 0x88cc

/-- The address for a packet from the peer to the first of two ports has been found. -/
def crossed (config : Config) : Entry where
  before := (handled config (obliging config) [.portAttached (port 1), .portAttached (port 2),
    .tunnelAdded ⟨100⟩ ⟨192, 168, 0, 2⟩, .packetIn (fromPeer (port 1))]).2
  answers := obliging config
  event := .addressResolved ⟨0⟩ (some (port 3).mac)

def towardsFirst (pattern : HeaderMatch) : FlowRule :=
  (default : FlowSettings).forwarding pattern .unbuffered [.setDlSrc (port 1).mac, .setDlDst (port 3).mac, .output ⟨1⟩]

end Sample

/-- With exact matches the flow to the first port serves this port only. -/
theorem tunnel_flow_unmasked_narrow :
    let rule := Sample.towardsFirst Sample.crossing
    .addRule rule (.ok ()) ∈ (Sample.crossed default).calls ∧ rule.ServesOnly ⟨100⟩ (Sample.port 1).id ⟨10, 0, 0, 1⟩ := by
  intro rule
  have installs : .addRule rule (.ok ()) ∈ (Sample.crossed default).calls := by decide +kernel
  have waits : (Sample.crossed default).before.parking.waiting.get? ⟨0⟩ = some (.tunnelled
      { buffer := .unbuffered, inPort := ⟨100⟩, data := (Sample.fromPeer (Sample.port 1)).data,
        packet := { dlSrc := ⟨0, 0, 0, 9, 10, 0⟩, dlDst := ⟨0, 1, 0, 0, 0, 1⟩, ethertype := 0x88cc },
        incoming := Sample.crossing,
        header := ⟨(Sample.port 9).id, (Sample.port 1).id, ⟨10, 0, 0, 1⟩⟩ }) := by
    decide +kernel
  have run := Sample.run_handled default (Sample.obliging default) [.portAttached (Sample.port 1),
    .portAttached (Sample.port 2), .tunnelAdded ⟨100⟩ ⟨192, 168, 0, 2⟩, .packetIn (Sample.fromPeer (Sample.port 1))]
  exact ⟨installs, (Run.tunnel_flow_unmasked_iff run rfl rfl waits installs).2.1.2 rfl⟩

/-- With wide matches the flow to the first port takes packets to the second port as well and sends them out of the first,
    while the controller would ask for their next hop behind the second. -/
theorem tunnel_flow_masks_second :
    let x := Sample.crossed Sample.wide
    let rule := Sample.towardsFirst { inPort := some ⟨100⟩, dlType := some 0x88cc }
    let n := Sample.fromPeer (Sample.port 2)
    (∃ past, Run Sample.wide false past x.before) ∧ x.answers.widen = Sample.wide.flows.policy.widen ∧
      .addRule rule (.ok ()) ∈ x.calls ∧
      (x.after.step x.answers (.packetIn n)).calls = [.resolve ⟨1⟩ (Sample.port 2).id ⟨10, 0, 0, 1⟩] ∧
      (∃ frame, Packet.parse n.data = .ok frame ∧ rule.pattern.Covers (frame.exactMatch n.inPort)) ∧
      ∀ h, (Action.perform rule.actions h).map Prod.fst = [(Sample.port 1).number] := by
  intro x rule n
  refine ⟨⟨_, Sample.run_handled _ _ _⟩, rfl, by decide +kernel, by decide +kernel, ?_, fun _ => rfl⟩
  exact ⟨{ dlSrc := ⟨0, 0, 0, 9, 10, 0⟩, dlDst := ⟨0, 1, 0, 0, 0, 2⟩, ethertype := 0x88cc }, by decide +kernel,
    by decide +kernel⟩

end VirtualRouter
