import VirtualRouter.Proofs.Handling.Trail

/-! Everything that an event can lead to. Each relation of this file has one constructor for each way that a handler
    can go, with the conditions of that way, the registries after it and the trail that it leaves. `step_course` says
    that a step of the controller goes one of these ways, so that what holds of each of them holds of every step. -/

namespace VirtualRouter

/-! ### Trails of handlers -/

namespace Trail

/-- The resolver is asked for an address. -/
def ask (token : Token) (port : PortId) (nextHop : Ipv4) : Trail :=
  count .resolutionsStarted ++ call (.resolve token port nextHop)

/-- A packet that cannot be delivered is dropped, and the policy told why. -/
def reject (a : Answers) (s : FlowSettings) (code : UnreachableCode) (d : DecidedPacket) : Trail :=
  drop a (s.blackhole d.incoming d.buffer) ++ release a d.incoming d.elements ++
    call (.unreachable code d.source d.packet)

@[simp] theorem calls_ask (token : Token) (port : PortId) (nextHop : Ipv4) :
    (ask token port nextHop).calls = [.resolve token port nextHop] := rfl

@[simp] theorem calls_reject (a : Answers) (s : FlowSettings) (code : UnreachableCode) (d : DecidedPacket) :
    (reject a s code d).calls = .addRule (s.blackhole d.incoming d.buffer) (a.addRule (s.blackhole d.incoming d.buffer)) ::
      (d.elements.toList.map fun e => .freeFlow e d.incoming (a.freeFlow e d.incoming)) ++
        [.unreachable code d.source d.packet] := by
  simp [reject]

end Trail

/-- The rule for a packet towards a port that is not attached here. -/
def Controller.routing (c : Controller) (d : DecidedPacket) (out : PortId) (nextHop : Ipv4)
    (hosts : Option (OrderedSet Ipv4)) : FlowRule :=
  c.flows.forwarding d.incoming d.buffer
    (Action.between d.incoming (c.towards d out nextHop hosts).2 (c.towards d out nextHop hosts).1.toList)

/-- The rule for a packet from a tunnel whose next hop has been found. -/
def Controller.tunnelRule (c : Controller) (p : TunnelledPacket) (pattern : HeaderMatch) (egress : VirtualPort)
    (mac : Mac) : FlowRule :=
  c.flows.forwarding pattern p.buffer
    (Action.between p.incoming (Turn.addressed p.incoming egress mac) [egress.number])

/-- The rule for a packet between local ports whose next hop has been found. -/
def Controller.localRule (c : Controller) (p : LocalPacket) (pattern : HeaderMatch) (egress : VirtualPort) (mac : Mac) :
    FlowRule :=
  c.flows.forwarding pattern p.buffer
    (Action.between p.incoming (Turn.addressed p.wanted egress mac) [egress.number])

section Rules
variable (c : Controller) (d : DecidedPacket) (out : PortId) (nextHop : Ipv4) (hosts : Option (OrderedSet Ipv4))
  (q : TunnelledPacket) (p : LocalPacket) (pattern : HeaderMatch) (egress : VirtualPort) (mac : Mac)

@[simp] theorem pattern_routing : (c.routing d out nextHop hosts).pattern = d.incoming := rfl

@[simp] theorem buffer_routing : (c.routing d out nextHop hosts).buffer = d.buffer := rfl

@[simp] theorem notifyRemoval_routing : (c.routing d out nextHop hosts).notifyRemoval = true := rfl

theorem isDrop_routing (somewhere : (c.towards d out nextHop hosts).1.isEmpty = false) :
    (c.routing d out nextHop hosts).isDrop = false := by
  have ports : (c.towards d out nextHop hosts).1.toList ≠ [] := by
    simpa [OrderedSet.isEmpty] using somewhere
  simp [Controller.routing, FlowRule.isDrop, Action.between, ports]

@[simp] theorem pattern_tunnelRule : (c.tunnelRule q pattern egress mac).pattern = pattern := rfl

@[simp] theorem buffer_tunnelRule : (c.tunnelRule q pattern egress mac).buffer = q.buffer := rfl

@[simp] theorem notifyRemoval_tunnelRule : (c.tunnelRule q pattern egress mac).notifyRemoval = true := rfl

@[simp] theorem isDrop_tunnelRule : (c.tunnelRule q pattern egress mac).isDrop = false := by
  simp [Controller.tunnelRule, FlowRule.isDrop, Action.between]

@[simp] theorem pattern_localRule : (c.localRule p pattern egress mac).pattern = pattern := rfl

@[simp] theorem buffer_localRule : (c.localRule p pattern egress mac).buffer = p.buffer := rfl

@[simp] theorem notifyRemoval_localRule : (c.localRule p pattern egress mac).notifyRemoval = true := rfl

@[simp] theorem isDrop_localRule : (c.localRule p pattern egress mac).isDrop = false := by
  simp [Controller.localRule, FlowRule.isDrop, Action.between]

end Rules

namespace Course

/-! ### Verdicts -/

/-- Carrying out a verdict on a packet. -/
inductive CarriesOut (a : Answers) (c : Controller) (d : DecidedPacket) : Verdict → Controller → Trail → Prop
  | blackhole : CarriesOut a c d .blackhole c
      (.call (.widen .blackhole d.incoming (a.widen .blackhole d.incoming)) ++
        .drop a (c.flows.blackhole (a.widen .blackhole d.incoming) d.buffer) ++
        .announce c.observed d.incoming (a.widen .blackhole d.incoming) d.ingress d.elements ++
        .release a d.incoming d.elements)
  | consumed : CarriesOut a c d .consumed c (.freeing a d.buffer)
  | parked {out : PortId} {nextHop : Ipv4} (here : (c.ports.byId out).isSome = true) :
      CarriesOut a c d (.forward out nextHop)
        { c with parking := (c.parking.park (.toLocal { d with egress := out })).1 }
        (.ask c.parking.nextToken out nextHop)
  | stranded {out : PortId} {nextHop : Ipv4} (away : (c.ports.byId out).isSome = false)
      (nowhere : (c.towards d out nextHop (a.participants out)).1.isEmpty = true) :
      CarriesOut a c d (.forward out nextHop) c
        (.call (.participants out (a.participants out)) ++ .reject a c.flows .net d)
  | forwarded {out : PortId} {nextHop : Ipv4} (away : (c.ports.byId out).isSome = false)
      (somewhere : (c.towards d out nextHop (a.participants out)).1.isEmpty = false)
      (taken : a.addRule (c.routing d out nextHop (a.participants out)) = .ok ()) :
      CarriesOut a c d (.forward out nextHop) { c with ledger := c.ledger.record d.incoming d.elements }
        (.call (.participants out (a.participants out)) ++
          .accepted a (c.routing d out nextHop (a.participants out)) d.data)
  | refused {out : PortId} {nextHop : Ipv4} {error : DatapathError} (away : (c.ports.byId out).isSome = false)
      (somewhere : (c.towards d out nextHop (a.participants out)).1.isEmpty = false)
      (refusal : a.addRule (c.routing d out nextHop (a.participants out)) = .error error) :
      CarriesOut a c d (.forward out nextHop) c
        (.call (.participants out (a.participants out)) ++
          .refused a (c.routing d out nextHop (a.participants out)) error ++ .release a d.incoming d.elements)
  | notIpv4 : CarriesOut a c d .notIpv4 c (.drop a (.dropping d.incoming.ethertypeOnly d.buffer 0 0))
  | noRoute : CarriesOut a c d .noRoute c (.reject a c.flows .net d)
  | rejected : CarriesOut a c d .reject c (.reject a c.flows .filterProhibited d)

/-! ### Arrivals -/

/-- The arrival of a packet. -/
inductive Arrives (a : Answers) (c : Controller) (n : PacketIn) : Controller → Trail → Prop
  | unknown (source : c.ingress (c.ingressNumber n.inPort) = .unknown) :
      Arrives a c n c (.count .packetsIn ++ .discard a n.buffer)
  | malformed {error : PacketError} (known : c.ingress (c.ingressNumber n.inPort) ≠ .unknown)
      (unread : Packet.parse n.data = .error error) :
      Arrives a c n c (.count .packetsIn ++ .count .malformedPackets ++ .discard a n.buffer)
  | astray {packet : Packet} (source : c.ingress (c.ingressNumber n.inPort) = .tunnel)
      (read : Packet.parse n.data = .ok packet)
      (away : (c.ports.byId (c.tunnelled n packet).header.egress).isSome = false) :
      Arrives a c n c (.count .packetsIn ++ .count .packetsDropped)
  | parked {packet : Packet} (source : c.ingress (c.ingressNumber n.inPort) = .tunnel)
      (read : Packet.parse n.data = .ok packet)
      (here : (c.ports.byId (c.tunnelled n packet).header.egress).isSome = true) :
      Arrives a c n { c with parking := (c.parking.park (.tunnelled (c.tunnelled n packet))).1 }
        (.count .packetsIn ++ .ask c.parking.nextToken (c.tunnelled n packet).header.egress
          (c.tunnelled n packet).header.nextHop)
  | dhcp {packet : Packet} {ingress : VirtualPort} {request : DhcpMessage}
      (source : c.ingress (c.ingressNumber n.inPort) = .port ingress) (read : Packet.parse n.data = .ok packet)
      (boot : packet.bootRequest? = some request) :
      Arrives a c n c (.count .packetsIn ++ .count .dhcpRequests ++ .call (.dhcp ingress request packet.dlSrc) ++
        .freeing a n.buffer)
  | misdelivered {packet : Packet} {ingress : VirtualPort}
      (source : c.ingress (c.ingressNumber n.inPort) = .port ingress) (read : Packet.parse n.data = .ok packet)
      (plain : packet.bootRequest? = none) (elsewhere : ¬(packet.dlDst = ingress.mac ∨ packet.dlDst.isMulticast = true)) :
      Arrives a c n c (.count .packetsIn ++ .count .packetsDropped ++
        .drop a (c.flows.blackhole (c.arrival n ingress packet).incoming n.buffer))
  | failed {packet : Packet} {ingress : VirtualPort} {error : SimulationError}
      (source : c.ingress (c.ingressNumber n.inPort) = .port ingress) (read : Packet.parse n.data = .ok packet)
      (plain : packet.bootRequest? = none) (addressed : packet.dlDst = ingress.mac ∨ packet.dlDst.isMulticast = true)
      (failure : (a.process (c.arrival n ingress packet)).verdict = .error error) :
      Arrives a c n c (.count .packetsIn ++
        .call (.process (c.arrival n ingress packet) (a.process (c.arrival n ingress packet))) ++
        .count .simulationErrors ++ .discard a n.buffer ++
        .release a (a.process (c.arrival n ingress packet)).arrival.incoming
          (a.process (c.arrival n ingress packet)).elements)
  | decided {packet : Packet} {ingress : VirtualPort} {verdict : Verdict} {c' : Controller} {x : Trail}
      (source : c.ingress (c.ingressNumber n.inPort) = .port ingress) (read : Packet.parse n.data = .ok packet)
      (plain : packet.bootRequest? = none) (addressed : packet.dlDst = ingress.mac ∨ packet.dlDst.isMulticast = true)
      (decision : (a.process (c.arrival n ingress packet)).verdict = .ok verdict)
      (course : CarriesOut a c ((a.process (c.arrival n ingress packet)).decided n.buffer n.data ingress.id)
        verdict c' x) :
      Arrives a c n c' (.count .packetsIn ++
        .call (.process (c.arrival n ingress packet) (a.process (c.arrival n ingress packet))) ++ x)

/-! ### Answers of the resolver -/

/-- Going on with a packet that waited: with the address of its next hop, or without. -/
inductive Resumes (a : Answers) (c : Controller) : ParkedPacket → Option Mac → Controller → Trail → Prop
  | vanishedTunnelled {p : TunnelledPacket} {mac : Mac} (gone : c.ports.byId p.header.egress = none) :
      Resumes a c (.tunnelled p) (some mac) c (.count .resolutionsSucceeded ++ .discard a p.buffer)
  | relayed {p : TunnelledPacket} {mac : Mac} {egress : VirtualPort}
      (here : c.ports.byId p.header.egress = some egress) (relay : p.header.isIcmpRelay = true) :
      Resumes a c (.tunnelled p) (some mac) c (.count .resolutionsSucceeded ++
        .send a p.buffer p.inPort
          (Action.between p.incoming (Turn.addressed p.incoming egress mac) [egress.number]) p.data)
  | forwardedTunnelled {p : TunnelledPacket} {mac : Mac} {egress : VirtualPort}
      (here : c.ports.byId p.header.egress = some egress) (plain : p.header.isIcmpRelay = false)
      (taken : a.addRule (c.tunnelRule p (a.widen .tunnelForward p.incoming) egress mac) = .ok ()) :
      Resumes a c (.tunnelled p) (some mac)
        { c with ledger := c.ledger.record (a.widen .tunnelForward p.incoming) .empty }
        (.count .resolutionsSucceeded ++
          .call (.widen .tunnelForward p.incoming (a.widen .tunnelForward p.incoming)) ++
          .accepted a (c.tunnelRule p (a.widen .tunnelForward p.incoming) egress mac) p.data)
  | refusedTunnelled {p : TunnelledPacket} {mac : Mac} {egress : VirtualPort} {error : DatapathError}
      (here : c.ports.byId p.header.egress = some egress) (plain : p.header.isIcmpRelay = false)
      (refusal : a.addRule (c.tunnelRule p (a.widen .tunnelForward p.incoming) egress mac) = .error error) :
      Resumes a c (.tunnelled p) (some mac) c (.count .resolutionsSucceeded ++
        .call (.widen .tunnelForward p.incoming (a.widen .tunnelForward p.incoming)) ++
        .refused a (c.tunnelRule p (a.widen .tunnelForward p.incoming) egress mac) error)
  | timedOutTunnelled {p : TunnelledPacket} :
      Resumes a c (.tunnelled p) none c (.count .resolutionsFailed ++
        .drop a (c.flows.blackhole p.incoming p.buffer) ++ .call (.unreachable .host p.header.ingress p.packet))
  | vanishedLocal {p : LocalPacket} {mac : Mac} (gone : c.ports.byId p.egress = none) :
      Resumes a c (.toLocal p) (some mac) c
        (.count .resolutionsSucceeded ++ .release a p.incoming p.elements ++ .discard a p.buffer)
  | forwardedLocal {p : LocalPacket} {mac : Mac} {egress : VirtualPort} (here : c.ports.byId p.egress = some egress)
      (taken : a.addRule (c.localRule p (a.widen .localForward p.incoming) egress mac) = .ok ()) :
      Resumes a c (.toLocal p) (some mac)
        { c with ledger := c.ledger.record (a.widen .localForward p.incoming) p.elements }
        (.count .resolutionsSucceeded ++
          .call (.widen .localForward p.incoming (a.widen .localForward p.incoming)) ++
          .accepted a (c.localRule p (a.widen .localForward p.incoming) egress mac) p.data ++
          .announce c.observed p.incoming (a.widen .localForward p.incoming) p.ingress p.elements)
  | refusedLocal {p : LocalPacket} {mac : Mac} {egress : VirtualPort} {error : DatapathError}
      (here : c.ports.byId p.egress = some egress)
      (refusal : a.addRule (c.localRule p (a.widen .localForward p.incoming) egress mac) = .error error) :
      Resumes a c (.toLocal p) (some mac) c (.count .resolutionsSucceeded ++
        .call (.widen .localForward p.incoming (a.widen .localForward p.incoming)) ++
        .refused a (c.localRule p (a.widen .localForward p.incoming) egress mac) error ++
        .release a p.incoming p.elements)
  | timedOutLocal {p : LocalPacket} :
      Resumes a c (.toLocal p) none c (.count .resolutionsFailed ++
        .drop a (c.flows.blackhole p.incoming p.buffer) ++ .release a p.incoming p.elements ++
        .call (.unreachable .host p.ingress p.packet))

/-! ### Events -/

/-- The handling of an event. -/
inductive Handles (a : Answers) (c : Controller) : Event → Controller → Trail → Prop
  | arrives {n : PacketIn} {c' : Controller} {x : Trail} (course : Arrives a c n c' x) :
      Handles a c (.packetIn n) c' x
  | removed {r : FlowRemoval} :
      Handles a c (.flowRemoved r) { c with ledger := (c.ledger.release r.pattern).1 }
        (.count .flowsRemoved ++ .release a r.pattern (c.ledger.release r.pattern).2)
  | unasked {token : Token} {mac : Option Mac} (absent : c.parking.waiting.get? token = none) :
      Handles a c (.addressResolved token mac) c {}
  | resumes {token : Token} {mac : Option Mac} {p : ParkedPacket} {c' : Controller} {x : Trail}
      (waits : c.parking.waiting.get? token = some p)
      (course : Resumes a { c with parking := (c.parking.take token).1 } p mac c' x) :
      Handles a c (.addressResolved token mac) c' x
  | attached {port : VirtualPort} {ports : PortTable} (fits : c.ports.attach port = .ok ports) :
      Handles a c (.portAttached port) { c with ports }
        (.call (.addPort port (a.addPort port)) ++
          .call (.addRule (dhcpRule port.number) (a.addRule (dhcpRule port.number))) ++
          .failure .datapathErrors (a.addRule (dhcpRule port.number)))
  | unattached {port : VirtualPort} {fault : Fault} (clash : c.ports.attach port = .error fault) :
      Handles a c (.portAttached port) c {}
  | detached {id : PortId} {ports : PortTable} {port : VirtualPort} (found : c.ports.detach id = .ok (ports, port)) :
      Handles a c (.portDetached id) { c with ports, slices := (c.slices.leaveAll port.number).1 }
        (.call (.removePort port (a.removePort port)))
  | undetached {id : PortId} {fault : Fault} (absent : c.ports.detach id = .error fault) :
      Handles a c (.portDetached id) c {}
  | tunnelAdded {number : PortNumber} {peer : Ipv4} :
      Handles a c (.tunnelAdded number peer) { c with tunnels := c.tunnels.add number peer } {}
  | tunnelRemoved {number : PortNumber} :
      Handles a c (.tunnelRemoved number) { c with tunnels := (c.tunnels.remove number).1 } {}
  | located {id : PortId} {host : Ipv4} :
      Handles a c (.portLocated id host) { c with tunnels := c.tunnels.locate id host } {}
  | unlocated {id : PortId} :
      Handles a c (.portUnlocated id) { c with tunnels := (c.tunnels.unlocate id).1 } {}
  | participantAdded {set : PortId} {host : Ipv4} :
      Handles a c (.participantAdded set host) c (.call (.addParticipant set host))
  | participantRemoved {set : PortId} {host : Ipv4} :
      Handles a c (.participantRemoved set host) c (.call (.removeParticipant set host))
  | joined {set : PortId} {number : PortNumber} :
      Handles a c (.portJoined set number) { c with slices := (c.slices.join set number).1 } {}
  | left {set : PortId} {number : PortNumber} :
      Handles a c (.portLeft set number) { c with slices := (c.slices.leave set number).1 } {}
  | shutdown : Handles a c .shutdown c {}

/-! ### Every handler goes one of these ways -/

section Exists
variable (a : Answers) (c : Controller)

theorem requestAddress_eq (ks : List Counter) (cs : List Call) (port : PortId) (nextHop : Ipv4) (p : ParkedPacket) :
    Turn.requestAddress port nextHop p ⟨c.counting ks, cs⟩ =
      Turn.along ⟨({ c with parking := (c.parking.park p).1 } : Controller).counting ks, cs⟩
        (.ask c.parking.nextToken port nextHop) := by
  simp only [Turn.requestAddress, Turn.count_eq, Turn.call_eq, Turn.along_along]
  rfl

theorem reject_eq (t : Turn) (code : UnreachableCode) (d : DecidedPacket) :
    t.reject a code d = t.along (.reject a t.controller.flows code d) := by
  simp only [Turn.reject, Turn.blackhole_eq, Turn.releaseElements_eq, Turn.unreachable_eq, Turn.along_along, Trail.reject]

theorem carriesOut (d : DecidedPacket) (v : Verdict) :
    ∃ c' x, CarriesOut a c d v c' x ∧
      ∀ ks cs, Turn.carryOut a d ⟨c.counting ks, cs⟩ v = Turn.along ⟨c'.counting ks, cs⟩ x := by
  cases v with
  | blackhole =>
    refine ⟨_, _, .blackhole, fun ks cs => ?_⟩
    simp [Turn.carryOut, Turn.widen_eq, Turn.blackhole_eq, Turn.announce_eq, Turn.releaseElements_eq]
  | consumed => exact ⟨_, _, .consumed, fun ks cs => Turn.freeBuffer_eq ..⟩
  | forward out nextHop =>
    cases here : (c.ports.byId out).isSome with
    | true =>
      refine ⟨_, _, .parked here, fun ks cs => ?_⟩
      simp only [Turn.carryOut, Turn.forward, Controller.ports_counting, here, if_true]
      exact requestAddress_eq ..
    | false =>
      have open_ : ∀ ks cs, Turn.carryOut a d ⟨c.counting ks, cs⟩ (.forward out nextHop) =
          let t := Turn.along ⟨c.counting ks, cs⟩ (.call (.participants out (a.participants out)))
          if (c.towards d out nextHop (a.participants out)).1.isEmpty then t.reject a .net d
          else t.forwardExact a d (c.towards d out nextHop (a.participants out)).1
            (c.towards d out nextHop (a.participants out)).2 := by
        intro ks cs
        simp only [Turn.carryOut, Turn.forward, Controller.ports_counting, here]
        rfl
      cases ports : (c.towards d out nextHop (a.participants out)).1.isEmpty with
      | true =>
        refine ⟨_, _, .stranded here ports, fun ks cs => ?_⟩
        simp [open_, ports, reject_eq]
      | false =>
        cases answer : a.addRule (c.routing d out nextHop (a.participants out)) with
        | ok _ =>
          refine ⟨_, _, .forwarded here ports answer, fun ks cs => ?_⟩
          simp only [open_, ports, Turn.forwardExact]
          rw [Turn.installForward_ok _ _ _ (by exact answer)]
          simp
          rfl
        | error e =>
          refine ⟨_, _, .refused here ports answer, fun ks cs => ?_⟩
          simp only [open_, ports, Turn.forwardExact]
          rw [Turn.installForward_error _ _ _ (by exact answer)]
          simp [Turn.releaseElements_eq, Trail.append_assoc]
          rfl
  | notIpv4 => exact ⟨_, _, .notIpv4, fun ks cs => Turn.installDrop_eq ..⟩
  | noRoute => exact ⟨_, _, .noRoute, fun ks cs => reject_eq ..⟩
  | reject => exact ⟨_, _, .rejected, fun ks cs => reject_eq ..⟩

section Ingress
variable {n : PacketIn}

@[simp] theorem ingress_counting (ks : List Counter) (number : PortNumber) :
    (c.counting ks).ingress number = c.ingress number := rfl

@[simp] theorem ingressNumber_counting (ks : List Counter) (number : PortNumber) :
    (c.counting ks).ingressNumber number = c.ingressNumber number := rfl

@[simp] theorem tunnelled_counting (ks : List Counter) (packet : Packet) :
    (c.counting ks).tunnelled n packet = c.tunnelled n packet := rfl

@[simp] theorem arrival_counting (ks : List Counter) (ingress : VirtualPort) (packet : Packet) :
    (c.counting ks).arrival n ingress packet = c.arrival n ingress packet := rfl

theorem packetIn_unknown (source : c.ingress (c.ingressNumber n.inPort) = .unknown) :
    Turn.packetIn a n ⟨c, []⟩ = Turn.along ⟨c, []⟩ (.count .packetsIn ++ .discard a n.buffer) := by
  simp only [Turn.packetIn, Turn.count_eq, Turn.controller_along, ingress_counting, ingressNumber_counting, source,
    Turn.discard_eq, Turn.along_along]

theorem packetIn_malformed {error : PacketError} (known : c.ingress (c.ingressNumber n.inPort) ≠ .unknown)
    (unread : Packet.parse n.data = .error error) :
    Turn.packetIn a n ⟨c, []⟩ =
      Turn.along ⟨c, []⟩ (.count .packetsIn ++ .count .malformedPackets ++ .discard a n.buffer) := by
  cases source : c.ingress (c.ingressNumber n.inPort) with
  | unknown => exact absurd source known
  | _ =>
    simp only [Turn.packetIn, Turn.count_eq, Turn.controller_along, ingress_counting, ingressNumber_counting, source,
      unread, Turn.discard_eq, Turn.along_along]

theorem packetIn_tunnel {packet : Packet} (source : c.ingress (c.ingressNumber n.inPort) = .tunnel)
    (read : Packet.parse n.data = .ok packet) :
    Turn.packetIn a n ⟨c, []⟩ = (Turn.along ⟨c, []⟩ (.count .packetsIn)).packetFromTunnel (c.tunnelled n packet) := by
  simp only [Turn.packetIn, Turn.count_eq, Turn.controller_along, ingress_counting, ingressNumber_counting,
    tunnelled_counting, source, read]

theorem packetIn_port {packet : Packet} {ingress : VirtualPort}
    (source : c.ingress (c.ingressNumber n.inPort) = .port ingress) (read : Packet.parse n.data = .ok packet) :
    Turn.packetIn a n ⟨c, []⟩ = (Turn.along ⟨c, []⟩ (.count .packetsIn)).packetFromPort a n.buffer n.data ingress
      (c.arrival n ingress packet) := by
  simp only [Turn.packetIn, Turn.count_eq, Turn.controller_along, ingress_counting, ingressNumber_counting,
    arrival_counting, source, read]

end Ingress

theorem arrives (n : PacketIn) :
    ∃ c' x, Arrives a c n c' x ∧ Turn.packetIn a n ⟨c, []⟩ = Turn.along ⟨c', []⟩ x := by
  cases source : c.ingress (c.ingressNumber n.inPort) with
  | unknown => exact ⟨_, _, .unknown source, packetIn_unknown a c source⟩
  | tunnel =>
    cases read : Packet.parse n.data with
    | error e =>
      have known : c.ingress (c.ingressNumber n.inPort) ≠ .unknown := by simp [source]
      exact ⟨_, _, .malformed known read, packetIn_malformed a c known read⟩
    | ok packet =>
      rw [packetIn_tunnel a c source read]
      cases here : (c.ports.byId (c.tunnelled n packet).header.egress).isSome with
      | false =>
        refine ⟨_, _, .astray source read here, ?_⟩
        simp only [Turn.packetFromTunnel, Turn.controller_along, Controller.ports_counting, here, Bool.false_eq_true,
          if_false, Turn.count_eq, Turn.along_along]
      | true =>
        refine ⟨_, _, .parked source read here, ?_⟩
        simp only [Turn.packetFromTunnel, Turn.controller_along, Controller.ports_counting, here, if_true]
        rw [← Turn.along_along]
        exact requestAddress_eq ..
  | port ingress =>
    cases read : Packet.parse n.data with
    | error e =>
      have known : c.ingress (c.ingressNumber n.inPort) ≠ .unknown := by simp [source]
      exact ⟨_, _, .malformed known read, packetIn_malformed a c known read⟩
    | ok packet =>
      rw [packetIn_port a c source read]
      cases boot : packet.bootRequest? with
      | some request =>
        refine ⟨_, _, .dhcp source read boot, ?_⟩
        simp only [Turn.packetFromPort, Controller.arrival, boot, Turn.count_eq, Turn.call_eq, Turn.freeBuffer_eq,
          Turn.along_along]
      | none =>
        by_cases addressed : packet.dlDst = ingress.mac ∨ packet.dlDst.isMulticast = true
        · have decide_ : ∀ t : Turn, t.packetFromPort a n.buffer n.data ingress (c.arrival n ingress packet) =
              t.decide a n.buffer n.data (c.arrival n ingress packet) := by
            intro t
            simp only [Turn.packetFromPort, Controller.arrival, boot, addressed, if_true]
          rw [decide_]
          cases decision : (a.process (c.arrival n ingress packet)).verdict with
          | error e =>
            refine ⟨_, _, .failed source read boot addressed decision, ?_⟩
            simp only [Turn.decide, decision, Turn.call_eq, Turn.count_eq, Turn.discard_eq, Turn.releaseElements_eq,
              Turn.along_along]
          | ok verdict =>
            obtain ⟨c', x, course, eq⟩ :=
              carriesOut a c ((a.process (c.arrival n ingress packet)).decided n.buffer n.data ingress.id) verdict
            refine ⟨_, _, .decided source read boot addressed decision course, ?_⟩
            simp only [Turn.decide, decision]
            rw [← Turn.along_along]
            exact eq _ _
        · refine ⟨_, _, .misdelivered source read boot addressed, ?_⟩
          simp only [Turn.packetFromPort, Controller.arrival, boot, addressed, if_false, Turn.count_eq,
            Turn.blackhole_eq, Turn.controller_along, Controller.flows_counting, Turn.along_along]

theorem resumes (p : ParkedPacket) (mac : Option Mac) :
    ∃ c' x, Resumes a c p mac c' x ∧
      (match p, mac with
        | .tunnelled p, some mac => (Turn.count ⟨c, []⟩ .resolutionsSucceeded).resumeTunnelled a p mac
        | .tunnelled p, none => (Turn.count ⟨c, []⟩ .resolutionsFailed).abortTunnelled a p
        | .toLocal p, some mac => (Turn.count ⟨c, []⟩ .resolutionsSucceeded).resumeLocal a p mac
        | .toLocal p, none => (Turn.count ⟨c, []⟩ .resolutionsFailed).abortLocal a p) =
        Turn.along ⟨c', []⟩ x := by
  cases p with
  | tunnelled p =>
    cases mac with
    | none =>
      refine ⟨_, _, .timedOutTunnelled, ?_⟩
      simp only [Turn.abortTunnelled, Turn.count_eq, Turn.blackhole_eq, Turn.unreachable_eq, Turn.controller_along,
        Controller.flows_counting, Turn.along_along]
    | some mac =>
      cases here : c.ports.byId p.header.egress with
      | none =>
        refine ⟨_, _, .vanishedTunnelled here, ?_⟩
        simp only [Turn.resumeTunnelled, Turn.count_eq, Turn.controller_along, Controller.ports_counting, here,
          Turn.discard_eq, Turn.along_along]
      | some egress =>
        cases relay : p.header.isIcmpRelay with
        | true =>
          refine ⟨_, _, .relayed here relay, ?_⟩
          simp only [Turn.resumeTunnelled, Turn.count_eq, Turn.controller_along, Controller.ports_counting, here,
            relay, if_true, Turn.sendPacket_eq, Turn.along_along]
        | false =>
          cases answer : a.addRule (c.tunnelRule p (a.widen .tunnelForward p.incoming) egress mac) with
          | ok _ =>
            refine ⟨_, _, .forwardedTunnelled here relay answer, ?_⟩
            simp only [Turn.resumeTunnelled, Turn.count_eq, Turn.controller_along, Controller.ports_counting, here,
              relay, Turn.widen_eq, Turn.along_along]
            rw [Turn.installForward_ok _ _ _ (by exact answer)]
            simp [Trail.append_assoc]
            rfl
          | error e =>
            refine ⟨_, _, .refusedTunnelled here relay answer, ?_⟩
            simp only [Turn.resumeTunnelled, Turn.count_eq, Turn.controller_along, Controller.ports_counting, here,
              relay, Turn.widen_eq, Turn.along_along]
            rw [Turn.installForward_error _ _ _ (by exact answer)]
            simp [Trail.append_assoc]
            rfl
  | toLocal p =>
    cases mac with
    | none =>
      refine ⟨_, _, .timedOutLocal, ?_⟩
      simp only [Turn.abortLocal, Turn.count_eq, Turn.blackhole_eq, Turn.unreachable_eq, Turn.releaseElements_eq,
        Turn.controller_along, Controller.flows_counting, Turn.along_along]
    | some mac =>
      cases here : c.ports.byId p.egress with
      | none =>
        refine ⟨_, _, .vanishedLocal here, ?_⟩
        simp only [Turn.resumeLocal, Turn.count_eq, Turn.controller_along, Controller.ports_counting, here,
          Turn.discard_eq, Turn.releaseElements_eq, Turn.along_along]
      | some egress =>
        cases answer : a.addRule (c.localRule p (a.widen .localForward p.incoming) egress mac) with
        | ok _ =>
          refine ⟨_, _, .forwardedLocal here answer, ?_⟩
          simp only [Turn.resumeLocal, Turn.count_eq, Turn.controller_along, Controller.ports_counting, here,
            Turn.widen_eq, Turn.along_along]
          rw [Turn.installForward_ok _ _ _ (by exact answer)]
          simp [Trail.append_assoc, Turn.announce_eq]
          rfl
        | error e =>
          refine ⟨_, _, .refusedLocal here answer, ?_⟩
          simp only [Turn.resumeLocal, Turn.count_eq, Turn.controller_along, Controller.ports_counting, here,
            Turn.widen_eq, Turn.along_along]
          rw [Turn.installForward_error _ _ _ (by exact answer)]
          simp [Trail.append_assoc, Turn.releaseElements_eq]
          rfl

/-- A step of the controller is one of the ways to handle its event. -/
theorem step_course (e : Event) : ∃ c' x, Handles a c e c' x ∧ c.step a e = Turn.along ⟨c', []⟩ x := by
  cases e with
  | packetIn n =>
    obtain ⟨c', x, course, eq⟩ := arrives a c n
    exact ⟨c', x, .arrives course, eq⟩
  | flowRemoved r =>
    refine ⟨_, _, .removed, ?_⟩
    show Turn.releaseElements a _ _ (Turn.count ⟨{ c with ledger := _ }, []⟩ .flowsRemoved) = _
    rw [Turn.releaseElements_eq, Turn.count_eq, Turn.along_along]
    rfl
  | addressResolved token mac =>
    cases waits : c.parking.waiting.get? token with
    | none =>
      refine ⟨_, _, .unasked waits, ?_⟩
      simp only [Controller.step, Turn.handle, Turn.addressResolved, Parking.take, waits, Turn.along_empty]
    | some p =>
      obtain ⟨c', x, course, eq⟩ := resumes a { c with parking := (c.parking.take token).1 } p mac
      refine ⟨c', x, .resumes waits course, ?_⟩
      rw [← eq]
      cases p <;> cases mac <;>
        simp only [Controller.step, Turn.handle, Turn.addressResolved, Parking.take, waits]
  | portAttached port =>
    cases fits : c.ports.attach port with
    | ok ports =>
      refine ⟨_, _, .attached fits, ?_⟩
      simp only [Controller.step, Turn.handle, Turn.portAttached, fits, Turn.call_eq, Turn.countFailure_eq,
        Turn.along_along]
    | error fault =>
      refine ⟨_, _, .unattached fits, ?_⟩
      simp only [Controller.step, Turn.handle, Turn.portAttached, fits, Turn.along_empty]
  | portDetached id =>
    cases found : c.ports.detach id with
    | ok r =>
      obtain ⟨ports, port⟩ := r
      refine ⟨_, _, .detached found, ?_⟩
      simp only [Controller.step, Turn.handle, Turn.portDetached, found, Turn.call_eq]
    | error fault =>
      refine ⟨_, _, .undetached found, ?_⟩
      simp only [Controller.step, Turn.handle, Turn.portDetached, found, Turn.along_empty]
  | tunnelAdded number peer => exact ⟨_, _, .tunnelAdded, (Turn.along_empty _).symm⟩
  | tunnelRemoved number => exact ⟨_, _, .tunnelRemoved, (Turn.along_empty _).symm⟩
  | portLocated id host => exact ⟨_, _, .located, (Turn.along_empty _).symm⟩
  | portUnlocated id => exact ⟨_, _, .unlocated, (Turn.along_empty _).symm⟩
  | participantAdded set host => exact ⟨_, _, .participantAdded, rfl⟩
  | participantRemoved set host => exact ⟨_, _, .participantRemoved, rfl⟩
  | portJoined set number => exact ⟨_, _, .joined, (Turn.along_empty _).symm⟩
  | portLeft set number => exact ⟨_, _, .left, (Turn.along_empty _).symm⟩
  | shutdown => exact ⟨_, _, .shutdown, (Turn.along_empty _).symm⟩

end Exists

end Course

end VirtualRouter
