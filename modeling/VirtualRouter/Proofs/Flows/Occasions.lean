import VirtualRouter.Proofs.Flows.Resumption
import VirtualRouter.Proofs.Run.Decision

/-! On what occasions the switch is asked for a rule. There are nine: a port is attached, a packet is sent to the wrong
    station, the simulation has it dropped, finds that it has no IPv4, refuses it or sends it to a place that cannot be
    reached or that can, and the address of its next hop is found or not. Each occasion makes its own rule. -/

namespace VirtualRouter

variable {x : Entry} {c' : Controller} {trail : Trail} {n : PacketIn} {port : VirtualPort} {packet : Packet}
  {o : Outcome} {v : Verdict} {token : Token} {mac : Option Mac} {p : ParkedPacket} {rule : FlowRule}
  {answer : Except DatapathError Unit}

/-- A rule with a port to send to does not drop its packets. -/
@[simp] theorem isDrop_emitting (s : FlowSettings) (pattern incoming wanted : HeaderMatch) (buffer : Buffer)
    (number : PortNumber) : (s.forwarding pattern buffer (Action.between incoming wanted [number])).isDrop = false := by
  simp [FlowRule.isDrop, Action.between]

namespace Entry

/-- The packet of the event comes in by a virtual port, and it is sent to another station than the port. -/
structure Misdelivers (x : Entry) (n : PacketIn) (port : VirtualPort) (packet : Packet) : Prop where
  event : x.event = .packetIn n
  source : x.before.ingress (x.before.ingressNumber n.inPort) = .port port
  read : Packet.parse n.data = .ok packet
  elsewhere : ¬(packet.dlDst = port.mac ∨ packet.dlDst.isMulticast = true)

/-- The event is an occasion for the rule. -/
inductive Occasion (x : Entry) : FlowRule → Prop
  | attached {port : VirtualPort} (event : x.event = .portAttached port) : Occasion x (dhcpRule port.number)
  | misdelivered {n : PacketIn} {port : VirtualPort} {packet : Packet} (astray : x.Misdelivers n port packet) :
      Occasion x (x.before.flows.blackhole (packet.exactMatch (x.before.ingressNumber n.inPort)) n.buffer)
  | blackholed {n : PacketIn} {port : VirtualPort} {packet : Packet} {o : Outcome} (decides : x.Decides n port packet o)
      (verdict : o.verdict = .ok .blackhole) :
      Occasion x (x.before.flows.blackhole (x.answers.widen .blackhole o.arrival.incoming) n.buffer)
  | notIpv4 {n : PacketIn} {port : VirtualPort} {packet : Packet} {o : Outcome} (decides : x.Decides n port packet o)
      (verdict : o.verdict = .ok .notIpv4) :
      Occasion x (.dropping o.arrival.incoming.ethertypeOnly n.buffer 0 0)
  | refused {n : PacketIn} {port : VirtualPort} {packet : Packet} {o : Outcome} (decides : x.Decides n port packet o)
      (verdict : o.verdict = .ok .noRoute ∨ o.verdict = .ok .reject) :
      Occasion x (x.before.flows.blackhole o.arrival.incoming n.buffer)
  | stranded {n : PacketIn} {port : VirtualPort} {packet : Packet} {o : Outcome} {out : PortId} {nextHop : Ipv4}
      (decides : x.Decides n port packet o) (verdict : o.verdict = .ok (.forward out nextHop)) :
      Occasion x (x.before.flows.blackhole o.arrival.incoming n.buffer)
  | routed {n : PacketIn} {port : VirtualPort} {packet : Packet} {o : Outcome} {out : PortId} {nextHop : Ipv4}
      (decides : x.Decides n port packet o) (verdict : o.verdict = .ok (.forward out nextHop))
      (somewhere : (x.before.towards (o.decided n.buffer n.data port.id) out nextHop
        (x.answers.participants out)).1.isEmpty = false) :
      Occasion x (x.before.routing (o.decided n.buffer n.data port.id) out nextHop (x.answers.participants out))
  | timedOut {token : Token} {p : ParkedPacket} (event : x.event = .addressResolved token none)
      (waits : x.before.parking.waiting.get? token = some p) :
      Occasion x (x.before.flows.blackhole p.incoming p.buffer)
  | resumed {token : Token} {mac : Mac} {p : ParkedPacket} {egress : VirtualPort}
      (event : x.event = .addressResolved token (some mac)) (waits : x.before.parking.waiting.get? token = some p)
      (here : x.before.ports.byId p.egress = some egress) :
      Occasion x (x.before.flows.forwarding (x.answers.widen p.scope p.incoming) p.buffer
        (Action.between p.incoming (Turn.addressed p.wanted egress mac) [egress.number]))

theorem occasion_decided (decides : x.Decides n port packet o) (verdict : o.verdict = .ok v)
    (course : Course.CarriesOut x.answers x.before (o.decided n.buffer n.data port.id) v c' trail)
    (asked : (rule, answer) ∈ trail.rules) : x.Occasion rule := by
  cases course with
  | blackhole =>
    obtain ⟨rfl, -⟩ : rule = _ ∧ _ := by simpa [Call.rule?] using asked
    exact .blackholed decides verdict
  | consumed => simp at asked
  | parked => simp [Trail.ask, Call.rule?] at asked
  | stranded =>
    obtain ⟨rfl, -⟩ : rule = _ ∧ _ := by simpa [Call.rule?] using asked
    exact .stranded decides verdict
  | forwarded _ somewhere =>
    obtain ⟨rfl, -⟩ : rule = _ ∧ _ := by simpa [Call.rule?] using asked
    exact .routed decides verdict somewhere
  | refused _ somewhere =>
    obtain ⟨rfl, -⟩ : rule = _ ∧ _ := by simpa [Call.rule?] using asked
    exact .routed decides verdict somewhere
  | notIpv4 =>
    obtain ⟨rfl, -⟩ : rule = _ ∧ _ := by simpa using asked
    exact .notIpv4 decides verdict
  | noRoute =>
    obtain ⟨rfl, -⟩ : rule = _ ∧ _ := by simpa using asked
    exact .refused decides (.inl verdict)
  | rejected =>
    obtain ⟨rfl, -⟩ : rule = _ ∧ _ := by simpa using asked
    exact .refused decides (.inr verdict)

theorem occasion_answered (event : x.event = .addressResolved token mac)
    (waits : x.before.parking.waiting.get? token = some p)
    (course : Course.Resumes x.answers { x.before with parking := (x.before.parking.take token).1 } p mac c' trail)
    (asked : (rule, answer) ∈ trail.rules) : x.Occasion rule := by
  cases course with
  | vanishedTunnelled | vanishedLocal | relayed => simp at asked
  | forwardedTunnelled here =>
    obtain ⟨rfl, -⟩ : rule = _ ∧ _ := by simpa [Call.rule?] using asked
    exact .resumed event waits here
  | refusedTunnelled here =>
    obtain ⟨rfl, -⟩ : rule = _ ∧ _ := by simpa [Call.rule?] using asked
    exact .resumed event waits here
  | forwardedLocal here =>
    obtain ⟨rfl, -⟩ : rule = _ ∧ _ := by simpa [Call.rule?] using asked
    exact .resumed event waits here
  | refusedLocal here =>
    obtain ⟨rfl, -⟩ : rule = _ ∧ _ := by simpa [Call.rule?] using asked
    exact .resumed event waits here
  | timedOutTunnelled =>
    obtain ⟨rfl, -⟩ : rule = _ ∧ _ := by simpa [Call.rule?] using asked
    exact .timedOut event waits
  | timedOutLocal =>
    obtain ⟨rfl, -⟩ : rule = _ ∧ _ := by simpa [Call.rule?] using asked
    exact .timedOut event waits

/-- Every rule that the switch is asked for has its occasion. -/
theorem occasion (asked : .addRule rule answer ∈ x.calls) : x.Occasion rule := by
  obtain ⟨c', trail, course, -, calls⟩ := x.course
  have asked : (rule, answer) ∈ trail.rules := by
    rw [← mem_rules, rules, calls] at asked
    exact asked
  generalize event : x.event = e at course
  cases course with
  | arrives course =>
    cases course with
    | unknown | malformed | astray | parked | dhcp => simp [Trail.ask, Call.rule?] at asked
    | failed => simp [Call.rule?] at asked
    | misdelivered source read plain elsewhere =>
      obtain ⟨rfl, -⟩ : rule = _ ∧ _ := by simpa using asked
      exact .misdelivered ⟨event, source, read, elsewhere⟩
    | decided source read plain addressed decision course =>
      rw [Trail.rules_append] at asked
      exact occasion_decided (decides_of_calls event source read calls) decision course asked
  | resumes waits course => exact occasion_answered event waits course asked
  | attached =>
    obtain ⟨rfl, -⟩ : rule = _ ∧ _ := by simpa [Call.rule?] using asked
    exact .attached event
  | _ => simp [Call.rule?, Trail.rules] at asked

end Entry

end VirtualRouter
