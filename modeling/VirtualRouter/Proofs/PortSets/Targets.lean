import VirtualRouter.Proofs.Flows.Rewriting
import VirtualRouter.Proofs.PortSets.Membership
import VirtualRouter.Proofs.Run.Decision
import VirtualRouter.Proofs.Tunnels.Pairing

/-! The ports that a packet to a port elsewhere is sent out of. They follow from the events so far and from nothing else.
    To a port set they are its members on this switch and the tunnels to its other hosts, to any other port the tunnel to
    its host. One rule sends the packet out of all of them in ascending order, or drops it for a while if there are none. -/

namespace VirtualRouter

variable {config : Config} {observed : Bool} {history past : History} {c c' : Controller} {x : Entry} {a : Answers}
  {d : DecidedPacket} {out : PortId} {nextHop : Ipv4} {number : PortNumber} {trail : Trail} {initially : Participants}

/-! ### Ports towards a port elsewhere -/

theorem mem_fanOut {localAddress : Ipv4} {slices : LocalSlices} {tunnels : TunnelTable} {set : PortId}
    {hosts : OrderedSet Ipv4} : number ∈ fanOut localAddress slices tunnels set hosts ↔
      slices.Holds set number ∨ ∃ host, host ∈ hosts ∧ host ≠ localAddress ∧ tunnels.towards host = some number := by
  simp only [fanOut, OrderedSet.mem_foldl_insert, List.mem_filterMap, OrderedSet.mem_toList, OrderedSet.mem_erase,
    and_assoc, LocalSlices.Holds]

namespace Controller

theorem mem_towards_set {hosts : OrderedSet Ipv4} : number ∈ (c.towards d out nextHop (some hosts)).1 ↔
    c.slices.Holds out number ∨
      ∃ host, host ∈ hosts ∧ host ≠ c.localAddress ∧ c.tunnels.towards host = some number :=
  mem_fanOut

theorem towards_port : (c.towards d out nextHop none).1.toList = (c.tunnels.towardsPort out).toList := by
  unfold towards
  cases c.tunnels.towardsPort out <;> rfl

theorem mem_towards_port : number ∈ (c.towards d out nextHop none).1 ↔
    ∃ host, c.tunnels.locations.get? out = some host ∧ c.tunnels.towards host = some number := by
  rw [← OrderedSet.mem_toList, towards_port, Option.mem_toList, TunnelTable.towardsPort, Option.bind_eq_some_iff]

end Controller

/-- After the history the port of the switch leads to the port of the topology, which is not attached: it is the set's
    member here, or the tunnel to another host of the set or to the host of the port. -/
inductive History.Leads (initially : Participants) (localAddress : Ipv4) (history : History) (out : PortId)
    (number : PortNumber) : Prop
  | member (declared : history.Declared initially out) (joined : history.Joined out number)
  | participant {host : Ipv4} (declared : history.Declared initially out)
      (participates : history.Participates initially out host) (elsewhere : host ≠ localAddress)
      (tunnel : history.TunnelTo number host)
  | remote {host : Ipv4} (undeclared : ¬history.Declared initially out) (located : history.Located out host)
      (tunnel : history.TunnelTo number host)

theorem Run.mem_towards (run : Run config observed history c) : number ∈
    (c.towards d out nextHop ((history.membership initially).hosts? out)).1 ↔
      history.Leads initially config.node.localAddress out number := by
  have here : c.localAddress = config.node.localAddress := run.settings.localAddress
  cases found : (history.membership initially).hosts? out with
  | some hosts =>
    have declared : history.Declared initially out := declared_iff.1 (by rw [found]; rfl)
    have takesPart (host : Ipv4) : host ∈ hosts ↔ history.Participates initially out host := by
      rw [← participates_iff, found, Option.getD_some]
    rw [Controller.mem_towards_set, run.joined_iff, here]
    simp only [takesPart, run.towards_iff]
    constructor
    · rintro (joined | ⟨host, participates, elsewhere, tunnel⟩)
      · exact .member declared joined
      · exact .participant declared participates elsewhere tunnel
    · rintro (⟨-, joined⟩ | ⟨-, participates, elsewhere, tunnel⟩ | ⟨undeclared, -⟩)
      · exact .inl joined
      · exact .inr ⟨_, participates, elsewhere, tunnel⟩
      · exact absurd declared undeclared
  | none =>
    have undeclared : ¬history.Declared initially out := by
      rw [← declared_iff, found]
      exact Bool.false_ne_true
    simp only [Controller.mem_towards_port, run.located_iff, run.towards_iff]
    constructor
    · rintro ⟨host, located, tunnel⟩
      exact .remote undeclared located tunnel
    · rintro (⟨declared, -⟩ | ⟨declared, -⟩ | ⟨-, located, tunnel⟩)
      · exact absurd declared undeclared
      · exact absurd declared undeclared
      · exact ⟨_, located, tunnel⟩

/-! ### The rule for the packet -/

/-- A packet to a port that is not attached brings about one rule, out of all ports towards it or, if there is none, out
    of no port. -/
theorem Course.CarriesOut.rule_elsewhere (course : CarriesOut a c d (.forward out nextHop) c' trail)
    (away : c.ports.byId out = none) : ∃ rule answer, trail.rules = [(rule, answer)] ∧
      rule.pattern = d.incoming ∧
      Action.outputs rule.actions = (c.towards d out nextHop (a.participants out)).1.toList ∧
      (Action.outputs rule.actions = [] → rule = c.flows.blackhole d.incoming d.buffer) := by
  have occupied {targets : OrderedSet PortNumber} (somewhere : targets.isEmpty = false) : targets.toList ≠ [] := by
    simpa [OrderedSet.isEmpty] using somewhere
  cases course with
  | parked here =>
    rw [away] at here
    cases here
  | stranded _ nowhere =>
    refine ⟨c.flows.blackhole d.incoming d.buffer, a.addRule (c.flows.blackhole d.incoming d.buffer), ?_, rfl, ?_,
      fun _ => rfl⟩
    · simp [Call.rule?]
    · rw [OrderedSet.isEmpty, List.isEmpty_iff] at nowhere
      rw [nowhere]
      rfl
  | forwarded _ somewhere =>
    have outputs := Action.outputs_between d.incoming (c.towards d out nextHop (a.participants out)).2
      (c.towards d out nextHop (a.participants out)).1.toList
    refine ⟨c.routing d out nextHop (a.participants out), .ok (), ?_, rfl, outputs, fun none => ?_⟩
    · simp [Call.rule?]
    · exact absurd (outputs.symm.trans none) (occupied somewhere)
  | @refused _ _ error _ somewhere =>
    have outputs := Action.outputs_between d.incoming (c.towards d out nextHop (a.participants out)).2
      (c.towards d out nextHop (a.participants out)).1.toList
    refine ⟨c.routing d out nextHop (a.participants out), .error error, ?_, rfl, outputs, fun none => ?_⟩
    · simp [Call.rule?]
    · exact absurd (outputs.symm.trans none) (occupied somewhere)

/-- A packet to a port that is not attached brings about one rule for its exact match. The rule sends the packet out of
    the ports that the events so far make lead to the port, in ascending order and out of no other: for a port that is not
    a set, out of one at most. If no port leads there, the packets of the match are dropped for a while. -/
theorem Run.forward_targets {n : PacketIn} {port : VirtualPort} {packet : Packet} {o : Outcome}
    (run : Run config observed past x.before) (keeps : x.answers.KeepsMatch)
    (members : x.answers.participants = (past.membership initially).hosts?) (decides : x.Decides n port packet o)
    (verdict : o.verdict = .ok (.forward out nextHop)) (away : ∀ port, port.id = out → ¬past.Attached port) :
    ∃ rule answer, x.rules = [(rule, answer)] ∧ rule.pattern = packet.exactMatch (x.before.ingressNumber n.inPort) ∧
      (Action.outputs rule.actions).Pairwise (fun a b => a.number < b.number) ∧
      (∀ number, number ∈ Action.outputs rule.actions ↔
        past.Leads initially config.node.localAddress out number) ∧
      (¬past.Declared initially out → (Action.outputs rule.actions).length ≤ 1) ∧
      (Action.outputs rule.actions = [] → rule = config.flows.blackhole rule.pattern n.buffer) := by
  have flows : x.before.flows = config.flows := run.settings.flows
  obtain ⟨rest, calls, follows⟩ := decides.follows
  cases follows with
  | failed failure => cases verdict.symm.trans failure
  | @carriedOut v c' trail decision course made =>
    cases verdict.symm.trans decision
    obtain ⟨rule, answer, rules, pattern, outputs, dropped⟩ := course.rule_elsewhere (run.byId_eq_none away)
    refine ⟨rule, answer, ?_, pattern.trans (decides.incoming keeps), ?_, fun number => ?_, fun undeclared => ?_,
      fun none => ?_⟩
    · rw [Entry.rules, calls, List.filterMap_cons_none rfl, made]
      exact rules
    · rw [outputs]
      exact OrderedSet.ascending _
    · rw [outputs, members, OrderedSet.mem_toList, run.mem_towards]
    · have unknown : (past.membership initially).hosts? out = none := by
        rw [← declared_iff, Bool.not_eq_true, Option.isSome_eq_false_iff, Option.isNone_iff_eq_none] at undeclared
        exact undeclared
      rw [outputs, members, unknown, Controller.towards_port]
      exact Option.length_toList_le
    · rw [dropped none, flows]
      rfl

namespace Sample

def group : PortId := ⟨.ofNat 7⟩

/-- Two ports have joined a set, one has left it, and another host takes part in it. -/
def gathered : History × Controller :=
  handled default (answers (.ok ()) (.forward group ⟨10, 0, 0, 1⟩))
    [.portAttached (port 1), .tunnelAdded ⟨100⟩ ⟨192, 168, 0, 2⟩, .participantAdded group .localhost,
      .participantAdded group ⟨192, 168, 0, 2⟩, .portJoined group ⟨4⟩, .portJoined group ⟨3⟩, .portLeft group ⟨4⟩]

/-- A packet to the set comes in. -/
def spread : Entry where
  before := gathered.2
  answers := { answers (.ok ()) (.forward group ⟨10, 0, 0, 1⟩) with
    participants := (History.membership {} gathered.1).hosts? }
  event := .packetIn (notice ⟨7⟩)

end Sample

/-- The packet is sent to the member that is left and through the tunnel. -/
theorem forward_targets_group :
    (∃ answer, Sample.spread.rules =
      [((default : FlowSettings).forwarding Sample.flow ⟨7⟩ [.output ⟨3⟩, .output ⟨100⟩], answer)]) ∧
    ∀ number, Sample.gathered.1.Leads {} .localhost Sample.group number ↔ number = ⟨3⟩ ∨ number = ⟨100⟩ := by
  have decides : Sample.spread.Decides (Sample.notice ⟨7⟩) (Sample.port 1)
      { dlSrc := ⟨2, 0, 0, 0, 0, 9⟩, dlDst := (Sample.port 1).mac, ethertype := 0x88cc } _ :=
    ⟨rfl, by decide +kernel, by decide +kernel, rfl, by decide +kernel⟩
  have away (port : VirtualPort) (own : port.id = Sample.group) : ¬Sample.gathered.1.Attached port := by
    intro attached
    have held := ((Sample.run_handled ..).byId_iff Sample.group port).2 ⟨own, attached⟩
    have none : Sample.gathered.2.ports.byId Sample.group = none := by decide +kernel
    cases none.symm.trans held
  obtain ⟨rule, answer, rules, -, -, leads, -⟩ :=
    Run.forward_targets (Sample.run_handled ..) (fun _ => rfl) rfl decides rfl away
  have made : Sample.spread.rules =
      [((default : FlowSettings).forwarding Sample.flow ⟨7⟩ [.output ⟨3⟩, .output ⟨100⟩], .ok ())] := by decide +kernel
  cases made.symm.trans rules
  refine ⟨⟨_, made⟩, fun number => (leads number).symm.trans ?_⟩
  simp [Action.outputs, Action.output?]

end VirtualRouter
