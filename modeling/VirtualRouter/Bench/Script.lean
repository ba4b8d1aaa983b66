import VirtualRouter.Controller.Collaboration
import VirtualRouter.Datapath.RequestTally
import VirtualRouter.PortSet.Participants
import VirtualRouter.Topology.BareTopology

/-!
A bench of collaborators to try the controller on. The switch, the simulation and the policy each follow a script or
are the plain ones that a stand-alone daemon has; the membership of port sets is the one in memory. The bench
answers the questions of an event and changes by the calls that were made during it.
-/

namespace VirtualRouter

/-! ### The script -/

/-- The kinds of calls that a script can make fail. -/
inductive FallibleCall where
  | addRule
  | sendPacket
  | freeBuffer
  | addPort
  | removePort
  deriving DecidableEq, Repr

/-- What scripted collaborators answer. -/
structure Script where
  /-- The simulation's verdict on every packet. -/
  verdict : Except SimulationError Verdict := .ok .consumed
  /-- The elements that take part in every decision. -/
  elements : ElementSet := .empty
  /-- What the simulation makes of the headers. -/
  readdress : HeaderMatch → HeaderMatch := id
  /-- The elements that cannot free their state. -/
  stuckElements : ElementSet := .empty
  failing : List FallibleCall := []

namespace Script

/-- The answer of the switch to a kind of call. -/
def switchAnswer (s : Script) (kind : FallibleCall) : Except DatapathError Unit :=
  if kind ∈ s.failing then .error (.internal "scripted failure") else .ok ()

/-- The answer of the simulation to a change of its ports. -/
def portAnswer (s : Script) (kind : FallibleCall) : Except SimulationError Unit :=
  if kind ∈ s.failing then .error (.failed "scripted failure") else .ok ()

/-- The answer of the simulation to the release of an element. -/
def releaseAnswer (s : Script) (element : ElementId) : Except SimulationError Unit :=
  if element ∈ s.stuckElements then .error (.failed "scripted failure") else .ok ()

/-- The decision of the simulation on a packet. -/
def outcome (s : Script) (arrival : Arrival) : Outcome where
  verdict := s.verdict
  arrival := arrival
  wanted := s.readdress arrival.incoming
  elements := s.elements

end Script

/-! ### The collaborators -/

namespace Bench

/-- The switch: scripted, or one that only counts. -/
inductive Switch where
  | scripted
  | counting (tally : RequestTally)

/-- The simulation: scripted, or a bare topology. -/
inductive Engine where
  | scripted
  | bare (topology : BareTopology)

/-- The policy: one that a configuration can ask for, or a recorded one that widens in some scopes only. -/
inductive Guide where
  | configured (policy : Policy)
  | recorded (widened : List FlowScope)

end Bench

/-- The collaborators on the bench. -/
structure Bench where
  script : Script := {}
  switch : Bench.Switch := .scripted
  engine : Bench.Engine := .scripted
  guide : Bench.Guide := .configured .exact
  membership : Participants := {}
  /-- Requests for addresses are shown. -/
  showsResolver : Bool := true
  /-- Requests to the DHCP service are shown. -/
  showsDhcp : Bool := true

namespace Bench

/-- The match that the policy wants installed. -/
def Guide.widen (guide : Guide) (scope : FlowScope) (incoming : HeaderMatch) : HeaderMatch :=
  match guide with
  | .configured policy => policy.widen scope incoming
  | .recorded widened => if scope ∈ widened then Policy.networkOnly.widen scope incoming else incoming

/-- The switch's answer to a kind of call. -/
def switchAnswer (b : Bench) (kind : FallibleCall) : Except DatapathError Unit :=
  match b.switch with
  | .scripted => b.script.switchAnswer kind
  | .counting _ => .ok ()

/-- The simulation's decision on a packet. -/
def outcome (b : Bench) (arrival : Arrival) : Outcome :=
  match b.engine with
  | .scripted => b.script.outcome arrival
  | .bare topology => ⟨topology.process arrival.inPort arrival.packet, arrival, arrival.incoming, .empty⟩

/-- How the collaborators answer during the next event. -/
def answers (b : Bench) : Answers where
  addRule _ := b.switchAnswer .addRule
  sendPacket _ _ _ _ := b.switchAnswer .sendPacket
  freeBuffer _ := b.switchAnswer .freeBuffer
  process := b.outcome
  freeFlow element _ := match b.engine with
    | .scripted => b.script.releaseAnswer element
    | .bare _ => BareTopology.freeFlow element
  addPort _ := match b.engine with
    | .scripted => b.script.portAnswer .addPort
    | .bare _ => .ok ()
  removePort port := match b.engine with
    | .scripted => b.script.portAnswer .removePort
    | .bare topology => topology.removal port
  participants := b.membership.hosts?
  widen := b.guide.widen

/-! ### What calls change -/

/-- The switch after a call. -/
def Switch.after (s : Switch) (c : Call) : Switch :=
  match s, c with
  | .counting tally, .addRule rule _ => .counting (tally.addRule rule)
  | .counting tally, .sendPacket _ _ _ _ _ => .counting tally.sendPacket
  | .counting tally, .freeBuffer _ _ => .counting tally.freeBuffer
  | s, _ => s

/-- The simulation after a call. -/
def Engine.after (e : Engine) (c : Call) : Engine :=
  match e, c with
  | .bare topology, .addPort port _ => .bare (topology.add port)
  | .bare topology, .removePort port _ => .bare (topology.remove port)
  | e, _ => e

/-- The membership after a call. -/
def membershipAfter (m : Participants) : Call → Participants
  | .addParticipant set host => m.add set host
  | .removeParticipant set host => (m.remove set host).1
  | _ => m

/-- The bench after a call. -/
def after (b : Bench) (c : Call) : Bench :=
  { b with
    switch := b.switch.after c
    engine := b.engine.after c
    membership := membershipAfter b.membership c }

end Bench

end VirtualRouter
