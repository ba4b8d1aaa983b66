import VirtualRouter.Datapath.Error
import VirtualRouter.Flow.Policy
import VirtualRouter.Flow.Rule
import VirtualRouter.Resolution.Parking

/-!
The collaborators of the controller: the switch, the simulation, the resolver of addresses, the DHCP service, the
membership of port sets, the flow policy and an observer of installed flows. During one event the controller asks no
two equal questions, so the answers of an event are functions of the questions. What was asked, with the answer, is
recorded as a call.
-/

namespace VirtualRouter

/-- How the collaborators answer during one event. -/
structure Answers where
  /-- The switch is asked to install a rule. -/
  addRule : FlowRule → Except DatapathError Unit
  /-- The switch is asked to send a packet. -/
  sendPacket : Buffer → PortNumber → List Action → Octets → Except DatapathError Unit
  /-- The switch is asked to forget a held packet. -/
  freeBuffer : Buffer → Except DatapathError Unit
  /-- The simulation is asked to decide on a packet. -/
  process : Arrival → Outcome
  /-- The simulation is asked to free an element's state for a flow. -/
  freeFlow : ElementId → HeaderMatch → Except SimulationError Unit
  /-- The simulation is told of a new port. -/
  addPort : VirtualPort → Except SimulationError Unit
  /-- The simulation is told that a port is gone. -/
  removePort : VirtualPort → Except SimulationError Unit
  /-- The membership is asked for the hosts of a port set. -/
  participants : PortId → Option (OrderedSet Ipv4)
  /-- The policy is asked which match to install. -/
  widen : FlowScope → HeaderMatch → HeaderMatch

/-- One call on a collaborator, with its answer if it has one. -/
inductive Call where
  | addRule (rule : FlowRule) (answer : Except DatapathError Unit)
  | sendPacket (buffer : Buffer) (inPort : PortNumber) (actions : List Action) (data : Octets)
      (answer : Except DatapathError Unit)
  | freeBuffer (buffer : Buffer) (answer : Except DatapathError Unit)
  | process (arrival : Arrival) (outcome : Outcome)
  | freeFlow (element : ElementId) (flow : HeaderMatch) (answer : Except SimulationError Unit)
  | addPort (port : VirtualPort) (answer : Except SimulationError Unit)
  | removePort (port : VirtualPort) (answer : Except SimulationError Unit)
  | participants (set : PortId) (answer : Option (OrderedSet Ipv4))
  | addParticipant (set : PortId) (host : Ipv4)
  | removeParticipant (set : PortId) (host : Ipv4)
  /-- The resolver is asked for the address of a next hop behind a port. -/
  | resolve (token : Token) (port : PortId) (nextHop : Ipv4)
  /-- The DHCP service gets a request. -/
  | dhcp (port : VirtualPort) (message : DhcpMessage) (client : Mac)
  | widen (scope : FlowScope) (exact : HeaderMatch) (answer : HeaderMatch)
  /-- The policy is told of a packet that could not be delivered. -/
  | unreachable (code : UnreachableCode) (ingress : PortId) (packet : Packet)
  /-- The observer is told of an installed flow. -/
  | installed (exact : HeaderMatch) (installed : HeaderMatch) (ingress : PortId) (elements : ElementSet)
  deriving DecidableEq

end VirtualRouter
