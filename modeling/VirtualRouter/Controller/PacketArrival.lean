import VirtualRouter.Controller.Verdicts
import VirtualRouter.Frame.Reading

/-!
The arrival of a packet. Where it came from decides first: from a port that is neither virtual nor a tunnel it is
dropped, and a tunnel goes before a virtual port on the same number. A packet from a tunnel waits for the address of
its next hop. A packet from a virtual port is handed to the DHCP service if it is a request for it, dropped if it was
sent to another station, and otherwise decided on by the simulation.
-/

namespace VirtualRouter

/-- Where a packet comes from. -/
inductive Ingress where
  | unknown
  | tunnel
  | port (port : VirtualPort)
  deriving DecidableEq

namespace Controller

/-- The number that a packet counts as coming in by: the service target stands in for the switch's own stack. -/
def ingressNumber (c : Controller) (number : PortNumber) : PortNumber :=
  if number = .switchLocal then c.serviceTarget.getD number else number

/-- What is attached to a port number. -/
def ingress (c : Controller) (number : PortNumber) : Ingress :=
  if c.tunnels.isTunnel number then .tunnel
  else match c.ports.byNumber number with
    | some port => .port port
    | none => .unknown

/-- A packet from a tunnel, as it waits for the address of its next hop. -/
def tunnelled (c : Controller) (notice : PacketIn) (packet : Packet) : TunnelledPacket where
  buffer := notice.buffer
  inPort := c.ingressNumber notice.inPort
  data := notice.data
  packet := packet
  incoming := packet.exactMatch (c.ingressNumber notice.inPort)
  header := .decode packet.dlSrc packet.dlDst

/-- A packet from a virtual port, as the simulation gets it. -/
def arrival (c : Controller) (notice : PacketIn) (ingress : VirtualPort) (packet : Packet) : Arrival where
  inPort := ingress.id
  incoming := packet.exactMatch (c.ingressNumber notice.inPort)
  packet := packet

end Controller

/-- A packet that came in by a port, with what the simulation made of it. -/
def Outcome.decided (outcome : Outcome) (buffer : Buffer) (data : Octets) (ingress : PortId) : DecidedPacket where
  buffer := buffer
  ingress := ingress
  data := data
  source := outcome.arrival.inPort
  packet := outcome.arrival.packet
  incoming := outcome.arrival.incoming
  wanted := outcome.wanted
  elements := outcome.elements

namespace Turn

/-- Handles a packet from a tunnel. One to a port that is not attached here is left to the switch. -/
def packetFromTunnel (p : TunnelledPacket) (t : Turn) : Turn :=
  if (t.controller.ports.byId p.header.egress).isSome then
    t.requestAddress p.header.egress p.header.nextHop (.tunnelled p)
  else t.count .packetsDropped

/-- Has the simulation decide on a packet, and carries out what it says. -/
def decide (a : Answers) (buffer : Buffer) (data : Octets) (arrival : Arrival) (t : Turn) : Turn :=
  let outcome := a.process arrival
  let t := t.call (.process arrival outcome)
  match outcome.verdict with
  | .error _ =>
    t.count .simulationErrors
      |>.discard a buffer
      |>.releaseElements a outcome.arrival.incoming outcome.elements
  | .ok verdict => carryOut a (outcome.decided buffer data arrival.inPort) t verdict

/-- Handles a packet from a virtual port. -/
def packetFromPort (a : Answers) (buffer : Buffer) (data : Octets) (ingress : VirtualPort) (arrival : Arrival)
    (t : Turn) : Turn :=
  match arrival.packet.bootRequest? with
  | some request =>
    t.count .dhcpRequests
      |>.call (.dhcp ingress request arrival.packet.dlSrc)
      |>.freeBuffer a buffer
  | none =>
    if arrival.packet.dlDst = ingress.mac ∨ arrival.packet.dlDst.isMulticast then t.decide a buffer data arrival
    else (t.count .packetsDropped).blackhole a arrival.incoming buffer

/-- Handles a packet that no rule of the switch matched. -/
def packetIn (a : Answers) (notice : PacketIn) (t : Turn) : Turn :=
  let t := t.count .packetsIn
  match t.controller.ingress (t.controller.ingressNumber notice.inPort), Packet.parse notice.data with
  | .unknown, _ => t.discard a notice.buffer
  | _, .error _ => (t.count .malformedPackets).discard a notice.buffer
  | .tunnel, .ok packet => t.packetFromTunnel (t.controller.tunnelled notice packet)
  | .port ingress, .ok packet =>
    t.packetFromPort a notice.buffer notice.data ingress (t.controller.arrival notice ingress packet)

end Turn

end VirtualRouter
