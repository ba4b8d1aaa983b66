import VirtualRouter.Port.VirtualPort
import VirtualRouter.Topology.Verdict

/-!
A simulation that knows its ports and nothing else. No IPv4 packet has a route, no other packet is IPv4, and no
element holds state for a flow. It refuses packets from ports it was not told of, and ports that it never had.
-/

namespace VirtualRouter

/-- A topology of ports without routes. -/
structure BareTopology where
  ports : OrderedSet PortId := .empty
  deriving DecidableEq

namespace BareTopology

instance : Inhabited BareTopology := ⟨{}⟩

/-- The decision on a packet. -/
def process (t : BareTopology) (inPort : PortId) (packet : Packet) : Except SimulationError Verdict :=
  if inPort ∉ t.ports then .error (.unknownPort inPort)
  else if packet.isIpv4 then .ok .noRoute
  else .ok .notIpv4

/-- Frees the state of an element for a flow; there is none. -/
def freeFlow (element : ElementId) : Except SimulationError Unit := .error (.unknownElement element)

/-- The answer to a port that goes: an error if it was never added. -/
def removal (t : BareTopology) (port : VirtualPort) : Except SimulationError Unit :=
  if port.id ∈ t.ports then .ok () else .error (.unknownPort port.id)

/-- The topology with a port. -/
def add (t : BareTopology) (port : VirtualPort) : BareTopology := { t with ports := t.ports.insert port.id }

/-- The topology without a port. -/
def remove (t : BareTopology) (port : VirtualPort) : BareTopology := { t with ports := t.ports.erase port.id }

end BareTopology

end VirtualRouter
