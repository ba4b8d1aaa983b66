import VirtualRouter.Address.Identifier
import VirtualRouter.Collection.OrderedSet
import VirtualRouter.Frame.Packet

/-!
What the simulation of the virtual topology is asked and answers. It gets a packet with the port it came in by and
its exact match, and answers with a verdict or an error. Either way it says which elements took part, and what the
packet's headers are to be on the way out. What it was given it can change too, though it is not meant to.
-/

namespace VirtualRouter

/-- The elements that took part in a decision. -/
abbrev ElementSet := OrderedSet ElementId

/-- The decision on a packet. -/
inductive Verdict where
  /-- Drop it silently. -/
  | blackhole
  /-- The simulation has dealt with it. -/
  | consumed
  /-- Send it on by a local port, a port set or a port of another host. -/
  | forward (outPort : PortId) (nextHop : Ipv4)
  | notIpv4
  | noRoute
  | reject
  deriving DecidableEq, Repr

/-- Why the simulation could not answer. -/
inductive SimulationError where
  | failed (reason : String)
  | unknownElement (element : ElementId)
  | unknownPort (port : PortId)
  deriving DecidableEq, Repr

/-- The report of a simulation error. -/
def SimulationError.message : SimulationError → String
  | .failed reason => "simulation failed: " ++ reason
  | .unknownElement element => "unknown forwarding element " ++ element.text
  | .unknownPort port => "unknown port " ++ port.text

/-- A packet as the simulation gets it. -/
structure Arrival where
  inPort : PortId
  /-- The match of the packet as received. -/
  incoming : HeaderMatch
  packet : Packet
  deriving DecidableEq, Repr

/-- Results are compared by what they hold. -/
instance decidableEqExcept {ε α : Type} [DecidableEq ε] [DecidableEq α] : DecidableEq (Except ε α)
  | .ok a, .ok b => decidable_of_iff (a = b) (by simp)
  | .error e, .error f => decidable_of_iff (e = f) (by simp)
  | .ok _, .error _ => isFalse (by simp)
  | .error _, .ok _ => isFalse (by simp)

/-- The simulation's answer on a packet. -/
structure Outcome where
  verdict : Except SimulationError Verdict
  /-- The packet as the simulation leaves it. -/
  arrival : Arrival
  /-- The headers that the packet is to have on the way out. -/
  wanted : HeaderMatch
  elements : ElementSet
  deriving DecidableEq

end VirtualRouter
