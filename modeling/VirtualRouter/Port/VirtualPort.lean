import VirtualRouter.Address.Identifier
import VirtualRouter.Address.Mac
import VirtualRouter.Address.PortNumber

/-!
Virtual ports attached to the switch.
-/

namespace VirtualRouter

/-- A virtual port: its identity in the topology, its port of the switch, its Ethernet address and the router or
    bridge it belongs to. -/
structure VirtualPort where
  id : PortId
  number : PortNumber
  mac : Mac
  device : ElementId
  deriving DecidableEq, Repr, Inhabited

end VirtualRouter
