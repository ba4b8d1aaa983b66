import VirtualRouter.PortSet.LocalSlices
import VirtualRouter.PortSet.Participants
import VirtualRouter.Tunnel.TunnelTable

/-!
The ports that a packet to a port set is sent out of: the local slice of the set, and the tunnel to every
participating host but this one. A participant without a tunnel is passed over.
-/

namespace VirtualRouter

/-- The ports towards a port set, given its participants. -/
def fanOut (localAddress : Ipv4) (slices : LocalSlices) (tunnels : TunnelTable) (set : PortId)
    (hosts : OrderedSet Ipv4) : OrderedSet PortNumber :=
  ((hosts.erase localAddress).toList.filterMap tunnels.towards).foldl OrderedSet.insert
    ((slices.slice? set).getD .empty)

end VirtualRouter
