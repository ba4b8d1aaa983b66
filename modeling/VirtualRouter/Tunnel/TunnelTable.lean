import VirtualRouter.Address.Identifier
import VirtualRouter.Address.Ipv4
import VirtualRouter.Address.PortNumber
import VirtualRouter.Collection.Table

/-!
The tunnels of this host. Each tunnel is a port of the switch that leads to one peer, and each peer has at most one
tunnel: a new tunnel takes the place of the old one on its port and of the old one to its peer. The table also knows
the host of every virtual port that lives elsewhere, and so the tunnel towards it.
-/

namespace VirtualRouter

/-- The tunnel ports of the switch and the hosts of remote virtual ports. -/
structure TunnelTable where
  peers : Table PortNumber Ipv4 := .empty
  numbers : Table Ipv4 PortNumber := .empty
  locations : Table PortId Ipv4 := .empty
  deriving DecidableEq

namespace TunnelTable

instance : Inhabited TunnelTable := ⟨{}⟩

/-- The port is a tunnel. -/
def isTunnel (t : TunnelTable) (number : PortNumber) : Bool := t.peers.contains number

/-- The tunnel to a peer. -/
def towards (t : TunnelTable) (peer : Ipv4) : Option PortNumber := t.numbers.get? peer

/-- The tunnel to the host of a remote virtual port. -/
def towardsPort (t : TunnelTable) (port : PortId) : Option PortNumber :=
  (t.locations.get? port).bind t.towards

/-- Lays a tunnel, in place of those on the same port and to the same peer. -/
def add (t : TunnelTable) (number : PortNumber) (peer : Ipv4) : TunnelTable :=
  let numbers := match t.peers.get? number with
    | some old => if old = peer then t.numbers else t.numbers.erase old
    | none => t.numbers
  let peers := match numbers.get? peer with
    | some old => if old = number then t.peers else t.peers.erase old
    | none => t.peers
  { t with peers := peers.insert number peer, numbers := numbers.insert peer number }

/-- Removes the tunnel on a port; the answer is the peer it led to. -/
def remove (t : TunnelTable) (number : PortNumber) : TunnelTable × Option Ipv4 :=
  match t.peers.get? number with
  | some peer => ({ t with peers := t.peers.erase number, numbers := t.numbers.erase peer }, some peer)
  | none => (t, none)

/-- Notes the host of a remote virtual port. -/
def locate (t : TunnelTable) (port : PortId) (host : Ipv4) : TunnelTable :=
  { t with locations := t.locations.insert port host }

/-- Forgets the host of a remote virtual port; the answer is the host. -/
def unlocate (t : TunnelTable) (port : PortId) : TunnelTable × Option Ipv4 :=
  ({ t with locations := t.locations.erase port }, t.locations.get? port)

/-- The number of tunnels. -/
def size (t : TunnelTable) : Nat := t.peers.size

/-- There is no tunnel. -/
def isEmpty (t : TunnelTable) : Bool := t.peers.isEmpty

end TunnelTable

end VirtualRouter
