import VirtualRouter.Address.Identifier
import VirtualRouter.Address.Ipv4
import VirtualRouter.Collection.OrderedSet
import VirtualRouter.Collection.Table

/-!
The hosts that take part in each port set. A set is declared on its own or by its first participant, and stays
declared when its last participant goes.
-/

namespace VirtualRouter

/-- The declared port sets with their participating hosts. -/
structure Participants where
  sets : Table PortId (OrderedSet Ipv4) := .empty
  deriving DecidableEq

namespace Participants

instance : Inhabited Participants := ⟨{}⟩

/-- The hosts of a port set, if it is declared. -/
def hosts? (p : Participants) (set : PortId) : Option (OrderedSet Ipv4) := p.sets.get? set

/-- Declares a port set. -/
def declare (p : Participants) (set : PortId) : Participants :=
  ⟨p.sets.insert set ((p.hosts? set).getD .empty)⟩

/-- Withdraws a port set; the answer says whether it was declared. -/
def withdraw (p : Participants) (set : PortId) : Participants × Bool := (⟨p.sets.erase set⟩, p.sets.contains set)

/-- Adds a host to a port set, declaring the set if need be. -/
def add (p : Participants) (set : PortId) (host : Ipv4) : Participants :=
  ⟨p.sets.insert set (((p.hosts? set).getD .empty).insert host)⟩

/-- Removes a host from a port set; the answer says whether it took part. -/
def remove (p : Participants) (set : PortId) (host : Ipv4) : Participants × Bool :=
  match p.hosts? set with
  | some hosts => (⟨p.sets.insert set (hosts.erase host)⟩, host ∈ hosts)
  | none => (p, false)

end Participants

end VirtualRouter
