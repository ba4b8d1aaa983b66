import VirtualRouter.Collection.Table
import VirtualRouter.Fault
import VirtualRouter.Port.VirtualPort

/-!
The virtual ports attached to the switch, found by identifier and by number. An identifier and a number each belong
to at most one attached port; an attempt that breaks this is refused, a used identifier before a used number.
-/

namespace VirtualRouter

/-- The attached virtual ports, by identifier, and the identifier on each number. -/
structure PortTable where
  ports : Table PortId VirtualPort := .empty
  owners : Table PortNumber PortId := .empty
  deriving DecidableEq

namespace PortTable

instance : Inhabited PortTable := ⟨{}⟩

/-- The attached port of an identifier. -/
def byId (t : PortTable) (id : PortId) : Option VirtualPort := t.ports.get? id

/-- The attached port on a number. -/
def byNumber (t : PortTable) (number : PortNumber) : Option VirtualPort :=
  (t.owners.get? number).bind t.byId

/-- Attaches a port. -/
def attach (t : PortTable) (port : VirtualPort) : Except Fault PortTable :=
  if t.ports.contains port.id then .error (.duplicatePort port.id)
  else if t.owners.contains port.number then .error (.duplicatePortNumber port.number)
  else .ok { ports := t.ports.insert port.id port, owners := t.owners.insert port.number port.id }

/-- Detaches a port; the answer is the port. -/
def detach (t : PortTable) (id : PortId) : Except Fault (PortTable × VirtualPort) :=
  match t.byId id with
  | some port => .ok ({ ports := t.ports.erase id, owners := t.owners.erase port.number }, port)
  | none => .error (.unknownPort id)

/-- The attached ports, in the order of their identifiers. -/
def all (t : PortTable) : List VirtualPort := (Ranked.sort t.ports.keys).filterMap t.byId

/-- The number of attached ports. -/
def size (t : PortTable) : Nat := t.ports.size

/-- No port is attached. -/
def isEmpty (t : PortTable) : Bool := t.ports.isEmpty

end PortTable

end VirtualRouter
