import VirtualRouter.Address.Identifier
import VirtualRouter.Address.PortNumber
import VirtualRouter.Collection.OrderedSet
import VirtualRouter.Collection.Table

/-!
The ports of this switch in each port set. The slice of a set is stored only while it has a member.
-/

namespace VirtualRouter

/-- The local slices of the port sets. -/
structure LocalSlices where
  slices : Table PortId (OrderedSet PortNumber) := .empty
  deriving DecidableEq

namespace LocalSlices

instance : Inhabited LocalSlices := ⟨{}⟩

/-- The slice of a port set, if it has a member. -/
def slice? (s : LocalSlices) (set : PortId) : Option (OrderedSet PortNumber) := s.slices.get? set

/-- Adds a port to a set; the answer says whether it is new there. -/
def join (s : LocalSlices) (set : PortId) (port : PortNumber) : LocalSlices × Bool :=
  let slice := (s.slice? set).getD .empty
  (⟨s.slices.insert set (slice.insert port)⟩, decide (port ∉ slice))

/-- What is stored for a slice without a port: nothing if no member is left. -/
def without (port : PortNumber) (slice : OrderedSet PortNumber) : Option (OrderedSet PortNumber) :=
  let rest := slice.erase port
  if rest.isEmpty then none else some rest

/-- Takes a port out of a set; the answer says whether it was there. -/
def leave (s : LocalSlices) (set : PortId) (port : PortNumber) : LocalSlices × Bool :=
  match s.slice? set with
  | some slice =>
    let slices := match without port slice with
      | some rest => s.slices.insert set rest
      | none => s.slices.erase set
    (⟨slices⟩, decide (port ∈ slice))
  | none => (s, false)

/-- Takes a port out of every set; the answer is the number of sets it was in. -/
def leaveAll (s : LocalSlices) (port : PortNumber) : LocalSlices × Nat :=
  (⟨s.slices.filterMap fun _ slice => without port slice⟩, s.slices.values.countP (port ∈ ·))

end LocalSlices

end VirtualRouter
