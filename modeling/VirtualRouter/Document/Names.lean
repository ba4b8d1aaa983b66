import VirtualRouter.Address.Identifier
import VirtualRouter.Address.Mac
import VirtualRouter.Address.Ipv4
import VirtualRouter.Address.PortNumber
import VirtualRouter.Document.Value

/-!
Addresses, identifiers and port numbers in a document. Port numbers stand there as numbers and all others as texts,
in any form in which they can be read.
-/

namespace VirtualRouter

open Document

/-- A network address. -/
def Ipv4.ofValue? (v : Value) : Option Ipv4 := v.text?.bind ofText?

/-- An Ethernet address. -/
def Mac.ofValue? (v : Value) : Option Mac := v.text?.bind ofText?

/-- The identifier of a virtual port. -/
def PortId.ofValue? (v : Value) : Option PortId := (v.text?.bind Identifier.ofText?).map mk

/-- The identifier of a forwarding element. -/
def ElementId.ofValue? (v : Value) : Option ElementId := (v.text?.bind Identifier.ofText?).map mk

/-- A port number of the switch. -/
def PortNumber.ofValue? (v : Value) : Option PortNumber := v.word?.map mk

end VirtualRouter
