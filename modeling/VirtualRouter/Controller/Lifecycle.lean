import VirtualRouter.Controller.Turn

/-!
Ports that come and go, and rules that end. A port that is attached is made known to the simulation and gets a rule
that sends DHCP requests to the controller before any other rule can take them; a port that is detached leaves every
port set. A port that cannot be attached or detached changes nothing.
-/

namespace VirtualRouter

/-! ### The rule for DHCP requests -/

/-- The priority of rules for the controller's services. -/
def servicePriority : UInt16 := 1

/-- How much of a DHCP request the switch passes on, in bytes. -/
def dhcpLength : UInt16 := 1024

/-- The match of DHCP requests from a port. -/
def dhcpMatch (number : PortNumber) : HeaderMatch where
  inPort := some number
  dlType := some ethertypeIpv4
  nwProto := some protocolUdp
  tpSrc := some dhcpClientPort
  tpDst := some dhcpServerPort

/-- The rule that sends DHCP requests from a port to the controller. -/
def dhcpRule (number : PortNumber) : FlowRule :=
  .permanent (dhcpMatch number) servicePriority [.toController dhcpLength]

namespace Turn

/-- Attaches a virtual port. -/
def portAttached (a : Answers) (port : VirtualPort) (t : Turn) : Turn :=
  match t.controller.ports.attach port with
  | .error _ => t
  | .ok ports =>
    let rule := dhcpRule port.number
    call { t with controller.ports := ports } (.addPort port (a.addPort port))
      |>.call (.addRule rule (a.addRule rule))
      |>.countFailure .datapathErrors (a.addRule rule)

/-- Detaches a virtual port. -/
def portDetached (a : Answers) (id : PortId) (t : Turn) : Turn :=
  match t.controller.ports.detach id with
  | .error _ => t
  | .ok (ports, port) =>
    call
      { t with
        controller.ports := ports
        controller.slices := (t.controller.slices.leaveAll port.number).1 }
      (.removePort port (a.removePort port))

/-- Handles a rule that the switch no longer holds: the elements behind it free their state. -/
def flowRemoved (a : Answers) (removal : FlowRemoval) (t : Turn) : Turn :=
  let (ledger, elements) := t.controller.ledger.release removal.pattern
  (count { t with controller.ledger := ledger } .flowsRemoved).releaseElements a removal.pattern elements

end Turn

end VirtualRouter
