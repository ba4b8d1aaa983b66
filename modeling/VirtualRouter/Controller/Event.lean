import VirtualRouter.Controller.Lifecycle
import VirtualRouter.Controller.PacketArrival
import VirtualRouter.Controller.Resumption

/-!
Events, and the controller as a machine that takes one event at a time. The controller's state after an event and
the calls made meanwhile are a function of the state before, the event and the collaborators' answers. Only a
shutdown asks the loop around the controller to stop.
-/

namespace VirtualRouter

/-- What the controller is told. -/
inductive Event where
  | packetIn (notice : PacketIn)
  | flowRemoved (removal : FlowRemoval)
  /-- The resolver has found an address, or given up. -/
  | addressResolved (token : Token) (mac : Option Mac)
  | portAttached (port : VirtualPort)
  | portDetached (id : PortId)
  | tunnelAdded (number : PortNumber) (peer : Ipv4)
  | tunnelRemoved (number : PortNumber)
  /-- A virtual port lives on another host. -/
  | portLocated (id : PortId) (host : Ipv4)
  | portUnlocated (id : PortId)
  | participantAdded (set : PortId) (host : Ipv4)
  | participantRemoved (set : PortId) (host : Ipv4)
  /-- A port of this switch belongs to a port set. -/
  | portJoined (set : PortId) (number : PortNumber)
  | portLeft (set : PortId) (number : PortNumber)
  | shutdown
  deriving DecidableEq

/-- The loop around the controller goes on after the event. -/
def Event.continues (e : Event) : Bool := e ≠ .shutdown

/-- Handles an event within a turn. -/
def Turn.handle (a : Answers) (t : Turn) : Event → Turn
  | .packetIn notice => t.packetIn a notice
  | .flowRemoved removal => t.flowRemoved a removal
  | .addressResolved token mac => t.addressResolved a token mac
  | .portAttached port => t.portAttached a port
  | .portDetached id => t.portDetached a id
  | .tunnelAdded number peer => { t with controller.tunnels := t.controller.tunnels.add number peer }
  | .tunnelRemoved number => { t with controller.tunnels := (t.controller.tunnels.remove number).1 }
  | .portLocated id host => { t with controller.tunnels := t.controller.tunnels.locate id host }
  | .portUnlocated id => { t with controller.tunnels := (t.controller.tunnels.unlocate id).1 }
  | .participantAdded set host => t.call (.addParticipant set host)
  | .participantRemoved set host => t.call (.removeParticipant set host)
  | .portJoined set number => { t with controller.slices := (t.controller.slices.join set number).1 }
  | .portLeft set number => { t with controller.slices := (t.controller.slices.leave set number).1 }
  | .shutdown => t

/-- The controller after an event, with the calls made on the way. -/
def Controller.step (a : Answers) (c : Controller) (e : Event) : Turn := Turn.handle a { controller := c } e

/-- The controller with another service target. -/
def Controller.withServiceTarget (c : Controller) (number : PortNumber) : Controller :=
  { c with serviceTarget := some number }

end VirtualRouter
