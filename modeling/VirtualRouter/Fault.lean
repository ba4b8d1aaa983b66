import VirtualRouter.Address.Identifier
import VirtualRouter.Address.PortNumber
import VirtualRouter.Datapath.Error
import VirtualRouter.Frame.Packet
import VirtualRouter.Topology.Verdict

/-!
What can go wrong while the controller is set up, in its registries and in its event loop. The handlers of events
never fail; they count what their collaborators report.
-/

namespace VirtualRouter

/-- A failed operation of the controller. -/
inductive Fault where
  | config (reason : String)
  | io (reason : String)
  | packet (error : PacketError)
  | datapath (error : DatapathError)
  | simulation (error : SimulationError)
  | duplicatePort (id : PortId)
  | duplicatePortNumber (number : PortNumber)
  | unknownPort (id : PortId)
  | channelClosed
  deriving DecidableEq, Repr

/-- The report of a failed operation. -/
def Fault.message : Fault → String
  | .config reason => "Configuration error: " ++ reason
  | .io reason => "IO error: " ++ reason
  | .packet error => "Packet error: " ++ error.message
  | .datapath error => "Datapath error: " ++ error.message
  | .simulation error => "Simulation error: " ++ error.message
  | .duplicatePort id => "virtual port " ++ id.text ++ " is already attached"
  | .duplicatePortNumber number => "datapath port " ++ number.text ++ " is already in use"
  | .unknownPort id => "virtual port " ++ id.text ++ " is not attached"
  | .channelClosed => "event channel closed"

end VirtualRouter
