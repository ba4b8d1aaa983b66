import VirtualRouter.Config.Settings
import VirtualRouter.Controller.Collaboration
import VirtualRouter.Controller.Counters
import VirtualRouter.Flow.Ledger
import VirtualRouter.Port.PortTable
import VirtualRouter.PortSet.FanOut

/-!
The controller's state, and the single steps that its handlers are made of. A turn is the handling of one event: the
state so far and the calls made so far, in order. Every step takes the answers of the collaborators, so that a turn
is a function of the state, the event and the answers.
-/

namespace VirtualRouter

/-! ### State -/

/-- Everything that the controller of one switch knows. -/
structure Controller where
  datapathId : UInt64
  localAddress : Ipv4
  flows : FlowSettings
  /-- An observer is told of installed flows. -/
  observed : Bool
  ports : PortTable := {}
  tunnels : TunnelTable := {}
  slices : LocalSlices := {}
  ledger : FlowLedger := {}
  parking : Parking := {}
  /-- What stands in for the switch's own stack as the port that a packet came in by. -/
  serviceTarget : Option PortNumber := none
  counters : Counters := {}
  deriving DecidableEq

/-- The controller before any event. -/
def Controller.initial (config : Config) (observed : Bool := false) : Controller where
  datapathId := config.node.datapathId
  localAddress := config.node.localAddress
  flows := config.flows
  observed := observed

/-- The handling of an event: the state and the calls made so far. -/
structure Turn where
  controller : Controller
  calls : List Call := []
  deriving DecidableEq

/-! ### Rules that packets bring about -/

/-- The priority of all rules that packets bring about. -/
def flowPriority : UInt16 := 0

/-- A rule that drops packets, the given one among them. -/
def FlowRule.dropping (pattern : HeaderMatch) (buffer : Buffer) (idle hard : UInt16) : FlowRule where
  pattern := pattern
  priority := flowPriority
  idleTimeout := idle
  hardTimeout := hard
  buffer := buffer
  notifyRemoval := true
  actions := []

/-- The drop rule for a packet with the timeouts that the settings give. -/
def FlowSettings.blackhole (s : FlowSettings) (pattern : HeaderMatch) (buffer : Buffer) : FlowRule :=
  .dropping pattern buffer s.blackholeIdle s.blackholeHard

/-- The rule that forwards packets, the given one among them, with the timeout that the settings give. -/
def FlowSettings.forwarding (s : FlowSettings) (pattern : HeaderMatch) (buffer : Buffer) (actions : List Action) :
    FlowRule where
  pattern := pattern
  priority := flowPriority
  idleTimeout := s.idleExpire
  buffer := buffer
  notifyRemoval := true
  actions := actions

namespace Turn

/-! ### Counting and calling -/

/-- Counts one thing once. -/
def count (t : Turn) (k : Counter) : Turn := { t with controller.counters := t.controller.counters.bump k }

/-- Counts one thing if a call failed. -/
def countFailure {ε : Type} (t : Turn) (k : Counter) (answer : Except ε Unit) : Turn :=
  match answer with
  | .ok _ => t
  | .error _ => t.count k

/-- Makes a call. -/
def call (t : Turn) (c : Call) : Turn := { t with calls := t.calls ++ [c] }

/-! ### Letting go -/

/-- Has the switch forget a packet that it holds. -/
def freeBuffer (a : Answers) (buffer : Buffer) (t : Turn) : Turn :=
  if buffer.isBuffered then
    (t.call (.freeBuffer buffer (a.freeBuffer buffer))).countFailure .datapathErrors (a.freeBuffer buffer)
  else t

/-- Drops a packet. -/
def discard (a : Answers) (buffer : Buffer) (t : Turn) : Turn :=
  (t.count .packetsDropped).freeBuffer a buffer

/-- Has one element free its state for a flow. -/
def releaseElement (a : Answers) (flow : HeaderMatch) (t : Turn) (element : ElementId) : Turn :=
  (t.call (.freeFlow element flow (a.freeFlow element flow))).countFailure .elementCleanupFailures
    (a.freeFlow element flow)

/-- Has elements free their state for a flow, one by one; a failure does not stop the others. -/
def releaseElements (a : Answers) (flow : HeaderMatch) (elements : ElementSet) (t : Turn) : Turn :=
  elements.toList.foldl (releaseElement a flow) t

/-! ### Rules -/

/-- Tells the observer, if there is one, of an installed flow. -/
def announce (incoming installed : HeaderMatch) (ingress : PortId) (elements : ElementSet) (t : Turn) : Turn :=
  if t.controller.observed then t.call (.installed incoming installed ingress elements) else t

/-- Installs a rule that drops packets. -/
def installDrop (a : Answers) (rule : FlowRule) (t : Turn) : Turn :=
  let t := t.call (.addRule rule (a.addRule rule))
  match a.addRule rule with
  | .ok _ => t.count .blackholesInstalled
  | .error _ => t.count .datapathErrors

/-- Installs the drop rule for a packet that the settings give. -/
def blackhole (a : Answers) (pattern : HeaderMatch) (buffer : Buffer) (t : Turn) : Turn :=
  t.installDrop a (t.controller.flows.blackhole pattern buffer)

/-- Has the switch send a packet. -/
def sendPacket (a : Answers) (buffer : Buffer) (inPort : PortNumber) (actions : List Action) (data : Octets)
    (t : Turn) : Turn :=
  let answer := a.sendPacket buffer inPort actions data
  (t.call (.sendPacket buffer inPort actions data answer)).countFailure .datapathErrors answer

/-- Installs a rule that forwards packets, and sends the packet itself if the switch does not hold it. If the rule is
    refused, the packet is dropped; the answer says whether it was accepted. -/
def installForward (a : Answers) (pattern : HeaderMatch) (buffer : Buffer) (actions : List Action) (data : Octets)
    (t : Turn) : Turn × Bool :=
  let rule := t.controller.flows.forwarding pattern buffer actions
  let t := t.call (.addRule rule (a.addRule rule))
  match a.addRule rule with
  | .error _ => ((t.count .datapathErrors).discard a buffer, false)
  | .ok _ =>
    let t := t.count .flowsInstalled
    (if buffer.isBuffered then t else t.sendPacket a buffer .none actions data, true)

/-- Notes an installed flow with the elements behind it. -/
def record (flow : HeaderMatch) (elements : ElementSet) (t : Turn) : Turn :=
  { t with controller.ledger := t.controller.ledger.record flow elements }

/-- Tells the policy that a packet could not be delivered. -/
def unreachable (code : UnreachableCode) (ingress : PortId) (packet : Packet) (t : Turn) : Turn :=
  t.call (.unreachable code ingress packet)

/-- Asks the policy which match to install. -/
def widen (a : Answers) (scope : FlowScope) (incoming : HeaderMatch) (t : Turn) : Turn :=
  t.call (.widen scope incoming (a.widen scope incoming))

end Turn

end VirtualRouter
