import VirtualRouter.Flow.Action
import VirtualRouter.Datapath.Buffer

/-!
Flow rules as the switch is asked to install them. A rule without actions drops its packets; a timeout of zero
seconds never ends a rule.
-/

namespace VirtualRouter

/-- A request to install a flow. -/
structure FlowRule where
  pattern : HeaderMatch
  cookie : UInt64 := 0
  priority : UInt16
  idleTimeout : UInt16 := 0
  hardTimeout : UInt16 := 0
  /-- The packet that the new rule is applied to at once. -/
  buffer : Buffer := .unbuffered
  /-- The switch reports when the rule is gone. -/
  notifyRemoval : Bool := false
  actions : List Action
  deriving DecidableEq, Repr

namespace FlowRule

/-- A rule that stays until it is deleted, goes unreported and touches no held packet. -/
def permanent (pattern : HeaderMatch) (priority : UInt16) (actions : List Action) : FlowRule :=
  { pattern, priority, actions }

/-- The rule drops its packets. -/
def isDrop (r : FlowRule) : Bool := r.actions.isEmpty

end FlowRule

end VirtualRouter
