import VirtualRouter.Collection.Tally
import VirtualRouter.Flow.Rule

/-!
A switch connection that only counts. It accepts every request, and its four counters say how many rules, how many
of them drop rules, how many packets and how many releases it was asked for.
-/

namespace VirtualRouter

/-- The requests that a counting switch connection has taken. -/
structure RequestTally where
  rules : Tally := {}
  dropRules : Tally := {}
  packetsOut : Tally := {}
  buffersFreed : Tally := {}
  deriving DecidableEq, Repr, Inhabited

namespace RequestTally

/-- Takes a rule. -/
def addRule (t : RequestTally) (rule : FlowRule) : RequestTally :=
  { t with rules := t.rules.next, dropRules := if rule.isDrop then t.dropRules.next else t.dropRules }

/-- Takes a packet to send. -/
def sendPacket (t : RequestTally) : RequestTally := { t with packetsOut := t.packetsOut.next }

/-- Takes the release of a buffer. -/
def freeBuffer (t : RequestTally) : RequestTally := { t with buffersFreed := t.buffersFreed.next }

end RequestTally

end VirtualRouter
