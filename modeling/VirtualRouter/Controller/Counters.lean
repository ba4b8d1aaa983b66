import VirtualRouter.Collection.Tally

/-!
The controller's counters. Counting one thing moves its counter by one, unless that is full, and no other.
-/

namespace VirtualRouter

/-- What the controller counts. -/
inductive Counter where
  | packetsIn
  | packetsDropped
  | malformedPackets
  | dhcpRequests
  | simulationErrors
  | flowsInstalled
  | blackholesInstalled
  | resolutionsStarted
  | resolutionsSucceeded
  | resolutionsFailed
  | flowsRemoved
  | elementCleanupFailures
  | datapathErrors
  deriving DecidableEq, Repr

/-- Everything counted. -/
def Counter.all : List Counter :=
  [.packetsIn, .packetsDropped, .malformedPackets, .dhcpRequests, .simulationErrors, .flowsInstalled,
    .blackholesInstalled, .resolutionsStarted, .resolutionsSucceeded, .resolutionsFailed, .flowsRemoved,
    .elementCleanupFailures, .datapathErrors]

/-- A counter for each thing that is counted. -/
structure Counters where
  packetsIn : Tally := {}
  packetsDropped : Tally := {}
  malformedPackets : Tally := {}
  dhcpRequests : Tally := {}
  simulationErrors : Tally := {}
  flowsInstalled : Tally := {}
  blackholesInstalled : Tally := {}
  resolutionsStarted : Tally := {}
  resolutionsSucceeded : Tally := {}
  resolutionsFailed : Tally := {}
  flowsRemoved : Tally := {}
  elementCleanupFailures : Tally := {}
  datapathErrors : Tally := {}
  deriving DecidableEq, Repr, Inhabited

namespace Counters

/-- The counter of a thing. -/
def get (c : Counters) : Counter → Tally
  | .packetsIn => c.packetsIn
  | .packetsDropped => c.packetsDropped
  | .malformedPackets => c.malformedPackets
  | .dhcpRequests => c.dhcpRequests
  | .simulationErrors => c.simulationErrors
  | .flowsInstalled => c.flowsInstalled
  | .blackholesInstalled => c.blackholesInstalled
  | .resolutionsStarted => c.resolutionsStarted
  | .resolutionsSucceeded => c.resolutionsSucceeded
  | .resolutionsFailed => c.resolutionsFailed
  | .flowsRemoved => c.flowsRemoved
  | .elementCleanupFailures => c.elementCleanupFailures
  | .datapathErrors => c.datapathErrors

/-- Counts one thing once more. -/
def bump (c : Counters) : Counter → Counters
  | .packetsIn => { c with packetsIn := c.packetsIn.next }
  | .packetsDropped => { c with packetsDropped := c.packetsDropped.next }
  | .malformedPackets => { c with malformedPackets := c.malformedPackets.next }
  | .dhcpRequests => { c with dhcpRequests := c.dhcpRequests.next }
  | .simulationErrors => { c with simulationErrors := c.simulationErrors.next }
  | .flowsInstalled => { c with flowsInstalled := c.flowsInstalled.next }
  | .blackholesInstalled => { c with blackholesInstalled := c.blackholesInstalled.next }
  | .resolutionsStarted => { c with resolutionsStarted := c.resolutionsStarted.next }
  | .resolutionsSucceeded => { c with resolutionsSucceeded := c.resolutionsSucceeded.next }
  | .resolutionsFailed => { c with resolutionsFailed := c.resolutionsFailed.next }
  | .flowsRemoved => { c with flowsRemoved := c.flowsRemoved.next }
  | .elementCleanupFailures => { c with elementCleanupFailures := c.elementCleanupFailures.next }
  | .datapathErrors => { c with datapathErrors := c.datapathErrors.next }

/-- The things that were counted since earlier counters. -/
def changes (c earlier : Counters) : List Counter := Counter.all.filter fun k => c.get k ≠ earlier.get k

theorem get_bump (c : Counters) (k j : Counter) :
    (c.bump k).get j = if j = k then (c.get j).next else c.get j := by
  cases k <;> cases j <;> rfl

theorem ext_get {c d : Counters} (h : ∀ k, c.get k = d.get k) : c = d := by
  cases c; cases d
  simp only [mk.injEq]
  exact ⟨h .packetsIn, h .packetsDropped, h .malformedPackets, h .dhcpRequests, h .simulationErrors,
    h .flowsInstalled, h .blackholesInstalled, h .resolutionsStarted, h .resolutionsSucceeded,
    h .resolutionsFailed, h .flowsRemoved, h .elementCleanupFailures, h .datapathErrors⟩

/-- The order in which things are counted does not matter. -/
theorem bump_comm (c : Counters) (k j : Counter) : (c.bump k).bump j = (c.bump j).bump k := by
  refine ext_get fun i => ?_
  simp only [get_bump]
  split <;> split <;> simp_all

end Counters

end VirtualRouter
