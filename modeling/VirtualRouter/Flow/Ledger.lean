import VirtualRouter.Collection.Table
import VirtualRouter.Topology.Verdict

/-!
The installed flows with the elements that took part in deciding on them. A match is in the ledger at most once;
recording it again joins the elements. Releasing a match that is not there yields no elements.
-/

namespace VirtualRouter

/-- The elements behind each installed flow. -/
structure FlowLedger where
  flows : Table HeaderMatch ElementSet := .empty
  deriving DecidableEq

namespace FlowLedger

instance : Inhabited FlowLedger := ⟨{}⟩

/-- The elements behind a flow, if it is recorded. -/
def elements? (l : FlowLedger) (flow : HeaderMatch) : Option ElementSet := l.flows.get? flow

/-- The flow is recorded. -/
def contains (l : FlowLedger) (flow : HeaderMatch) : Bool := l.flows.contains flow

/-- Records a flow with its elements, joined to those already recorded for it. -/
def record (l : FlowLedger) (flow : HeaderMatch) (elements : ElementSet) : FlowLedger :=
  ⟨l.flows.insert flow (((l.elements? flow).getD .empty).union elements)⟩

/-- Forgets a flow; the answer is its elements. -/
def release (l : FlowLedger) (flow : HeaderMatch) : FlowLedger × ElementSet :=
  (⟨l.flows.erase flow⟩, (l.elements? flow).getD .empty)

/-- The number of recorded flows. -/
def size (l : FlowLedger) : Nat := l.flows.size

/-- No flow is recorded. -/
def isEmpty (l : FlowLedger) : Bool := l.flows.isEmpty

theorem elements?_record (l : FlowLedger) (flow m : HeaderMatch) (elements : ElementSet) :
    (l.record flow elements).elements? m =
      if m = flow then some (((l.elements? flow).getD .empty).union elements) else l.elements? m :=
  Table.get?_insert ..

theorem elements?_release (l : FlowLedger) (flow m : HeaderMatch) :
    (l.release flow).1.elements? m = if m = flow then none else l.elements? m :=
  Table.get?_erase ..

end FlowLedger

end VirtualRouter
