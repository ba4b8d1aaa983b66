import VirtualRouter.Bench.Log
import VirtualRouter.Daemon.Loop

/-!
Trials on the bench: a controller that is told events one by one, and a daemon that runs by a clock of its own. The
daemon is let run until it is idle whenever time has passed or an event was sent; of several answers that fall due
before a moment the earlier comes first.
-/

namespace VirtualRouter

/-! ### A controller -/

/-- A controller among the collaborators of a bench. -/
structure ControllerTrial where
  controller : Controller
  bench : Bench

/-- Tells the controller an event; the answer is what the bench shows of it. -/
def ControllerTrial.tell (t : ControllerTrial) (e : Event) : ControllerTrial × List Call :=
  let turn := t.controller.step t.bench.answers e
  ({ controller := turn.controller, bench := turn.calls.foldl Bench.after t.bench },
    Bench.ordered (turn.calls.filter t.bench.shows))

/-! ### A daemon -/

/-- A daemon among the collaborators of a bench, with the calls shown so far. -/
structure DaemonTrial where
  daemon : Daemon
  bench : Bench
  shown : List Call := []

namespace DaemonTrial

/-- Lets the daemon handle the next event, if there is one. -/
def take? (t : DaemonTrial) : Option DaemonTrial :=
  (t.daemon.take? t.bench.answers).map fun (daemon, calls) =>
    { daemon, bench := calls.foldl Bench.after t.bench, shown := t.shown ++ calls.filter t.bench.shows }

/-- Lets the first task that is due answer, if there is one. -/
def answer? (t : DaemonTrial) : Option DaemonTrial :=
  (t.daemon.tasks.find? (·.due ≤ t.daemon.clock)).bind fun task =>
    (t.daemon.answer? task).map fun daemon => { t with daemon }

/-- Lets the daemon move while it can, at most a number of times. -/
def settleWithin : Nat → DaemonTrial → DaemonTrial
  | 0, t => t
  | fuel + 1, t =>
    match t.take?.or t.answer? with
    | some t' => settleWithin fuel t'
    | none => t

/-- Lets the daemon run until it is idle. An event takes one move and may start a task, a task takes one move and
    sends an event. -/
def settle (t : DaemonTrial) : DaemonTrial :=
  t.settleWithin (3 * t.daemon.queue.length + 2 * t.daemon.tasks.length)

/-- The moment before a given one at which the next task is due. -/
def nextDue? (t : DaemonTrial) (clock : Nat) : Option Nat :=
  ((t.daemon.tasks.map (·.due)).filter (· < clock)).min?

/-- Lets the tasks answer that are due before a moment, for at most a number of different times. -/
def passWithin : Nat → Nat → DaemonTrial → DaemonTrial
  | 0, _, t => t
  | fuel + 1, clock, t =>
    match t.nextDue? clock with
    | some due => passWithin fuel clock (settle { t with daemon := t.daemon.advance due })
    | none => t

/-- Lets time pass up to a moment; the answer is what is shown meanwhile. -/
def passUntil (t : DaemonTrial) (clock : Nat) : DaemonTrial × List Call :=
  let t := passWithin t.daemon.tasks.length clock { t with shown := [] }
  ({ t with daemon := t.daemon.advance clock }, Bench.ordered t.shown)

/-- Sends an event and lets the daemon run; the answer is whether it was taken, and what is shown. -/
def send (t : DaemonTrial) (e : Event) : DaemonTrial × Bool × List Call :=
  match t.daemon.send? e with
  | some daemon =>
    let t := settle { t with daemon, shown := [] }
    (t, true, Bench.ordered t.shown)
  | none => (t, false, [])

end DaemonTrial

end VirtualRouter
