import VirtualRouter.Controller.Event

/-!
The daemon: one controller behind a bounded queue of events. Events wait in the order in which they were sent, and
one is handled at a time. A request for an address starts a task that will send a single answer: the address of a
known neighbour at once, no address after the timeout of the settings otherwise. Senders and tasks wait while the queue
is full. After a shutdown nothing is sent or handled any more.
-/

namespace VirtualRouter

/-! ### Known neighbours -/

/-- The address of a next hop, if it is a known neighbour; of two entries for one next hop the later counts. -/
def ResolutionSettings.lookup (s : ResolutionSettings) (nextHop : Ipv4) : Option Mac :=
  (s.neighbors.reverse.find? (·.address = nextHop)).map (·.mac)

/-- The longest time that a task sleeps, in milliseconds: thirty years of 365 days. The settings set no such limit. It is the
    furthest deadline that the timer of the asynchronous runtime keeps, in which the tasks live. -/
def longestWait : Nat := 30 * 365 * 24 * 60 * 60 * 1000

/-- How long a task waits before it answers that a next hop is not known, in milliseconds. -/
def ResolutionSettings.wait (s : ResolutionSettings) : Nat := min s.timeout.toNat longestWait

/-- Who answers requests for addresses. -/
inductive Resolver where
  /-- Tasks of the daemon, from its settings. -/
  | tasks (settings : ResolutionSettings)
  /-- Somebody else. -/
  | outside
  deriving DecidableEq

/-- A task that will answer a request for an address. -/
structure AnswerTask where
  token : Token
  mac : Option Mac
  /-- When it answers, in milliseconds. -/
  due : Nat
  deriving DecidableEq, Repr

/-- The tasks that a call starts: one for a request for an address. -/
def Resolver.start (r : Resolver) (clock : Nat) : Call → List AnswerTask
  | .resolve token _ nextHop =>
    match r with
    | .tasks settings =>
      match settings.lookup nextHop with
      | some mac => [{ token, mac, due := clock }]
      | none => [{ token, mac := none, due := clock + settings.wait }]
    | .outside => []
  | _ => []

/-! ### The daemon and its moves -/

/-- The controller, the events that wait for it and the answers on their way. -/
structure Daemon where
  controller : Controller
  resolver : Resolver
  capacity : Nat
  /-- The time in milliseconds. -/
  clock : Nat := 0
  queue : List Event := []
  tasks : List AnswerTask := []
  stopped : Bool := false
  deriving DecidableEq

/-- How many events may wait. -/
def DaemonSettings.capacity (s : DaemonSettings) : Nat := max s.queueDepth.toNat 1

namespace Daemon

/-- The daemon before any event. -/
def initial (config : Config) (controller : Controller) (resolver : Resolver) : Daemon where
  controller := controller
  resolver := resolver
  capacity := config.daemon.capacity

/-- The queue takes one more event. -/
def hasRoom (d : Daemon) : Bool := !d.stopped && d.queue.length < d.capacity

/-- An event is sent, if there is room. -/
def send? (d : Daemon) (e : Event) : Option Daemon :=
  if d.hasRoom then some { d with queue := d.queue ++ [e] } else none

/-- A task answers, if it is due and there is room. -/
def answer? (d : Daemon) (task : AnswerTask) : Option Daemon :=
  if task ∈ d.tasks ∧ task.due ≤ d.clock then
    send? { d with tasks := d.tasks.erase task } (.addressResolved task.token task.mac)
  else none

/-- The next event is handled, if there is one. -/
def take? (a : Answers) (d : Daemon) : Option (Daemon × List Call) :=
  match d.queue with
  | [] => none
  | e :: rest =>
    let turn := d.controller.step a e
    if e.continues then
      let started := turn.calls.flatMap (d.resolver.start d.clock)
      some ({ d with controller := turn.controller, queue := rest, tasks := d.tasks ++ started }, turn.calls)
    else
      some ({ d with controller := turn.controller, queue := [], tasks := [], stopped := true }, turn.calls)

/-- Time passes. -/
def advance (d : Daemon) (clock : Nat) : Daemon := { d with clock := max d.clock clock }

/-! ### How it ends -/

/-- What has become of a daemon that nobody outside can send events to any more. -/
inductive Ending where
  | stopped
  | failed (fault : Fault)
  /-- The resolver may still send an event. -/
  | running
  deriving DecidableEq

/-- The state of an idle daemon after the last outside sender is gone. -/
def ending (d : Daemon) : Ending :=
  if d.stopped then .stopped
  else match d.resolver with
    | .tasks _ => .running
    | .outside => .failed .channelClosed

end Daemon

end VirtualRouter
