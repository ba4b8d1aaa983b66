import VirtualRouter.Daemon.Loop
import VirtualRouter.Proofs.Run.History

/-! The daemon as a system of parties that exchange messages. Outside senders put events on the queue, the tasks of the
    resolver put their answers there, and the controller takes events off it, one at a time and in order. The parties
    take turns in any order, and time passes as it likes. Outside senders send no answers. -/

namespace VirtualRouter

/-- What an answer of the resolver says: under which token, and the address if there is one. -/
def Event.answer? : Event → Option (Token × Option Mac)
  | .addressResolved token mac => some (token, mac)
  | _ => none

def AnswerTask.answer (task : AnswerTask) : Token × Option Mac := (task.token, task.mac)

/-- The token and the next hop that the resolver is asked for. -/
def Call.query? : Call → Option (Token × Ipv4)
  | .resolve token _ nextHop => some (token, nextHop)
  | _ => none

/-- The answer that a task will give to a request. -/
def ResolutionSettings.reply (s : ResolutionSettings) (query : Token × Ipv4) : Token × Option Mac :=
  (query.1, s.lookup query.2)

/-- The answers on their way to the controller: those in the queue and those of the tasks. -/
def Daemon.inFlight (d : Daemon) : List (Token × Option Mac) :=
  d.queue.filterMap Event.answer? ++ d.tasks.map AnswerTask.answer

def Entry.queries (x : Entry) : List (Token × Ipv4) := x.calls.filterMap Call.query?

namespace History

def queries (history : History) : List (Token × Ipv4) := history.flatMap Entry.queries

def answers (history : History) : List (Token × Option Mac) := history.filterMap fun x => x.event.answer?

end History

/-- The histories of a daemon's controller, with the daemon that each leads to. -/
inductive Service (config : Config) (observed : Bool) : History → Daemon → Prop
  | initial {c : Controller} (run : Run config observed [] c) :
      Service config observed [] (.initial config c (.tasks config.resolution))
  | sent {history : History} {d d' : Daemon} (e : Event) (outside : e.answer? = none)
      (service : Service config observed history d) (accepted : d.send? e = some d') : Service config observed history d'
  | answered {history : History} {d d' : Daemon} (task : AnswerTask) (service : Service config observed history d)
      (accepted : d.answer? task = some d') : Service config observed history d'
  | handled {history : History} {d d' : Daemon} {e : Event} {rest : List Event} {calls : List Call} (a : Answers)
      (service : Service config observed history d) (next : d.queue = e :: rest) (taken : d.take? a = some (d', calls)) :
      Service config observed (⟨d.controller, a, e⟩ :: history) d'
  | waited {history : History} {d : Daemon} (clock : Nat) (service : Service config observed history d) :
      Service config observed history (d.advance clock)

/-! ### Single moves -/

namespace Daemon
variable {d d' : Daemon} {e : Event} {task : AnswerTask} {a : Answers} {rest : List Event} {calls : List Call}

theorem send?_inv (h : d.send? e = some d') : d.stopped = false ∧ d' = { d with queue := d.queue ++ [e] } := by
  unfold send? at h
  split at h
  · rename_i room
    simp only [hasRoom, Bool.and_eq_true, Bool.not_eq_true'] at room
    exact ⟨room.1, (Option.some.inj h).symm⟩
  · cases h

theorem answer?_inv (h : d.answer? task = some d') : task ∈ d.tasks ∧ d.stopped = false ∧ d' =
    { d with tasks := d.tasks.erase task, queue := d.queue ++ [.addressResolved task.token task.mac] } := by
  unfold answer? at h
  split at h
  · rename_i ready
    exact ⟨ready.1, send?_inv h⟩
  · cases h

/-- The controller handles the next event. It starts the tasks of the requests that are made, unless it is the end. -/
theorem take?_inv (next : d.queue = e :: rest) (h : d.take? a = some (d', calls)) :
    d' = { d with
        controller := (d.controller.step a e).controller
        queue := rest
        tasks := d.tasks ++ (d.controller.step a e).calls.flatMap (d.resolver.start d.clock) } ∨
      e = .shutdown ∧ d' = { d with
        controller := (d.controller.step a e).controller
        queue := []
        tasks := []
        stopped := true } := by
  cases goes : e.continues with
  | true =>
    simp only [take?, next, goes, if_true, Option.some.injEq, Prod.mk.injEq] at h
    exact .inl h.1.symm
  | false =>
    simp only [take?, next, goes, Bool.false_eq_true, if_false, Option.some.injEq, Prod.mk.injEq] at h
    exact .inr ⟨by simpa [Event.continues] using goes, h.1.symm⟩

theorem inFlight_send (outside : e.answer? = none) (h : d.send? e = some d') : d'.inFlight = d.inFlight := by
  rw [(send?_inv h).2]
  simp [inFlight, outside]

/-- A task's answer stays on its way when it goes to the queue. -/
theorem inFlight_answer (h : d.answer? task = some d') : d'.inFlight.Perm d.inFlight := by
  obtain ⟨waits, -, rfl⟩ := answer?_inv h
  have moved : (task.answer :: (d.tasks.erase task).map AnswerTask.answer).Perm (d.tasks.map AnswerTask.answer) :=
    ((List.perm_cons_erase waits).map AnswerTask.answer).symm
  simpa [inFlight, Event.answer?, AnswerTask.answer, List.append_assoc] using
    moved.append_left (d.queue.filterMap Event.answer?)

theorem mem_inFlight_of_next {reply : Token × Option Mac} (next : d.queue = e :: rest)
    (answer : e.answer? = some reply) : reply ∈ d.inFlight :=
  List.mem_append_left _ (List.mem_filterMap.2 ⟨e, next ▸ List.mem_cons_self, answer⟩)

/-- An answer that is handled is on its way no longer, and those of the new tasks are. -/
theorem inFlight_handle (next : d.queue = e :: rest) (c : Controller) (started : List AnswerTask) :
    e.answer?.toList ++ inFlight { d with controller := c, queue := rest, tasks := d.tasks ++ started } =
      d.inFlight ++ started.map AnswerTask.answer := by
  cases answer : e.answer? <;> simp [inFlight, next, answer]

end Daemon

/-- A request for an address starts one task, which answers what the settings say. -/
theorem Resolver.answers_start (s : ResolutionSettings) (clock : Nat) (calls : List Call) :
    (calls.flatMap ((Resolver.tasks s).start clock)).map AnswerTask.answer =
      (calls.filterMap Call.query?).map s.reply := by
  induction calls with
  | nil => rfl
  | cons call calls ih =>
    rw [List.flatMap_cons, List.map_append, ih]
    cases call with
    | resolve token port nextHop =>
      cases found : s.lookup nextHop <;>
        simp [Resolver.start, Call.query?, ResolutionSettings.reply, AnswerTask.answer, found]
    | _ => rfl

/-! ### Whole services -/

namespace Service
variable {config : Config} {observed : Bool} {history : History} {d : Daemon}

theorem run (service : Service config observed history d) : Run config observed history d.controller := by
  induction service with
  | initial run => exact run
  | sent e outside service accepted ih =>
    obtain ⟨-, rfl⟩ := Daemon.send?_inv accepted
    exact ih
  | answered task service accepted ih =>
    obtain ⟨-, -, rfl⟩ := Daemon.answer?_inv accepted
    exact ih
  | handled a service next taken ih =>
    obtain rfl | ⟨-, rfl⟩ := Daemon.take?_inv next taken <;> exact .handle a _ ih
  | waited clock service ih => exact ih

theorem resolver (service : Service config observed history d) : d.resolver = .tasks config.resolution := by
  induction service with
  | initial run => rfl
  | sent e outside service accepted ih =>
    obtain ⟨-, rfl⟩ := Daemon.send?_inv accepted
    exact ih
  | answered task service accepted ih =>
    obtain ⟨-, -, rfl⟩ := Daemon.answer?_inv accepted
    exact ih
  | handled a service next taken ih =>
    obtain rfl | ⟨-, rfl⟩ := Daemon.take?_inv next taken <;> exact ih
  | waited clock service ih => exact ih

/-- After the end nothing waits for the controller any more. -/
theorem queue_of_stopped (service : Service config observed history d) (ended : d.stopped = true) : d.queue = [] := by
  induction service with
  | initial run => rfl
  | sent e outside service accepted ih =>
    obtain ⟨going, rfl⟩ := Daemon.send?_inv accepted
    cases going.symm.trans ended
  | answered task service accepted ih =>
    obtain ⟨-, going, rfl⟩ := Daemon.answer?_inv accepted
    cases going.symm.trans ended
  | handled a service next taken ih =>
    obtain rfl | ⟨-, rfl⟩ := Daemon.take?_inv next taken
    · cases next.symm.trans (ih ended)
    · rfl
  | waited clock service ih => exact ih ended

end Service

end VirtualRouter
