import VirtualRouter.Proofs.Handling.Accounting
import VirtualRouter.Proofs.Ports.Attachment
import VirtualRouter.Proofs.Run.Decision
import VirtualRouter.Proofs.Run.OnBench

/-! The ports that the simulation knows. It is told of a port when this is attached and when it is detached, and at no
    other time, so that it has been told of every attached port once more than that the port is gone. A topology without
    routes thus has the attached ports, and it is never asked about a port that it does not have. -/

namespace VirtualRouter

variable {config : Config} {observed : Bool} {history past : History} {c c' : Controller} {x : Entry} {a : Answers}
  {trail : Trail} {b : Bench} {port : VirtualPort}

/-! ### What the simulation is told -/

namespace Call

/-- The call tells the simulation of a port. -/
def isPortNotice : Call → Bool
  | addPort _ _ | removePort _ _ => true
  | _ => false

/-- The port that has come. -/
def added? : Call → Option VirtualPort
  | addPort port _ => some port
  | _ => none

/-- The port that is gone. -/
def removed? : Call → Option VirtualPort
  | removePort port _ => some port
  | _ => none

theorem added?_notices (calls : List Call) : (calls.filter isPortNotice).filterMap added? = calls.filterMap added? := by
  rw [List.filterMap_filter]
  exact congrArg (fun f => calls.filterMap f) (funext fun call => by cases call <;> rfl)

theorem removed?_notices (calls : List Call) :
    (calls.filter isPortNotice).filterMap removed? = calls.filterMap removed? := by
  rw [List.filterMap_filter]
  exact congrArg (fun f => calls.filterMap f) (funext fun call => by cases call <;> rfl)

end Call

/-- Other calls leave the topology as it is. -/
theorem Bench.Engine.foldl_notices (calls : List Call) (engine : Bench.Engine) :
    (calls.filter Call.isPortNotice).foldl after engine = calls.foldl after engine := by
  induction calls generalizing engine with
  | nil => rfl
  | cons call calls ih =>
    rw [List.foldl_cons, ← ih, List.filter_cons]
    cases call <;> cases engine <;> rfl

namespace Course

theorem CarriesOut.unnoticed {d : DecidedPacket} {v : Verdict} (course : CarriesOut a c d v c' trail) :
    trail.calls.filter Call.isPortNotice = [] := by
  cases course <;> simp [Call.isPortNotice, Trail.calls_freeing, Trail.calls_announce]

theorem Arrives.unnoticed {n : PacketIn} (course : Arrives a c n c' trail) :
    trail.calls.filter Call.isPortNotice = [] := by
  cases course with
  | decided _ _ _ _ _ course => simpa [Call.isPortNotice] using course.unnoticed
  | _ => simp [Call.isPortNotice, Trail.calls_freeing]

theorem Resumes.unnoticed {p : ParkedPacket} {mac : Option Mac} (course : Resumes a c p mac c' trail) :
    trail.calls.filter Call.isPortNotice = [] := by
  cases course <;> simp [Call.isPortNotice, Trail.calls_freeing, Trail.calls_announce]

end Course

namespace Entry

/-- The simulation is told of the port that an event attaches or detaches. -/
theorem port_notices (x : Entry) : x.calls.filter Call.isPortNotice =
    (x.attachment?.map fun port => .addPort port (x.answers.addPort port)).toList ++
      (x.detachment?.map fun port => .removePort port (x.answers.removePort port)).toList := by
  obtain ⟨c', trail, course, -, calls⟩ := x.course
  rw [calls, attachment?, detachment?]
  generalize x.event = e at course
  cases course with
  | arrives course => exact course.unnoticed
  | resumes _ course => exact course.unnoticed
  | removed => simp [Call.isPortNotice]
  | attached fits => simp [fits, Call.isPortNotice, List.filter_cons]
  | unattached clash => simp [clash]
  | detached found => simp [(PortTable.detach_inv found).1, Call.isPortNotice]
  | undetached absent => simp [PortTable.byId_of_undetached absent]
  | _ => rfl

theorem added_eq (x : Entry) : x.calls.filterMap Call.added? = x.attachment?.toList := by
  rw [← Call.added?_notices, port_notices]
  cases x.attachment? <;> cases x.detachment? <;> rfl

theorem removed_eq (x : Entry) : x.calls.filterMap Call.removed? = x.detachment?.toList := by
  rw [← Call.removed?_notices, port_notices]
  cases x.attachment? <;> cases x.detachment? <;> rfl

end Entry

namespace History

/-- The ports that the simulation has been told of. -/
def added (history : History) : List VirtualPort := history.calls.filterMap Call.added?

/-- The ports that the simulation has been told are gone. -/
def removed (history : History) : List VirtualPort := history.calls.filterMap Call.removed?

theorem added_cons : added (x :: past) = x.attachment?.toList ++ added past := by
  rw [added, calls, List.flatMap_cons, List.filterMap_append, x.added_eq]
  rfl

theorem removed_cons : removed (x :: past) = x.detachment?.toList ++ removed past := by
  rw [removed, calls, List.flatMap_cons, List.filterMap_append, x.removed_eq]
  rfl

end History

/-! ### The attached ports -/

/-- The simulation has been told of a port once more than that it is gone if the port is attached, and else equally often. -/
theorem Run.added_count (run : Run config observed history c) (port : VirtualPort) :
    history.added.count port = history.removed.count port + if c.ports.byId port.id = some port then 1 else 0 := by
  induction run with
  | initial => rfl
  | retarget _ _ ih => exact ih
  | @handle history c a e run ih =>
    let x : Entry := ⟨c, a, e⟩
    show _ = _ + if x.after.ports.byId port.id = some port then 1 else 0
    rw [History.added_cons (x := x), History.removed_cons (x := x), List.count_append, List.count_append, ih]
    cases x.reshapes run.coherent with
    | @attaches other attached undetached new after =>
      rw [attached, undetached, after]
      by_cases same : other = port
      · subst same
        have absent : c.ports.byId other.id ≠ some other := by simp [show c.ports.byId other.id = none from new]
        simp [absent]
        omega
      · have new : c.ports.byId other.id = none := new
        have unnamed : [other].count port = 0 := by simp [same]
        simp only [Option.toList_some, Option.toList_none, unnamed]
        split <;> grind
    | @detaches other unattached detached held after =>
      rw [unattached, detached, after]
      have held : c.ports.byId other.id = some other := held
      by_cases same : other = port
      · subst same
        simp [held]
        omega
      · have unnamed : [other].count port = 0 := by simp [same]
        simp only [Option.toList_some, Option.toList_none, unnamed]
        split <;> grind
    | keeps unattached undetached after => simp [unattached, undetached, after, x]

/-- A topology without routes has the attached ports. -/
theorem Run.bare_ports (run : Run config observed history c) (bare : b.engine = .bare {}) :
    ∃ topology : BareTopology, (history.bench b).engine = .bare topology ∧
      ∀ id, id ∈ topology.ports ↔ (c.ports.byId id).isSome = true := by
  induction run with
  | initial => exact ⟨{}, bare, fun id => by simp [Controller.initial, PortTable.byId]⟩
  | retarget _ _ ih => exact ih
  | @handle history c a e run ih =>
    obtain ⟨topology, engine, ports⟩ := ih
    let x : Entry := ⟨c, a, e⟩
    show ∃ topology : BareTopology, (x.calls.foldl Bench.after (history.bench b)).engine = .bare topology ∧
      ∀ id, id ∈ topology.ports ↔ (x.after.ports.byId id).isSome = true
    rw [Bench.engine_foldl, engine, ← Bench.Engine.foldl_notices, x.port_notices]
    cases x.reshapes run.coherent with
    | @attaches port attached undetached new after =>
      refine ⟨topology.add port, by simp [attached, undetached, Bench.Engine.after], fun id => ?_⟩
      rw [after, BareTopology.add, OrderedSet.mem_insert, ports]
      split <;> simp [*, x]
    | @detaches port unattached detached held after =>
      refine ⟨topology.remove port, by simp [unattached, detached, Bench.Engine.after], fun id => ?_⟩
      rw [after, BareTopology.remove, OrderedSet.mem_erase, ports]
      split <;> simp [*, x]
    | keeps unattached undetached after =>
      refine ⟨topology, by simp [unattached, undetached], fun id => ?_⟩
      rw [after, ports]

/-! ### Failures of the simulation -/

namespace Answers.EngineOf
variable {topology : BareTopology}

/-- A topology without routes decides on every packet that comes in by a port it has. -/
theorem decides (of : a.EngineOf b) (engine : b.engine = .bare topology) {arrival : Arrival}
    (known : arrival.inPort ∈ topology.ports) : ∃ verdict, (a.process arrival).verdict = .ok verdict := by
  rw [of.process]
  simp only [Bench.answers, Bench.outcome, engine, BareTopology.process, known, not_true, if_false]
  split
  · exact ⟨_, rfl⟩
  · exact ⟨_, rfl⟩

/-- It takes note of every port that it had. -/
theorem removes (of : a.EngineOf b) (engine : b.engine = .bare topology) (known : port.id ∈ topology.ports) :
    a.removePort port = .ok () := by
  rw [of.removePort]
  simp only [Bench.answers, engine, BareTopology.removal, known, if_true]

end Answers.EngineOf

namespace Entry

/-- Neither a decision nor the notice of a port that is gone has failed. -/
structure Untroubled (x : Entry) : Prop where
  decided : ∀ {arrival o}, .process arrival o ∈ x.calls → ∃ verdict, o.verdict = .ok verdict
  removed : ∀ {port answer}, .removePort port answer ∈ x.calls → answer = .ok ()

theorem untroubled (x : Entry) (run : Run config observed past x.before) (bare : b.engine = .bare {})
    (of : x.answers.EngineOf (past.bench b)) : x.Untroubled := by
  obtain ⟨topology, engine, ports⟩ := run.bare_ports bare
  refine ⟨fun {arrival o} asked => ?_, fun {port answer} told => ?_⟩
  · obtain ⟨n, port, packet, -, rfl, decides, -⟩ := follows_of_process asked
    rw [decides.outcome]
    refine of.decides engine ((ports _).2 ?_)
    -- The packet came in by an attached port.
    have source := decides.source
    unfold Controller.ingress at source
    split at source
    · cases source
    · split at source
      · cases source
        rename_i found
        exact Option.isSome_iff_exists.2 ⟨port, (run.coherent.byNumber_iff.1 found).1⟩
      · cases source
  · have notice : .removePort port answer ∈ x.calls.filter Call.isPortNotice := List.mem_filter.2 ⟨told, rfl⟩
    rw [x.port_notices] at notice
    obtain ⟨port, detached, rfl, rfl⟩ : ∃ other, x.detachment? = some other ∧ other = port ∧
        x.answers.removePort other = answer := by simpa using notice
    cases x.reshapes run.coherent with
    | attaches _ undetached | keeps _ undetached => cases undetached.symm.trans detached
    | detaches _ same held =>
      cases same.symm.trans detached
      exact of.removes engine ((ports _).2 (Option.isSome_iff_exists.2 ⟨port, held⟩))

/-- Without a failed decision none is counted. -/
theorem Untroubled.counters (untroubled : x.Untroubled) :
    x.after.counters.simulationErrors = x.before.counters.simulationErrors := by
  have silent : (x.counter?.toList ++ x.calls.filterMap Call.counter?).count .simulationErrors = 0 := by
    rw [List.count_eq_zero, List.mem_append, Option.mem_toList, List.mem_filterMap]
    rintro (event | ⟨call, made, failed⟩)
    · cases Event.isOfEvents_of_counter? event
    · obtain ⟨arrival, o, error, rfl, failure⟩ := Call.decision_of_counter? failed
      obtain ⟨verdict, decision⟩ := untroubled.decided made
      cases failure.symm.trans decision
  have bound : x.before.counters.simulationErrors.toNat < UInt64.size :=
    x.before.counters.simulationErrors.count.toNat_lt_size
  refine Tally.toNat_inj ((x.accounts (k := .simulationErrors) rfl).trans ?_)
  rw [silent]
  exact Nat.min_eq_left (Nat.le_sub_one_of_lt bound)

end Entry

/-- In a run with a topology without routes the simulation never fails on a packet or on a port that is gone. -/
theorem Run.untroubled (run : Run config observed history c) (bare : b.engine = .bare {})
    (on : history.On Answers.EngineOf b) :
    (∀ x ∈ history, x.Untroubled) ∧ c.counters.simulationErrors = {} := by
  induction run with
  | initial => exact ⟨by simp, rfl⟩
  | retarget _ _ ih => exact ih on
  | @handle history c a e run ih =>
    obtain ⟨now, before⟩ := on
    obtain ⟨earlier, none⟩ := ih before
    let x : Entry := ⟨c, a, e⟩
    have latest : x.Untroubled := x.untroubled run bare now
    refine ⟨List.forall_mem_cons.2 ⟨latest, earlier⟩, ?_⟩
    show x.after.counters.simulationErrors = {}
    rw [latest.counters]
    exact none

/-- The simulation has been told of exactly the attached ports, each once, besides those that it has been told are gone. A
    port that clashes with an attached one cannot be attached and an identifier that is not attached cannot be detached:
    then nobody is called and nothing changes. A topology without routes therefore has the attached ports, whatever
    happens, and decides on every packet and lets go of every port that it is asked about. -/
theorem Run.ports_mirrored (run : Run config observed history c) :
    history.added.Perm (history.removed ++ c.ports.all) ∧ c.ports.all.Nodup ∧
      (∀ port, port ∈ c.ports.all ↔ history.Attached port) ∧
      (∀ port, ((∃ fault, c.ports.attach port = .error fault) ↔
          ∃ other, history.Attached other ∧ port.Clashes other) ∧
        ∀ a fault, c.ports.attach port = .error fault → c.step a (.portAttached port) = ⟨c, []⟩) ∧
      (∀ id, ((∃ fault, c.ports.detach id = .error fault) ↔ ∀ port, history.Attached port → port.id ≠ id) ∧
        ∀ a fault, c.ports.detach id = .error fault → c.step a (.portDetached id) = ⟨c, []⟩) ∧
      ∀ b : Bench, b.engine = .bare {} →
        (∃ topology, (history.bench b).engine = .bare topology ∧
          ∀ id, id ∈ topology.ports ↔ ∃ port, history.Attached port ∧ port.id = id) ∧
        (history.On Answers.EngineOf b →
          (∀ x ∈ history, (∀ arrival o, .process arrival o ∈ x.calls → ∃ verdict, o.verdict = .ok verdict) ∧
            ∀ port answer, .removePort port answer ∈ x.calls → answer = .ok ()) ∧
          c.counters.simulationErrors.toNat = 0) := by
  have coherent := run.coherent
  have attached (id : PortId) (port : VirtualPort) : c.ports.byId id = some port ↔ history.Attached port ∧ port.id = id :=
    (run.byId_iff id port).trans and_comm
  refine ⟨?_, coherent.nodup_all, fun port => coherent.mem_all.trans run.attached_iff, fun port => ⟨?_, ?_⟩,
    fun id => ⟨?_, ?_⟩, fun b bare => ⟨?_, fun on => ?_⟩⟩
  · refine List.perm_iff_count.2 fun port => ?_
    rw [run.added_count, List.count_append, coherent.nodup_all.count]
    simp only [coherent.mem_all]
  · rw [coherent.attach_error_iff]
    simp only [run.attached_iff]
  · intro a fault clash
    simp only [Controller.step, Turn.handle, Turn.portAttached, clash]
  · rw [PortTable.detach_error_iff, Option.eq_none_iff_forall_ne_some]
    simp only [ne_eq, attached, not_and]
  · intro a fault absent
    simp only [Controller.step, Turn.handle, Turn.portDetached, absent]
  · obtain ⟨topology, engine, ports⟩ := run.bare_ports bare
    refine ⟨topology, engine, fun id => ?_⟩
    rw [ports, Option.isSome_iff_exists]
    exact exists_congr (attached id)
  · obtain ⟨untroubled, none⟩ := run.untroubled bare on
    refine ⟨fun x mem => ⟨fun _ _ => (untroubled x mem).decided, fun _ _ => (untroubled x mem).removed⟩, ?_⟩
    rw [none]
    rfl

namespace Sample

/-- The first port is attached twice in vain: as it is, and as the number of another. It goes and comes again after a packet
    has come in by it. -/
def returned : History × Controller :=
  standalone.trial ([], .initial default false)
    [.portAttached (Sample.port 1), .portAttached (Sample.port 1), .portAttached { Sample.port 2 with number := ⟨1⟩ },
      .portDetached (Sample.port 2).id, .packetIn (notice ⟨7⟩), .portDetached (Sample.port 1).id,
      .portAttached (Sample.port 1)]

end Sample

/-- Only what was attached and detached has reached the topology, which has then decided on the packet. -/
theorem ports_mirrored_returned :
    let s := Sample.returned
    s.1.added.Perm (s.1.removed ++ s.2.ports.all) ∧ s.1.added = [Sample.port 1, Sample.port 1] ∧
      s.1.removed = [Sample.port 1] ∧
      (∃ topology, (s.1.bench Sample.standalone).engine = .bare topology ∧
        ∀ id, id ∈ topology.ports ↔ ∃ port, s.1.Attached port ∧ port.id = id) ∧
      s.2.counters.packetsIn.toNat = 1 ∧ s.2.counters.simulationErrors.toNat = 0 := by
  intro s
  have run : Run default false s.1 s.2 := Run.trial (s := ([], _)) .initial _ _
  have on : s.1.On Answers.EngineOf Sample.standalone :=
    History.On.trial (s := ([], _)) trivial (fun _ => ⟨rfl, rfl, rfl, rfl⟩) _
  obtain ⟨perm, -, -, -, -, bare⟩ := Run.ports_mirrored run
  obtain ⟨topology, unfailing⟩ := bare Sample.standalone rfl
  exact ⟨perm, by decide +kernel, by decide +kernel, topology, by decide +kernel, (unfailing on).2⟩

end VirtualRouter
