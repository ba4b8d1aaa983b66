import VirtualRouter.Proofs.Flows.Resumption
import VirtualRouter.Proofs.Handling.Counting
import VirtualRouter.Proofs.Resolution.OneShot
import VirtualRouter.Proofs.Run.Registries

/-! The egress port of a packet whose address has been found. Between the question and the answer the port may have been
    detached, and attached again with another number or address. What the switch is asked for then goes by the port as it
    is at the answer. If it is gone, the packet is given up without asking the switch for anything but its buffer. -/

namespace VirtualRouter

variable {config : Config} {observed : Bool} {history past : History} {c c' : Controller} {x y : Entry} {a : Answers}
  {token : Token} {mac : Mac} {p : ParkedPacket} {egress : VirtualPort} {trail : Trail}

/-- The actions that the switch is asked to carry out, on packets of a rule or on one packet. -/
def Call.actions? : Call → Option (List Action)
  | addRule rule _ => some rule.actions
  | sendPacket _ _ actions _ _ => some actions
  | _ => none

/-- What the switch is asked to carry out during the event. -/
def Entry.actionLists (x : Entry) : List (List Action) := x.calls.filterMap Call.actions?

/-- The actions send copies out of the port and no other, with no other source address than the port's. -/
def VirtualPort.Emits (port : VirtualPort) (actions : List Action) : Prop :=
  Action.outputs actions = [port.number] ∧ ∀ mac, .setDlSrc mac ∈ actions → mac = port.mac

theorem emits_addressed (incoming wanted : HeaderMatch) (egress : VirtualPort) (mac : Mac) :
    egress.Emits (Action.between incoming (Turn.addressed wanted egress mac) [egress.number]) :=
  ⟨Action.outputs_between .., fun _ sets => (Option.some.inj (Action.setDlSrc_mem_between sets)).symm⟩

namespace Trail
variable {rule : FlowRule} {data : Octets} {actions : List Action}

theorem actions_accepted : actions ∈ (accepted a rule data).calls.filterMap Call.actions? ↔ actions = rule.actions := by
  rw [calls_accepted, calls_emission]
  split <;> simp [Call.actions?]

theorem actions_refused {error : DatapathError} :
    actions ∈ (refused a rule error).calls.filterMap Call.actions? ↔ actions = rule.actions := by
  rw [calls_refused, calls_freeing]
  split <;> simp [List.filterMap_cons, Call.actions?]

theorem actions_release {flow : HeaderMatch} {elements : ElementSet} :
    (release a flow elements).calls.filterMap Call.actions? = [] := by
  simp [List.filterMap_eq_nil_iff, Call.actions?]

theorem actions_announce {told : Bool} {exact installed : HeaderMatch} {ingress : PortId} {elements : ElementSet} :
    (announce told exact installed ingress elements).calls.filterMap Call.actions? = [] := by
  rw [calls_announce]
  split <;> rfl

end Trail

namespace Course

/-- All that the switch is asked to carry out when an address has been found is one list of actions, by which packets go
    out of the egress port. -/
theorem Resumes.emits (course : Resumes a c p (some mac) c' trail) (here : c.ports.byId p.egress = some egress) :
    ∃ actions, egress.Emits actions ∧ ∀ other, other ∈ trail.calls.filterMap Call.actions? ↔ other = actions := by
  cases course with
  | vanishedTunnelled gone => cases gone.symm.trans here
  | vanishedLocal gone => cases gone.symm.trans here
  | @relayed q _ _ found =>
    cases found.symm.trans here
    refine ⟨_, emits_addressed q.incoming q.incoming egress mac, fun other => ?_⟩
    simp [Call.actions?]
  | @forwardedTunnelled q _ _ found =>
    cases found.symm.trans here
    refine ⟨_, emits_addressed q.incoming q.incoming egress mac, fun other => ?_⟩
    rw [Trail.calls_append, List.filterMap_append, List.mem_append, Trail.actions_accepted]
    exact or_iff_right List.not_mem_nil
  | @refusedTunnelled q _ _ _ found =>
    cases found.symm.trans here
    refine ⟨_, emits_addressed q.incoming q.incoming egress mac, fun other => ?_⟩
    rw [Trail.calls_append, List.filterMap_append, List.mem_append, Trail.actions_refused]
    exact or_iff_right List.not_mem_nil
  | @forwardedLocal q _ _ found =>
    cases found.symm.trans here
    refine ⟨_, emits_addressed q.incoming q.wanted egress mac, fun other => ?_⟩
    rw [Trail.calls_append, List.filterMap_append, Trail.actions_announce, List.append_nil, Trail.calls_append,
      List.filterMap_append, List.mem_append, Trail.actions_accepted]
    exact or_iff_right List.not_mem_nil
  | @refusedLocal q _ _ _ found =>
    cases found.symm.trans here
    refine ⟨_, emits_addressed q.incoming q.wanted egress mac, fun other => ?_⟩
    rw [Trail.calls_append, List.filterMap_append, Trail.actions_release, List.append_nil, Trail.calls_append,
      List.filterMap_append, List.mem_append, Trail.actions_refused]
    exact or_iff_right List.not_mem_nil

/-- A packet with an address but without its egress port is given up. -/
theorem Resumes.vanished (course : Resumes a c p (some mac) c' trail) (gone : c.ports.byId p.egress = none) :
    trail.calls = (Trail.release a p.incoming p.elements).calls ++ (Trail.freeing a p.buffer).calls ∧ c' = c ∧
      trail.counts.count .packetsDropped = 1 := by
  cases course with
  | vanishedTunnelled =>
    refine ⟨rfl, rfl, ?_⟩
    simp [Trail.discard, Trail.count_freeing]
  | vanishedLocal =>
    refine ⟨?_, rfl, ?_⟩
    · rw [Trail.calls_append, Trail.calls_append, Trail.calls_count, List.nil_append, Trail.calls_discard]
      rfl
    · simp [Trail.discard, Trail.count_freeing, Trail.count_release]
  | relayed here | forwardedTunnelled here | refusedTunnelled here | forwardedLocal here | refusedLocal here =>
    cases gone.symm.trans here

end Course

/-- An address that is found for a waiting packet is used with the egress port as that is now, whatever has happened since
    the packet came in. If the port is attached, the switch is asked to carry out one list of actions, which sends packets
    out of the port's number and sets no source address but the port's. If it is not, the elements of the packet free
    their state and the switch its buffer, nothing else is asked for or told, no flow is recorded, and one more packet is
    dropped. -/
theorem Run.egress_current (run : Run config observed past x.before) (few : past.asked.length < UInt64.size)
    (awaits : past.Awaits token y) (found : x.event = .addressResolved token (some mac)) :
    ∃ n p, y.event = .packetIn n ∧ y.Suspends n p ∧
      (∀ egress, egress.id = p.egress → past.Attached egress → ∃ actions,
        (∀ other, other ∈ x.actionLists ↔ other = actions) ∧ Action.outputs actions = [egress.number] ∧
          ∀ mac, .setDlSrc mac ∈ actions → mac = egress.mac) ∧
      ((∀ egress, egress.id = p.egress → ¬past.Attached egress) →
        x.calls = (p.elements.toList.map fun e => .freeFlow e p.incoming (x.answers.freeFlow e p.incoming)) ++
          (if p.buffer.isBuffered then [.freeBuffer p.buffer (x.answers.freeBuffer p.buffer)] else []) ∧
        x.after.ledger = x.before.ledger ∧
        x.after.counters.packetsDropped = x.before.counters.packetsDropped.next ∧
        (past.length < UInt64.size - 1 →
          x.after.counters.packetsDropped.toNat = x.before.counters.packetsDropped.toNat + 1)) := by
  obtain ⟨recent, earlier, rfl, asks, unanswered⟩ := awaits
  obtain ⟨-, n, p, parks⟩ := Entry.parks_of_asks asks
  have waits := (run.waiting_iff few).2 ⟨y, n, ⟨recent, earlier, rfl, asks, unanswered⟩, parks⟩
  refine ⟨n, p, parks.1, parks.suspends, ?_⟩
  obtain ⟨c', trail, course, after, calls⟩ := x.course
  rw [found] at course
  cases course with
  | unasked absent => cases waits.symm.trans absent
  | resumes held course =>
    cases waits.symm.trans held
    refine ⟨fun egress own attached => ?_, fun gone => ?_⟩
    · obtain ⟨actions, emits, only⟩ := course.emits ((run.byId_iff p.egress egress).2 ⟨own, attached⟩)
      exact ⟨actions, by rw [Entry.actionLists, calls]; exact only, emits⟩
    · obtain ⟨made, rfl, once⟩ := course.vanished (run.byId_eq_none gone)
      have dropped : x.after.counters.packetsDropped = x.before.counters.packetsDropped.next := by
        rw [after]
        exact Controller.get_counting_once (k := .packetsDropped) once
      refine ⟨?_, ?_, dropped, fun short => ?_⟩
      · rw [calls, made, Trail.calls_freeing]
        rfl
      · rw [after]
        rfl
      · have bound := run.dropped_le
        rw [dropped, Tally.toNat_next]
        omega

namespace Sample

/-- The second port on another number and with another address. -/
def moved : VirtualPort := { port 2 with number := ⟨9⟩, mac := ⟨2, 0, 0, 0, 0, 0x22⟩ }

/-- While a packet waits for an address behind the second port, the port is moved. -/
def reattached : History × Controller :=
  let a := delivering .empty
  replay (arrived a ⟨7⟩ :: (attached a).1, (arrived a ⟨7⟩).after) [(a, .portDetached (port 2).id), (a, .portAttached moved)]

def resumed : Entry := ⟨reattached.2, delivering .empty, .addressResolved ⟨0⟩ (some (port 3).mac)⟩

theorem egress_suspended {n : PacketIn} {p : ParkedPacket} (h : (arrived (delivering .empty) ⟨7⟩).Suspends n p) :
    p.egress = (port 2).id := by
  cases h with
  | tunnelled source =>
    have untunnelled : (arrived (delivering .empty) ⟨7⟩).before.tunnels = {} := by decide +kernel
    unfold Controller.ingress at source
    rw [untunnelled] at source
    grind [TunnelTable.isTunnel, Table.contains, Table.get?_empty]
  | toLocal decides verdict =>
    rw [decides.outcome] at verdict
    cases verdict
    rfl

end Sample

/-- The packet leaves by the number and with the address that its egress port has got meanwhile. -/
theorem egress_current_moved : ∃ actions, (∀ other, other ∈ Sample.resumed.actionLists ↔ other = actions) ∧
    Action.outputs actions = [⟨9⟩] ∧ ∀ mac, .setDlSrc mac ∈ actions → mac = Sample.moved.mac := by
  have run : Run default false Sample.reattached.1 Sample.reattached.2 :=
    Run.replay (s := (_, _)) (Sample.run_arrived (Sample.delivering .empty) ⟨7⟩) _
  have asks : (⟨0⟩ : Token) ∈ (Sample.arrived (Sample.delivering .empty) ⟨7⟩).asks := by decide +kernel
  have held : Sample.reattached.2.ports.byId (Sample.port 2).id = some Sample.moved := by decide +kernel
  obtain ⟨n, p, -, suspends, now, -⟩ := Run.egress_current (x := Sample.resumed) run (by decide +kernel)
    ⟨[_, _], _, rfl, asks, by decide +kernel⟩ rfl
  have egress := Sample.egress_suspended suspends
  obtain ⟨own, attached⟩ := (run.byId_iff _ _).1 held
  exact now Sample.moved (own.trans egress.symm) attached

end VirtualRouter
