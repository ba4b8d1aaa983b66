import VirtualRouter.Proofs.Run.Waiting

/-! The packet of an event, as it was decided on and as it waits. The simulation is asked about packets that come in
    by a virtual port, and about nothing else. A packet that waits came from a tunnel, or the simulation has decided
    to forward it to a port that was attached. -/

namespace VirtualRouter

/-! ### Rules for packets -/

/-- The rule that the switch is asked for, with its answer. -/
def Call.rule? : Call → Option (FlowRule × Except DatapathError Unit)
  | addRule rule answer => some (rule, answer)
  | _ => none

/-- The rules that the switch is asked for, with its answers. -/
def Entry.rules (x : Entry) : List (FlowRule × Except DatapathError Unit) := x.calls.filterMap Call.rule?

@[simp] theorem rule?_release (a : Answers) (flow : HeaderMatch) :
    (Call.rule? ∘ fun e => Call.freeFlow e flow (a.freeFlow e flow)) = fun _ => none := rfl

theorem Entry.mem_rules {x : Entry} {rule : FlowRule} {answer : Except DatapathError Unit} :
    (rule, answer) ∈ x.rules ↔ .addRule rule answer ∈ x.calls := by
  rw [rules, List.mem_filterMap]
  constructor
  · rintro ⟨call, mem, asks⟩
    cases call <;> cases asks
    exact mem
  · exact fun mem => ⟨_, mem, rfl⟩

namespace Trail

/-- The rules that the switch is asked for on a trail, with its answers. -/
def rules (x : Trail) : List (FlowRule × Except DatapathError Unit) := x.calls.filterMap Call.rule?

section Rules
variable (a : Answers) (buffer : Buffer) (rule : FlowRule) (data : Octets)

@[simp] theorem rules_append (x y : Trail) : (x ++ y).rules = x.rules ++ y.rules := List.filterMap_append

@[simp] theorem rules_count (k : Counter) : (count k).rules = [] := rfl

@[simp] theorem rules_call (call : Call) : (Trail.call call).rules = call.rule?.toList := by
  cases call <;> rfl

@[simp] theorem rules_failure {ε : Type} (k : Counter) (answer : Except ε Unit) : (failure k answer).rules = [] := by
  cases answer <;> rfl

@[simp] theorem rules_freeing : (freeing a buffer).rules = [] := by
  rw [rules, calls_freeing]
  split <;> rfl

@[simp] theorem rules_discard : (discard a buffer).rules = [] := by simp [discard]

@[simp] theorem rules_release (flow : HeaderMatch) (elements : ElementSet) : (release a flow elements).rules = [] := by
  rw [rules, calls_release, List.filterMap_map, rule?_release, filterMap_none]

@[simp] theorem rules_announce (observed : Bool) (incoming installed : HeaderMatch) (ingress : PortId)
    (elements : ElementSet) : (announce observed incoming installed ingress elements).rules = [] := by
  rw [rules, calls_announce]
  split <;> rfl

@[simp] theorem rules_send (inPort : PortNumber) (actions : List Action) :
    (send a buffer inPort actions data).rules = [] := by
  rw [rules, calls_send]
  rfl

@[simp] theorem rules_drop : (drop a rule).rules = [(rule, a.addRule rule)] := by
  rw [rules, calls_drop]
  rfl

@[simp] theorem rules_accepted : (accepted a rule data).rules = [(rule, .ok ())] := by
  rw [rules, calls_accepted, calls_emission]
  split <;> rfl

@[simp] theorem rules_refused (error : DatapathError) : (refused a rule error).rules = [(rule, .error error)] := by
  rw [rules, calls_refused]
  exact congrArg ((rule, .error error) :: ·) (rules_freeing a rule.buffer)

@[simp] theorem rules_reject (s : FlowSettings) (code : UnreachableCode) (d : DecidedPacket) :
    (reject a s code d).rules =
      [(s.blackhole d.incoming d.buffer, a.addRule (s.blackhole d.incoming d.buffer))] := by
  simp [reject, Call.rule?]

end Rules

end Trail

/-- The simulation honours its contract that the match of a packet as received is never modified: it gives the match back
    as it was. -/
def Answers.KeepsMatch (a : Answers) : Prop := ∀ arrival, (a.process arrival).arrival.incoming = arrival.incoming

/-! ### Decisions on packets -/

variable {x : Entry} {n : PacketIn} {p : ParkedPacket} {o : Outcome} {arrival : Arrival}

namespace Entry

/-- The simulation decides on the packet of the event, which came in by a virtual port. -/
structure Decides (x : Entry) (n : PacketIn) (port : VirtualPort) (packet : Packet) (o : Outcome) : Prop where
  event : x.event = .packetIn n
  source : x.before.ingress (x.before.ingressNumber n.inPort) = .port port
  read : Packet.parse n.data = .ok packet
  outcome : o = x.answers.process (x.before.arrival n port packet)
  asked : .process (x.before.arrival n port packet) o ∈ x.calls

/-- What the packet of the event waits as. -/
inductive Suspends (x : Entry) (n : PacketIn) : ParkedPacket → Prop
  | tunnelled {packet : Packet} (source : x.before.ingress (x.before.ingressNumber n.inPort) = .tunnel)
      (read : Packet.parse n.data = .ok packet) : Suspends x n (.tunnelled (x.before.tunnelled n packet))
  | toLocal {port : VirtualPort} {packet : Packet} {o : Outcome} {out : PortId} {nextHop : Ipv4}
      (decides : x.Decides n port packet o) (verdict : o.verdict = .ok (.forward out nextHop)) :
      Suspends x n (.toLocal { o.decided n.buffer n.data port.id with egress := out })

/-- What is done about the decision on the packet of the event: nothing but dropping it if the simulation failed, and
    else what the verdict says. -/
inductive Follows (x : Entry) (n : PacketIn) (port : VirtualPort) (o : Outcome) (rest : List Call) : Prop
  | failed {error : SimulationError} (failure : o.verdict = .error error)
      (calls : rest = (Trail.freeing x.answers n.buffer ++ .release x.answers o.arrival.incoming o.elements).calls) :
      Follows x n port o rest
  | carriedOut {verdict : Verdict} {c' : Controller} {y : Trail} (decision : o.verdict = .ok verdict)
      (course : Course.CarriesOut x.answers x.before (o.decided n.buffer n.data port.id) verdict c' y)
      (calls : rest = y.calls) : Follows x n port o rest

theorem decides_of_calls {port : VirtualPort} {packet : Packet} {rest : List Call} (event : x.event = .packetIn n)
    (source : x.before.ingress (x.before.ingressNumber n.inPort) = .port port) (read : Packet.parse n.data = .ok packet)
    (calls : x.calls =
      .process (x.before.arrival n port packet) (x.answers.process (x.before.arrival n port packet)) :: rest) :
    x.Decides n port packet (x.answers.process (x.before.arrival n port packet)) :=
  ⟨event, source, read, rfl, calls ▸ List.mem_cons_self⟩

/-- A decision is the first call of its event. -/
theorem calls_of_process (asked : .process arrival o ∈ x.calls) : ∃ rest, x.calls = .process arrival o :: rest := by
  have first := x.decided_first
  cases calls : x.calls with
  | nil => simp [calls] at asked
  | cons call rest =>
    rw [calls] at asked first
    rcases List.mem_cons.1 asked with rfl | later
    · exact ⟨rest, rfl⟩
    · cases List.filterMap_eq_nil_iff.1 first _ later

/-- What the simulation was asked about came in by a virtual port, and its decision was followed. -/
theorem follows_of_process (asked : .process arrival o ∈ x.calls) :
    ∃ n port packet rest, arrival = x.before.arrival n port packet ∧ x.Decides n port packet o ∧
      x.calls = .process arrival o :: rest ∧ x.Follows n port o rest := by
  -- The question is the first call, so that it is the one question of the handler's course.
  obtain ⟨rest, first⟩ := calls_of_process asked
  obtain ⟨c', trail, course, after, calls⟩ := x.course
  rw [calls] at first
  generalize event : x.event = e at course
  cases course with
  | arrives course =>
    cases course with
    | failed source read _ _ failure =>
      cases first
      exact ⟨_, _, _, _, rfl, ⟨event, source, read, rfl, asked⟩, calls, .failed failure rfl⟩
    | decided source read _ _ decision course =>
      cases first
      exact ⟨_, _, _, _, rfl, ⟨event, source, read, rfl, asked⟩, calls, .carriedOut decision course rfl⟩
    | unknown | malformed | dhcp =>
      rw [calls] at asked
      simp [Trail.calls_freeing] at asked
    | _ =>
      rw [calls] at asked
      simp at asked
  | resumes waits course =>
    rw [calls] at asked
    cases List.filterMap_eq_nil_iff.1 course.undecided _ asked
  | _ =>
    rw [calls] at asked
    simp at asked

theorem Decides.follows {port : VirtualPort} {packet : Packet} (h : x.Decides n port packet o) :
    ∃ rest, x.calls = .process (x.before.arrival n port packet) o :: rest ∧ x.Follows n port o rest := by
  obtain ⟨n', port', packet', rest, -, decides, calls, follows⟩ := follows_of_process h.asked
  cases h.event.symm.trans decides.event
  cases h.source.symm.trans decides.source
  exact ⟨rest, calls, follows⟩

/-- The simulation gives the exact match of the packet back. -/
theorem Decides.incoming {port : VirtualPort} {packet : Packet} (h : x.Decides n port packet o)
    (keeps : x.answers.KeepsMatch) : o.arrival.incoming = packet.exactMatch (x.before.ingressNumber n.inPort) := by
  rw [h.outcome]
  exact keeps _

theorem Parks.suspends (h : x.Parks n p) : x.Suspends n p := by
  obtain ⟨event, parked⟩ := h
  obtain ⟨c', trail, course, after, calls⟩ := x.course
  have token := parked.tokens
  have waits : c'.parking.waiting.get? x.before.parking.nextToken = some p := by
    have waits := Parks.waits ⟨event, parked⟩
    rwa [after] at waits
  rw [calls] at token
  rw [event] at course
  cases course with
  | arrives course =>
    cases course with
    | parked source read =>
      obtain rfl := Option.some.inj ((Table.get?_insert_self ..).symm.trans waits)
      exact .tunnelled source read
    | @decided packet port verdict c' y source read _ _ decision course =>
      rcases course.parked_or_away with ⟨out, nextHop, rfl, rfl, rfl⟩ | away
      · obtain rfl := Option.some.inj ((Table.get?_insert_self ..).symm.trans waits)
        exact .toLocal (decides_of_calls event source read calls) decision
      · cases (course.tokens away).symm.trans token
    | _ => simp [List.filterMap_cons, Call.token?, Trail.calls_freeing, filterMap_ite] at token

end Entry

end VirtualRouter
