import VirtualRouter.Proofs.Handling.Course

/-! What an event comes to for the packet that it is about. A packet is parked, left to the switch or concluded, and an
    answer of the resolver concludes the packet that it is for. A conclusion asks the switch in one of a few manners,
    and either records the packet's elements under the flow that it installs or has them free their state. -/

namespace VirtualRouter

/-! ### What a call is about -/

namespace Call

/-- The token that the resolver is asked under. -/
def token? : Call → Option Token
  | resolve token _ _ => some token
  | _ => none

/-- The element that is told to free its state for a flow. -/
def freed? : Call → Option ElementId
  | freeFlow element _ _ => some element
  | _ => none

/-- The match of a forwarding rule that the switch took. -/
def forwarded? : Call → Option HeaderMatch
  | addRule rule answer => if answer.isOk && rule.notifyRemoval && !rule.isDrop then some rule.pattern else none
  | _ => none

/-- What the simulation made of a packet. -/
def outcome? : Call → Option Outcome
  | process _ outcome => some outcome
  | _ => none

/-- The switch is asked for something. -/
def isRequest : Call → Bool
  | addRule _ _ | sendPacket _ _ _ _ _ | freeBuffer _ _ => true
  | _ => false

end Call

/-- The elements that a verdict leaves with state for a packet. -/
def Verdict.owed (elements : ElementSet) : Verdict → ElementSet
  | .consumed | .notIpv4 => .empty
  | _ => elements

/-- The elements that the simulation leaves with state for a packet: those that took part, unless it has dealt with the
    packet itself or the packet has no IPv4. -/
def Outcome.owed (o : Outcome) : ElementSet :=
  match o.verdict with
  | .ok verdict => verdict.owed o.elements
  | .error _ => o.elements

namespace Call

/-- The elements that took part in the decisions among some calls. -/
def elements (calls : List Call) : List ElementId := (calls.filterMap outcome?).flatMap fun o => o.elements.toList

/-- The elements that the decisions among some calls leave with state. -/
def owed (calls : List Call) : List ElementId := (calls.filterMap outcome?).flatMap fun o => o.owed.toList

end Call

namespace ParkedPacket

/-- The elements that a waiting packet leaves with state. -/
def elements : ParkedPacket → ElementSet
  | tunnelled _ => .empty
  | toLocal p => p.elements

/-- The bytes of a waiting packet. -/
def data : ParkedPacket → Octets
  | tunnelled p => p.data
  | toLocal p => p.data

/-- A waiting packet is an ICMP error that a peer passes on. -/
def isRelay : ParkedPacket → Bool
  | tunnelled p => p.header.isIcmpRelay
  | toLocal _ => false

section Fields
variable (q : TunnelledPacket) (p : LocalPacket)

@[simp] theorem buffer_tunnelled : (tunnelled q).buffer = q.buffer := rfl

@[simp] theorem buffer_toLocal : (toLocal p).buffer = p.buffer := rfl

@[simp] theorem data_tunnelled : (tunnelled q).data = q.data := rfl

@[simp] theorem data_toLocal : (toLocal p).data = p.data := rfl

@[simp] theorem elements_tunnelled : (tunnelled q).elements = .empty := rfl

@[simp] theorem elements_toLocal : (toLocal p).elements = p.elements := rfl

@[simp] theorem isRelay_tunnelled : (tunnelled q).isRelay = q.header.isIcmpRelay := rfl

end Fields

end ParkedPacket

namespace Call

theorem elements_undecided {calls : List Call} (h : calls.filterMap outcome? = []) : elements calls = [] := by
  rw [elements, h, List.flatMap_nil]

theorem owed_undecided {calls : List Call} (h : calls.filterMap outcome? = []) : owed calls = [] := by
  rw [owed, h, List.flatMap_nil]

theorem elements_process (arrival : Arrival) (o : Outcome) {calls : List Call} (h : calls.filterMap outcome? = []) :
    elements (process arrival o :: calls) = o.elements.toList := by
  simp [elements, outcome?, h, -List.filterMap_eq_nil_iff]

theorem owed_process (arrival : Arrival) (o : Outcome) {calls : List Call} (h : calls.filterMap outcome? = []) :
    owed (process arrival o :: calls) = o.owed.toList := by
  simp [owed, outcome?, h, -List.filterMap_eq_nil_iff]

end Call

/-- The packet that a notice brings from a tunnel, if it does. -/
def Controller.fromTunnel? (c : Controller) (n : PacketIn) : Option TunnelledPacket :=
  match c.ingress (c.ingressNumber n.inPort), Packet.parse n.data with
  | .tunnel, .ok packet => some (c.tunnelled n packet)
  | _, _ => none

/-! ### Manners of asking the switch -/

/-- What the switch is asked for a packet. -/
inductive Manner where
  | silent
  | freed
  | blocked
  | forwarded
  | refused
  | relayed
  deriving DecidableEq, Repr

/-- Requests to the switch for one packet, in order. -/
inductive Manner.Shows (buffer : Buffer) (data : Octets) : Manner → List Call → Prop
  | silent : Shows buffer data .silent []
  | freed (answer : Except DatapathError Unit) (held : buffer.isBuffered = true) :
      Shows buffer data .freed [.freeBuffer buffer answer]
  | blocked (rule : FlowRule) (answer : Except DatapathError Unit) (names : rule.buffer = buffer)
      (drops : rule.isDrop = true) : Shows buffer data .blocked [.addRule rule answer]
  | forwarded (rule : FlowRule) (held : buffer.isBuffered = true) (names : rule.buffer = buffer)
      (sends : rule.isDrop = false) : Shows buffer data .forwarded [.addRule rule (.ok ())]
  | emitted (rule : FlowRule) (answer : Except DatapathError Unit) (unheld : buffer.isBuffered = false)
      (names : rule.buffer = buffer) (sends : rule.isDrop = false) :
      Shows buffer data .forwarded [.addRule rule (.ok ()), .sendPacket buffer .none rule.actions data answer]
  | refused (rule : FlowRule) (error : DatapathError) (answer : Except DatapathError Unit)
      (held : buffer.isBuffered = true) (names : rule.buffer = buffer) (sends : rule.isDrop = false) :
      Shows buffer data .refused [.addRule rule (.error error), .freeBuffer buffer answer]
  | refusedUnheld (rule : FlowRule) (error : DatapathError) (unheld : buffer.isBuffered = false)
      (names : rule.buffer = buffer) (sends : rule.isDrop = false) :
      Shows buffer data .refused [.addRule rule (.error error)]
  | relayed (inPort : PortNumber) (actions : List Action) (answer : Except DatapathError Unit) :
      Shows buffer data .relayed [.sendPacket buffer inPort actions data answer]

/-- Requests of one manner, where only a packet that the switch does not hold is left silently, and only an ICMP error
    is relayed. -/
def Mannered (buffer : Buffer) (data : Octets) (relay : Bool) (requests : List Call) : Prop :=
  ∃ m, Manner.Shows buffer data m requests ∧ (m = .silent → buffer.isBuffered = false) ∧ (m = .relayed → relay = true)

namespace Mannered
variable (a : Answers) {buffer : Buffer} {data : Octets} {relay : Bool} {rule : FlowRule}

theorem freeing : Mannered buffer data relay (Trail.freeing a buffer).calls := by
  rw [Trail.calls_freeing]
  cases held : buffer.isBuffered with
  | true => exact ⟨.freed, .freed _ held, by simp, by simp⟩
  | false => exact ⟨.silent, .silent, fun _ => held, by simp⟩

theorem drop (names : rule.buffer = buffer) (drops : rule.isDrop = true) :
    Mannered buffer data relay (Trail.drop a rule).calls := by
  rw [Trail.calls_drop]
  exact ⟨.blocked, .blocked _ _ names drops, by simp, by simp⟩

theorem accepted (names : rule.buffer = buffer) (sends : rule.isDrop = false) :
    Mannered buffer data relay (Trail.accepted a rule data).calls := by
  rw [Trail.calls_accepted, Trail.calls_emission, names]
  cases held : buffer.isBuffered with
  | true => exact ⟨.forwarded, .forwarded _ held names sends, by simp, by simp⟩
  | false => exact ⟨.forwarded, .emitted _ _ held names sends, by simp, by simp⟩

theorem refused {error : DatapathError} (names : rule.buffer = buffer) (sends : rule.isDrop = false) :
    Mannered buffer data relay (Trail.refused a rule error).calls := by
  rw [Trail.calls_refused, Trail.calls_freeing, names]
  cases held : buffer.isBuffered with
  | true => exact ⟨.refused, .refused _ _ _ held names sends, by simp, by simp⟩
  | false => exact ⟨.refused, .refusedUnheld _ _ held names sends, by simp, by simp⟩

theorem send {inPort : PortNumber} {actions : List Action} :
    Mannered buffer data true (Trail.send a buffer inPort actions data).calls := by
  rw [Trail.calls_send]
  exact ⟨.relayed, .relayed _ _ _, by simp, by simp⟩

end Mannered

/-! ### Conclusions -/

/-- Where the elements of a packet go: into the ledger with the flow that was installed for the packet, or, as far as
    they are left with state, free again. -/
inductive Discharge (elements owed : ElementSet) (l l' : FlowLedger) (calls : List Call) : Prop
  | recorded (m : HeaderMatch) (forwarded : calls.filterMap Call.forwarded? = [m]) (ledger : l' = l.record m elements)
      (whole : owed = elements) (freed : calls.filterMap Call.freed? = []) : Discharge elements owed l l' calls
  | released (forwarded : calls.filterMap Call.forwarded? = []) (ledger : l' = l)
      (freed : calls.filterMap Call.freed? = owed.toList) : Discharge elements owed l l' calls

/-- The end of a packet's handling. -/
structure Conclusion (buffer : Buffer) (data : Octets) (relay : Bool) (elements owed : ElementSet)
    (l l' : FlowLedger) (calls : List Call) : Prop where
  tokens : calls.filterMap Call.token? = []
  requests : Mannered buffer data relay (calls.filter Call.isRequest)
  elements : Discharge elements owed l l' calls

/-- Calls that ask for no address, install no forwarding rule, free no element's state and decide nothing. -/
structure Quiet (calls : List Call) : Prop where
  tokens : calls.filterMap Call.token? = []
  forwarded : calls.filterMap Call.forwarded? = []
  freed : calls.filterMap Call.freed? = []
  undecided : calls.filterMap Call.outcome? = []

/-- A packet waits for the address of its next hop. -/
structure Parked (n : PacketIn) (p : ParkedPacket) (c : Controller) (parking' : Parking) (ledger' : FlowLedger)
    (calls : List Call) : Prop where
  buffer : p.buffer = n.buffer
  data : p.data = n.data
  tunnel : ∀ q, p = .tunnelled q → c.fromTunnel? n = some q
  parking : parking' = (c.parking.park p).1
  ledger : ledger' = c.ledger
  tokens : calls.filterMap Call.token? = [c.parking.nextToken]
  requests : calls.filter Call.isRequest = []
  forwarded : calls.filterMap Call.forwarded? = []
  freed : calls.filterMap Call.freed? = []
  elements : Call.elements calls = p.elements.toList
  owed : Call.owed calls = p.elements.toList
  first : calls.tail.filterMap Call.outcome? = []

/-- The event is about neither packets nor flows. -/
def Event.isLifecycle : Event → Bool
  | .packetIn _ | .addressResolved _ _ | .flowRemoved _ => false
  | _ => true

/-- What an event comes to. -/
inductive Dealing (c : Controller) (parking' : Parking) (ledger' : FlowLedger) (calls : List Call) : Event → Prop
  | parked {n : PacketIn} {p : ParkedPacket} (parked : Parked n p c parking' ledger' calls) :
      Dealing c parking' ledger' calls (.packetIn n)
  | astray {n : PacketIn} {q : TunnelledPacket} (tunnel : c.fromTunnel? n = some q)
      (away : (c.ports.byId q.header.egress).isSome = false) (parking : parking' = c.parking)
      (ledger : ledger' = c.ledger) (nothing : calls = []) : Dealing c parking' ledger' calls (.packetIn n)
  | concluded {n : PacketIn} {elements owed : ElementSet} (took : Call.elements calls = elements.toList)
      (left : Call.owed calls = owed.toList) (first : calls.tail.filterMap Call.outcome? = [])
      (parking : parking' = c.parking)
      (conclusion : Conclusion n.buffer n.data false elements owed c.ledger ledger' calls) :
      Dealing c parking' ledger' calls (.packetIn n)
  | resumed {token : Token} {mac : Option Mac} {p : ParkedPacket} (waits : c.parking.waiting.get? token = some p)
      (parking : parking' = (c.parking.take token).1) (undecided : calls.filterMap Call.outcome? = [])
      (conclusion : Conclusion p.buffer p.data p.isRelay p.elements p.elements c.ledger ledger' calls) :
      Dealing c parking' ledger' calls (.addressResolved token mac)
  | unasked {token : Token} {mac : Option Mac} (absent : c.parking.waiting.get? token = none)
      (parking : parking' = c.parking) (ledger : ledger' = c.ledger) (nothing : calls = []) :
      Dealing c parking' ledger' calls (.addressResolved token mac)
  | removed {r : FlowRemoval} (parking : parking' = c.parking) (ledger : ledger' = (c.ledger.release r.pattern).1)
      (tokens : calls.filterMap Call.token? = []) (requests : calls.filter Call.isRequest = [])
      (forwarded : calls.filterMap Call.forwarded? = [])
      (freed : calls.filterMap Call.freed? = (c.ledger.release r.pattern).2.toList)
      (undecided : calls.filterMap Call.outcome? = []) : Dealing c parking' ledger' calls (.flowRemoved r)
  | apart {e : Event} (lifecycle : e.isLifecycle = true) (parking : parking' = c.parking) (ledger : ledger' = c.ledger)
      (quiet : Quiet calls) (kept : ∀ b answer, Call.freeBuffer b answer ∉ calls) : Dealing c parking' ledger' calls e

/-! ### Reading the calls of a trail -/

@[simp] theorem filterMap_none {α β : Type} (xs : List α) : xs.filterMap (fun _ => (none : Option β)) = [] :=
  List.filterMap_eq_nil_iff.2 fun _ _ => rfl

theorem filterMap_ite {α β : Type} (f : α → Option β) (p : Prop) [Decidable p] (xs ys : List α) :
    (if p then xs else ys).filterMap f = if p then xs.filterMap f else ys.filterMap f :=
  apply_ite (List.filterMap f) p xs ys

section Releases
variable (a : Answers) (flow : HeaderMatch)

@[simp] theorem token?_release : (Call.token? ∘ fun e => Call.freeFlow e flow (a.freeFlow e flow)) = fun _ => none :=
  rfl

@[simp] theorem freed?_release : (Call.freed? ∘ fun e => Call.freeFlow e flow (a.freeFlow e flow)) = some := rfl

@[simp] theorem forwarded?_release :
    (Call.forwarded? ∘ fun e => Call.freeFlow e flow (a.freeFlow e flow)) = fun _ => none := rfl

@[simp] theorem outcome?_release :
    (Call.outcome? ∘ fun e => Call.freeFlow e flow (a.freeFlow e flow)) = fun _ => none := rfl

end Releases

namespace Trail

/-- The requests to the switch on a trail. -/
def requests (x : Trail) : List Call := x.calls.filter Call.isRequest

section Requests
variable (a : Answers)

@[simp] theorem requests_append (x y : Trail) : (x ++ y).requests = x.requests ++ y.requests :=
  List.filter_append ..

@[simp] theorem requests_count (k : Counter) : (count k).requests = [] := rfl

@[simp] theorem requests_call (c : Call) : (call c).requests = if c.isRequest then [c] else [] := by
  cases h : c.isRequest <;> simp [requests, h]

@[simp] theorem requests_drop (rule : FlowRule) : (drop a rule).requests = (drop a rule).calls := by
  simp [requests, Call.isRequest]

@[simp] theorem requests_send (buffer : Buffer) (inPort : PortNumber) (actions : List Action) (data : Octets) :
    (send a buffer inPort actions data).requests = (send a buffer inPort actions data).calls := by
  simp [requests, Call.isRequest]

@[simp] theorem requests_freeing (buffer : Buffer) : (freeing a buffer).requests = (freeing a buffer).calls := by
  rw [requests, calls_freeing]
  split <;> rfl

@[simp] theorem requests_discard (buffer : Buffer) : (discard a buffer).requests = (freeing a buffer).calls := by
  simp [discard]

@[simp] theorem requests_release (flow : HeaderMatch) (elements : ElementSet) :
    (release a flow elements).requests = [] := by
  simp [requests, Call.isRequest]

@[simp] theorem requests_announce (observed : Bool) (incoming installed : HeaderMatch) (ingress : PortId)
    (elements : ElementSet) : (announce observed incoming installed ingress elements).requests = [] := by
  rw [requests, calls_announce]
  split <;> rfl

@[simp] theorem requests_accepted (rule : FlowRule) (data : Octets) :
    (accepted a rule data).requests = (accepted a rule data).calls := by
  rw [requests, calls_accepted, calls_emission]
  split <;> rfl

@[simp] theorem requests_refused (rule : FlowRule) (error : DatapathError) :
    (refused a rule error).requests = (refused a rule error).calls := by
  simp [refused, Call.isRequest]

@[simp] theorem requests_reject (s : FlowSettings) (code : UnreachableCode) (d : DecidedPacket) :
    (reject a s code d).requests = (drop a (s.blackhole d.incoming d.buffer)).calls := by
  simp [reject, Call.isRequest]

end Requests

end Trail

section Quiet
variable (a : Answers)

theorem Quiet.cons {call : Call} {calls : List Call} (quiet : Quiet calls) (token : call.token? = none)
    (forwarded : call.forwarded? = none) (freed : call.freed? = none) (undecided : call.outcome? = none) :
    Quiet (call :: calls) := by
  constructor
  · rw [List.filterMap_cons_none token, quiet.tokens]
  · rw [List.filterMap_cons_none forwarded, quiet.forwarded]
  · rw [List.filterMap_cons_none freed, quiet.freed]
  · rw [List.filterMap_cons_none undecided, quiet.undecided]

theorem quiet_freeing (buffer : Buffer) : Quiet (Trail.freeing a buffer).calls := by
  rw [Trail.calls_freeing]
  split <;> exact ⟨rfl, rfl, rfl, rfl⟩

theorem quiet_drop (rule : FlowRule) (drops : rule.isDrop = true) : Quiet (Trail.drop a rule).calls := by
  rw [Trail.calls_drop]
  exact ⟨rfl, by simp [Call.forwarded?, drops], rfl, rfl⟩

end Quiet

/-! ### Every event comes to one of these -/

namespace Course
variable {a : Answers} {c c' : Controller} {x : Trail}

theorem CarriesOut.undecided {d : DecidedPacket} {v : Verdict} (course : CarriesOut a c d v c' x) :
    x.calls.filterMap Call.outcome? = [] := by
  cases course <;>
    simp [List.filterMap_cons, Call.outcome?, Trail.calls_freeing, Trail.calls_announce, filterMap_ite,
      -List.filterMap_eq_nil_iff]

theorem Resumes.undecided {p : ParkedPacket} {mac : Option Mac} (course : Resumes a c p mac c' x) :
    x.calls.filterMap Call.outcome? = [] := by
  cases course <;>
    simp [List.filterMap_cons, Call.outcome?, Trail.calls_freeing, Trail.calls_announce, filterMap_ite,
      -List.filterMap_eq_nil_iff]

theorem CarriesOut.tokens {d : DecidedPacket} {v : Verdict} (course : CarriesOut a c d v c' x)
    (away : ∀ out nextHop, v = .forward out nextHop → (c.ports.byId out).isSome = false) :
    x.calls.filterMap Call.token? = [] := by
  cases course with
  | parked here => simp [away _ _ rfl] at here
  | _ =>
    simp [List.filterMap_cons, Call.token?, Trail.calls_freeing, Trail.calls_announce, filterMap_ite,
      -List.filterMap_eq_nil_iff]

theorem Resumes.tokens {p : ParkedPacket} {mac : Option Mac} (course : Resumes a c p mac c' x) :
    x.calls.filterMap Call.token? = [] := by
  cases course <;>
    simp [List.filterMap_cons, Call.token?, Trail.calls_freeing, Trail.calls_announce, filterMap_ite,
      -List.filterMap_eq_nil_iff]

theorem CarriesOut.parking {d : DecidedPacket} {v : Verdict} (course : CarriesOut a c d v c' x)
    (away : ∀ out nextHop, v = .forward out nextHop → (c.ports.byId out).isSome = false) : c'.parking = c.parking := by
  cases course with
  | parked here => simp [away _ _ rfl] at here
  | _ => rfl

theorem CarriesOut.mannered {d : DecidedPacket} {v : Verdict} {relay : Bool} (course : CarriesOut a c d v c' x)
    (away : ∀ out nextHop, v = .forward out nextHop → (c.ports.byId out).isSome = false) :
    Mannered d.buffer d.data relay x.requests := by
  have blackhole (pattern : HeaderMatch) :
      Mannered d.buffer d.data relay (Trail.drop a (c.flows.blackhole pattern d.buffer)).calls :=
    .drop a (buffer_blackhole ..) (isDrop_blackhole ..)
  cases course with
  | parked here => simp [away _ _ rfl] at here
  | blackhole => simpa [Call.isRequest, -Trail.calls_drop] using blackhole _
  | consumed => simpa using Mannered.freeing a
  | stranded => simpa [Call.isRequest, -Trail.calls_drop] using blackhole _
  | forwarded away somewhere taken =>
    simpa [Call.isRequest, -Trail.calls_accepted] using
      Mannered.accepted a (buffer_routing ..) (isDrop_routing _ _ _ _ _ somewhere)
  | refused away somewhere refusal =>
    simpa [Call.isRequest, -Trail.calls_refused] using
      Mannered.refused a (buffer_routing ..) (isDrop_routing _ _ _ _ _ somewhere)
  | notIpv4 => simpa [-Trail.calls_drop] using Mannered.drop a (buffer_dropping ..) (isDrop_dropping ..)
  | noRoute => simpa [-Trail.calls_drop] using blackhole _
  | rejected => simpa [-Trail.calls_drop] using blackhole _

theorem Resumes.mannered {p : ParkedPacket} {mac : Option Mac} (course : Resumes a c p mac c' x) :
    Mannered p.buffer p.data p.isRelay x.requests := by
  have blackhole (pattern : HeaderMatch) :
      Mannered p.buffer p.data p.isRelay (Trail.drop a (c.flows.blackhole pattern p.buffer)).calls :=
    .drop a (buffer_blackhole ..) (isDrop_blackhole ..)
  cases course with
  | vanishedTunnelled gone => simpa using Mannered.freeing a
  | relayed here relay =>
    simpa [ParkedPacket.isRelay, relay, -Trail.calls_send] using Mannered.send a
  | forwardedTunnelled here plain taken =>
    simpa [Call.isRequest, -Trail.calls_accepted] using
      Mannered.accepted a (buffer_tunnelRule ..) (isDrop_tunnelRule ..)
  | refusedTunnelled here plain refusal =>
    simpa [Call.isRequest, -Trail.calls_refused] using
      Mannered.refused a (buffer_tunnelRule ..) (isDrop_tunnelRule ..)
  | timedOutTunnelled => simpa [Call.isRequest, -Trail.calls_drop] using blackhole _
  | vanishedLocal gone => simpa using Mannered.freeing a
  | forwardedLocal here taken =>
    simpa [Call.isRequest, -Trail.calls_accepted] using
      Mannered.accepted a (buffer_localRule ..) (isDrop_localRule ..)
  | refusedLocal here refusal =>
    simpa [Call.isRequest, -Trail.calls_refused] using
      Mannered.refused a (buffer_localRule ..) (isDrop_localRule ..)
  | timedOutLocal => simpa [Call.isRequest, -Trail.calls_drop] using blackhole _

theorem CarriesOut.discharge {d : DecidedPacket} {v : Verdict} (course : CarriesOut a c d v c' x)
    (away : ∀ out nextHop, v = .forward out nextHop → (c.ports.byId out).isSome = false) :
    Discharge d.elements (v.owed d.elements) c.ledger c'.ledger x.calls := by
  cases course with
  | parked here => simp [away _ _ rfl] at here
  | forwarded away somewhere taken =>
    refine .recorded d.incoming ?_ rfl rfl ?_
    · simp [List.filterMap_cons, Call.forwarded?, Except.isOk, Except.toBool, isDrop_routing _ _ _ _ _ somewhere,
        filterMap_ite]
    · simp [List.filterMap_cons, Call.freed?, filterMap_ite]
  | _ =>
    refine .released ?_ rfl ?_
    · simp [List.filterMap_cons, Call.forwarded?, Except.isOk, Except.toBool, Trail.calls_freeing,
        Trail.calls_announce, filterMap_ite]
    · simp [List.filterMap_cons, Call.freed?, Trail.calls_freeing, Trail.calls_announce, filterMap_ite, Verdict.owed]

theorem Resumes.discharge {p : ParkedPacket} {mac : Option Mac} (course : Resumes a c p mac c' x) :
    Discharge p.elements p.elements c.ledger c'.ledger x.calls := by
  cases course with
  | forwardedTunnelled here plain taken =>
    refine .recorded _ ?_ rfl rfl ?_
    · simp [List.filterMap_cons, Call.forwarded?, Except.isOk, Except.toBool, filterMap_ite]
    · simp [List.filterMap_cons, Call.freed?, filterMap_ite]
  | forwardedLocal here taken =>
    refine .recorded _ ?_ rfl rfl ?_
    · simp [List.filterMap_cons, Call.forwarded?, Except.isOk, Except.toBool, Trail.calls_announce, filterMap_ite]
    · simp [List.filterMap_cons, Call.freed?, Trail.calls_announce, filterMap_ite]
  | _ =>
    refine .released ?_ rfl ?_
    · simp [List.filterMap_cons, Call.forwarded?, Except.isOk, Except.toBool, Trail.calls_freeing, filterMap_ite]
    · simp [List.filterMap_cons, Call.freed?, Trail.calls_freeing, filterMap_ite]

theorem CarriesOut.parked_or_away {d : DecidedPacket} {v : Verdict} (course : CarriesOut a c d v c' x) :
    (∃ out nextHop, v = .forward out nextHop ∧
      c' = { c with parking := (c.parking.park (.toLocal { d with egress := out })).1 } ∧
      x = .ask c.parking.nextToken out nextHop) ∨
    ∀ out nextHop, v = .forward out nextHop → (c.ports.byId out).isSome = false := by
  cases course with
  | @parked out nextHop here => exact .inl ⟨out, nextHop, rfl, rfl, rfl⟩
  | stranded away => right; rintro _ _ ⟨⟩; exact away
  | forwarded away => right; rintro _ _ ⟨⟩; exact away
  | refused away => right; rintro _ _ ⟨⟩; exact away
  | _ => exact .inr fun _ _ h => nomatch h

/-- What is made of a packet that the simulation does not see. -/
theorem dealing_undecided {n : PacketIn} {y : Trail} (quiet : Quiet y.calls)
    (requests : Mannered n.buffer n.data false y.requests) : Dealing c c.parking c.ledger y.calls (.packetIn n) :=
  have first : y.calls.tail.filterMap Call.outcome? = [] :=
    List.filterMap_eq_nil_iff.2 fun _ h => List.filterMap_eq_nil_iff.1 quiet.undecided _ (List.mem_of_mem_tail h)
  have took : Call.elements y.calls = (OrderedSet.empty : ElementSet).toList := Call.elements_undecided quiet.undecided
  have left : Call.owed y.calls = (OrderedSet.empty : ElementSet).toList := Call.owed_undecided quiet.undecided
  .concluded took left first rfl ⟨quiet.tokens, requests, .released quiet.forwarded rfl quiet.freed⟩

/-- What is made of a packet that the simulation decides on first. -/
theorem dealing_decided {n : PacketIn} (arrival : Arrival) (o : Outcome) {l' : FlowLedger} {calls : List Call}
    (undecided : calls.filterMap Call.outcome? = [])
    (conclusion : Conclusion n.buffer n.data false o.elements o.owed c.ledger l' calls) :
    Dealing c c.parking l' (.process arrival o :: calls) (.packetIn n) := by
  refine .concluded (Call.elements_process _ _ undecided) (Call.owed_process _ _ undecided) undecided rfl ⟨?_, ?_, ?_⟩
  · exact conclusion.tokens
  · exact conclusion.requests
  · cases conclusion.elements with
    | recorded m forwarded ledger whole freed => exact .recorded m forwarded ledger whole freed
    | released forwarded ledger freed => exact .released forwarded ledger freed

theorem Arrives.dealing {n : PacketIn} (course : Arrives a c n c' x) :
    Dealing c c'.parking c'.ledger x.calls (.packetIn n) := by
  cases course with
  | unknown _ | malformed _ _ =>
    exact dealing_undecided (by simpa using quiet_freeing a n.buffer) (by simpa using Mannered.freeing a)
  | @astray packet source read away =>
    have tunnel : c.fromTunnel? n = some (c.tunnelled n packet) := by simp [Controller.fromTunnel?, source, read]
    exact .astray tunnel away rfl rfl rfl
  | @parked packet source read here =>
    have tunnel : c.fromTunnel? n = some (c.tunnelled n packet) := by simp [Controller.fromTunnel?, source, read]
    exact .parked {
      buffer := rfl, data := rfl, parking := rfl, ledger := rfl, tokens := rfl, requests := rfl, forwarded := rfl,
      freed := rfl, elements := rfl, owed := rfl, first := rfl
      tunnel := by rintro _ ⟨⟩; exact tunnel }
  | @dhcp packet ingress request source read boot =>
    refine dealing_undecided ?_ (by simpa [Call.isRequest] using Mannered.freeing a)
    simpa using (quiet_freeing a n.buffer).cons rfl rfl rfl rfl
  | misdelivered source read plain elsewhere =>
    refine dealing_undecided (by simpa using quiet_drop a _ (isDrop_blackhole ..)) ?_
    simpa [-Trail.calls_drop] using Mannered.drop a (buffer_blackhole ..) (isDrop_blackhole ..)
  | @failed packet ingress error source read plain addressed failure =>
    let o := a.process (c.arrival n ingress packet)
    have owed : o.owed = o.elements := by simp [Outcome.owed, o, failure]
    have rest : Conclusion n.buffer n.data false o.elements o.owed c.ledger c.ledger
        (Trail.discard a n.buffer ++ Trail.release a o.arrival.incoming o.elements).calls := by
      refine ⟨?_, ?_, .released ?_ rfl ?_⟩
      · simp [Trail.calls_freeing, filterMap_ite, List.filterMap_cons, Call.token?, -List.filterMap_eq_nil_iff]
      · show Mannered _ _ _ (Trail.requests _)
        simpa using Mannered.freeing a
      · simp [Trail.calls_freeing, filterMap_ite, List.filterMap_cons, Call.forwarded?, -List.filterMap_eq_nil_iff]
      · simp [Trail.calls_freeing, filterMap_ite, List.filterMap_cons, Call.freed?, owed]
    refine dealing_decided (c.arrival n ingress packet) o ?_ rest
    simp [Trail.calls_freeing, filterMap_ite, List.filterMap_cons, Call.outcome?, -List.filterMap_eq_nil_iff]
  | @decided packet ingress verdict c' x source read plain addressed decision course =>
    have owed : (a.process (c.arrival n ingress packet)).owed =
        verdict.owed (a.process (c.arrival n ingress packet)).elements := by
      simp [Outcome.owed, decision]
    rcases course.parked_or_away with ⟨out, nextHop, rfl, rfl, rfl⟩ | away
    · exact .parked {
        buffer := rfl, data := rfl, parking := rfl, ledger := rfl, tokens := rfl, requests := rfl, forwarded := rfl,
        freed := rfl, first := rfl
        tunnel := by rintro _ ⟨⟩
        elements := Call.elements_process _ _ rfl
        owed := (Call.owed_process _ _ rfl).trans (congrArg OrderedSet.toList owed) }
    · rw [course.parking away]
      refine dealing_decided (c.arrival n ingress packet) _ course.undecided
        ⟨course.tokens away, course.mannered away, ?_⟩
      rw [owed]
      exact course.discharge away

theorem Resumes.parking {p : ParkedPacket} {mac : Option Mac} (course : Resumes a c p mac c' x) :
    c'.parking = c.parking := by
  cases course <;> rfl

theorem Handles.dealing {e : Event} (course : Handles a c e c' x) : Dealing c c'.parking c'.ledger x.calls e := by
  cases course with
  | arrives course => exact course.dealing
  | removed =>
    refine .removed rfl rfl ?_ (by simp [Call.isRequest]) ?_ ?_ ?_ <;>
      simp only [Trail.calls_append, Trail.calls_count, List.nil_append, Trail.calls_release, List.filterMap_map]
    · rw [token?_release, filterMap_none]
    · rw [forwarded?_release, filterMap_none]
    · rw [freed?_release, List.filterMap_some]
    · rw [outcome?_release, filterMap_none]
  | unasked absent => exact .unasked absent rfl rfl rfl
  | resumes waits course =>
    exact .resumed waits course.parking course.undecided ⟨course.tokens, course.mannered, course.discharge⟩
  | attached =>
    refine .apart rfl rfl rfl ⟨?_, ?_, ?_, ?_⟩ (by simp)
    · simp [Call.token?]
    · simp [Call.forwarded?, dhcpRule, FlowRule.permanent]
    · simp [Call.freed?]
    · simp [Call.outcome?]
  | _ => exact .apart rfl rfl rfl ⟨rfl, rfl, rfl, rfl⟩ (by simp)

end Course

/-- What a step of the controller comes to. -/
theorem Controller.step_dealing (c : Controller) (a : Answers) (e : Event) :
    Dealing c (c.step a e).controller.parking (c.step a e).controller.ledger (c.step a e).calls e := by
  obtain ⟨c', x, course, eq⟩ := Course.step_course a c e
  rw [eq]
  exact course.dealing

end VirtualRouter
