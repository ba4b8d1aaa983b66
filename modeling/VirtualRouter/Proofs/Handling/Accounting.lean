import VirtualRouter.Proofs.Flows.Rewriting
import VirtualRouter.Proofs.Handling.Counting

/-! What the counters say about events and calls. But for dropped and malformed packets, what is counted on an event is one
    thing for the event itself, or none, and then for every call what its answer says: a rule that the switch has taken, a
    failure, or a request for an address or to the DHCP service. A rule that was not made to drop its packets sends them
    out of a port, so that the two kinds are told apart by their actions. -/

namespace VirtualRouter

variable {a : Answers} {c c' : Controller} {x y : Trail} {ks : List Counter}

/-! ### Things counted of calls and events -/

/-- The rule sends its packets out of a port. -/
def FlowRule.sendsOut (r : FlowRule) : Bool := !(Action.outputs r.actions).isEmpty

/-- The thing that is counted of a call, going by its answer. -/
def Call.counter? : Call → Option Counter
  | addRule rule (.ok _) =>
    if rule.sendsOut then some .flowsInstalled else if rule.isDrop then some .blackholesInstalled else none
  | addRule _ (.error _) | sendPacket _ _ _ _ (.error _) | freeBuffer _ (.error _) => some .datapathErrors
  | process _ ⟨.error _, _, _, _⟩ => some .simulationErrors
  | freeFlow _ _ (.error _) => some .elementCleanupFailures
  | resolve _ _ _ => some .resolutionsStarted
  | dhcp _ _ _ => some .dhcpRequests
  | _ => none

/-- The thing that is counted of an event itself; of an answer of the resolver only if a packet waits for it. -/
def Event.counter? (parking : Parking) : Event → Option Counter
  | packetIn _ => some .packetsIn
  | flowRemoved _ => some .flowsRemoved
  | addressResolved token mac =>
    if parking.contains token then some (if mac.isSome then .resolutionsSucceeded else .resolutionsFailed) else none
  | _ => none

/-- The thing is counted of events. -/
def Counter.isOfEvents : Counter → Bool
  | packetsIn | flowsRemoved | resolutionsSucceeded | resolutionsFailed => true
  | _ => false

/-- The thing is counted of calls. -/
def Counter.isOfCalls : Counter → Bool
  | flowsInstalled | blackholesInstalled | datapathErrors | simulationErrors | elementCleanupFailures
  | resolutionsStarted | dhcpRequests => true
  | _ => false

def Counter.isAccounted (k : Counter) : Bool := k.isOfEvents || k.isOfCalls

/-- No counter is of both. -/
theorem Counter.isOfCalls_of_isOfEvents {k : Counter} (ofEvents : k.isOfEvents = true) : k.isOfCalls = false := by
  cases k <;> first | rfl | cases ofEvents

theorem Event.isOfEvents_of_counter? {e : Event} {parking : Parking} {k : Counter} (tells : e.counter? parking = some k) :
    k.isOfEvents = true := by
  unfold counter? at tells
  split at tells <;> simp only [Option.ite_none_right_eq_some, Option.some.injEq, reduceCtorEq] at tells
  · exact tells ▸ rfl
  · exact tells ▸ rfl
  · obtain ⟨-, rfl⟩ := tells
    split <;> rfl

theorem Call.isOfCalls_of_counter? {call : Call} {k : Counter} (tells : call.counter? = some k) : k.isOfCalls = true := by
  unfold counter? at tells
  split at tells
  · split at tells
    · cases tells
      rfl
    · split at tells <;> cases tells
      rfl
  all_goals cases tells <;> rfl

/-- A failure of the simulation is counted of a decision only. -/
theorem Call.decision_of_counter? {call : Call} (tells : call.counter? = some .simulationErrors) :
    ∃ arrival o error, call = .process arrival o ∧ o.verdict = .error error := by
  unfold counter? at tells
  split at tells
  · split at tells
    · cases tells
    · split at tells <;> cases tells
  all_goals cases tells
  exact ⟨_, _, _, rfl, rfl⟩

theorem FlowRule.isDrop_of_sendsOut {r : FlowRule} (sends : r.sendsOut = true) : r.isDrop = false := by
  refine Bool.eq_false_iff.2 fun drops => ?_
  rw [isDrop, List.isEmpty_iff] at drops
  rw [sendsOut, drops] at sends
  cases sends

theorem sendsOut_of_isDrop {r : FlowRule} (drops : r.isDrop = true) : r.sendsOut = false := by
  refine Bool.eq_false_iff.2 fun sends => ?_
  rw [FlowRule.isDrop_of_sendsOut sends] at drops
  cases drops

theorem sendsOut_forwarding (s : FlowSettings) (pattern incoming wanted : HeaderMatch) (buffer : Buffer)
    {ports : List PortNumber} (somewhere : ports ≠ []) :
    (s.forwarding pattern buffer (Action.between incoming wanted ports)).sendsOut = true := by
  simp [FlowRule.sendsOut, Action.outputs_between, somewhere]

theorem sendsOut_routing {d : DecidedPacket} {out : PortId} {nextHop : Ipv4} {hosts : Option (OrderedSet Ipv4)}
    (somewhere : (c.towards d out nextHop hosts).1.isEmpty = false) :
    (c.routing d out nextHop hosts).sendsOut = true :=
  sendsOut_forwarding _ _ _ _ _ (by simpa [OrderedSet.isEmpty] using somewhere)

/-! ### Trails -/

namespace Trail

/-- What is counted on the trail is the given things and then what its calls say. -/
def Accounts (ks : List Counter) (x : Trail) : Prop :=
  x.counts.filter Counter.isAccounted = ks ++ x.calls.filterMap Call.counter?

theorem Accounts.append (h : x.Accounts ks) (h' : y.Accounts []) : (x ++ y).Accounts ks := by
  simp only [Accounts, counts_append, calls_append, List.filter_append, List.filterMap_append, List.nil_append] at *
  rw [h, h', List.append_assoc]

theorem accounts_call {call : Call} (silent : call.counter? = none) : (Trail.call call).Accounts [] := by
  simp [Accounts, silent]

variable (a) (buffer : Buffer) {rule : FlowRule} (data : Octets)

theorem accounts_freeing : (freeing a buffer).Accounts [] := by
  unfold freeing
  split
  · cases answer : a.freeBuffer buffer <;> rfl
  · rfl

theorem accounts_discard : (discard a buffer).Accounts [] :=
  .append (x := count .packetsDropped) rfl (accounts_freeing a buffer)

theorem accounts_send (inPort : PortNumber) (actions : List Action) :
    (send a buffer inPort actions data).Accounts [] := by
  unfold send
  cases a.sendPacket buffer inPort actions data <;> rfl

theorem accounts_release (flow : HeaderMatch) (elements : ElementSet) : (release a flow elements).Accounts [] := by
  simp only [Accounts, release]
  induction elements.toList with
  | nil => rfl
  | cons e es ih =>
    rw [List.flatMap_cons, List.filter_append, ih, List.map_cons]
    cases a.freeFlow e flow <;> rfl

theorem accounts_announce (told : Bool) (incoming installed : HeaderMatch) (ingress : PortId) (elements : ElementSet) :
    (announce told incoming installed ingress elements).Accounts [] := by
  unfold announce
  split <;> rfl

theorem accounts_drop (drops : rule.isDrop = true) : (drop a rule).Accounts [] := by
  unfold drop
  cases a.addRule rule <;> simp [Accounts, Call.counter?, Counter.isAccounted, Counter.isOfCalls, drops,
    sendsOut_of_isDrop drops]

theorem accounts_accepted (sends : rule.sendsOut = true) : (accepted a rule data).Accounts [] := by
  refine .append (x := call (.addRule rule (.ok ())) ++ count .flowsInstalled) ?_ ?_
  · simp [Accounts, Call.counter?, Counter.isAccounted, Counter.isOfCalls, sends]
  · unfold emission
    split
    · rfl
    · exact accounts_send ..

theorem accounts_refused (error : DatapathError) : (refused a rule error).Accounts [] :=
  .append (x := call (.addRule rule (.error error)) ++ count .datapathErrors) rfl (accounts_discard ..)

theorem accounts_ask (token : Token) (port : PortId) (nextHop : Ipv4) : (ask token port nextHop).Accounts [] := rfl

theorem accounts_reject (s : FlowSettings) (code : UnreachableCode) (d : DecidedPacket) :
    (reject a s code d).Accounts [] :=
  ((accounts_drop a (isDrop_blackhole ..)).append (accounts_release ..)).append (accounts_call rfl)

end Trail

/-! ### Events -/

namespace Course
open Trail

theorem CarriesOut.accounts {d : DecidedPacket} {v : Verdict} (course : CarriesOut a c d v c' x) : x.Accounts [] := by
  cases course with
  | blackhole =>
    exact (((accounts_call rfl).append (accounts_drop a (isDrop_blackhole ..))).append (accounts_announce ..)).append
      (accounts_release ..)
  | consumed => exact accounts_freeing ..
  | parked => exact accounts_ask ..
  | stranded => exact (accounts_call rfl).append (accounts_reject ..)
  | forwarded _ somewhere => exact (accounts_call rfl).append (accounts_accepted a _ (sendsOut_routing somewhere))
  | refused => exact ((accounts_call rfl).append (accounts_refused ..)).append (accounts_release ..)
  | notIpv4 => exact accounts_drop a (isDrop_dropping ..)
  | noRoute => exact accounts_reject ..
  | rejected => exact accounts_reject ..

theorem Arrives.accounts {n : PacketIn} (course : Arrives a c n c' x) : x.Accounts [.packetsIn] := by
  have counted : (Trail.count .packetsIn).Accounts [.packetsIn] := rfl
  cases course with
  | unknown => exact counted.append (accounts_discard ..)
  | malformed => exact (counted.append (y := .count .malformedPackets) rfl).append (accounts_discard ..)
  | astray => exact counted.append (y := .count .packetsDropped) rfl
  | parked => exact counted.append (accounts_ask ..)
  | @dhcp packet ingress request =>
    rw [Trail.append_assoc (.count .packetsIn)]
    exact (counted.append (y := Trail.count .dhcpRequests ++ Trail.call (.dhcp ingress request packet.dlSrc)) rfl).append
      (accounts_freeing ..)
  | misdelivered =>
    exact (counted.append (y := .count .packetsDropped) rfl).append (accounts_drop a (isDrop_blackhole ..))
  | @failed packet ingress error source read plain addressed failure =>
    have asked : (Trail.call (.process (c.arrival n ingress packet) (a.process (c.arrival n ingress packet))) ++
        .count .simulationErrors).Accounts [] := by
      generalize a.process (c.arrival n ingress packet) = o at failure
      cases o
      cases failure
      rfl
    rw [Trail.append_assoc (.count .packetsIn)]
    exact ((counted.append asked).append (accounts_discard ..)).append (accounts_release ..)
  | @decided packet ingress verdict c' y source read plain addressed decision course =>
    have asked : (Trail.call (.process (c.arrival n ingress packet)
        (a.process (c.arrival n ingress packet)))).Accounts [] := by
      generalize a.process (c.arrival n ingress packet) = o at decision
      cases o
      cases decision
      rfl
    exact (counted.append asked).append course.accounts

theorem Resumes.accounts {p : ParkedPacket} {mac : Option Mac} (course : Resumes a c p mac c' x) :
    x.Accounts [if mac.isSome then .resolutionsSucceeded else .resolutionsFailed] := by
  have found : (Trail.count .resolutionsSucceeded).Accounts [.resolutionsSucceeded] := rfl
  have failed : (Trail.count .resolutionsFailed).Accounts [.resolutionsFailed] := rfl
  cases course with
  | vanishedTunnelled => exact found.append (accounts_discard ..)
  | relayed => exact found.append (accounts_send ..)
  | forwardedTunnelled =>
    exact (found.append (accounts_call rfl)).append
      (accounts_accepted a _ (sendsOut_forwarding _ _ _ _ _ (List.cons_ne_nil _ _)))
  | refusedTunnelled => exact (found.append (accounts_call rfl)).append (accounts_refused ..)
  | timedOutTunnelled => exact (failed.append (accounts_drop a (isDrop_blackhole ..))).append (accounts_call rfl)
  | vanishedLocal => exact (found.append (accounts_release ..)).append (accounts_discard ..)
  | forwardedLocal =>
    exact ((found.append (accounts_call rfl)).append
      (accounts_accepted a _ (sendsOut_forwarding _ _ _ _ _ (List.cons_ne_nil _ _)))).append (accounts_announce ..)
  | refusedLocal =>
    exact ((found.append (accounts_call rfl)).append (accounts_refused ..)).append (accounts_release ..)
  | timedOutLocal =>
    exact ((failed.append (accounts_drop a (isDrop_blackhole ..))).append (accounts_release ..)).append
      (accounts_call rfl)

/-- What is counted on an event is what the event and then its calls say. -/
theorem Handles.accounts {e : Event} (course : Handles a c e c' x) : x.Accounts (e.counter? c.parking).toList := by
  cases course with
  | arrives course => exact course.accounts
  | removed => exact .append (x := .count .flowsRemoved) rfl (accounts_release ..)
  | unasked absent => simp [Accounts, Event.counter?, Parking.contains, Table.contains, absent]
  | resumes waits course =>
    simpa [Event.counter?, Parking.contains, Table.contains, waits] using course.accounts
  | @attached port =>
    cases a.addRule (dhcpRule port.number) <;> rfl
  | _ => rfl

end Course

namespace Entry

/-- The thing that is counted of the event itself. -/
def counter? (x : Entry) : Option Counter := x.event.counter? x.before.parking

/-- A counter of events or calls grows by the number of those that say so, until it is full. -/
theorem accounts (x : Entry) {k : Counter} (accounted : k.isAccounted = true) : (x.after.counters.get k).toNat =
    min ((x.before.counters.get k).toNat + (x.counter?.toList ++ x.calls.filterMap Call.counter?).count k)
      (UInt64.size - 1) := by
  obtain ⟨c', trail, course, after, calls⟩ := x.course
  have same : trail.counts.filter Counter.isAccounted = x.counter?.toList ++ x.calls.filterMap Call.counter? :=
    calls ▸ course.accounts
  rw [after, Controller.toNat_counting, course.frame.2, ← same, List.count_filter accounted]

/-- No event takes anything from a counter. -/
theorem counters_mono (x : Entry) (k : Counter) :
    (x.before.counters.get k).toNat ≤ (x.after.counters.get k).toNat := by
  obtain ⟨c', trail, -, counted⟩ := x.counted
  have bound : (x.before.counters.get k).toNat < UInt64.size := (x.before.counters.get k).count.toNat_lt_size
  rw [counted k]
  omega

end Entry

end VirtualRouter
