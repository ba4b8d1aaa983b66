import VirtualRouter.Proofs.Handling.Counting

/-! Failures that nothing depends on. The controller does not look at what comes of it when it has a held packet or the
    state of an element freed, sends a packet, tells the simulation of a port that comes or goes, or has DHCP requests
    passed on. Two runs in which the collaborators differ in their answers to these calls only make the same calls, and
    lead to controllers that differ in the counters of failures only. -/

namespace VirtualRouter

variable {a b : Answers} {c d : Controller} {t u : Turn} {x y : Trail} {k : Counter} {rule : FlowRule} {buffer : Buffer}
  {data : Octets}

/-! ### What may fail -/

/-- The collaborators answer alike, except for the calls whose failure nothing depends on. -/
structure Answers.Alike (a b : Answers) : Prop where
  addRule : ∀ rule, (∀ number, rule ≠ dhcpRule number) → b.addRule rule = a.addRule rule
  process : b.process = a.process
  participants : b.participants = a.participants
  widen : b.widen = a.widen

/-- The call without what came of it. -/
def Call.unanswered : Call → Call
  | addRule rule _ => addRule rule (.ok ())
  | sendPacket buffer inPort actions data _ => sendPacket buffer inPort actions data (.ok ())
  | freeBuffer buffer _ => freeBuffer buffer (.ok ())
  | freeFlow element flow _ => freeFlow element flow (.ok ())
  | addPort port _ => addPort port (.ok ())
  | removePort port _ => removePort port (.ok ())
  | call => call

/-- Failures are counted there. -/
def Counter.isFailure : Counter → Bool
  | datapathErrors | elementCleanupFailures => true
  | _ => false

/-- A rule for a packet is not the one for DHCP requests, so that its failure is no matter of indifference. -/
theorem Answers.Alike.ordinary (alike : a.Alike b) (prior : rule.priority = flowPriority) :
    b.addRule rule = a.addRule rule := by
  refine alike.addRule rule fun number service => ?_
  rw [service] at prior
  exact absurd prior (by decide : servicePriority ≠ flowPriority)

/-! ### Trails that match -/

/-- The trails are of the same calls, and nothing but failures is counted on one of them only. -/
structure Trail.Matches (x y : Trail) : Prop where
  counts : (y.counts.filter fun k => !k.isFailure) = x.counts.filter fun k => !k.isFailure
  calls : y.calls.map Call.unanswered = x.calls.map Call.unanswered

namespace Trail

theorem Matches.refl (x : Trail) : x.Matches x := ⟨rfl, rfl⟩

theorem Matches.append {x' y' : Trail} (h : x.Matches y) (h' : x'.Matches y') : (x ++ x').Matches (y ++ y') := by
  refine ⟨?_, ?_⟩
  · simp only [counts_append, List.filter_append, h.counts, h'.counts]
  · simp only [calls_append, List.map_append, h.calls, h'.calls]

theorem matches_call {call call' : Call} (same : call'.unanswered = call.unanswered) :
    (Trail.call call).Matches (Trail.call call') :=
  ⟨rfl, congrArg (fun call => [call]) same⟩

theorem matches_failure {ε : Type} (failing : k.isFailure = true) (answer answer' : Except ε Unit) :
    (failure k answer).Matches (failure k answer') := by
  cases answer <;> cases answer' <;> exact ⟨by simp [failure, failing], rfl⟩

variable (a b)

theorem matches_freeing (buffer : Buffer) : (freeing a buffer).Matches (freeing b buffer) := by
  unfold freeing
  split
  · exact .append (matches_call rfl) (matches_failure rfl ..)
  · exact .refl _

theorem matches_discard (buffer : Buffer) : (discard a buffer).Matches (discard b buffer) :=
  (Matches.refl _).append (matches_freeing a b buffer)

theorem matches_send (buffer : Buffer) (inPort : PortNumber) (actions : List Action) (data : Octets) :
    (send a buffer inPort actions data).Matches (send b buffer inPort actions data) :=
  .append (matches_call rfl) (matches_failure rfl ..)

theorem matches_release (flow : HeaderMatch) (elements : ElementSet) :
    (release a flow elements).Matches (release b flow elements) := by
  -- One element after the other: whether it fails makes no difference to the next one.
  have quiet (c : Answers) : ((release c flow elements).counts.filter fun k => !k.isFailure) = [] := by
    refine List.filter_eq_nil_iff.2 fun k counted => ?_
    obtain ⟨e, -, failed⟩ := List.mem_flatMap.1 counted
    cases answer : c.freeFlow e flow with
    | ok => simp [answer, failure] at failed
    | error error =>
      obtain rfl : k = .elementCleanupFailures := by simpa [answer, failure] using failed
      decide
  refine ⟨(quiet b).trans (quiet a).symm, ?_⟩
  simp [Call.unanswered]

variable {a b}

theorem matches_accepted (rule : FlowRule) (data : Octets) : (accepted a rule data).Matches (accepted b rule data) := by
  unfold accepted emission
  split
  · exact .refl _
  · exact (Matches.refl _).append (matches_send ..)

theorem matches_refused (rule : FlowRule) (error : DatapathError) :
    (refused a rule error).Matches (refused b rule error) :=
  (Matches.refl _).append (matches_discard ..)

theorem matches_drop (answers : b.addRule rule = a.addRule rule) : (drop a rule).Matches (drop b rule) := by
  unfold drop
  rw [answers]
  exact .refl _

end Trail

/-! ### Turns that match -/

/-- The controllers are the same but for the counters of failures. -/
structure Controller.SameButFailures (c d : Controller) : Prop where
  rest : d = { c with counters := d.counters }
  counters : ∀ k, k.isFailure = false → d.counters.get k = c.counters.get k

namespace Controller.SameButFailures

theorem refl (c : Controller) : c.SameButFailures c := ⟨rfl, fun _ _ => rfl⟩

theorem counting (h : c.SameButFailures d) (same : x.Matches y) :
    (c.counting x.counts).SameButFailures (d.counting y.counts) := by
  refine ⟨?_, fun k proper => Tally.toNat_inj ?_⟩
  · rw [h.rest]
    rfl
  · have count : y.counts.count k = x.counts.count k := by
      have counted (ks : List Counter) : (ks.filter fun k => !k.isFailure).count k = ks.count k :=
        List.count_filter (by simp [proper])
      rw [← counted, same.counts, counted]
    rw [toNat_counting, toNat_counting, h.counters k proper, count]

/-- What is done to a controller apart from its counters is done to both. -/
theorem update (h : c.SameButFailures d) {f : Controller → Controller}
    (apart : ∀ c counters, f { c with counters } = { f c with counters }) : (f c).SameButFailures (f d) := by
  have own (c : Controller) : (f c).counters = c.counters := by
    have same : f c = { f c with counters := c.counters } := apart c c.counters
    rw [same]
  refine ⟨?_, fun k proper => ?_⟩
  · rw [own d]
    exact (congrArg f h.rest).trans (apart c d.counters)
  · rw [own d, own c]
    exact h.counters k proper

/-- What depends on nothing that is counted is the same. -/
theorem view {α : Sort _} (h : c.SameButFailures d) {f : Controller → α} (apart : ∀ c counters, f { c with counters } = f c) :
    f d = f c :=
  (congrArg f h.rest).trans (apart c d.counters)

theorem ports (h : c.SameButFailures d) : d.ports = c.ports := h.view fun _ _ => rfl

theorem flows (h : c.SameButFailures d) : d.flows = c.flows := h.view fun _ _ => rfl

theorem ledger (h : c.SameButFailures d) : d.ledger = c.ledger := h.view fun _ _ => rfl

theorem parking (h : c.SameButFailures d) : d.parking = c.parking := h.view fun _ _ => rfl

end Controller.SameButFailures

/-- The turns have made the same calls, and their controllers differ in the counters of failures only. -/
structure Turn.Matches (t u : Turn) : Prop where
  controller : t.controller.SameButFailures u.controller
  calls : u.calls.map Call.unanswered = t.calls.map Call.unanswered

namespace Turn.Matches

theorem along (h : t.Matches u) (same : x.Matches y) : (t.along x).Matches (u.along y) := by
  refine ⟨h.controller.counting same, ?_⟩
  simp only [calls_along, List.map_append, h.calls, same.calls]

theorem update (h : t.Matches u) {f : Controller → Controller}
    (apart : ∀ c counters, f { c with counters } = { f c with counters }) :
    Turn.Matches ⟨f t.controller, t.calls⟩ ⟨f u.controller, u.calls⟩ :=
  ⟨h.controller.update apart, h.calls⟩

/-! ### Single steps -/

theorem count (h : t.Matches u) (k : Counter) : (t.count k).Matches (u.count k) := by
  simpa only [count_eq] using h.along (.refl _)

theorem call (h : t.Matches u) (call : Call) : (t.call call).Matches (u.call call) := h.along (.refl (.call call))

theorem freeBuffer (h : t.Matches u) : (t.freeBuffer a buffer).Matches (u.freeBuffer b buffer) := by
  simpa only [freeBuffer_eq] using h.along (Trail.matches_freeing a b buffer)

theorem discard (h : t.Matches u) : (t.discard a buffer).Matches (u.discard b buffer) := by
  simpa only [discard_eq] using h.along (Trail.matches_discard a b buffer)

theorem releaseElements (h : t.Matches u) (flow : HeaderMatch) (elements : ElementSet) :
    (t.releaseElements a flow elements).Matches (u.releaseElements b flow elements) := by
  simpa only [releaseElements_eq] using h.along (Trail.matches_release a b flow elements)

theorem sendPacket (h : t.Matches u) (inPort : PortNumber) (actions : List Action) :
    (t.sendPacket a buffer inPort actions data).Matches (u.sendPacket b buffer inPort actions data) := by
  simpa only [sendPacket_eq] using h.along (Trail.matches_send a b buffer inPort actions data)

theorem announce (h : t.Matches u) (incoming installed : HeaderMatch) (ingress : PortId) (elements : ElementSet) :
    (t.announce incoming installed ingress elements).Matches (u.announce incoming installed ingress elements) := by
  have observed : u.controller.observed = t.controller.observed := h.controller.view fun _ _ => rfl
  rw [announce_eq, announce_eq, observed]
  exact h.along (.refl _)

theorem record (h : t.Matches u) (flow : HeaderMatch) (elements : ElementSet) :
    (t.record flow elements).Matches (u.record flow elements) :=
  h.update (f := fun c => { c with ledger := c.ledger.record flow elements }) fun _ _ => rfl

variable (alike : a.Alike b)
include alike

theorem installDrop (h : t.Matches u) (prior : rule.priority = flowPriority) :
    (t.installDrop a rule).Matches (u.installDrop b rule) := by
  simpa only [installDrop_eq] using h.along (Trail.matches_drop (alike.ordinary prior))

theorem blackhole (h : t.Matches u) (pattern : HeaderMatch) :
    (t.blackhole a pattern buffer).Matches (u.blackhole b pattern buffer) := by
  rw [Turn.blackhole, Turn.blackhole, h.controller.flows]
  exact h.installDrop alike rfl

theorem widen (h : t.Matches u) (scope : FlowScope) (incoming : HeaderMatch) :
    (t.widen a scope incoming).Matches (u.widen b scope incoming) := by
  rw [widen_eq, widen_eq, alike.widen]
  exact h.along (.refl _)

theorem installForward (h : t.Matches u) (pattern : HeaderMatch) (buffer : Buffer) (actions : List Action)
    (data : Octets) :
    (t.installForward a pattern buffer actions data).1.Matches (u.installForward b pattern buffer actions data).1 ∧
      (u.installForward b pattern buffer actions data).2 = (t.installForward a pattern buffer actions data).2 := by
  have flows := h.controller.flows
  have answers : b.addRule (u.controller.flows.forwarding pattern buffer actions) =
      a.addRule (t.controller.flows.forwarding pattern buffer actions) := by
    rw [flows]
    exact alike.ordinary rfl
  cases answer : a.addRule (t.controller.flows.forwarding pattern buffer actions) with
  | ok =>
    rw [Turn.installForward_ok _ _ _ answer, Turn.installForward_ok _ _ _ (answers.trans answer), flows]
    exact ⟨h.along (Trail.matches_accepted ..), rfl⟩
  | error error =>
    rw [Turn.installForward_error _ _ _ answer, Turn.installForward_error _ _ _ (answers.trans answer), flows]
    exact ⟨h.along (Trail.matches_refused ..), rfl⟩

/-! ### Handlers -/

omit alike in
theorem requestAddress (h : t.Matches u) (port : PortId) (nextHop : Ipv4) (p : ParkedPacket) :
    (t.requestAddress port nextHop p).Matches (u.requestAddress port nextHop p) := by
  have parked := (h.update (f := fun c => { c with parking := (c.parking.park p).1 }) fun _ _ => rfl).count
    .resolutionsStarted
  simp only [Turn.requestAddress, Parking.park, h.controller.parking] at parked ⊢
  exact parked.call _

theorem reject (h : t.Matches u) (code : UnreachableCode) (d : DecidedPacket) :
    (t.reject a code d).Matches (u.reject b code d) :=
  ((h.blackhole alike _).releaseElements ..).call _

theorem forwardExact (h : t.Matches u) (d : DecidedPacket) (ports : OrderedSet PortNumber) (wanted : HeaderMatch) :
    (t.forwardExact a d ports wanted).Matches (u.forwardExact b d ports wanted) := by
  obtain ⟨installed, accepted⟩ := h.installForward alike d.incoming d.buffer
    (Action.between d.incoming wanted ports.toList) d.data
  simp only [Turn.forwardExact, accepted]
  split
  · exact installed.record ..
  · exact installed.releaseElements ..

theorem forward (h : t.Matches u) (d : DecidedPacket) (out : PortId) (nextHop : Ipv4) :
    (t.forward a d out nextHop).Matches (u.forward b d out nextHop) := by
  have towards : u.controller.towards d out nextHop (a.participants out) =
      t.controller.towards d out nextHop (a.participants out) :=
    h.controller.view (f := fun c => c.towards d out nextHop (a.participants out)) fun _ _ => rfl
  simp only [Turn.forward, h.controller.ports, alike.participants, towards]
  split
  · exact h.requestAddress ..
  · split
    · exact (h.call _).reject alike ..
    · exact (h.call _).forwardExact alike ..

theorem carryOut (h : t.Matches u) (d : DecidedPacket) (v : Verdict) :
    (t.carryOut a d v).Matches (u.carryOut b d v) := by
  cases v with
  | blackhole =>
    simp only [Turn.carryOut, alike.widen]
    exact (((h.widen alike ..).blackhole alike _).announce ..).releaseElements ..
  | consumed => exact h.freeBuffer
  | forward out nextHop => exact h.forward alike ..
  | notIpv4 => exact h.installDrop alike rfl
  | noRoute => exact h.reject alike ..
  | reject => exact h.reject alike ..

omit alike in
theorem packetFromTunnel (h : t.Matches u) (p : TunnelledPacket) :
    (t.packetFromTunnel p).Matches (u.packetFromTunnel p) := by
  simp only [Turn.packetFromTunnel, h.controller.ports]
  split
  · exact h.requestAddress ..
  · exact h.count _

theorem decide (h : t.Matches u) (arrival : Arrival) :
    (t.decide a buffer data arrival).Matches (u.decide b buffer data arrival) := by
  simp only [Turn.decide, alike.process]
  split
  · exact (((h.call _).count _).discard).releaseElements ..
  · exact (h.call _).carryOut alike ..

theorem packetFromPort (h : t.Matches u) (ingress : VirtualPort) (arrival : Arrival) :
    (t.packetFromPort a buffer data ingress arrival).Matches (u.packetFromPort b buffer data ingress arrival) := by
  unfold Turn.packetFromPort
  split
  · exact ((h.count _).call _).freeBuffer
  · split
    · exact h.decide alike _
    · exact (h.count _).blackhole alike _

theorem packetIn (h : t.Matches u) (n : PacketIn) : (t.packetIn a n).Matches (u.packetIn b n) := by
  have counted := h.count .packetsIn
  have source : (u.count .packetsIn).controller.ingress ((u.count .packetsIn).controller.ingressNumber n.inPort) =
      (t.count .packetsIn).controller.ingress ((t.count .packetsIn).controller.ingressNumber n.inPort) :=
    counted.controller.view (f := fun c => c.ingress (c.ingressNumber n.inPort)) fun _ _ => rfl
  have tunnelled (packet : Packet) : (u.count .packetsIn).controller.tunnelled n packet =
      (t.count .packetsIn).controller.tunnelled n packet :=
    counted.controller.view (f := fun c => c.tunnelled n packet) fun _ _ => rfl
  have arrival (port : VirtualPort) (packet : Packet) : (u.count .packetsIn).controller.arrival n port packet =
      (t.count .packetsIn).controller.arrival n port packet :=
    counted.controller.view (f := fun c => c.arrival n port packet) fun _ _ => rfl
  simp only [Turn.packetIn, source, tunnelled, arrival]
  split
  · exact counted.discard
  · exact (counted.count _).discard
  · exact counted.packetFromTunnel _
  · exact counted.packetFromPort alike ..

theorem resumeTunnelled (h : t.Matches u) (p : TunnelledPacket) (mac : Mac) :
    (t.resumeTunnelled a p mac).Matches (u.resumeTunnelled b p mac) := by
  simp only [Turn.resumeTunnelled, h.controller.ports, alike.widen]
  split
  · exact h.discard
  · rename_i egress _
    split
    · exact h.sendPacket ..
    · obtain ⟨installed, accepted⟩ := (h.widen alike .tunnelForward p.incoming).installForward alike
        (a.widen .tunnelForward p.incoming) p.buffer
        (Action.between p.incoming (Turn.addressed p.incoming egress mac) [egress.number]) p.data
      rw [accepted]
      split
      · exact installed.record ..
      · exact installed

theorem resumeLocal (h : t.Matches u) (p : LocalPacket) (mac : Mac) :
    (t.resumeLocal a p mac).Matches (u.resumeLocal b p mac) := by
  simp only [Turn.resumeLocal, h.controller.ports, alike.widen]
  split
  · exact (h.releaseElements ..).discard
  · rename_i egress _
    obtain ⟨installed, accepted⟩ := (h.widen alike .localForward p.incoming).installForward alike
      (a.widen .localForward p.incoming) p.buffer
      (Action.between p.incoming (Turn.addressed p.wanted egress mac) [egress.number]) p.data
    rw [accepted]
    split
    · exact (installed.announce ..).record ..
    · exact installed.releaseElements ..

theorem addressResolved (h : t.Matches u) (token : Token) (mac : Option Mac) :
    (t.addressResolved a token mac).Matches (u.addressResolved b token mac) := by
  have taken := h.update (f := fun c => { c with parking := (c.parking.take token).1 }) fun _ _ => rfl
  have parking := h.controller.parking
  unfold Turn.addressResolved
  cases waits : t.controller.parking.waiting.get? token with
  | none => simpa only [Parking.take, parking, waits] using h
  | some p =>
    simp only [Parking.take, parking, waits] at taken ⊢
    cases p with
    | tunnelled p =>
      cases mac with
      | none => exact ((taken.count _).blackhole alike _).call _
      | some mac => exact (taken.count _).resumeTunnelled alike ..
    | toLocal p =>
      cases mac with
      | none => exact (((taken.count _).blackhole alike _).releaseElements ..).call _
      | some mac => exact (taken.count _).resumeLocal alike ..

omit alike in
theorem portAttached (h : t.Matches u) (port : VirtualPort) :
    (t.portAttached a port).Matches (u.portAttached b port) := by
  simp only [Turn.portAttached, h.controller.ports]
  split
  · exact h
  · rename_i ports _
    have attached := h.update (f := fun c => { c with ports }) fun _ _ => rfl
    simp only [call_eq, countFailure_eq, along_along]
    exact attached.along (.append (.append (Trail.matches_call rfl) (Trail.matches_call rfl))
      (Trail.matches_failure rfl ..))

omit alike in
theorem portDetached (h : t.Matches u) (id : PortId) : (t.portDetached a id).Matches (u.portDetached b id) := by
  simp only [Turn.portDetached, h.controller.ports]
  split
  · exact h
  · rename_i ports port _
    have detached := h.update (f := fun c => { c with ports, slices := (c.slices.leaveAll port.number).1 })
      fun _ _ => rfl
    rw [call_eq, call_eq]
    exact detached.along (Trail.matches_call rfl)

omit alike in
theorem flowRemoved (h : t.Matches u) (r : FlowRemoval) : (t.flowRemoved a r).Matches (u.flowRemoved b r) := by
  have released := h.update (f := fun c => { c with ledger := (c.ledger.release r.pattern).1 }) fun _ _ => rfl
  simp only [Turn.flowRemoved, h.controller.ledger] at released ⊢
  exact (released.count _).releaseElements ..

theorem handle (h : t.Matches u) (e : Event) : (t.handle a e).Matches (u.handle b e) := by
  cases e with
  | packetIn n => exact h.packetIn alike n
  | flowRemoved r => exact h.flowRemoved r
  | addressResolved token mac => exact h.addressResolved alike token mac
  | portAttached port => exact h.portAttached port
  | portDetached id => exact h.portDetached id
  | tunnelAdded number peer =>
    exact h.update (f := fun c => { c with tunnels := c.tunnels.add number peer }) fun _ _ => rfl
  | tunnelRemoved number =>
    exact h.update (f := fun c => { c with tunnels := (c.tunnels.remove number).1 }) fun _ _ => rfl
  | portLocated id host =>
    exact h.update (f := fun c => { c with tunnels := c.tunnels.locate id host }) fun _ _ => rfl
  | portUnlocated id =>
    exact h.update (f := fun c => { c with tunnels := (c.tunnels.unlocate id).1 }) fun _ _ => rfl
  | participantAdded set host => exact h.call _
  | participantRemoved set host => exact h.call _
  | portJoined set number =>
    exact h.update (f := fun c => { c with slices := (c.slices.join set number).1 }) fun _ _ => rfl
  | portLeft set number =>
    exact h.update (f := fun c => { c with slices := (c.slices.leave set number).1 }) fun _ _ => rfl
  | shutdown => exact h

end Turn.Matches

theorem Controller.SameButFailures.step (h : c.SameButFailures d) (alike : a.Alike b) (e : Event) :
    (c.step a e).Matches (d.step b e) :=
  Turn.Matches.handle alike (t := { controller := c }) (u := { controller := d }) ⟨h, rfl⟩ e

/-! ### Two runs -/

/-- Two histories of one controller in which the same happens, with collaborators that answer alike except for the calls
    whose failure nothing depends on, and the controllers that they lead to. -/
inductive Twins (start : Controller) : History → Controller → History → Controller → Prop
  | start : Twins start [] start [] start
  | retarget {h h' : History} {c d : Controller} (number : PortNumber) (twins : Twins start h c h' d) :
      Twins start h (c.withServiceTarget number) h' (d.withServiceTarget number)
  | handle {h h' : History} {c d : Controller} {a b : Answers} (alike : a.Alike b) (e : Event)
      (twins : Twins start h c h' d) :
      Twins start (⟨c, a, e⟩ :: h) (c.step a e).controller (⟨d, b, e⟩ :: h') (d.step b e).controller

/-- Two runs in which nothing differs but which calls fail whose failure nothing depends on make the same calls on every
    event, and lead to the same controller except for what is counted of failures. -/
theorem Twins.isolated {start : Controller} {h h' : History} (twins : Twins start h c h' d) :
    h'.map (fun x => x.calls.map Call.unanswered) = h.map (fun x => x.calls.map Call.unanswered) ∧
      d = { c with counters := d.counters } ∧
      ∀ k, k ≠ .datapathErrors → k ≠ .elementCleanupFailures → d.counters.get k = c.counters.get k := by
  have same : h'.map (fun x => x.calls.map Call.unanswered) = h.map (fun x => x.calls.map Call.unanswered) ∧
      c.SameButFailures d := by
    induction twins with
    | start => exact ⟨rfl, .refl _⟩
    | retarget number _ ih =>
      exact ⟨ih.1, ih.2.update (f := fun c => c.withServiceTarget number) fun _ _ => rfl⟩
    | handle alike e _ ih =>
      have step := ih.2.step alike e
      refine ⟨?_, step.controller⟩
      rw [List.map_cons, List.map_cons, ih.1]
      exact congrArg (· :: _) step.calls
  refine ⟨same.1, same.2.rest, fun k switch element => same.2.counters k ?_⟩
  cases k <;> first | rfl | contradiction

/-- Two runs can part after any two that do so. -/
theorem Twins.replay {start : Controller} {s r : History × Controller} (twins : Twins start s.1 s.2 r.1 r.2)
    (alike : a.Alike b) (events : List Event) :
    Twins start (VirtualRouter.replay s (events.map (a, ·))).1 (VirtualRouter.replay s (events.map (a, ·))).2
      (VirtualRouter.replay r (events.map (b, ·))).1 (VirtualRouter.replay r (events.map (b, ·))).2 := by
  induction events generalizing s r with
  | nil => exact twins
  | cons e events ih => exact ih (s := (_, _)) (r := (_, _)) (.handle alike e twins)

namespace Sample

/-- The same collaborators, failing in everything that nothing depends on. -/
def faltering (a : Answers) : Answers where
  addRule rule := if rule = dhcpRule (rule.pattern.inPort.getD .none) then .error .disconnected else a.addRule rule
  sendPacket _ _ _ _ := .error .disconnected
  freeBuffer _ := .error .disconnected
  process := a.process
  freeFlow e _ := .error (.unknownElement e)
  addPort port := .error (.unknownPort port.id)
  removePort port := .error (.unknownPort port.id)
  participants := a.participants
  widen := a.widen

theorem alike_faltering (a : Answers) : a.Alike (faltering a) where
  addRule _ ordinary := if_neg (ordinary _)
  process := rfl
  participants := rfl
  widen := rfl

def twoElements : ElementSet := (OrderedSet.empty.insert (element 1)).insert (element 2)

/-- A packet waits for an address that is not found, and the port that it was for goes. -/
def abandoned : List Event :=
  [.portAttached (port 1), .portAttached (port 2), .packetIn (notice ⟨7⟩), .addressResolved ⟨0⟩ none,
    .portDetached (port 2).id]

end Sample

/-- Two rules for DHCP requests and two elements fail in one of the runs, which is all that its controller shows of it. -/
theorem isolated_faltering :
    let a := Sample.delivering Sample.twoElements
    let s := Sample.handled default a Sample.abandoned
    let s' := Sample.handled default (Sample.faltering a) Sample.abandoned
    s'.1.map (fun x => x.calls.map Call.unanswered) = s.1.map (fun x => x.calls.map Call.unanswered) ∧
      s'.2 = { s.2 with counters := s'.2.counters } ∧
      (∀ k, k ≠ .datapathErrors → k ≠ .elementCleanupFailures → s'.2.counters.get k = s.2.counters.get k) ∧
      s.2.counters.datapathErrors.toNat = 0 ∧ s'.2.counters.datapathErrors.toNat = 2 ∧
      s.2.counters.elementCleanupFailures.toNat = 0 ∧ s'.2.counters.elementCleanupFailures.toNat = 2 := by
  intro a s s'
  have twins : Twins (.initial default false) s.1 s.2 s'.1 s'.2 :=
    Twins.replay (s := ([], _)) (r := ([], _)) .start (Sample.alike_faltering a) Sample.abandoned
  obtain ⟨calls, rest, counters⟩ := Twins.isolated twins
  refine ⟨calls, rest, counters, ?_, ?_, ?_, ?_⟩ <;> decide +kernel

end VirtualRouter
