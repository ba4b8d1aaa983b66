import VirtualRouter.Proofs.Flows.LedgerContents
import VirtualRouter.Proofs.Run.Decision
import VirtualRouter.Proofs.Run.Registries

/-! What the observer is told. It hears of the drop rule for a packet that the simulation has blackholed and of the
    flow for a packet to a local port, of nothing else, and of each once, with the match of the packet as it came in,
    the port that it came in by and the elements that took part. It hears of the flow only if the switch takes it, but
    of the drop rule in any case. -/

namespace VirtualRouter

variable {config : Config} {history past : History} {c c' : Controller} {x : Entry} {a : Answers}

/-! ### Rules and notices -/

/-- What the observer is told of a flow: the match of the packet that brought it about and that of the flow, the port
    that the packet came in by, and the elements that took part. -/
structure FlowNotice where
  original : HeaderMatch
  pattern : HeaderMatch
  ingress : PortId
  elements : ElementSet

namespace Call

def notice? : Call → Option FlowNotice
  | installed original pattern ingress elements => some ⟨original, pattern, ingress, elements⟩
  | _ => none

end Call

namespace Entry

/-- What the observer is told. -/
def notices (x : Entry) : List FlowNotice := x.calls.filterMap Call.notice?

/-- The simulation has the packet of the event dropped silently. -/
def Blackholes (x : Entry) (n : PacketIn) (port : VirtualPort) (packet : Packet) (o : Outcome) : Prop :=
  x.Decides n port packet o ∧ o.verdict = .ok .blackhole

/-- The event brings the address of a packet to a local port. -/
def Addresses (x : Entry) (p : LocalPacket) : Prop :=
  ∃ token mac, x.event = .addressResolved token (some mac) ∧ x.before.parking.waiting.get? token = some (.toLocal p)

end Entry

/-! ### What the handlers announce -/

section Releases
variable (flow : HeaderMatch)

@[simp] theorem notice?_release : (Call.notice? ∘ fun e => Call.freeFlow e flow (a.freeFlow e flow)) = fun _ => none :=
  rfl

end Releases

namespace Course
variable {trail : Trail} {d : DecidedPacket} {p : LocalPacket} {q : ParkedPacket} {mac : Mac} {answer : Option Mac}
  {v : Verdict}

/-- The drop rule for a blackholed packet is announced, be it taken or not. -/
theorem CarriesOut.announced (course : CarriesOut a c d .blackhole c' trail) (watched : c.observed = true) :
    (trail.calls.filterMap Call.rule?).length = 1 ∧ trail.calls.filterMap Call.notice? =
      (trail.calls.filterMap Call.rule?).map fun r => ⟨d.incoming, r.1.pattern, d.ingress, d.elements⟩ := by
  cases course with
  | blackhole =>
    simp [List.filterMap_cons, Call.rule?, Call.notice?, Trail.calls_announce, watched, FlowSettings.blackhole,
      FlowRule.dropping]

/-- The flow for a packet to a local port is announced if it is taken. -/
theorem Resumes.announced (course : Resumes a c (.toLocal p) (some mac) c' trail) (watched : c.observed = true) :
    (trail.calls.filterMap Call.rule?).length ≤ 1 ∧ trail.calls.filterMap Call.notice? =
      ((trail.calls.filterMap Call.rule?).filter fun r => r.2.isOk).map fun r =>
        ⟨p.incoming, r.1.pattern, p.ingress, p.elements⟩ := by
  cases course with
  | vanishedLocal => simp [List.filterMap_cons, Call.rule?, Call.notice?, Trail.calls_freeing, filterMap_ite]
  | forwardedLocal =>
    simp [List.filterMap_cons, Call.rule?, Call.notice?, Trail.calls_announce, watched, filterMap_ite, Except.isOk,
      Except.toBool]
  | refusedLocal =>
    simp [List.filterMap_cons, Call.rule?, Call.notice?, Trail.calls_freeing, filterMap_ite, Except.isOk, Except.toBool]

theorem CarriesOut.unannounced (course : CarriesOut a c d v c' trail) (other : v ≠ .blackhole) :
    trail.calls.filterMap Call.notice? = [] := by
  cases course with
  | blackhole => exact absurd rfl other
  | _ =>
    simp [List.filterMap_cons, Call.notice?, Trail.calls_freeing, filterMap_ite, -List.filterMap_eq_nil_iff]

theorem Resumes.unannounced (course : Resumes a c q answer c' trail)
    (other : ∀ p mac, q = .toLocal p → answer ≠ some mac) : trail.calls.filterMap Call.notice? = [] := by
  cases course with
  | vanishedLocal | forwardedLocal | refusedLocal => exact absurd rfl (other _ _ rfl)
  | _ =>
    simp [List.filterMap_cons, Call.notice?, Trail.calls_freeing, filterMap_ite, -List.filterMap_eq_nil_iff]

end Course

/-! ### What the observer is told along a run -/

theorem Run.observed_eq {observed : Bool} (run : Run config observed history c) : c.observed = observed :=
  run.settings.observed

namespace Entry
variable {n : PacketIn} {port : VirtualPort} {packet : Packet} {o : Outcome} {p : LocalPacket}

theorem notices_blackholed (watched : x.before.observed = true) (keeps : x.answers.KeepsMatch)
    (h : x.Blackholes n port packet o) : x.rules.length = 1 ∧ x.notices = x.rules.map fun r =>
      ⟨packet.exactMatch (x.before.ingressNumber n.inPort), r.1.pattern, port.id, o.elements⟩ := by
  obtain ⟨decides, verdict⟩ := h
  obtain ⟨rest, calls, follows⟩ := decides.follows
  have same : o.arrival.incoming = packet.exactMatch (x.before.ingressNumber n.inPort) := by
    rw [decides.outcome]
    exact keeps _
  rw [rules, notices, calls, List.filterMap_cons_none rfl, List.filterMap_cons_none rfl, ← same]
  cases follows with
  | failed failure => cases verdict.symm.trans failure
  | carriedOut decision course rest =>
    cases verdict.symm.trans decision
    rw [rest]
    exact course.announced watched

theorem notices_addressed (watched : x.before.observed = true) (h : x.Addresses p) :
    x.rules.length ≤ 1 ∧ x.notices = (x.rules.filter fun r => r.2.isOk).map fun r =>
      ⟨p.incoming, r.1.pattern, p.ingress, p.elements⟩ := by
  obtain ⟨token, mac, event, waits⟩ := h
  obtain ⟨c', trail, course, -, calls⟩ := x.course
  rw [rules, notices, calls]
  rw [event] at course
  cases course with
  | unasked absent => cases waits.symm.trans absent
  | resumes found course =>
    cases waits.symm.trans found
    exact course.announced watched

/-- The observer is told of nothing but drop rules of blackholed packets and flows of packets to local ports. -/
theorem noticed (told : x.notices ≠ []) :
    (∃ n port packet o, x.Blackholes n port packet o) ∨ ∃ p, x.Addresses p := by
  obtain ⟨c', trail, course, -, calls⟩ := x.course
  rw [notices, calls] at told
  generalize event : x.event = e at course
  cases course with
  | @arrives n _ _ course =>
    cases course with
    | @decided packet port v c' y source read _ _ decision course =>
      rw [Trail.calls_append, List.filterMap_append] at told
      by_cases black : v = .blackhole
      · exact .inl ⟨n, port, packet, _, decides_of_calls event source read calls, decision.trans (congrArg _ black)⟩
      · exact absurd (course.unannounced black) told
    | _ => simp [List.filterMap_cons, Call.notice?, Trail.calls_freeing, filterMap_ite] at told
  | @resumes token answer p _ _ waits course =>
    by_cases addressed : ∃ q mac, p = .toLocal q ∧ answer = some mac
    · obtain ⟨q, mac, rfl, rfl⟩ := addressed
      exact .inr ⟨q, token, mac, event, waits⟩
    · exact absurd (course.unannounced fun q mac whole found => addressed ⟨q, mac, whole, found⟩) told
  | _ => simp [List.filterMap_cons, Call.notice?] at told

/-- The packet of an answer came in where it was decided on, and waits with what it came in with. -/
theorem Addresses.origin (run : Run config true past x.before) (keeps : ∀ y ∈ past, y.answers.KeepsMatch)
    (h : x.Addresses p) : ∃ y n port packet o, x.origin? past = some y ∧ y.Decides n port packet o ∧
      p.incoming = packet.exactMatch (y.before.ingressNumber n.inPort) ∧ p.ingress = port.id ∧
      p.elements = o.elements := by
  obtain ⟨token, mac, event, waits⟩ := h
  obtain ⟨y, n, origin, parks⟩ := run.origin_parks (by simp [answered?, event]) waits
  have mem : y ∈ past := by
    simp only [origin?, answered?, event] at origin
    exact List.mem_of_find?_eq_some origin
  generalize whole : ParkedPacket.toLocal p = q at parks
  cases parks.suspends with
  | tunnelled => cases whole
  | @toLocal port packet o out nextHop decides =>
    cases whole
    refine ⟨y, n, port, packet, o, origin, decides, ?_, rfl, rfl⟩
    rw [decides.outcome]
    exact keeps y mem _

end Entry

/-- The observer is told of the drop rule for each packet that the simulation has blackholed, be it taken or not, and
    of the flow for each packet to a local port that the switch takes; of each it is told once, with the match of the
    packet as it came in, that of the rule, the port that the packet came in by and the elements that took part. It is
    told of nothing else, and of a rule that the switch refuses only if the packet was blackholed. -/
theorem Run.observer_notices (run : Run config true past x.before) (keeps : ∀ y ∈ x :: past, y.answers.KeepsMatch) :
    (∀ n port packet o, x.Blackholes n port packet o → x.rules.length = 1 ∧ x.notices = x.rules.map fun r =>
      ⟨packet.exactMatch (x.before.ingressNumber n.inPort), r.1.pattern, port.id, o.elements⟩) ∧
    (∀ p, x.Addresses p → x.rules.length ≤ 1 ∧ ∃ y n port packet o, x.origin? past = some y ∧
      y.Decides n port packet o ∧ x.notices = (x.rules.filter fun r => r.2.isOk).map fun r =>
        ⟨packet.exactMatch (y.before.ingressNumber n.inPort), r.1.pattern, port.id, o.elements⟩) ∧
    (x.notices ≠ [] → (∃ n port packet o, x.Blackholes n port packet o) ∨ ∃ p, x.Addresses p) ∧
    (∀ rule error, (rule, .error error) ∈ x.rules →
      (x.notices ≠ [] ↔ ∃ n port packet o, x.Blackholes n port packet o)) := by
  have watched := run.observed_eq
  have keeps_now := keeps x List.mem_cons_self
  have keeps_then : ∀ y ∈ past, y.answers.KeepsMatch := fun y hy => keeps y (List.mem_cons_of_mem _ hy)
  refine ⟨fun n port packet o black => Entry.notices_blackholed watched keeps_now black, ?_, Entry.noticed, ?_⟩
  · intro p addressed
    obtain ⟨few, notices⟩ := Entry.notices_addressed watched addressed
    obtain ⟨y, n, port, packet, o, origin, decides, incoming, ingress, elements⟩ := addressed.origin run keeps_then
    rw [incoming, ingress, elements] at notices
    exact ⟨few, y, n, port, packet, o, origin, decides, notices⟩
  · intro rule error refused
    constructor
    · intro told
      rcases Entry.noticed told with black | ⟨p, addressed⟩
      · exact black
      · obtain ⟨few, notices⟩ := Entry.notices_addressed watched addressed
        have only : x.rules = [(rule, .error error)] := by
          obtain ⟨r, single⟩ := List.length_eq_one_iff.1 (Nat.le_antisymm few (List.length_pos_of_mem refused))
          rw [single, List.mem_singleton] at refused
          rw [single, refused]
        rw [notices, only] at told
        exact absurd rfl told
    · rintro ⟨n, port, packet, o, black⟩
      obtain ⟨one, notices⟩ := Entry.notices_blackholed watched keeps_now black
      intro none
      rw [notices, List.map_eq_nil_iff] at none
      rw [none] at one
      cases one

namespace Sample

/-- Events have been handled in turn, with the same answers throughout and with an observer. -/
def watched (a : Answers) (events : List Event) : History × Controller :=
  replay ([], .initial default true) (events.map (a, ·))

/-- The latest of some events that were handled with an observer. -/
def last (a : Answers) (events : List Event) (e : Event) : Entry := ⟨(watched a events).2, a, e⟩

theorem run_watched (a : Answers) (events : List Event) : Run default true (watched a events).1 (watched a events).2 :=
  Run.replay .initial _

theorem keepsMatch_watched {a : Answers} (keeps : a.KeepsMatch) (events : List Event) (e : Event) :
    ∀ x ∈ last a events e :: (watched a events).1, x.answers.KeepsMatch :=
  List.forall_mem_cons.2 ⟨keeps, fun _ hx => (answers_replay hx).symm ▸ keeps⟩

/-- A packet to the second port waits. -/
def waiting : List Event := [.portAttached (port 1), .portAttached (port 2), .packetIn (notice ⟨7⟩)]

end Sample

/-- The observer is told of the flow for a delivered packet. -/
theorem observer_notices_delivered :
    let a := Sample.delivering (.ofList [Sample.element 5])
    let x := Sample.last a Sample.waiting (.addressResolved ⟨0⟩ (some (Sample.port 3).mac))
    ∃ y n port packet o, x.origin? (Sample.watched a Sample.waiting).1 = some y ∧ y.Decides n port packet o ∧
      x.notices = [⟨packet.exactMatch (y.before.ingressNumber n.inPort), Sample.flow, port.id, o.elements⟩] := by
  intro a x
  let p : LocalPacket :=
    { buffer := ⟨7⟩, ingress := (Sample.port 1).id, data := (Sample.notice ⟨7⟩).data,
      packet := { dlSrc := ⟨2, 0, 0, 0, 0, 9⟩, dlDst := (Sample.port 1).mac, ethertype := 0x88cc },
      incoming := Sample.flow, wanted := Sample.flow, elements := .ofList [Sample.element 5],
      egress := (Sample.port 2).id }
  have waits : x.before.parking.waiting.get? ⟨0⟩ = some (.toLocal p) := by decide +kernel
  have rules : x.rules = [((default : FlowSettings).forwarding Sample.flow ⟨7⟩
      [.setDlSrc (Sample.port 2).mac, .setDlDst (Sample.port 3).mac, .output ⟨2⟩], .ok ())] := by decide +kernel
  have run : Run default true (Sample.watched a Sample.waiting).1 x.before := Sample.run_watched ..
  have keeps := Sample.keepsMatch_watched (a := a) (fun _ => rfl) Sample.waiting x.event
  obtain ⟨-, y, n, port, packet, o, origin, decides, notices⟩ :=
    (run.observer_notices keeps).2.1 p ⟨⟨0⟩, _, rfl, waits⟩
  rw [rules] at notices
  exact ⟨y, n, port, packet, o, origin, decides, notices⟩

/-- The observer is told of the drop rule for a blackholed packet that the switch has refused. -/
theorem observer_notices_refused :
    let a := Sample.answers (.error .disconnected) .blackhole (.ofList [Sample.element 5])
    let events := [.portAttached (Sample.port 1)]
    let x := Sample.last a events (.packetIn (Sample.notice ⟨7⟩))
    let rule := (default : FlowSettings).blackhole Sample.flow ⟨7⟩
    Run default true (Sample.watched a events).1 x.before ∧
      (∀ y ∈ x :: (Sample.watched a events).1, y.answers.KeepsMatch) ∧
      x.rules = [(rule, .error .disconnected)] ∧
      .installed Sample.flow rule.pattern (Sample.port 1).id (.ofList [Sample.element 5]) ∈ x.calls := by
  intro a events x rule
  exact ⟨Sample.run_watched .., Sample.keepsMatch_watched (fun _ => rfl) events _, by decide +kernel, by decide +kernel⟩

end VirtualRouter
