import VirtualRouter.Proofs.Flows.LedgerContents
import VirtualRouter.Proofs.Flows.Occasions

/-! Whom the rule for a packet concerns. Its match covers the packet that it is for, in the exact match that the packet came
    in with, be it installed at once or when the packet has waited and its headers have been rewritten. A rule that drops
    packets for a while since one could not be delivered has this exact match, so that it concerns no other packet. -/

namespace VirtualRouter

variable {config : Config} {observed : Bool} {past : History} {x y : Entry} {n : PacketIn} {port : VirtualPort}
  {packet : Packet} {o : Outcome} {token : Token} {p : ParkedPacket} {rule : FlowRule} {policy : Policy}
  {answer : Except DatapathError Unit}

theorem HeaderMatch.Covers.ethertypeOnly {m exact : HeaderMatch} (covers : m.Covers exact) :
    m.ethertypeOnly.Covers exact :=
  ⟨.inl rfl, .inl rfl, .inl rfl, covers.dlType, .inl rfl, .inl rfl, .inl rfl, .inl rfl, .inl rfl⟩

namespace Entry

/-! ### The packet of a rule -/

/-- The event brings a packet with this exact match. -/
def Receives (x : Entry) (exact : HeaderMatch) : Prop :=
  ∃ n packet, x.event = .packetIn n ∧ Packet.parse n.data = .ok packet ∧
    exact = packet.exactMatch (x.before.ingressNumber n.inPort)

theorem Decides.receives (decides : x.Decides n port packet o) (keeps : x.answers.KeepsMatch) :
    x.Receives o.arrival.incoming :=
  ⟨n, packet, decides.event, decides.read, decides.incoming keeps⟩

theorem Suspends.receives (h : x.Suspends n p) (event : x.event = .packetIn n) (keeps : x.answers.KeepsMatch) :
    x.Receives p.incoming := by
  cases h with
  | tunnelled source read => exact ⟨n, _, event, read, rfl⟩
  | toLocal decides => exact decides.receives keeps

theorem origin_arrival (event : x.event = .packetIn n) : x.origin? past = some x := by
  simp [origin?, answered?, event]

end Entry

/-- The packet that an answer is for came in at its origin, with the match that it waits with. -/
theorem Run.origin_receives (run : Run config observed past x.before) (keeps : ∀ y ∈ past, y.answers.KeepsMatch)
    (answer : x.answered? = some token) (waits : x.before.parking.waiting.get? token = some p) :
    ∃ y, x.origin? past = some y ∧ y.Receives p.incoming := by
  obtain ⟨y, n, origin, parks⟩ := run.origin_parks answer waits
  have mem : y ∈ past := by
    simp only [Entry.origin?, answer] at origin
    exact List.mem_of_find?_eq_some origin
  exact ⟨y, origin, parks.suspends.receives parks.1 (keeps y mem)⟩

namespace Entry

/-! ### Packets that are given up -/

theorem Decides.addressed (decides : x.Decides n port packet o) :
    packet.dlDst = port.mac ∨ packet.dlDst.isMulticast = true := by
  obtain ⟨c', trail, course, -, calls⟩ := x.course
  have asked := decides.asked
  rw [calls] at asked
  rw [decides.event] at course
  cases course with
  | arrives course =>
    cases course with
    | unknown source | astray source | parked source => cases decides.source.symm.trans source
    | malformed _ unread => cases decides.read.symm.trans unread
    | dhcp => simp [Trail.calls_freeing] at asked
    | misdelivered => simp at asked
    | failed source read _ addressed | decided source read _ addressed =>
      cases decides.source.symm.trans source
      cases decides.read.symm.trans read
      exact addressed

theorem Decides.unique {n' : PacketIn} {port' : VirtualPort} {packet' : Packet} {o' : Outcome}
    (decides : x.Decides n port packet o) (decides' : x.Decides n' port' packet' o') : o = o' := by
  cases decides.event.symm.trans decides'.event
  cases decides.source.symm.trans decides'.source
  cases decides.read.symm.trans decides'.read
  exact decides.outcome.trans decides'.outcome.symm

/-- The packet of the event cannot be delivered: it is sent to another station, it is refused or has no route, no port
    leads to where it is to go, or the address of its next hop is not found. -/
inductive GivesUp (x : Entry) : Prop
  | misdelivered {n : PacketIn} {port : VirtualPort} {packet : Packet} (astray : x.Misdelivers n port packet)
  | refused {n : PacketIn} {port : VirtualPort} {packet : Packet} {o : Outcome} (decides : x.Decides n port packet o)
      (verdict : o.verdict = .ok .noRoute ∨ o.verdict = .ok .reject)
  | stranded {n : PacketIn} {port : VirtualPort} {packet : Packet} {o : Outcome} {out : PortId} {nextHop : Ipv4}
      (decides : x.Decides n port packet o) (verdict : o.verdict = .ok (.forward out nextHop))
  | timedOut {token : Token} (event : x.event = .addressResolved token none)

/-- The simulation has the packet of the event dropped, or finds that it has no IPv4. -/
def Bars (x : Entry) : Prop :=
  ∃ n port packet o, x.Decides n port packet o ∧ (o.verdict = .ok .blackhole ∨ o.verdict = .ok .notIpv4)

theorem GivesUp.not_bars (gives : x.GivesUp) : ¬x.Bars := by
  rintro ⟨n, port, packet, o, decides, bars⟩
  cases gives with
  | misdelivered astray =>
    cases decides.event.symm.trans astray.event
    cases decides.source.symm.trans astray.source
    cases decides.read.symm.trans astray.read
    exact astray.elsewhere decides.addressed
  | refused decides' verdict =>
    obtain rfl := decides.unique decides'
    rcases bars with black | plain
    · simp [black] at verdict
    · simp [plain] at verdict
  | stranded decides' verdict =>
    obtain rfl := decides.unique decides'
    rcases bars with black | plain
    · cases black.symm.trans verdict
    · cases plain.symm.trans verdict
  | timedOut event => cases decides.event.symm.trans event

end Entry

/-- Every rule that the switch is asked for on account of a packet, when it comes in or when the answer about its next hop
    does, covers the packet: each field that the match of the rule constrains is as in the packet's exact match, with the
    service target in place of the switch's own stack. A rule that drops packets since this one could not be delivered
    has the exact match itself, be the packet from a virtual port or from a tunnel. All other drop rules stem from a
    decision of the simulation to have the packet dropped or to treat it as one without IPv4. -/
theorem Run.rule_covers_packet (run : Run config observed past x.before)
    (keeps : ∀ y ∈ x :: past, y.answers.KeepsMatch) (follows : x.answers.widen = policy.widen)
    (asked : .addRule rule answer ∈ x.calls) (about : x.event.isLifecycle = false) :
    ∃ y exact, x.origin? past = some y ∧ y.Receives exact ∧ rule.pattern.Covers exact ∧
      (rule.isDrop = true → x.GivesUp → rule.pattern = exact) ∧ (rule.isDrop = true → x.GivesUp ∨ x.Bars) := by
  obtain ⟨keepsNow, keepsThen⟩ := List.forall_mem_cons.1 keeps
  have widened (scope : FlowScope) (m : HeaderMatch) : (x.answers.widen scope m).Covers m := by
    rw [follows]
    exact (HeaderMatch.Covers.self m).widen policy scope
  cases Entry.occasion asked with
  | attached event =>
    rw [event] at about
    cases about
  | misdelivered astray =>
    exact ⟨x, _, Entry.origin_arrival astray.event, ⟨_, _, astray.event, astray.read, rfl⟩, .self _, fun _ _ => rfl,
      fun _ => .inl (.misdelivered astray)⟩
  | blackholed decides verdict =>
    have bars : x.Bars := ⟨_, _, _, _, decides, .inl verdict⟩
    exact ⟨x, _, Entry.origin_arrival decides.event, decides.receives keepsNow, widened ..,
      fun _ gives => absurd bars gives.not_bars, fun _ => .inr bars⟩
  | notIpv4 decides verdict =>
    have bars : x.Bars := ⟨_, _, _, _, decides, .inr verdict⟩
    exact ⟨x, _, Entry.origin_arrival decides.event, decides.receives keepsNow,
      (HeaderMatch.Covers.self _).ethertypeOnly, fun _ gives => absurd bars gives.not_bars, fun _ => .inr bars⟩
  | refused decides verdict =>
    exact ⟨x, _, Entry.origin_arrival decides.event, decides.receives keepsNow, .self _, fun _ _ => rfl,
      fun _ => .inl (.refused decides verdict)⟩
  | stranded decides verdict =>
    exact ⟨x, _, Entry.origin_arrival decides.event, decides.receives keepsNow, .self _, fun _ _ => rfl,
      fun _ => .inl (.stranded decides verdict)⟩
  | routed decides verdict =>
    exact ⟨x, _, Entry.origin_arrival decides.event, decides.receives keepsNow, .self _, fun _ _ => rfl,
      fun _ => .inl (.stranded decides verdict)⟩
  | timedOut event waits =>
    obtain ⟨y, origin, receives⟩ := run.origin_receives keepsThen (by simp [Entry.answered?, event]) waits
    exact ⟨y, _, origin, receives, .self _, fun _ _ => rfl, fun _ => .inl (.timedOut event)⟩
  | resumed event waits =>
    obtain ⟨y, origin, receives⟩ := run.origin_receives keepsThen (by simp [Entry.answered?, event]) waits
    refine ⟨y, _, origin, receives, widened .., fun drops => ?_, fun drops => ?_⟩
    · rw [isDrop_emitting] at drops
      cases drops
    · rw [isDrop_emitting] at drops
      cases drops

namespace Sample

/-- The address that a packet waits for is not found. -/
def expired (a : Answers) (buffer : Buffer) : Entry := ⟨(arrived a buffer).after, a, .addressResolved ⟨0⟩ none⟩

end Sample

/-- With wide matches, too, the drop rule for a packet whose next hop was not found has the packet's exact match. -/
theorem rule_covers_packet_expired :
    let a := Sample.follow Sample.wide (Sample.delivering .empty)
    let rule := (default : FlowSettings).blackhole Sample.flow ⟨7⟩
    .addRule rule (.ok ()) ∈ (Sample.expired a ⟨7⟩).calls ∧
      ∃ y exact, (Sample.expired a ⟨7⟩).origin? (Sample.arrived a ⟨7⟩ :: (Sample.attached a).1) = some y ∧
        y.Receives exact ∧ rule.pattern = exact := by
  intro a rule
  have asked : .addRule rule (.ok ()) ∈ (Sample.expired a ⟨7⟩).calls := by decide +kernel
  have keeps : ∀ y ∈ Sample.expired a ⟨7⟩ :: Sample.arrived a ⟨7⟩ :: (Sample.attached a).1, y.answers.KeepsMatch := by
    intro y mem
    have same : y.answers = a := by
      rcases mem with _ | ⟨_, _ | ⟨_, mem⟩⟩
      · rfl
      · rfl
      · exact @answers_replay _ a [.portAttached (Sample.port 1), .portAttached (Sample.port 2)] _ mem
    rw [same]
    exact fun _ => rfl
  have follows : (Sample.expired a ⟨7⟩).answers.widen = Policy.networkOnly.widen := rfl
  obtain ⟨y, exact, origin, receives, -, precise, -⟩ :=
    Run.rule_covers_packet (Sample.run_arrived a ⟨7⟩) keeps follows asked rfl
  exact ⟨asked, y, exact, origin, receives, precise rfl (.timedOut rfl)⟩

end VirtualRouter
