import VirtualRouter.Proofs.Flows.Rewriting
import VirtualRouter.Proofs.Run.Waiting

/-! The flow that an answer with an address brings about. Its actions are the shortest list from the match of the packet
    that waited to the headers wanted on the way out, with the egress port's address and the one that was found; its
    match is that of the packet, as wide as the policy makes it. The setting of an address is left out if the packet has
    it already, and this is sound if the match of the flow pins the address. The exact policy does that. The network
    policy leaves the Ethernet addresses open, so that there another packet of the flow keeps its own address. -/

namespace VirtualRouter

/-! ### What a waiting packet asks for -/

namespace ParkedPacket

def incoming : ParkedPacket → HeaderMatch
  | tunnelled p => p.incoming
  | toLocal p => p.incoming

/-- The headers that a waiting packet is to have on the way out, its Ethernet addresses apart. -/
def wanted : ParkedPacket → HeaderMatch
  | tunnelled p => p.incoming
  | toLocal p => p.wanted

def egress : ParkedPacket → PortId
  | tunnelled p => p.header.egress
  | toLocal p => p.egress

/-- What the match of a waiting packet is to be installed for. -/
def scope : ParkedPacket → FlowScope
  | tunnelled _ => .tunnelForward
  | toLocal _ => .localForward

end ParkedPacket

variable {config : Config} {observed : Bool} {past : History} {c : Controller} {x : Entry} {token : Token} {mac : Mac}
  {p : ParkedPacket} {rule : FlowRule}

/-- A rule that the switch takes when the address of a waiting packet has been found sends packets of the packet's match,
    as wide as the policy makes it, out of the port where the packet's egress is now. -/
theorem Entry.rule_resumed (answer : x.event = .addressResolved token (some mac))
    (waits : x.before.parking.waiting.get? token = some p) (installs : .addRule rule (.ok ()) ∈ x.calls) :
    p.isRelay = false ∧ ∃ egress, x.before.ports.byId p.egress = some egress ∧
      rule = x.before.flows.forwarding (x.answers.widen p.scope p.incoming) p.buffer
        (Action.between p.incoming (Turn.addressed p.wanted egress mac) [egress.number]) := by
  obtain ⟨c', trail, course, eq⟩ := Course.step_course x.answers x.before x.event
  have installs : .addRule rule (.ok ()) ∈ trail.calls := by
    rw [calls, eq] at installs
    exact installs
  rw [answer] at course
  cases course with
  | unasked absent =>
    rw [waits] at absent
    cases absent
  | resumes found course =>
    obtain rfl := Option.some.inj (waits.symm.trans found)
    cases course with
    | vanishedTunnelled gone => simp [Trail.calls_freeing] at installs
    | vanishedLocal gone => simp [Trail.calls_freeing] at installs
    | relayed here relay => simp at installs
    | refusedTunnelled here plain refusal => simp [Trail.calls_freeing] at installs
    | refusedLocal here refusal => simp [Trail.calls_freeing] at installs
    | @forwardedTunnelled q _ egress here plain taken =>
      simp only [Trail.calls_append, Trail.calls_count, Trail.calls_call, Trail.addRule_mem_accepted, List.nil_append,
        List.cons_append, List.mem_cons, reduceCtorEq, false_or] at installs
      exact ⟨plain, egress, here, installs⟩
    | @forwardedLocal q _ egress here taken =>
      simp only [Trail.calls_append, Trail.calls_count, Trail.calls_call, Trail.addRule_mem_accepted,
        Trail.addRule_not_mem_announce, List.nil_append, List.cons_append, List.mem_cons, List.mem_append, reduceCtorEq,
        false_or, or_false] at installs
      exact ⟨rfl, egress, here, installs⟩

/-! ### Where the flow sends packets -/

theorem Mac.exists_ne (m : Mac) : ∃ other : Mac, other ≠ m := exists_ne_of_ne (by decide : zero ≠ broadcast) m

/-- A flow that an address brings about sends every packet that it covers from the egress port's address to the one that
    was found, unless the policy leaves the Ethernet addresses open and the packet that asked for it had one of the two
    already. In that case every packet that the flow covers has a sibling, with other Ethernet addresses, that the flow
    covers and sends to or from the wrong one. -/
theorem Entry.resumed_flow_delivers {policy : Policy} (answer : x.event = .addressResolved token (some mac))
    (waits : x.before.parking.waiting.get? token = some p) (installs : .addRule rule (.ok ()) ∈ x.calls)
    (follows : x.answers.widen = policy.widen) :
    ∃ egress, x.before.ports.byId p.egress = some egress ∧
      ((policy = .networkOnly → p.incoming.dlSrc ≠ some egress.mac ∧ p.incoming.dlDst ≠ some mac) →
        ∀ (frame : Packet) (number : PortNumber), rule.pattern.Covers (frame.exactMatch number) →
          Action.Delivers rule.actions egress.number egress.mac mac frame) ∧
      (policy = .networkOnly → p.incoming.dlSrc = some egress.mac ∨ p.incoming.dlDst = some mac →
        ∀ (frame : Packet) (number : PortNumber), rule.pattern.Covers (frame.exactMatch number) →
          ∃ src dst, rule.pattern.Covers ((frame.readdressed src dst).exactMatch number) ∧
            ¬Action.Delivers rule.actions egress.number egress.mac mac (frame.readdressed src dst)) := by
  obtain ⟨-, egress, here, rfl⟩ := rule_resumed answer waits installs
  have delivers (frame : Packet) : Action.Delivers (Action.between p.incoming (Turn.addressed p.wanted egress mac)
      [egress.number]) egress.number egress.mac mac frame ↔ _ := Action.delivers_between_iff rfl rfl
  refine ⟨egress, here, fun differs frame number covers => (delivers frame).2 ?_, ?_⟩
  · rw [pattern_forwarding, follows] at covers
    cases policy with
    | exact =>
      exact ⟨fun left => Option.some.inj (covers.dlSrc.of_pinned left), fun left => Option.some.inj (covers.dlDst.of_pinned left)⟩
    | networkOnly => exact ⟨fun left => absurd left (differs rfl).1, fun left => absurd left (differs rfl).2⟩
  · rintro rfl left frame number covers
    rw [pattern_forwarding, follows] at covers ⊢
    rcases left with left | left
    · -- The source is not set, so that the same packet from another station keeps that station's address.
      obtain ⟨other, differs⟩ := Mac.exists_ne egress.mac
      exact ⟨other, frame.dlDst, covers.readdressed (.inl rfl) (.inl rfl), fun h => differs (((delivers _).1 h).1 left)⟩
    · obtain ⟨other, differs⟩ := Mac.exists_ne mac
      exact ⟨frame.dlSrc, other, covers.readdressed (.inl rfl) (.inl rfl), fun h => differs (((delivers _).1 h).2 left)⟩

/-! ### A flow for a packet that has one of the addresses already -/

namespace Sample

/-- The first address that is asked for has been found, after a packet came in to a switch with two ports. -/
def forwarded (config : Config) (a : Answers) (n : PacketIn) : Entry where
  before := (handled config a [.portAttached (port 1), .portAttached (port 2), .packetIn n]).2
  answers := a
  event := .addressResolved ⟨0⟩ (some (port 3).mac)

/-- The wide flow from the first port to the second, with some settings. -/
def broad (settings : List Action) : FlowRule :=
  wide.flows.forwarding { inPort := some ⟨1⟩, dlType := some 0x88cc } .unbuffered (settings ++ [.output ⟨2⟩])

def stray : Packet := { dlSrc := ⟨2, 0, 0, 0, 0, 8⟩, dlDst := (port 1).mac, ethertype := 0x88cc }

/-- A packet to the first port with the second port's address as its source. -/
def echo : PacketIn := .whole .unbuffered ⟨1⟩ [2, 0, 0, 0, 0, 1, 2, 0, 0, 0, 0, 2, 0x88, 0xcc]

end Sample

/-- The flow of a packet that has neither address sends other packets on as well. -/
theorem resumed_flow_delivers_stray :
    let x := Sample.forwarded Sample.wide (Sample.follow Sample.wide (Sample.delivering .empty)) (Sample.notice .unbuffered)
    let rule := Sample.broad [.setDlSrc (Sample.port 2).mac, .setDlDst (Sample.port 3).mac]
    .addRule rule (.ok ()) ∈ x.calls ∧ rule.pattern.Covers (Sample.stray.exactMatch ⟨1⟩) ∧
      Action.Delivers rule.actions (Sample.port 2).number (Sample.port 2).mac (Sample.port 3).mac Sample.stray := by
  intro x rule
  have installs : .addRule rule (.ok ()) ∈ x.calls := by decide +kernel
  have covers : rule.pattern.Covers (Sample.stray.exactMatch ⟨1⟩) := by decide +kernel
  have waits : x.before.parking.waiting.get? ⟨0⟩ = some (.toLocal
      { buffer := .unbuffered, ingress := (Sample.port 1).id, data := (Sample.notice .unbuffered).data,
        packet := { dlSrc := ⟨2, 0, 0, 0, 0, 9⟩, dlDst := (Sample.port 1).mac, ethertype := 0x88cc },
        incoming := Sample.flow, wanted := Sample.flow, elements := .empty, egress := (Sample.port 2).id }) := by
    decide +kernel
  have here : x.before.ports.byId (Sample.port 2).id = some (Sample.port 2) := by decide +kernel
  have follows : x.answers.widen = Policy.networkOnly.widen := rfl
  obtain ⟨egress, found, delivers, -⟩ := Entry.resumed_flow_delivers rfl waits installs follows
  obtain rfl := Option.some.inj (here.symm.trans found)
  exact ⟨installs, covers, delivers (fun _ => by decide) Sample.stray ⟨1⟩ covers⟩

/-- A packet that comes in with the address of its egress port gets a flow that does not set it. Other packets of the
    flow leave with their own. -/
theorem resumed_flow_leaks_stray :
    let a := Sample.follow Sample.wide (Sample.delivering .empty)
    let x := Sample.forwarded Sample.wide a Sample.echo
    let rule := Sample.broad [.setDlDst (Sample.port 3).mac]
    (∃ past, Run Sample.wide false past x.before) ∧ x.answers.widen = Sample.wide.flows.policy.widen ∧
      (x.before.parking.waiting.get? ⟨0⟩).map ParkedPacket.egress = some (Sample.port 2).id ∧
      x.before.ports.byId (Sample.port 2).id = some (Sample.port 2) ∧
      .addRule rule (.ok ()) ∈ x.calls ∧ rule.pattern.Covers (Sample.stray.exactMatch ⟨1⟩) ∧
      ¬Action.Delivers rule.actions (Sample.port 2).number (Sample.port 2).mac (Sample.port 3).mac Sample.stray := by
  intro a x rule
  refine ⟨⟨_, Sample.run_handled _ _ _⟩, rfl, by decide +kernel, by decide +kernel, by decide +kernel,
    by decide +kernel, fun delivers => ?_⟩
  obtain ⟨copy, sent, fromEgress, -⟩ := delivers ⟨Sample.stray.dlSrc, Sample.stray.dlDst, default, default, 0, 0⟩ rfl rfl
  cases sent
  revert fromEgress
  decide

end VirtualRouter
