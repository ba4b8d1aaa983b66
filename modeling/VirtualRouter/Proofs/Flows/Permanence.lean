import VirtualRouter.Bench.Script
import VirtualRouter.Proofs.Flows.Occasions
import VirtualRouter.Proofs.Frames.LinkAddresses
import VirtualRouter.Proofs.Run.Registries

/-! Which packets can be dropped for good. With settings that can be used, every drop rule has a timeout but the ones for a
    packet without IPv4, which constrain nothing but the ethertype. The ethertype is that of the packet, so that it is not
    the one of IPv4, and no IPv4 packet is dropped without end. -/

namespace VirtualRouter

variable {config : Config} {observed : Bool} {past : History} {x : Entry} {rule : FlowRule}
  {answer : Except DatapathError Unit}

/-- The simulation says of no packet with an IPv4 header that it has no IPv4. -/
def Answers.SparesIpv4 (a : Answers) : Prop :=
  ∀ arrival, (a.process arrival).verdict = .ok .notIpv4 → arrival.packet.isIpv4 = false

/-- A topology without routes leaves the match of a packet alone and says that it has no IPv4 only if this is so. -/
theorem Bench.spares_bare {b : Bench} {topology : BareTopology} (bare : b.engine = .bare topology) :
    b.answers.KeepsMatch ∧ b.answers.SparesIpv4 := by
  have outcome (arrival : Arrival) : b.answers.process arrival =
      ⟨topology.process arrival.inPort arrival.packet, arrival, arrival.incoming, .empty⟩ := by
    simp [answers, Bench.outcome, bare]
  refine ⟨fun arrival => by rw [outcome], fun arrival verdict => ?_⟩
  rw [outcome, BareTopology.process] at verdict
  split at verdict
  · cases verdict
  · split at verdict
    · cases verdict
    · rename_i plain
      exact Bool.eq_false_iff.2 plain

namespace FlowRule

/-- The rule ends by itself. -/
def IsTemporary (r : FlowRule) : Prop := r.idleTimeout ≠ 0 ∨ r.hardTimeout ≠ 0

theorem isTemporary_blackhole (valid : config.validate = .ok ()) (pattern : HeaderMatch) (buffer : Buffer) :
    (config.flows.blackhole pattern buffer).IsTemporary :=
  Config.timeout_of_validate valid

end FlowRule

/-- A match for another ethertype than IPv4's covers no frame with IPv4's. -/
theorem not_covers_ipv4 {type : UInt16} (other : type ≠ ethertypeIpv4) {frame : Packet}
    (ipv4 : frame.ethertype = ethertypeIpv4) (number : PortNumber) :
    ¬HeaderMatch.Covers { dlType := some type } (frame.exactMatch number) := by
  intro covers
  have same := covers.dlType.of_pinned rfl
  exact other ((Option.some.inj same).symm.trans ipv4)

/-- With settings that can be used, and a simulation that gives matches back as they were and takes no packet with an IPv4
    header for one without, every drop rule that the switch is asked for has a timeout or constrains nothing but the
    ethertype, and this to another than that of IPv4. So no frame with the ethertype of IPv4 matches a drop rule that has
    no timeout. A topology without routes is such a simulation. -/
theorem Run.ipv4_spared (valid : config.validate = .ok ()) (run : Run config observed past x.before)
    (keeps : x.answers.KeepsMatch) (spares : x.answers.SparesIpv4) (asked : .addRule rule answer ∈ x.calls)
    (drops : rule.isDrop = true) :
    (rule.IsTemporary ∨ ∃ type, type ≠ ethertypeIpv4 ∧ rule.pattern = { dlType := some type }) ∧
      (¬rule.IsTemporary → ∀ (frame : Packet) (number : PortNumber), frame.ethertype = ethertypeIpv4 →
        ¬rule.pattern.Covers (frame.exactMatch number)) ∧
      ∀ (bench : Bench) (topology : BareTopology), bench.engine = .bare topology →
        bench.answers.KeepsMatch ∧ bench.answers.SparesIpv4 := by
  have flows : x.before.flows = config.flows := run.settings.flows
  have either : rule.IsTemporary ∨ ∃ type, type ≠ ethertypeIpv4 ∧ rule.pattern = { dlType := some type } := by
    cases Entry.occasion asked with
    | attached => cases drops
    | misdelivered | blackholed | refused | stranded | timedOut =>
      rw [flows]
      exact .inl (FlowRule.isTemporary_blackhole valid ..)
    | routed decides verdict somewhere =>
      rw [isDrop_routing _ _ _ _ _ somewhere] at drops
      cases drops
    | resumed =>
      rw [isDrop_emitting] at drops
      cases drops
    | @notIpv4 n port packet o decides verdict =>
      rw [decides.outcome] at verdict
      have plain : packet.isIpv4 = false := spares _ verdict
      refine .inr ⟨packet.ethertype, fun ipv4 => ?_, ?_⟩
      · rw [← Packet.isIpv4_of_parse decides.read, plain] at ipv4
        cases ipv4
      · show HeaderMatch.ethertypeOnly _ = _
        rw [decides.incoming keeps]
        rfl
  refine ⟨either, fun permanent frame number ipv4 => ?_, fun _ _ => Bench.spares_bare⟩
  rcases either with temporary | ⟨type, other, pattern⟩
  · exact absurd temporary permanent
  · rw [pattern]
    exact not_covers_ipv4 other ipv4 number

namespace Sample

/-- Collaborators of a daemon whose topology has the first port and no routes. -/
def routeless : Bench := { engine := .bare { ports := .ofList [(port 1).id] } }

/-- A packet without IPv4 comes in to a topology without routes. -/
def unrouted : Entry where
  before := (handled default routeless.answers [.portAttached (port 1)]).2
  answers := routeless.answers
  event := .packetIn (notice ⟨7⟩)

end Sample

/-- The rule for a packet without IPv4 is permanent and covers no IPv4 frame. -/
theorem ipv4_spared_unrouted :
    let rule := FlowRule.dropping { dlType := some 0x88cc } ⟨7⟩ 0 0
    .addRule rule (.ok ()) ∈ Sample.unrouted.calls ∧ ∀ (frame : Packet) (number : PortNumber),
      frame.ethertype = ethertypeIpv4 → ¬rule.pattern.Covers (frame.exactMatch number) := by
  intro rule
  have asked : .addRule rule (.ok ()) ∈ Sample.unrouted.calls := by decide +kernel
  have valid : (default : Config).validate = .ok () := by decide +kernel
  obtain ⟨keeps, spares⟩ := Bench.spares_bare (b := Sample.routeless) rfl
  have permanent : ¬rule.IsTemporary := by simp [rule, FlowRule.IsTemporary, FlowRule.dropping]
  obtain ⟨-, covers, -⟩ := Run.ipv4_spared valid (x := Sample.unrouted) (Sample.run_handled ..) keeps spares asked rfl
  exact ⟨asked, covers permanent⟩

end VirtualRouter
