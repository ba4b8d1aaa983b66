import VirtualRouter.Proofs.Flows.Occasions
import VirtualRouter.Proofs.Frames.BootRequests
import VirtualRouter.Proofs.Ports.Attachment

/-! Which rule takes the DHCP requests of a port. The rule that is asked for when the port is attached covers every frame
    with a request that comes in on the port's number, and sends it to the controller. Rules for packets come after it,
    since all of them have a lower priority. The rules of other ports for their own requests have the same priority;
    they are about another number, or else they are the same rule. -/

namespace VirtualRouter

variable {config : Config} {observed : Bool} {history : History} {c : Controller} {x : Entry} {port : VirtualPort}
  {rule punt : FlowRule} {answer : Except DatapathError Unit} {number other : PortNumber}

/-! ### The frames with requests -/

namespace Packet
variable {d : Octets} {p : Packet} {m : DhcpMessage}

/-- The rule for a port's requests covers every frame with one. -/
theorem dhcpMatch_covers (read : parse d = .ok p) (request : p.bootRequest? = some m) (number : PortNumber) :
    (dhcpMatch number).Covers (p.exactMatch number) := by
  obtain ⟨carried, -⟩ := Option.filter_eq_some_iff.1 request
  obtain ⟨src, dst, high, low, rest, rfl, body⟩ := parse_inv read
  rcases readBody_eq_ok_iff.1 body with ⟨ipv4, header, part, headers, rfl⟩ | ⟨other, rfl⟩
  · obtain ⟨udp, ports⟩ := ports_of_readIpv4 headers carried
    constructor
    all_goals simp [Allows, dhcpMatch, exactMatch, ipv4, udp, ports]
  · cases carried

end Packet

/-- The rule for the requests of one port covers no frame of another. -/
theorem not_covers_of_ne {p : Packet} (differs : other ≠ number) : ¬(dhcpMatch other).Covers (p.exactMatch number) :=
  fun covers => differs (Option.some.inj (covers.inPort.of_pinned rfl)).symm

/-! ### Priorities -/

namespace Entry

/-- The rules of all other events have the priority of rules for packets. -/
theorem priority_unattached (unattached : x.attachment? = none) (asked : .addRule rule answer ∈ x.calls) :
    rule.priority = flowPriority := by
  cases occasion asked with
  | attached event => cases unattached.symm.trans (attachment_of_rule event asked)
  | _ => rfl

end Entry

/-! ### Ports and their rules -/

/-- The port has been attached and not been detached since, and the switch was asked for one rule then and answered so. -/
def History.Punts (history : History) (port : VirtualPort) (punt : FlowRule) (answer : Except DatapathError Unit) : Prop :=
  history.Since (fun x => x.Attaches port ∧ x.rules = [(punt, answer)]) fun x => x.event = .portDetached port.id

theorem Entry.rules_attachment (attached : x.attachment? = some port) :
    x.rules = [(dhcpRule port.number, x.answers.addRule (dhcpRule port.number))] := by
  rw [rules, calls_attachment attached]
  rfl

theorem History.Punts.eq (punts : history.Punts port punt answer) : punt = dhcpRule port.number := by
  obtain ⟨-, x, -, -, ⟨attaches, rules⟩, -⟩ := punts
  rw [x.rules_attachment (Entry.attachment?_eq_some_iff.2 attaches)] at rules
  cases rules
  rfl

theorem History.attached_iff_punts : history.Attached port ↔ ∃ punt answer, history.Punts port punt answer := by
  constructor
  · rintro ⟨recent, x, past, rfl, attaches, kept⟩
    exact ⟨_, _, recent, x, past, rfl, ⟨attaches, x.rules_attachment (Entry.attachment?_eq_some_iff.2 attaches)⟩, kept⟩
  · rintro ⟨punt, answer, recent, x, past, rfl, ⟨attaches, -⟩, kept⟩
    exact ⟨recent, x, past, rfl, attaches, kept⟩

/-- Every attached port has its rule. Once the switch has taken it, it covers every frame with a request that comes in by
    the port and passes it on to the controller. Every other rule of the run has a lower priority, but for those of
    attached ports, which have the same one and are this rule or do not cover the frame. -/
theorem Run.requests_unshadowed (run : Run config observed history c) :
    (∀ port, c.ports.byId port.id = some port ↔ ∃ punt answer, history.Punts port punt answer) ∧
    ∀ port punt, history.Punts port punt (.ok ()) →
      ∀ d packet request, Packet.parse d = .ok packet → packet.bootRequest? = some request →
        punt.pattern.Covers (packet.exactMatch port.number) ∧ punt.actions = [.toController dhcpLength] ∧
        ∀ x ∈ history, ∀ rule answer, .addRule rule answer ∈ x.calls →
          (x.attachment? = none → rule.priority < punt.priority) ∧
          ∀ other, x.attachment? = some other → rule.priority = punt.priority ∧
            (rule = punt ∨ ¬rule.pattern.Covers (packet.exactMatch port.number)) := by
  refine ⟨fun port => run.attached_iff.trans History.attached_iff_punts, ?_⟩
  intro port punt punts d packet request read asks
  obtain rfl := punts.eq
  refine ⟨Packet.dhcpMatch_covers read asks port.number, rfl, fun x _ rule answer asked => ⟨fun unattached => ?_, ?_⟩⟩
  · rw [x.priority_unattached unattached asked]
    exact (by decide : flowPriority < servicePriority)
  · intro other attached
    obtain ⟨rfl, -⟩ : rule = dhcpRule other.number ∧ _ := by
      simpa [x.rules_attachment attached] using Entry.mem_rules.2 asked
    refine ⟨rfl, ?_⟩
    -- A number can have had several ports in turn, and each of them had the same rule.
    by_cases same : other.number = port.number
    · exact .inl (congrArg dhcpRule same)
    · exact .inr (not_covers_of_ne same)

namespace Sample

/-- The first port has been attached and detached. -/
def left : History × Controller :=
  handled default (delivering .empty) [.portAttached (Sample.port 1), .portDetached (Sample.port 1).id]

def successor : Entry := ⟨left.2, delivering .empty, .portAttached (Sample.port 2)⟩

theorem run_successor : Run default false (successor :: left.1) successor.after := .handle _ _ (run_handled ..)

theorem attachment_successor : successor.attachment? = some (Sample.port 2) := by decide +kernel

theorem punts_successor : History.Punts (successor :: left.1) (Sample.port 2) (dhcpRule ⟨2⟩) (.ok ()) := by
  refine ⟨[], successor, left.1, rfl, ⟨Entry.attachment?_eq_some_iff.1 attachment_successor, ?_⟩, by simp⟩
  rw [Entry.rules_attachment attachment_successor]
  rfl

def predecessor : Entry := ⟨.initial default false, delivering .empty, .portAttached (Sample.port 1)⟩

theorem predecessor_mem : predecessor ∈ successor :: left.1 := by simp [predecessor, left, handled, replay]

theorem asked_predecessor : .addRule (dhcpRule ⟨1⟩) (.ok ()) ∈ predecessor.calls := by decide +kernel

/-- The shortest request, which a station without an address broadcasts. -/
def request : DhcpMessage := ⟨1, 1 :: List.replicate 239 0⟩

def requestFrame : Octets :=
  [255, 255, 255, 255, 255, 255, 2, 0, 0, 0, 0, 9, 8, 0] ++
    [0x45, 0, 1, 12, 0, 0, 0, 0, 64, 17, 0, 0, 0, 0, 0, 0, 255, 255, 255, 255] ++ [0, 68, 0, 67, 0, 248, 0, 0] ++
    request.payload

def requestPacket : Packet where
  dlSrc := ⟨2, 0, 0, 0, 0, 9⟩
  dlDst := .broadcast
  ethertype := ethertypeIpv4
  ipv4 := some ⟨⟨0, 0, 0, 0⟩, ⟨255, 255, 255, 255⟩, protocolUdp⟩
  transport := some ⟨dhcpClientPort, dhcpServerPort⟩
  dhcp := some request

end Sample

open Sample in
/-- A request on the second port is passed on by the rule of this port, and not by the one that the first has left. -/
theorem requests_unshadowed_successor :
    (dhcpRule ⟨2⟩).pattern.Covers (requestPacket.exactMatch ⟨2⟩) ∧
      (dhcpRule ⟨1⟩ = dhcpRule ⟨2⟩ ∨ ¬(dhcpRule ⟨1⟩).pattern.Covers (requestPacket.exactMatch ⟨2⟩)) := by
  obtain ⟨covers, -, others⟩ := run_successor.requests_unshadowed.2 (Sample.port 2) _ punts_successor requestFrame
    requestPacket request (by decide +kernel) (by decide +kernel)
  have same := (others predecessor predecessor_mem _ _ asked_predecessor).2 (Sample.port 1) (by decide +kernel)
  exact ⟨covers, same.2⟩

open Sample in
/-- The rule that the first port has left has the same priority as the one of the second. -/
theorem priority_shared_successor :
    Run default false (successor :: left.1) successor.after ∧
      successor.after.ports.byId (Sample.port 2).id = some (Sample.port 2) ∧
      History.Punts (successor :: left.1) (Sample.port 2) (dhcpRule ⟨2⟩) (.ok ()) ∧
      Packet.parse requestFrame = .ok requestPacket ∧ requestPacket.bootRequest? = some request ∧
      ¬∀ x ∈ successor :: left.1, ∀ rule answer, .addRule rule answer ∈ x.calls → rule ≠ dhcpRule ⟨2⟩ →
        rule.priority < (dhcpRule ⟨2⟩).priority := by
  refine ⟨run_successor, by decide +kernel, punts_successor, by decide +kernel, by decide +kernel, fun lower => ?_⟩
  have strict := lower predecessor predecessor_mem _ _ asked_predecessor (by decide)
  exact absurd strict (by decide)

end VirtualRouter
