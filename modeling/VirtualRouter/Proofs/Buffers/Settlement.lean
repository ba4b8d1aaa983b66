import VirtualRouter.Proofs.Buffers.Requests

/-! Which packets the switch goes on holding. Once a packet no longer waits, the switch has let go of it, or has been told
    to, unless it refused to drop the packet or to relay it, or the packet's token was handed out again while it
    waited. A refused rule that forwards is made up for by freeing the buffer; a refused rule that drops and a refused
    relay are not. -/

namespace VirtualRouter

variable {config : Config} {observed : Bool} {recent past : History} {c : Controller} {x : Entry} {n : PacketIn}
  {buffer : Buffer} {data : Octets} {m : Manner} {calls : List Call}

/-! ### Requests that settle a buffer -/

namespace Call

/-- The switch has let go of a packet that it held, or was told to forget it. -/
def settles (buffer : Buffer) : Call → Bool
  | addRule rule answer => rule.buffer = buffer && answer.isOk
  | sendPacket b _ _ _ answer => b = buffer && answer.isOk
  | freeBuffer b _ => b = buffer
  | _ => false

/-- The switch refuses a rule that drops packets. -/
def isRefusedDrop : Call → Bool
  | addRule rule answer => rule.isDrop && !answer.isOk
  | _ => false

/-- The switch refuses a rule that forwards packets. -/
def isRefusedForward : Call → Bool
  | addRule rule answer => !rule.isDrop && !answer.isOk
  | _ => false

/-- The switch refuses to send a packet. -/
def isRefusedSend : Call → Bool
  | sendPacket _ _ _ _ answer => !answer.isOk
  | _ => false

end Call

namespace Manner.Shows

/-- Requests about a held packet settle its buffer unless the last of them is a refused drop or a refused relay. -/
theorem settles_iff (h : Shows buffer data m calls) (held : buffer.isBuffered = true) (some : calls ≠ []) :
    (∃ r ∈ calls, r.settles buffer = true) ↔
      ¬((∃ r ∈ calls, r.isRefusedDrop = true) ∨ ∃ r ∈ calls, r.isRefusedSend = true) := by
  cases h with
  | silent => exact absurd rfl some
  | emitted _ _ unheld => simp [held] at unheld
  | refusedUnheld _ _ unheld => simp [held] at unheld
  | blocked rule answer names drops =>
    cases answer <;> simp [Call.settles, Call.isRefusedDrop, Call.isRefusedSend, Except.isOk, Except.toBool, names, drops]
  | relayed inPort actions answer =>
    cases answer <;> simp [Call.settles, Call.isRefusedDrop, Call.isRefusedSend, Except.isOk, Except.toBool]
  | _ => simp_all [Call.settles, Call.isRefusedDrop, Call.isRefusedSend, Except.isOk, Except.toBool]

/-- A held packet is freed exactly in the two manners that end so. -/
theorem freed_of_refusedForward (h : Shows buffer data m calls) (held : buffer.isBuffered = true)
    (refused : ∃ r ∈ calls, r.isRefusedForward = true) : ∃ answer, .freeBuffer buffer answer ∈ calls := by
  cases h with
  | refused rule error answer => exact ⟨answer, by simp⟩
  | refusedUnheld _ _ unheld => simp [held] at unheld
  | _ => simp_all [Call.isRefusedForward, Except.isOk, Except.toBool]

theorem unfreed_of_refused (h : Shows buffer data m calls)
    (refused : (∃ r ∈ calls, r.isRefusedDrop = true) ∨ ∃ r ∈ calls, r.isRefusedSend = true)
    (held : buffer.isBuffered = true) (b : Buffer) (answer : Except DatapathError Unit) : .freeBuffer b answer ∉ calls := by
  cases h with
  | emitted _ _ unheld => simp [held] at unheld
  | _ => simp_all [Call.isRefusedDrop, Call.isRefusedSend, Except.isOk, Except.toBool]

end Manner.Shows

/-! ### Settled and unsettled buffers -/

theorem Entry.IsDisplaced.onBehalf (h : x.IsDisplaced recent) : x.onBehalf recent = [] := by
  obtain ⟨⟨token, own, -⟩, unanswered⟩ := h
  obtain ⟨-, n, p, parks⟩ := Entry.parks_of_asks own
  simp [Entry.onBehalf, parks.requests, unanswered]

/-- The buffer of a packet that was neither left to the switch nor waits any more is settled unless the switch refused to
    drop or to relay the packet, or the packet's token was handed out again before it was answered. A refused rule that
    forwards is followed by freeing the buffer. After a refused rule that drops, or a refused relay, the buffer is not
    freed. -/
theorem Run.buffer_settled_iff (run : Run config observed (recent ++ x :: past) c) (arrival : x.event = .packetIn n)
    (held : n.buffer.isBuffered = true) (met : ¬x.IsAstray) (done : ¬x.IsPending recent c) :
    ((∃ r ∈ x.onBehalf recent, r.settles n.buffer = true) ↔
      ¬((∃ r ∈ x.onBehalf recent, r.isRefusedDrop = true) ∨ (∃ r ∈ x.onBehalf recent, r.isRefusedSend = true) ∨
        x.IsDisplaced recent)) ∧
    ((∃ r ∈ x.onBehalf recent, r.isRefusedForward = true) → ∃ answer, .freeBuffer n.buffer answer ∈ x.onBehalf recent) ∧
    ((∃ r ∈ x.onBehalf recent, r.isRefusedDrop = true) ∨ (∃ r ∈ x.onBehalf recent, r.isRefusedSend = true) →
      ∀ b answer, .freeBuffer b answer ∉ x.onBehalf recent) := by
  obtain ⟨m, asked, heard, -⟩ := run.onBehalf_mannered arrival
  refine ⟨?_, asked.freed_of_refusedForward held, fun refused => asked.unfreed_of_refused refused held⟩
  by_cases nothing : x.onBehalf recent = []
  · have displaced : x.IsDisplaced recent := by
      rw [nothing] at asked
      rcases heard (asked.unique .silent) held with pending | astray | displaced
      · exact absurd pending done
      · exact absurd astray met
      · exact displaced
    simp [nothing, displaced]
  · have undisplaced : ¬x.IsDisplaced recent := fun h => nothing h.onBehalf
    simpa [undisplaced] using asked.settles_iff held nothing

/-- The buffer of a packet that is delivered to another port is settled. -/
theorem buffer_settled_iff_delivered :
    let a := Sample.delivering .empty
    ∃ r ∈ (Sample.arrived a ⟨7⟩).onBehalf [Sample.resolved a ⟨7⟩], r.settles ⟨7⟩ = true := by
  intro a
  have met : ¬(Sample.arrived a ⟨7⟩).IsAstray := by
    rintro ⟨n, q, event, tunnel, -⟩
    cases event
    have port : (Sample.arrived a ⟨7⟩).before.fromTunnel? (Sample.notice ⟨7⟩) = none := by decide +kernel
    rw [port] at tunnel
    cases tunnel
  have done : ¬(Sample.arrived a ⟨7⟩).IsPending [Sample.resolved a ⟨7⟩] (Sample.resolved a ⟨7⟩).after := by
    rintro ⟨token, own, waits, -⟩
    have asks : (Sample.arrived a ⟨7⟩).asks = [⟨0⟩] := by decide +kernel
    have gone : (Sample.resolved a ⟨7⟩).after.parking.contains ⟨0⟩ = false := by decide +kernel
    rw [asks, List.mem_singleton] at own
    rw [own, gone] at waits
    cases waits
  have run : Run default false ([Sample.resolved a ⟨7⟩] ++ Sample.arrived a ⟨7⟩ :: (Sample.attached a).1)
      (Sample.resolved a ⟨7⟩).after := Sample.run_resolved a ⟨7⟩
  have arrival : (Sample.arrived a ⟨7⟩).event = .packetIn (Sample.notice ⟨7⟩) := rfl
  refine (Run.buffer_settled_iff run arrival (by decide) met done).1.2 ?_
  rintro (refused | refused | ⟨-, unanswered⟩)
  · revert refused
    decide +kernel
  · revert refused
    decide +kernel
  · have answered : (Sample.arrived a ⟨7⟩).answersIn [Sample.resolved a ⟨7⟩] ≠ [] := by
      simp [Entry.answersIn, show (Sample.resolved a ⟨7⟩).isFor (Sample.arrived a ⟨7⟩) [] = true by decide +kernel]
    exact answered unanswered

/-- A switch that refuses the rule by which a packet without a route is dropped goes on holding the packet. The packet did
    not come from a tunnel and does not wait, and yet it is neither let go of nor freed. -/
theorem buffer_unsettled_of_refusedDrop :
    let a := Sample.answers (.error .disconnected) .noRoute
    Run default false (Sample.arrived a ⟨7⟩ :: (Sample.attached a).1) (Sample.arrived a ⟨7⟩).after ∧
      (Sample.arrived a ⟨7⟩).event = .packetIn (Sample.notice ⟨7⟩) ∧
      (Sample.arrived a ⟨7⟩).before.fromTunnel? (Sample.notice ⟨7⟩) = none ∧
      (Sample.arrived a ⟨7⟩).after.parking.isEmpty = true ∧
      (∃ r ∈ (Sample.arrived a ⟨7⟩).onBehalf [], r.isRefusedDrop = true) ∧
      ∀ r ∈ (Sample.arrived a ⟨7⟩).onBehalf [], r.settles ⟨7⟩ = false := by
  intro a
  refine ⟨Sample.run_arrived a ⟨7⟩, rfl, ?_, ?_, ?_, ?_⟩
  all_goals decide +kernel

end VirtualRouter
