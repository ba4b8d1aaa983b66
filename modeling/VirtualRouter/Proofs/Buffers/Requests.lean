import VirtualRouter.Proofs.Run.Waiting

/-! What the switch is asked on behalf of one packet, from the packet's arrival to the answer that it waited for. It is
    asked in exactly one manner, all of it about the packet's own buffer. A packet that the switch holds is let go of or
    sent at most once; one that it does not hold is never named to be freed, and goes out with its own bytes. -/

namespace VirtualRouter

variable {config : Config} {observed : Bool} {history recent past : History} {c : Controller} {x y : Entry}
  {n : PacketIn} {buffer : Buffer} {data : Octets} {m m' : Manner} {calls : List Call}

/-! ### Requests on behalf of a packet -/

namespace Entry

/-- The requests to the switch for the packet of an event: those made during the event, and those made during the later
    answers for the packet. -/
def onBehalf (x : Entry) (recent : History) : List Call := x.requests ++ (x.answersIn recent).flatMap requests

/-- The packet of the event still waits. -/
def IsPending (x : Entry) (recent : History) (c : Controller) : Prop :=
  ∃ token ∈ x.asks, c.parking.contains token = true ∧ ∀ y ∈ recent, token ∉ y.asks

/-- The packet came from a tunnel and was for a port that was not attached. -/
def IsAstray (x : Entry) : Prop :=
  ∃ n q, x.event = .packetIn n ∧ x.before.fromTunnel? n = some q ∧
    (x.before.ports.byId q.header.egress).isSome = false

/-- The packet came from a tunnel and was an ICMP error passed on by a peer. -/
def IsRelay (x : Entry) : Prop :=
  ∃ n q, x.event = .packetIn n ∧ x.before.fromTunnel? n = some q ∧ q.header.isIcmpRelay = true

/-- The token of the packet was handed out again before any answer for the packet came. -/
def IsDisplaced (x : Entry) (recent : History) : Prop :=
  (∃ token ∈ x.asks, ∃ y ∈ recent, token ∈ y.asks) ∧ x.answersIn recent = []

theorem answersIn_of_asks_nil (h : x.asks = []) : x.answersIn recent = [] := by
  induction recent with
  | nil => rfl
  | cons y recent ih => simp [answersIn, ih, isFor, h]

theorem onBehalf_of_asks_nil (h : x.asks = []) : x.onBehalf recent = x.requests := by
  simp [onBehalf, answersIn_of_asks_nil h]

theorem Parks.requests {p : ParkedPacket} (h : x.Parks n p) : x.requests = [] := h.2.requests

end Entry

/-- What became of a packet shows in the requests made for it. -/
theorem Run.onBehalf_mannered (run : Run config observed (recent ++ x :: past) c) (arrival : x.event = .packetIn n) :
    ∃ m, Manner.Shows n.buffer n.data m (x.onBehalf recent) ∧
      (m = .silent → n.buffer.isBuffered = true → x.IsPending recent c ∨ x.IsAstray ∨ x.IsDisplaced recent) ∧
      (m = .relayed → x.IsRelay) := by
  cases arrival ▸ x.dealing with
  | @parked n p parked =>
    have parks : x.Parks n p := ⟨arrival, parked⟩
    have own : x.before.parking.nextToken ∈ x.asks := by simp [parks.asks]
    cases run.fate parks with
    | waiting fresh waits unanswered =>
      refine ⟨.silent, ?_, fun _ _ => .inl ⟨_, own, ?_, fresh⟩, by simp⟩
      · simp [Entry.onBehalf, parks.requests, unanswered, Manner.Shows.silent]
      · simp [Parking.contains, Table.contains, waits]
    | answered y late _ answer waits answers nothing =>
      obtain ⟨m, asked, heard, relays⟩ := (Entry.conclusion_answered answer waits).2.requests
      have behalf : x.onBehalf recent = y.requests := by
        have late : late.flatMap Entry.requests = [] := by
          rw [List.flatMap_eq_nil_iff]
          intro z hz
          rw [Entry.requests, nothing z hz, List.filter_nil]
        rw [Entry.onBehalf, parks.requests, answers, List.flatMap_cons, late, List.append_nil,
          List.nil_append]
      rw [behalf]
      rw [parked.buffer, parked.data] at asked
      refine ⟨m, asked, fun silent held => ?_, fun relayed => ?_⟩
      · rw [← parked.buffer, heard silent] at held
        cases held
      · have relay := relays relayed
        cases p with
        | tunnelled q => exact ⟨n, q, arrival, parked.tunnel q rfl, relay⟩
        | toLocal q => cases relay
    | displaced again unanswered =>
      obtain ⟨z, hz, again⟩ := again
      refine ⟨.silent, ?_, fun _ _ => .inr (.inr ⟨⟨_, own, z, hz, again⟩, unanswered⟩), by simp⟩
      simp [Entry.onBehalf, parks.requests, unanswered, Manner.Shows.silent]
  | astray tunnel away _ _ nothing =>
    refine ⟨.silent, ?_, fun _ _ => .inr (.inl ⟨_, _, arrival, tunnel, away⟩), by simp⟩
    rw [Entry.onBehalf_of_asks_nil (by simp [Entry.asks, nothing]), Entry.requests, nothing]
    exact .silent
  | concluded _ _ _ _ conclusion =>
    obtain ⟨m, asked, heard, relays⟩ := conclusion.requests
    rw [Entry.onBehalf_of_asks_nil conclusion.tokens]
    refine ⟨m, asked, fun silent held => ?_, fun relayed => ?_⟩
    · rw [heard silent] at held
      cases held
    · cases relays relayed
  | apart lifecycle => cases lifecycle

/-! ### What a manner rules out -/

namespace Call

/-- The switch did what it was asked. -/
def isAccepted : Call → Bool
  | addRule _ answer | sendPacket _ _ _ _ answer | freeBuffer _ answer => answer.isOk
  | _ => false

/-- A packet leaves the switch: one that the switch holds with the rule for it, or one that is sent on its own. -/
def isEmission : Call → Bool
  | addRule rule answer => answer.isOk && rule.buffer.isBuffered && !rule.isDrop
  | sendPacket _ _ _ _ answer => answer.isOk
  | _ => false

end Call

namespace Manner.Shows

theorem unique (h : Shows buffer data m calls) (h' : Shows buffer data m' calls) : m = m' := by
  cases h <;> cases h' <;> simp_all

/-- Nothing is asked about a held packet after a request that the switch has accepted. -/
theorem accepted_last (h : Shows buffer data m calls) (held : buffer.isBuffered = true) {before after : List Call}
    {r : Call} (parts : calls = before ++ r :: after) (accepted : r.isAccepted = true) : after = [] := by
  have alone {call : Call} {before : List Call} (parts : [call] = before ++ r :: after) : after = [] := by
    cases before with
    | nil => exact (List.cons.inj parts).2.symm
    | cons b before => simp at parts
  cases h with
  | silent => simp at parts
  | emitted _ _ unheld => simp [held] at unheld
  | refused =>
    cases before with
    | nil =>
      obtain rfl := (List.cons.inj parts).1
      cases accepted
    | cons b before =>
      exact alone (List.cons.inj parts).2
  | _ => exact alone parts

/-- A packet leaves the switch at most once. -/
theorem emission_le_one (h : Shows buffer data m calls) : calls.countP Call.isEmission ≤ 1 := by
  cases h with
  | emitted rule answer unheld names sends =>
    cases answer <;> simp [List.countP_cons, Call.isEmission, Except.isOk, Except.toBool, names, unheld]
  | refused => simp [Call.isEmission, Except.isOk, Except.toBool]
  | silent => exact Nat.zero_le 1
  | _ => exact List.countP_le_length

end Manner.Shows

/-- The switch is never asked to free a packet that it does not hold. -/
theorem Entry.freeBuffer_held {answer : Except DatapathError Unit} (h : .freeBuffer buffer answer ∈ x.calls) :
    buffer.isBuffered = true := by
  have requested : .freeBuffer buffer answer ∈ x.requests := List.mem_filter.2 ⟨h, rfl⟩
  have shown {b : Buffer} {d : Octets} {relay : Bool} (asked : Mannered b d relay x.requests) :
      buffer.isBuffered = true := by
    obtain ⟨m, asked, -⟩ := asked
    generalize x.requests = requests at requested asked
    cases asked <;> simp_all
  generalize he : x.event = e
  cases he ▸ x.dealing with
  | parked parked => simp [requests, parked.requests] at requested
  | astray _ _ _ _ nothing => simp [nothing] at h
  | concluded _ _ _ _ conclusion => exact shown conclusion.requests
  | resumed _ _ _ conclusion => exact shown conclusion.requests
  | unasked _ _ _ nothing => simp [nothing] at h
  | removed _ _ _ none => simp [requests, none] at requested
  | apart _ _ _ _ kept => exact absurd h (kept _ _)

/-- At most one answer for a packet does anything. -/
theorem Run.effective_answers_le_one (run : Run config observed (recent ++ x :: past) c) :
    ((x.answersIn recent).filter fun y => !y.calls.isEmpty).length ≤ 1 := by
  cases asks : x.asks with
  | nil => simp [Entry.answersIn_of_asks_nil asks]
  | cons token tokens =>
    have own : token ∈ x.asks := by simp [asks]
    obtain ⟨-, n, p, parks⟩ := Entry.parks_of_asks own
    cases run.fate parks with
    | waiting _ _ unanswered => simp [unanswered]
    | displaced _ unanswered => simp [unanswered]
    | answered y late _ _ _ answers nothing =>
      have ineffective : late.filter (fun y => !y.calls.isEmpty) = [] := by
        rw [List.filter_eq_nil_iff]
        intro z hz
        simp [nothing z hz]
      rw [answers, List.filter_cons, ineffective]
      split <;> simp

/-- The switch is asked on behalf of a packet in exactly one manner. Nothing is asked about a packet that it holds only as
    long as the packet waits, or if the packet came from a tunnel for a port that was not attached. A packet is sent on
    its own, without a rule, only if it is an ICMP error passed on by a peer. The switch is never asked to free a packet
    that it does not hold, a request about a held packet that it has accepted is the last one, and no packet leaves it
    twice. -/
theorem Run.packet_requests (run : Run config observed (recent ++ x :: past) c)
    (few : (History.asked (recent ++ x :: past)).length < UInt64.size) (arrival : x.event = .packetIn n) :
    (∃ m, Manner.Shows n.buffer n.data m (x.onBehalf recent) ∧
      ∀ m', Manner.Shows n.buffer n.data m' (x.onBehalf recent) → m' = m) ∧
    ((x.answersIn recent).filter fun y => !y.calls.isEmpty).length ≤ 1 ∧
    (n.buffer.isBuffered = true → x.onBehalf recent = [] → x.IsPending recent c ∨ x.IsAstray) ∧
    (Manner.Shows n.buffer n.data .relayed (x.onBehalf recent) → x.IsRelay) ∧
    (∀ y ∈ recent ++ x :: past, ∀ buffer answer, .freeBuffer buffer answer ∈ y.calls → buffer.isBuffered = true) ∧
    (n.buffer.isBuffered = true → ∀ before r after, x.onBehalf recent = before ++ r :: after →
      r.isAccepted = true → after = []) ∧
    (x.onBehalf recent).countP Call.isEmission ≤ 1 := by
  obtain ⟨m, asked, heard, relays⟩ := run.onBehalf_mannered arrival
  refine ⟨⟨m, asked, fun m' asked' => asked'.unique asked⟩, run.effective_answers_le_one, ?_, ?_,
    fun y _ buffer answer => Entry.freeBuffer_held, fun held before r after => asked.accepted_last held,
    asked.emission_le_one⟩
  · intro held nothing
    rw [nothing] at asked
    rcases heard (asked.unique .silent) held with pending | astray | ⟨⟨token, own, y, hy, again⟩, -⟩
    · exact .inl pending
    · exact .inr astray
    · exact absurd again (run.fresh few own y hy)
  · intro relayed
    exact relays (asked.unique relayed)

/-- On behalf of a packet that is delivered the switch is asked in one manner, and sends the packet no more than once. -/
theorem packet_requests_delivered :
    let a := Sample.delivering .empty
    (∃ m, Manner.Shows ⟨7⟩ (Sample.notice ⟨7⟩).data m ((Sample.arrived a ⟨7⟩).onBehalf [Sample.resolved a ⟨7⟩])) ∧
      ((Sample.arrived a ⟨7⟩).onBehalf [Sample.resolved a ⟨7⟩]).countP Call.isEmission ≤ 1 := by
  intro a
  have run : Run default false ([Sample.resolved a ⟨7⟩] ++ Sample.arrived a ⟨7⟩ :: (Sample.attached a).1)
      (Sample.resolved a ⟨7⟩).after := Sample.run_resolved a ⟨7⟩
  have arrival : (Sample.arrived a ⟨7⟩).event = .packetIn (Sample.notice ⟨7⟩) := rfl
  obtain ⟨⟨m, asked, -⟩, -, -, -, -, -, once⟩ := Run.packet_requests run (by decide +kernel) arrival
  exact ⟨⟨m, asked⟩, once⟩

end VirtualRouter
