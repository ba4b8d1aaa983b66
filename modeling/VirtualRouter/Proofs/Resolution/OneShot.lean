import VirtualRouter.Proofs.Flows.Resumption
import VirtualRouter.Proofs.Run.Decision

/-! A packet waits under a token of its own from its arrival to the first answer under the token, whatever else
    happens. That answer goes on with this packet and with no other. Any other answer, be it repeated, contradictory
    or for a token that nobody was given, finds no packet and does nothing. -/

namespace VirtualRouter

variable {config : Config} {observed : Bool} {history : History} {c c' : Controller} {x y : Entry} {token : Token}
  {a : Answers} {mac : Option Mac} {p : ParkedPacket} {trail : Trail}

/-! ### Calls about one packet -/

namespace ParkedPacket

def packet : ParkedPacket → Packet
  | tunnelled p => p.packet
  | toLocal p => p.packet

end ParkedPacket

/-- The call is about a waiting packet: it names the packet's own buffer, bytes, match and elements, and no others. -/
def Call.IsAbout (a : Answers) (p : ParkedPacket) : Call → Prop
  | addRule rule _ => rule.buffer = p.buffer ∧ (rule.pattern = p.incoming ∨ rule.pattern = a.widen p.scope p.incoming)
  | sendPacket buffer _ _ data _ => buffer = p.buffer ∧ data = p.data
  | freeBuffer buffer _ => buffer = p.buffer
  | freeFlow element flow _ => element ∈ p.elements ∧ flow = p.incoming
  | widen scope incoming _ => scope = p.scope ∧ incoming = p.incoming
  | unreachable _ _ packet => packet = p.packet
  | installed incoming _ _ elements => incoming = p.incoming ∧ elements = p.elements
  | _ => False

/-- All calls of a trail are about a waiting packet. -/
def Trail.IsAbout (a : Answers) (p : ParkedPacket) (x : Trail) : Prop := ∀ call ∈ x.calls, call.IsAbout a p

namespace Trail
variable {x : Trail} {rule : FlowRule}

theorem IsAbout.append (hx : x.IsAbout a p) (hy : trail.IsAbout a p) : (x ++ trail).IsAbout a p :=
  List.forall_mem_append.2 ⟨hx, hy⟩

theorem isAbout_count (k : Counter) : (count k).IsAbout a p := by simp [IsAbout]

theorem isAbout_call {call : Call} (h : call.IsAbout a p) : (Trail.call call).IsAbout a p := by simpa [IsAbout] using h

theorem isAbout_widen : (Trail.call (.widen p.scope p.incoming (a.widen p.scope p.incoming))).IsAbout a p :=
  isAbout_call ⟨rfl, rfl⟩

theorem isAbout_freeing : (freeing a p.buffer).IsAbout a p := by
  rw [IsAbout, calls_freeing]
  split <;> simp [Call.IsAbout]

theorem isAbout_discard : (discard a p.buffer).IsAbout a p := (isAbout_count _).append isAbout_freeing

theorem isAbout_release : (release a p.incoming p.elements).IsAbout a p := by simp [IsAbout, Call.IsAbout]

theorem isAbout_announce (observed : Bool) (installed : HeaderMatch) (ingress : PortId) :
    (announce observed p.incoming installed ingress p.elements).IsAbout a p := by
  rw [IsAbout, calls_announce]
  split <;> simp [Call.IsAbout]

theorem isAbout_drop (s : FlowSettings) : (drop a (s.blackhole p.incoming p.buffer)).IsAbout a p := by
  simp [IsAbout, Call.IsAbout, FlowSettings.blackhole, FlowRule.dropping]

theorem isAbout_send (inPort : PortNumber) (actions : List Action) :
    (send a p.buffer inPort actions p.data).IsAbout a p := by
  simp [IsAbout, Call.IsAbout]

theorem isAbout_accepted (names : rule.buffer = p.buffer) (covers : rule.pattern = a.widen p.scope p.incoming) :
    (accepted a rule p.data).IsAbout a p := by
  rw [IsAbout, calls_accepted, calls_emission]
  split <;> simp [Call.IsAbout, names, covers]

theorem isAbout_refused (names : rule.buffer = p.buffer) (covers : rule.pattern = a.widen p.scope p.incoming)
    (error : DatapathError) : (refused a rule error).IsAbout a p := by
  rw [IsAbout, calls_refused, names]
  exact List.forall_mem_cons.2 ⟨⟨names, .inr covers⟩, isAbout_freeing⟩

end Trail

open Trail in
theorem Course.Resumes.isAbout (course : Resumes a c p mac c' trail) : trail.IsAbout a p := by
  cases course with
  | vanishedTunnelled => exact (isAbout_count _).append isAbout_discard
  | relayed => exact (isAbout_count _).append (isAbout_send _ _)
  | forwardedTunnelled =>
    exact ((isAbout_count _).append isAbout_widen).append (isAbout_accepted rfl rfl)
  | refusedTunnelled =>
    exact ((isAbout_count _).append isAbout_widen).append (isAbout_refused rfl rfl _)
  | timedOutTunnelled => exact ((isAbout_count _).append (isAbout_drop _)).append (isAbout_call rfl)
  | vanishedLocal => exact ((isAbout_count _).append isAbout_release).append isAbout_discard
  | forwardedLocal =>
    exact (((isAbout_count _).append isAbout_widen).append (isAbout_accepted rfl rfl)).append
      (isAbout_announce _ _ _)
  | refusedLocal =>
    exact (((isAbout_count _).append isAbout_widen).append (isAbout_refused rfl rfl _)).append isAbout_release
  | timedOutLocal =>
    exact (((isAbout_count _).append (isAbout_drop _)).append isAbout_release).append (isAbout_call rfl)

/-! ### Answers -/

/-- The packet of the event waits for the first answer under the token: the resolver was asked under it during the
    event, and no answer under it has come since. -/
def History.Awaits (history : History) (token : Token) (x : Entry) : Prop :=
  ∃ recent past, history = recent ++ x :: past ∧ token ∈ x.asks ∧ ∀ y ∈ recent, y.answered? ≠ some token

namespace Entry

/-- The event changes nothing and makes no call. -/
def DoesNothing (y : Entry) : Prop := y.after = y.before ∧ y.calls = []

/-- The event takes the packet of the token out of the parking, and no other, and goes on with it. -/
structure GoesOn (y : Entry) (token : Token) (p : ParkedPacket) : Prop where
  waits : y.before.parking.waiting.get? token = some p
  gone : y.after.parking.waiting.get? token = none
  others : ∀ other, other ≠ token → y.after.parking.waiting.get? other = y.before.parking.waiting.get? other
  course : ∃ mac c' trail, y.event = .addressResolved token mac ∧
    Course.Resumes y.answers { y.before with parking := (y.before.parking.take token).1 } p mac c' trail ∧
    y.after = c'.counting trail.counts ∧ y.calls = trail.calls
  about : ∀ call ∈ y.calls, call.IsAbout y.answers p
  recorded : y.after.ledger = y.before.ledger ∨
    y.after.ledger = y.before.ledger.record (y.answers.widen p.scope p.incoming) p.elements

theorem answered?_eq_some_iff : y.answered? = some token ↔ ∃ mac, y.event = .addressResolved token mac := by
  cases event : y.event <;> simp [answered?, event]

theorem doesNothing_of_absent (answer : y.answered? = some token)
    (absent : y.before.parking.waiting.get? token = none) : y.DoesNothing := by
  obtain ⟨mac, event⟩ := answered?_eq_some_iff.1 answer
  obtain ⟨c', trail, course, after, calls⟩ := y.course
  rw [event] at course
  cases course with
  | unasked => exact ⟨after, calls⟩
  | resumes waits =>
    rw [absent] at waits
    cases waits

theorem goesOn_of_waits (answer : y.answered? = some token) (waits : y.before.parking.waiting.get? token = some p) :
    y.GoesOn token p := by
  obtain ⟨mac, event⟩ := answered?_eq_some_iff.1 answer
  obtain ⟨c', trail, course, after, calls⟩ := y.course
  rw [event] at course
  cases course with
  | unasked absent =>
    rw [waits] at absent
    cases absent
  | resumes found course =>
    obtain rfl := Option.some.inj (waits.symm.trans found)
    refine ⟨waits, waiting_answered answer, fun other differs => ?_, ⟨mac, c', trail, event, course, after, calls⟩,
      ?_, ?_⟩
    · refine waiting_frame (by simp [asks_answered answer]) fun same => differs ?_
      exact Option.some.inj (same.symm.trans answer)
    · rw [calls]
      exact course.isAbout
    · rw [after]
      cases course with
      | forwardedTunnelled | forwardedLocal => exact .inr rfl
      | _ => exact .inl rfl

end Entry

/-! ### Who waits -/

theorem awaits_cons : History.Awaits (y :: history) token x ↔
    (x = y ∧ token ∈ y.asks) ∨ (y.answered? ≠ some token ∧ history.Awaits token x) := by
  constructor
  · rintro ⟨recent, past, eq, asks, unanswered⟩
    cases recent with
    | nil =>
      cases eq
      exact .inl ⟨rfl, asks⟩
    | cons z recent =>
      cases eq
      obtain ⟨answer, unanswered⟩ := List.forall_mem_cons.1 unanswered
      exact .inr ⟨answer, recent, past, rfl, asks, unanswered⟩
  · rintro (⟨rfl, asks⟩ | ⟨answer, recent, past, rfl, asks, unanswered⟩)
    · exact ⟨[], history, rfl, asks, by simp⟩
    · exact ⟨y :: recent, past, rfl, asks, List.forall_mem_cons.2 ⟨answer, unanswered⟩⟩

theorem History.Awaits.mem_asked (h : history.Awaits token x) : token ∈ history.asked := by
  obtain ⟨recent, past, rfl, asks, -⟩ := h
  exact List.mem_flatMap.2 ⟨x, by simp, asks⟩

theorem History.asked_append (recent past : History) : asked (recent ++ past) = recent.asked ++ past.asked :=
  List.flatMap_append

theorem History.asked_cons (y : Entry) (past : History) : asked (y :: past) = y.asks ++ past.asked :=
  List.flatMap_cons ..

/-- A packet that waits under a token that was answered has come in since. -/
theorem History.Awaits.asked_since {between past : History} (h : History.Awaits (between ++ y :: past) token x)
    (answer : y.answered? = some token) : token ∈ History.asked between := by
  induction between with
  | nil =>
    rcases awaits_cons.1 h with ⟨-, asks⟩ | ⟨other, -⟩
    · rw [Entry.asks_answered answer] at asks
      cases asks
    · exact absurd answer other
  | cons z between ih =>
    rw [asked_cons, List.mem_append]
    rcases awaits_cons.1 h with ⟨-, asks⟩ | ⟨-, h⟩
    · exact .inl asks
    · exact .inr (ih h)

/-- A packet waits under a token exactly as long as no answer under the token has come since the resolver was asked for
    the packet. -/
theorem Run.waiting_iff (run : Run config observed history c) (few : history.asked.length < UInt64.size) :
    c.parking.waiting.get? token = some p ↔ ∃ x n, history.Awaits token x ∧ x.Parks n p := by
  induction run with
  | initial =>
    constructor
    · rintro ⟨⟩
    · rintro ⟨x, n, ⟨recent, past, eq, -⟩, -⟩
      cases recent <;> cases eq
  | retarget _ _ ih => exact ih few
  | @handle history c a e run ih =>
    let y : Entry := ⟨c, a, e⟩
    show y.after.parking.waiting.get? token = some p ↔ ∃ x n, History.Awaits (y :: history) token x ∧ x.Parks n p
    have nodup := (Run.handle a e run).asked_nodup few
    rw [History.asked_cons, List.nodup_append] at nodup
    have ih := ih (by rw [History.asked_cons, List.length_append] at few; omega)
    simp only [awaits_cons]
    by_cases asks : token ∈ y.asks
    · -- The token is new, so that no packet but the one that is parked now can wait under it.
      obtain ⟨rfl, n, q, parks⟩ := Entry.parks_of_asks asks
      rw [parks.waits]
      constructor
      · rintro ⟨⟩
        exact ⟨y, n, .inl ⟨rfl, asks⟩, parks⟩
      · rintro ⟨x, n', ⟨rfl, -⟩ | ⟨-, awaits⟩, parks'⟩
        · exact parks.waits.symm.trans parks'.waits
        · exact absurd rfl (nodup.2.2 _ asks _ awaits.mem_asked)
    by_cases answer : y.answered? = some token
    · simp [Entry.waiting_answered answer, asks, answer]
    · rw [Entry.waiting_frame asks answer]
      simpa [asks, answer] using ih

/-- Every request for an address is made under a token of its own. The first answer under a token goes on with the
    packet that was parked under it, as it came in and was decided on, and with no other. An answer under a token that
    nobody was given, or that was answered before, changes nothing and makes no call. An arriving packet leaves all
    packets that wait as they are. -/
theorem Run.answers_one_shot (run : Run config observed history c) (few : history.asked.length < UInt64.size) :
    history.asked.Nodup ∧ ∀ later y earlier, history = later ++ y :: earlier →
      (∀ token, y.answered? = some token →
        (∀ x, History.Awaits earlier token x → ∃ n p, x.Suspends n p ∧ y.GoesOn token p) ∧
        (token ∉ History.asked earlier → y.DoesNothing) ∧
        (∀ between z past, earlier = between ++ z :: past → z.answered? = some token → token ∈ History.asked past →
          y.DoesNothing)) ∧
      (∀ n, y.event = .packetIn n → ∀ token p, y.before.parking.waiting.get? token = some p →
        y.after.parking.waiting.get? token = some p) := by
  refine ⟨run.asked_nodup few, ?_⟩
  rintro later y earlier rfl
  have nodup := run.asked_nodup few
  rw [History.asked_append, History.asked_cons, List.length_append, List.length_append] at few
  rw [History.asked_append, History.asked_cons, List.nodup_append, List.nodup_append] at nodup
  have waiting {token : Token} {p : ParkedPacket} : y.before.parking.waiting.get? token = some p ↔
      ∃ x n, History.Awaits earlier token x ∧ x.Parks n p := run.upTo.waiting_iff (by omega)
  refine ⟨fun token answer => ⟨fun x awaits => ?_, fun unknown => ?_, ?_⟩, fun n event token p waits => ?_⟩
  · obtain ⟨recent, past, rfl, asks, unanswered⟩ := awaits
    obtain ⟨-, n, p, parks⟩ := Entry.parks_of_asks asks
    have waits := waiting.2 ⟨x, n, ⟨recent, past, rfl, asks, unanswered⟩, parks⟩
    exact ⟨n, p, parks.suspends, Entry.goesOn_of_waits answer waits⟩
  · refine Entry.doesNothing_of_absent answer (Option.eq_none_iff_forall_ne_some.2 fun p waits => ?_)
    obtain ⟨x, -, awaits, -⟩ := waiting.1 waits
    exact unknown awaits.mem_asked
  · rintro between z past rfl before known
    refine Entry.doesNothing_of_absent answer (Option.eq_none_iff_forall_ne_some.2 fun p waits => ?_)
    obtain ⟨x, -, awaits, -⟩ := waiting.1 waits
    rw [History.asked_append, History.asked_cons, List.nodup_append] at nodup
    exact nodup.2.1.2.1.2.2 _ (awaits.asked_since before) _ (List.mem_append_right _ known) rfl
  · refine (Entry.waiting_frame (fun asks => ?_) (by simp [Entry.answered?, event])).trans waits
    obtain ⟨x, -, awaits, -⟩ := waiting.1 waits
    exact nodup.2.1.2.2 _ asks _ awaits.mem_asked rfl

namespace Sample

/-- After an address has been found, the resolver says that it has not been found. -/
def contradicted (a : Answers) (buffer : Buffer) : Entry := ⟨(resolved a buffer).after, a, .addressResolved ⟨0⟩ none⟩

end Sample

/-- A packet is gone on with once its address is found. The contradictory answer after that does nothing. -/
theorem answers_one_shot_contradicted :
    let a := Sample.delivering (.ofList [Sample.element 5])
    (∃ n p, (Sample.arrived a ⟨7⟩).Suspends n p ∧ (Sample.resolved a ⟨7⟩).GoesOn ⟨0⟩ p) ∧
      (Sample.contradicted a ⟨7⟩).DoesNothing := by
  intro a
  have run : Run default false
      (Sample.contradicted a ⟨7⟩ :: Sample.resolved a ⟨7⟩ :: Sample.arrived a ⟨7⟩ :: (Sample.attached a).1)
      (Sample.contradicted a ⟨7⟩).after := .handle a _ (Sample.run_resolved a ⟨7⟩)
  have asks : (⟨0⟩ : Token) ∈ (Sample.arrived a ⟨7⟩).asks := by decide +kernel
  obtain ⟨-, answers⟩ := run.answers_one_shot (by decide +kernel)
  obtain ⟨first, -⟩ := (answers [Sample.contradicted a ⟨7⟩] (Sample.resolved a ⟨7⟩) _ rfl).1 ⟨0⟩ rfl
  obtain ⟨-, -, repeated⟩ := (answers [] (Sample.contradicted a ⟨7⟩) _ rfl).1 ⟨0⟩ rfl
  refine ⟨first _ ⟨[], _, rfl, asks, by simp⟩, repeated [] (Sample.resolved a ⟨7⟩) _ rfl rfl ?_⟩
  exact List.mem_append_left _ asks

end VirtualRouter
