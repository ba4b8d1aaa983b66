import VirtualRouter.Proofs.Daemon.Answers
import VirtualRouter.Proofs.Flows.Occasions
import VirtualRouter.Proofs.Handling.Accounting
import VirtualRouter.Proofs.Ports.Attachment
import VirtualRouter.Proofs.Run.OnBench

/-! The counters as a ledger of the run. While there are fewer events and calls than a counter can count, every counter is
    the number of events or of calls that tell of its thing. Of the packets that had to wait for an address, those are left
    for which no answer has come, and a switch that counts the rules that it takes comes to the same numbers. -/

namespace VirtualRouter

variable {config : Config} {observed : Bool} {history past : History} {c c' : Controller} {x : Entry} {a : Answers}
  {trail : Trail} {b : Bench} {k : Counter} {rule : FlowRule} {answer : Except DatapathError Unit}

/-! ### What is told in a run -/

/-- The things that the events and the calls of a history tell of. -/
def History.counted (history : History) : List Counter :=
  history.filterMap Entry.counter? ++ history.calls.filterMap Call.counter?

theorem History.count_cons : (History.counted (x :: past)).count k =
    (x.counter?.toList ++ x.calls.filterMap Call.counter?).count k + past.counted.count k := by
  have events : (x :: past).filterMap Entry.counter? = x.counter?.toList ++ past.filterMap Entry.counter? := by
    cases told : x.counter? <;> simp [told]
  rw [counted, events, calls, List.flatMap_cons, List.filterMap_append]
  simp only [counted, calls, List.count_append]
  omega

/-- A counter of events or calls is the number of those that tell of its thing, until it is full. -/
theorem Run.toNat_counters (run : Run config observed history c) (accounted : k.isAccounted = true) :
    (c.counters.get k).toNat = min (history.counted.count k) (UInt64.size - 1) := by
  induction run with
  | initial => cases k <;> rfl
  | retarget _ _ ih => exact ih
  | @handle history c a e run ih =>
    have step := Entry.accounts ⟨c, a, e⟩ accounted
    show ((Entry.after ⟨c, a, e⟩).counters.get k).toNat = _
    rw [History.count_cons, step, ih]
    omega

theorem Call.count_isOfEvents (calls : List Call) (ofEvents : k.isOfEvents = true) :
    (calls.filterMap counter?).count k = 0 := by
  refine List.count_eq_zero.2 fun told => ?_
  obtain ⟨call, -, tells⟩ := List.mem_filterMap.1 told
  cases (Counter.isOfCalls_of_isOfEvents ofEvents).symm.trans (isOfCalls_of_counter? tells)

theorem Entry.count_isOfCalls (entries : List Entry) (ofCalls : k.isOfCalls = true) :
    (entries.filterMap counter?).count k = 0 := by
  refine List.count_eq_zero.2 fun told => ?_
  obtain ⟨x, -, tells⟩ := List.mem_filterMap.1 told
  cases (Counter.isOfCalls_of_isOfEvents (Event.isOfEvents_of_counter? tells)).symm.trans ofCalls

namespace History

theorem count_events (ofEvents : k.isOfEvents = true) :
    history.counted.count k = history.countP fun x => x.counter? = some k := by
  rw [counted, List.count_append, Call.count_isOfEvents _ ofEvents, List.count_filterMap]
  exact List.countP_congr fun x _ => by simp

theorem count_calls (ofCalls : k.isOfCalls = true) :
    history.counted.count k = history.calls.countP fun call => call.counter? = some k := by
  rw [counted, List.count_append, Entry.count_isOfCalls _ ofCalls, List.count_filterMap, Nat.zero_add]
  exact List.countP_congr fun call _ => by simp

end History

/-- With few events and calls no counter is full. -/
theorem Run.toNat_counted (run : Run config observed history c) (fewEvents : history.length < UInt64.size)
    (fewCalls : history.calls.length < UInt64.size) (accounted : k.isAccounted = true) :
    (c.counters.get k).toNat = history.counted.count k := by
  have few : history.counted.count k < UInt64.size := by
    rcases Bool.or_eq_true_iff.1 accounted with ofEvents | ofCalls
    · rw [History.count_events ofEvents]
      exact Nat.lt_of_le_of_lt List.countP_le_length fewEvents
    · rw [History.count_calls ofCalls]
      exact Nat.lt_of_le_of_lt List.countP_le_length fewCalls
  rw [run.toNat_counters accounted]
  omega

/-! ### Waiting packets -/

/-- The resolver is asked under a token wherever the start of a resolution is told of. -/
theorem Call.count_resolutionsStarted (calls : List Call) :
    (calls.filterMap counter?).count .resolutionsStarted = (calls.filterMap token?).length := by
  rw [List.count_filterMap, List.length_filterMap_eq_countP]
  refine List.countP_congr fun call _ => ?_
  cases call with
  | addRule rule answer =>
    cases answer with
    | error => simp [counter?, token?]
    | ok =>
      simp only [counter?, token?]
      split
      · simp
      · split <;> simp
  | sendPacket _ _ _ _ answer | freeBuffer _ answer | freeFlow _ _ answer => cases answer <;> simp [counter?, token?]
  | process _ o => obtain ⟨verdict, _, _, _⟩ := o; cases verdict <;> simp [counter?, token?]
  | _ => simp [counter?, token?]

theorem Parking.size_eq (p : Parking) : p.size = p.waiting.keys.length := (List.length_map ..).symm

/-- A packet that waits is told of as a started resolution, and one that is answered as one that has ended. -/
theorem Entry.size_balance (x : Entry) (new : ∀ token ∈ x.asks, x.before.parking.contains token = false) :
    x.after.parking.size + (x.counter?.toList.count .resolutionsSucceeded + x.counter?.toList.count .resolutionsFailed) =
      x.before.parking.size + (x.calls.filterMap Call.counter?).count .resolutionsStarted := by
  rw [Call.count_resolutionsStarted]
  by_cases known : ∀ token ∈ x.answered?, x.before.parking.contains token = true
  · have balance := (x.keys_balance new known).length_eq
    have ended : x.counter?.toList.count .resolutionsSucceeded + x.counter?.toList.count .resolutionsFailed =
        x.answered?.toList.length := by
      unfold counter? answered? at *
      cases event : x.event with
      | addressResolved token mac =>
        have waits : x.before.parking.contains token = true := known token (by rw [event]; rfl)
        cases mac <;> simp [Event.counter?, waits]
      | _ => simp [Event.counter?]
    simp only [List.length_append, ← Parking.size_eq] at balance
    rw [ended]
    show _ = _ + x.asks.length
    omega
  · -- An answer that no packet waits for changes nothing.
    obtain ⟨token, answers, absent⟩ : ∃ token ∈ x.answered?, x.before.parking.contains token = false := by
      simpa using known
    obtain ⟨c', trail, course, after, calls⟩ := x.course
    unfold counter?
    cases event : x.event with
    | addressResolved other mac =>
      obtain rfl : other = token := by simpa [answered?, event] using answers
      rw [event] at course
      cases course with
      | unasked =>
        rw [after, calls]
        simp [Event.counter?, absent]
      | resumes waits => simp [Parking.contains, Table.contains, waits] at absent
    | _ => simp [answered?, event] at answers

theorem History.length_asked_le (history : History) : history.asked.length ≤ history.calls.length := by
  have asked : history.asked = history.calls.filterMap Call.token? := (List.filterMap_flatMap ..).symm
  rw [asked]
  exact List.length_filterMap_le ..

/-- The resolutions that were started and have not ended are those of the waiting packets. -/
theorem Run.count_resolutions (run : Run config observed history c) (few : history.asked.length < UInt64.size) :
    history.counted.count .resolutionsStarted = history.counted.count .resolutionsSucceeded +
      history.counted.count .resolutionsFailed + c.parking.size := by
  induction run with
  | initial => rfl
  | retarget _ _ ih => exact ih few
  | @handle history c a e run ih =>
    let x : Entry := ⟨c, a, e⟩
    show (History.counted (x :: history)).count .resolutionsStarted =
      (History.counted (x :: history)).count .resolutionsSucceeded +
        (History.counted (x :: history)).count .resolutionsFailed + x.after.parking.size
    have asked : History.asked (x :: history) = x.asks ++ history.asked := List.flatMap_cons
    have balance := x.size_balance fun token asks => run.asks_new few asks
    have before := ih (by rw [asked, List.length_append] at few; omega)
    -- No event tells of the start of a resolution, and no call of the end of one.
    have start : x.counter?.toList.count .resolutionsStarted = 0 := Entry.count_isOfCalls [x] rfl
    simp only [History.count_cons, List.count_append, start, Call.count_isOfEvents x.calls (k := .resolutionsSucceeded) rfl,
      Call.count_isOfEvents x.calls (k := .resolutionsFailed) rfl]
    have size : c.parking.size = x.before.parking.size := rfl
    omega

/-! ### Rules that send packets on -/

namespace Course

/-- A packet whose next hop has been found goes out by a port. -/
theorem Resumes.rule_sendsOut {p : ParkedPacket} {mac : Mac} (course : Resumes a c p (some mac) c' trail)
    (asked : (rule, answer) ∈ trail.rules) : rule.sendsOut = true := by
  cases course with
  | vanishedTunnelled | vanishedLocal | relayed => simp at asked
  | forwardedTunnelled | refusedTunnelled | forwardedLocal | refusedLocal =>
    obtain ⟨rfl, -⟩ : rule = _ ∧ _ := by simpa [Call.rule?] using asked
    exact sendsOut_forwarding _ _ _ _ _ (List.cons_ne_nil _ _)

/-- A packet that is to be sent on goes out by a port, unless it cannot be delivered, of which the policy is told. -/
theorem CarriesOut.rule_sendsOut {d : DecidedPacket} {out : PortId} {nextHop : Ipv4}
    (course : CarriesOut a c d (.forward out nextHop) c' trail) (asked : (rule, answer) ∈ trail.rules) :
    rule.sendsOut = true ∨ .unreachable .net d.source d.packet ∈ trail.calls := by
  cases course with
  | parked => simp [Trail.ask, Call.rule?] at asked
  | stranded => exact .inr (by simp)
  | forwarded _ somewhere | refused _ somewhere =>
    obtain ⟨rfl, -⟩ : rule = _ ∧ _ := by simpa [Call.rule?] using asked
    exact .inl (sendsOut_routing somewhere)

theorem CarriesOut.rule_answered {d : DecidedPacket} {v : Verdict} (course : CarriesOut a c d v c' trail)
    (asked : (rule, answer) ∈ trail.rules) : answer = a.addRule rule := by
  cases course with
  | consumed => simp at asked
  | parked => simp [Trail.ask, Call.rule?] at asked
  | forwarded _ _ answered | refused _ _ answered =>
    obtain ⟨rfl, rfl⟩ : rule = _ ∧ answer = _ := by simpa [Call.rule?] using asked
    exact answered.symm
  | _ =>
    obtain ⟨rfl, rfl⟩ : rule = _ ∧ answer = _ := by simpa [Call.rule?] using asked
    rfl

theorem Resumes.rule_answered {p : ParkedPacket} {mac : Option Mac} (course : Resumes a c p mac c' trail)
    (asked : (rule, answer) ∈ trail.rules) : answer = a.addRule rule := by
  cases course with
  | vanishedTunnelled | vanishedLocal | relayed => simp at asked
  | forwardedTunnelled _ _ answered | refusedTunnelled _ _ answered | forwardedLocal _ answered
  | refusedLocal _ answered =>
    obtain ⟨rfl, rfl⟩ : rule = _ ∧ answer = _ := by simpa [Call.rule?] using asked
    exact answered.symm
  | timedOutTunnelled | timedOutLocal =>
    obtain ⟨rfl, rfl⟩ : rule = _ ∧ answer = _ := by simpa [Call.rule?] using asked
    rfl

/-- The answer for a rule is the switch's. -/
theorem Handles.rule_answered {e : Event} (course : Handles a c e c' trail) (asked : (rule, answer) ∈ trail.rules) :
    answer = a.addRule rule := by
  cases course with
  | arrives course =>
    cases course with
    | misdelivered =>
      obtain ⟨rfl, rfl⟩ : rule = _ ∧ answer = _ := by simpa using asked
      rfl
    | decided _ _ _ _ _ course => exact course.rule_answered (by simpa [Call.rule?] using asked)
    | _ => simp [Trail.ask, Call.rule?] at asked
  | resumes _ course => exact course.rule_answered asked
  | attached =>
    obtain ⟨rfl, rfl⟩ : rule = _ ∧ answer = _ := by simpa [Call.rule?] using asked
    rfl
  | _ => simp [Call.rule?, Trail.rules] at asked

end Course

/-! ### Rules that a counting switch takes -/

namespace Call

/-- The switch is asked for a rule. -/
def isRule : Call → Bool
  | addRule _ _ => true
  | _ => false

/-- The switch is asked for a rule that drops its packets. -/
def isDropRule : Call → Bool
  | addRule rule _ => rule.isDrop
  | _ => false

theorem isRule_of_counter? {call : Call}
    (tells : call.counter? = some .flowsInstalled ∨ call.counter? = some .blackholesInstalled) : call.isRule = true := by
  rcases tells with tells | tells <;> unfold counter? at tells <;> split at tells <;> first | rfl | cases tells

theorem isRule_of_isDropRule {call : Call} (drops : call.isDropRule = true) : call.isRule = true := by
  cases call <;> first | rfl | cases drops

/-- Rules that are taken, and that send packets out or drop them, are told of as what they do. -/
theorem countP_rules (calls : List Call) (taken : ∀ rule answer, .addRule rule answer ∈ calls →
      answer = .ok () ∧ (rule.sendsOut = true ∨ rule.isDrop = true)) :
    calls.countP isRule = (calls.filterMap counter?).count .flowsInstalled +
        (calls.filterMap counter?).count .blackholesInstalled ∧
      calls.countP isDropRule = (calls.filterMap counter?).count .blackholesInstalled := by
  simp only [List.count_filterMap]
  induction calls with
  | nil => exact ⟨rfl, rfl⟩
  | cons call calls ih =>
    obtain ⟨rules, drops⟩ := ih fun rule answer mem => taken rule answer (List.mem_cons_of_mem _ mem)
    simp only [List.countP_cons, rules, drops]
    cases kind : call.isRule with
    | false =>
      have forwards : call.counter? ≠ some .flowsInstalled := fun tells => by simp [isRule_of_counter? (.inl tells)] at kind
      have drops : call.counter? ≠ some .blackholesInstalled := fun tells => by simp [isRule_of_counter? (.inr tells)] at kind
      have keeps : call.isDropRule = false := Bool.eq_false_iff.2 fun drops => by simp [isRule_of_isDropRule drops] at kind
      simp [forwards, drops, keeps]
    | true =>
      cases call with
      | addRule rule answer =>
        obtain ⟨rfl, sends | drops⟩ := taken rule answer List.mem_cons_self
        · simp [isDropRule, counter?, sends, FlowRule.isDrop_of_sendsOut sends]
          omega
        · simp [isDropRule, counter?, drops, sendsOut_of_isDrop drops]
          omega
      | _ => cases kind

end Call

namespace Entry

theorem rule_answered (asked : .addRule rule answer ∈ x.calls) : answer = x.answers.addRule rule := by
  obtain ⟨c', trail, course, -, calls⟩ := x.course
  rw [← mem_rules, rules, calls] at asked
  exact course.rule_answered asked

/-- A rule for a packet whose next hop has been found sends it out of a port. -/
theorem rule_sendsOut_resumed {token : Token} {mac : Mac} (event : x.event = .addressResolved token (some mac))
    (asked : .addRule rule answer ∈ x.calls) : rule.sendsOut = true := by
  obtain ⟨c', trail, course, -, calls⟩ := x.course
  rw [← mem_rules, rules, calls] at asked
  rw [event] at course
  cases course with
  | unasked => cases asked
  | resumes waits course => exact course.rule_sendsOut asked

/-- So does one for a packet that the simulation has sent on, unless it cannot be delivered. -/
theorem rule_sendsOut_routed {arrival : Arrival} {o : Outcome} {out : PortId} {nextHop : Ipv4}
    (decided : .process arrival o ∈ x.calls) (verdict : o.verdict = .ok (.forward out nextHop))
    (asked : .addRule rule answer ∈ x.calls) :
    rule.sendsOut = true ∨ .unreachable .net o.arrival.inPort o.arrival.packet ∈ x.calls := by
  obtain ⟨n, port, packet, rest, -, -, calls, follows⟩ := follows_of_process decided
  rw [← mem_rules, rules, calls] at asked
  cases follows with
  | failed failure => cases failure.symm.trans verdict
  | @carriedOut v c' y decision course made =>
    cases decision.symm.trans verdict
    rcases course.rule_sendsOut (by simpa [made, Trail.rules, Call.rule?] using asked) with sends | told
    · exact .inl sends
    · rw [calls, made]
      exact .inr (List.mem_cons_of_mem _ told)

/-- But for the rules for DHCP requests, every rule sends packets out of a port or drops them. -/
theorem rule_kinds (unattached : x.attachment? = none) (asked : .addRule rule answer ∈ x.calls) :
    rule.sendsOut = true ∨ rule.isDrop = true := by
  cases occasion asked with
  | attached event => cases unattached.symm.trans (attachment_of_rule event asked)
  | routed _ _ somewhere => exact .inl (sendsOut_routing somewhere)
  | resumed => exact .inl (sendsOut_forwarding _ _ _ _ _ (List.cons_ne_nil _ _))
  | _ => exact .inr rfl

/-- A switch that takes every rule is asked for the rules that are told of, and for one rule for each port that is
    attached. -/
theorem countP_rules (x : Entry) (taken : ∀ rule, x.answers.addRule rule = .ok ()) :
    x.calls.countP Call.isRule = (x.calls.filterMap Call.counter?).count .flowsInstalled +
        (x.calls.filterMap Call.counter?).count .blackholesInstalled + x.attachment?.toList.length ∧
      x.calls.countP Call.isDropRule = (x.calls.filterMap Call.counter?).count .blackholesInstalled := by
  cases attached : x.attachment? with
  | none =>
    exact Call.countP_rules x.calls fun rule answer asked =>
      ⟨(rule_answered asked).trans (taken rule), rule_kinds attached asked⟩
  | some port =>
    rw [calls_attachment attached, taken]
    exact ⟨rfl, rfl⟩

end Entry

namespace Bench.Switch

/-- A counting switch counts the rules that it is asked for, until it is full. -/
theorem foldl_counting (calls : List Call) (tally : RequestTally) :
    ∃ after : RequestTally, calls.foldl Switch.after (.counting tally) = .counting after ∧
      after.rules.toNat = min (tally.rules.toNat + calls.countP Call.isRule) (UInt64.size - 1) ∧
      after.dropRules.toNat = min (tally.dropRules.toNat + calls.countP Call.isDropRule) (UInt64.size - 1) := by
  induction calls generalizing tally with
  | nil =>
    have rules : tally.rules.toNat < UInt64.size := tally.rules.count.toNat_lt_size
    have drops : tally.dropRules.toNat < UInt64.size := tally.dropRules.count.toNat_lt_size
    refine ⟨tally, rfl, ?_, ?_⟩
    · rw [List.countP_nil]
      omega
    · rw [List.countP_nil]
      omega
  | cons call calls ih =>
    cases call with
    | addRule rule answer =>
      obtain ⟨after, told, rules, drops⟩ := ih (tally.addRule rule)
      have sum (m n full : Nat) : min (min (m + 1) full + n) full = min (m + (n + 1)) full := by omega
      have ruled : (tally.addRule rule).rules.toNat = min (tally.rules.toNat + 1) (UInt64.size - 1) :=
        Tally.toNat_next _
      refine ⟨after, told, ?_, ?_⟩
      · rw [rules, ruled, List.countP_cons_of_pos (p := Call.isRule) rfl, sum]
      · cases drop : rule.isDrop with
        | false =>
          have kept : (tally.addRule rule).dropRules = tally.dropRules := by simp [RequestTally.addRule, drop]
          rw [drops, kept, List.countP_cons_of_neg (by simp [Call.isDropRule, drop])]
        | true =>
          have dropped : (tally.addRule rule).dropRules.toNat = min (tally.dropRules.toNat + 1) (UInt64.size - 1) := by
            simp only [RequestTally.addRule, drop, if_true, Tally.toNat_next]
          rw [drops, dropped, List.countP_cons_of_pos (by exact drop), sum]
    | sendPacket => exact ih tally.sendPacket
    | freeBuffer => exact ih tally.freeBuffer
    | _ => exact ih tally

end Bench.Switch

namespace History

theorem calls_cons : History.calls (x :: past) = x.calls ++ past.calls := List.flatMap_cons

theorem switch_counting (history : History) (counting : b.switch = .counting {}) :
    ∃ tally : RequestTally, (history.bench b).switch = .counting tally ∧
      tally.rules.toNat = min (history.calls.countP Call.isRule) (UInt64.size - 1) ∧
      tally.dropRules.toNat = min (history.calls.countP Call.isDropRule) (UInt64.size - 1) := by
  induction history with
  | nil =>
    refine ⟨{}, counting, ?_, ?_⟩
    · rw [calls, List.flatMap_nil, List.countP_nil, Nat.zero_min]
      rfl
    · rw [calls, List.flatMap_nil, List.countP_nil, Nat.zero_min]
      rfl
  | cons x past ih =>
    obtain ⟨tally, told, rules, drops⟩ := ih
    obtain ⟨after, told', rules', drops'⟩ := Bench.Switch.foldl_counting x.calls tally
    refine ⟨after, ?_, ?_, ?_⟩
    · rw [bench, Bench.switch_foldl, told, told']
    · rw [rules', rules, calls_cons, List.countP_append]
      omega
    · rw [drops', drops, calls_cons, List.countP_append]
      omega

/-- The rules that a counting switch is asked for are those that are told of, and one for each port that was attached. -/
theorem countP_rules (history : History) (counting : b.switch = .counting {}) (on : history.On Answers.SwitchOf b) :
    history.calls.countP Call.isRule = history.counted.count .flowsInstalled +
        history.counted.count .blackholesInstalled + (history.filterMap Entry.attachment?).length ∧
      history.calls.countP Call.isDropRule = history.counted.count .blackholesInstalled := by
  induction history with
  | nil => exact ⟨rfl, rfl⟩
  | cons x past ih =>
    obtain ⟨now, before⟩ := on
    obtain ⟨rules, drops⟩ := ih before
    obtain ⟨tally, told, -⟩ := switch_counting past counting
    have taken (rule : FlowRule) : x.answers.addRule rule = .ok () := by
      rw [now.addRule]
      simp only [Bench.answers, Bench.switchAnswer, told]
    obtain ⟨rules', drops'⟩ := x.countP_rules taken
    have attachments : ((x :: past).filterMap Entry.attachment?).length =
        x.attachment?.toList.length + (past.filterMap Entry.attachment?).length := by
      cases attached : x.attachment? <;> simp [attached, Nat.add_comm]
    have forwards : x.counter?.toList.count .flowsInstalled = 0 := Entry.count_isOfCalls [x] rfl
    have blackholes : x.counter?.toList.count .blackholesInstalled = 0 := Entry.count_isOfCalls [x] rfl
    simp only [calls_cons, List.countP_append, count_cons, List.count_append, forwards, blackholes, attachments]
    omega

end History

/-- While fewer than 2^64 events were handled and fewer than 2^64 calls made, each counter is the number of events or of
    calls that tell of its thing, and the resolutions that have been started are those that have succeeded, those that
    have failed and those of the packets that wait. A packet is never sent on by a rule that drops it: with the address
    of its next hop it goes out by a port, and so it does when the simulation has it sent on, unless the policy is told that
    it cannot be delivered. A switch that takes and counts all rules has come to as many drop rules as were counted, and
    to as many rules as were counted and ports attached. No event takes anything from a counter. -/
theorem Run.counters_faithful (run : Run config observed history c) (fewEvents : history.length < UInt64.size)
    (fewCalls : history.calls.length < UInt64.size) :
    (∀ k, k.isOfEvents = true → (c.counters.get k).toNat = history.countP fun x => x.counter? = some k) ∧
      (∀ k, k.isOfCalls = true → (c.counters.get k).toNat = history.calls.countP fun call => call.counter? = some k) ∧
      c.counters.resolutionsStarted.toNat =
        c.counters.resolutionsSucceeded.toNat + c.counters.resolutionsFailed.toNat + c.parking.size ∧
      (∀ x ∈ history, ∀ rule answer, .addRule rule answer ∈ x.calls →
        (∀ token mac, x.event = .addressResolved token (some mac) → rule.sendsOut = true) ∧
        ∀ arrival o out nextHop, .process arrival o ∈ x.calls → o.verdict = .ok (.forward out nextHop) →
          rule.sendsOut = true ∨ .unreachable .net o.arrival.inPort o.arrival.packet ∈ x.calls) ∧
      (∀ b : Bench, b.switch = .counting {} → history.On Answers.SwitchOf b →
        ∃ tally : RequestTally, (history.bench b).switch = .counting tally ∧
          tally.dropRules.toNat = c.counters.blackholesInstalled.toNat ∧
          tally.rules.toNat = c.counters.flowsInstalled.toNat + c.counters.blackholesInstalled.toNat +
            (history.filterMap Entry.attachment?).length) ∧
      ∀ a e k, (c.counters.get k).toNat ≤ ((c.step a e).controller.counters.get k).toNat := by
  have counted {k : Counter} := run.toNat_counted (k := k) fewEvents fewCalls
  have forwards : c.counters.flowsInstalled.toNat = _ := counted (k := .flowsInstalled) rfl
  have blackholes : c.counters.blackholesInstalled.toNat = _ := counted (k := .blackholesInstalled) rfl
  refine ⟨fun k ofEvents => ?_, fun k ofCalls => ?_, ?_, fun x mem rule answer asked => ⟨?_, ?_⟩,
    fun b counting on => ?_, fun a e k => ?_⟩
  · rw [counted (by simp [Counter.isAccounted, ofEvents]), History.count_events ofEvents]
  · rw [counted (by simp [Counter.isAccounted, ofCalls]), History.count_calls ofCalls]
  · have few := Nat.lt_of_le_of_lt history.length_asked_le fewCalls
    have started : c.counters.resolutionsStarted.toNat = _ := counted (k := .resolutionsStarted) rfl
    have succeeded : c.counters.resolutionsSucceeded.toNat = _ := counted (k := .resolutionsSucceeded) rfl
    have failed : c.counters.resolutionsFailed.toNat = _ := counted (k := .resolutionsFailed) rfl
    rw [started, succeeded, failed, run.count_resolutions few]
  · rintro token mac event
    exact Entry.rule_sendsOut_resumed event asked
  · rintro arrival o out nextHop decided verdict
    exact Entry.rule_sendsOut_routed decided verdict asked
  · obtain ⟨tally, told, rules, drops⟩ := history.switch_counting counting
    obtain ⟨rules', drops'⟩ := history.countP_rules counting on
    have bound : history.calls.countP Call.isRule < UInt64.size := Nat.lt_of_le_of_lt List.countP_le_length fewCalls
    refine ⟨tally, told, ?_, ?_⟩
    · omega
    · omega
  · exact Entry.counters_mono ⟨c, a, e⟩ k

namespace Sample

/-- A switch that counts, and a simulation that sends every packet to the second port. -/
def counting : Bench := { script := { verdict := .ok (.forward (port 2).id .localhost) }, switch := .counting {} }

/-- Two packets are sent on, and the address of the next hop is found for the first one only. -/
def half : History × Controller :=
  counting.trial ([], .initial default false)
    [.portAttached (port 1), .portAttached (port 2), .packetIn (notice ⟨7⟩), .addressResolved ⟨0⟩ (some (port 3).mac),
      .packetIn (notice ⟨8⟩)]

end Sample

/-- Of two resolutions one has succeeded and one is left, and the switch has taken a rule for each port and one for a
    packet. -/
theorem counters_faithful_half :
    let s := Sample.half
    s.2.counters.packetsIn.toNat = 2 ∧ s.2.counters.flowsInstalled.toNat = 1 ∧
      s.2.counters.resolutionsStarted.toNat =
        s.2.counters.resolutionsSucceeded.toNat + s.2.counters.resolutionsFailed.toNat + s.2.parking.size ∧
      s.2.counters.resolutionsStarted.toNat = 2 ∧ s.2.parking.size = 1 ∧
      ∃ tally : RequestTally, (s.1.bench Sample.counting).switch = .counting tally ∧ tally.dropRules.toNat = 0 ∧
        tally.rules.toNat = 3 := by
  intro s
  have run : Run default false s.1 s.2 := Run.trial (s := ([], _)) .initial _ _
  have on : s.1.On Answers.SwitchOf Sample.counting :=
    History.On.trial (s := ([], _)) trivial (fun _ => ⟨rfl, rfl, rfl⟩) _
  obtain ⟨events, calls, resolutions, -, switch, -⟩ := Run.counters_faithful run (by decide +kernel) (by decide +kernel)
  have packets : s.2.counters.packetsIn.toNat = 2 := (events .packetsIn rfl).trans (by decide +kernel)
  have flows : s.2.counters.flowsInstalled.toNat = 1 := (calls .flowsInstalled rfl).trans (by decide +kernel)
  have started : s.2.counters.resolutionsStarted.toNat = 2 := (calls .resolutionsStarted rfl).trans (by decide +kernel)
  have blackholes : s.2.counters.blackholesInstalled.toNat = 0 :=
    (calls .blackholesInstalled rfl).trans (by decide +kernel)
  have attached : (s.1.filterMap Entry.attachment?).length = 2 := by decide +kernel
  obtain ⟨tally, told, drops, rules⟩ := switch Sample.counting rfl on
  refine ⟨packets, flows, resolutions, started, by decide +kernel, tally, told, drops.trans blackholes, ?_⟩
  rw [rules, flows, blackholes, attached]

end VirtualRouter
