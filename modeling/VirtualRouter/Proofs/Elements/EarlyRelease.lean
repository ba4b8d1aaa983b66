import VirtualRouter.Proofs.Elements.Release
import VirtualRouter.Proofs.Resolution.OneShot

/-! When elements are told to free their state for a match that is still installed. A packet that is given up has its
    elements free their state for its match, and the ledger is not asked whether a flow of this match is installed. Such
    a flow was then installed for a packet of the match that the element took part in deciding on. -/

namespace VirtualRouter

variable {config : Config} {observed : Bool} {past : History} {x y : Entry} {m : HeaderMatch} {e : ElementId}
  {token : Token} {p : ParkedPacket} {arrival : Arrival} {o : Outcome} {answer : Except SimulationError Unit}

/-! ### Matches that calls name -/

namespace Call
variable {calls : List Call}

theorem mem_outcomes : o ∈ calls.filterMap outcome? ↔ ∃ arrival, .process arrival o ∈ calls := by
  rw [List.mem_filterMap]
  constructor
  · rintro ⟨call, mem, outcome⟩
    cases call <;> cases outcome
    exact ⟨_, mem⟩
  · rintro ⟨arrival, mem⟩
    exact ⟨_, mem, rfl⟩

theorem mem_elements : e ∈ elements calls ↔ ∃ arrival o, .process arrival o ∈ calls ∧ e ∈ o.elements := by
  simp only [elements, List.mem_flatMap, mem_outcomes, OrderedSet.mem_toList]
  exact ⟨fun ⟨o, ⟨arrival, mem⟩, took⟩ => ⟨arrival, o, mem, took⟩,
    fun ⟨arrival, o, mem, took⟩ => ⟨o, ⟨arrival, mem⟩, took⟩⟩

theorem mem_owed : e ∈ owed calls ↔ ∃ arrival o, .process arrival o ∈ calls ∧ e ∈ o.owed := by
  simp only [owed, List.mem_flatMap, mem_outcomes, OrderedSet.mem_toList]
  exact ⟨fun ⟨o, ⟨arrival, mem⟩, left⟩ => ⟨arrival, o, mem, left⟩,
    fun ⟨arrival, o, mem, left⟩ => ⟨o, ⟨arrival, mem⟩, left⟩⟩

theorem mem_freed : e ∈ calls.filterMap freed? ↔ ∃ m answer, .freeFlow e m answer ∈ calls := by
  rw [List.mem_filterMap]
  constructor
  · rintro ⟨call, mem, freed⟩
    cases call <;> cases freed
    exact ⟨_, _, mem⟩
  · rintro ⟨m, answer, mem⟩
    exact ⟨_, mem, rfl⟩

theorem mem_forwarded : m ∈ calls.filterMap forwarded? ↔
    ∃ rule, .addRule rule (.ok ()) ∈ calls ∧ rule.notifyRemoval = true ∧ rule.isDrop = false ∧ rule.pattern = m := by
  rw [List.mem_filterMap]
  constructor
  · rintro ⟨call, mem, forwarded⟩
    cases call with
    | addRule rule answer =>
      cases answer <;> simp [forwarded?, Except.isOk, Except.toBool] at forwarded
      exact ⟨rule, mem, forwarded.1.1, forwarded.1.2, forwarded.2⟩
    | _ => cases forwarded
  · rintro ⟨rule, mem, notifies, sends, rfl⟩
    exact ⟨_, mem, by simp [forwarded?, Except.isOk, Except.toBool, notifies, sends]⟩

end Call

section Decided
variable {a : Answers} {c c' : Controller} {d : DecidedPacket} {v : Verdict} {trail : Trail}

theorem Trail.freeFlow_mem_release {flow : HeaderMatch} {elements : ElementSet} :
    .freeFlow e m answer ∈ (release a flow elements).calls ↔ e ∈ elements ∧ m = flow ∧ answer = a.freeFlow e flow := by
  rw [calls_release, List.mem_map]
  constructor
  · rintro ⟨e, mem, same⟩
    cases same
    exact ⟨mem, rfl, rfl⟩
  · rintro ⟨mem, rfl, rfl⟩
    exact ⟨e, mem, rfl⟩

theorem Course.CarriesOut.freed_incoming (course : CarriesOut a c d v c' trail)
    (freed : .freeFlow e m answer ∈ trail.calls) : m = d.incoming := by
  cases course with
  | blackhole | stranded | refused | noRoute | rejected =>
    have named : e ∈ d.elements ∧ m = d.incoming ∧ answer = a.freeFlow e d.incoming := by
      simpa [Trail.calls_freeing, Trail.calls_announce, Trail.freeFlow_mem_release, -Trail.calls_release, Trail.reject]
        using freed
    exact named.2.1
  | _ => simp [Trail.calls_freeing] at freed

theorem Course.CarriesOut.forwarded_incoming (course : CarriesOut a c d v c' trail)
    (forwards : m ∈ trail.calls.filterMap Call.forwarded?) : m = d.incoming := by
  cases course with
  | forwarded away somewhere taken =>
    simpa [List.filterMap_cons, Call.forwarded?, Except.isOk, Except.toBool, isDrop_routing _ _ _ _ _ somewhere,
      filterMap_ite] using forwards
  | _ =>
    simp [List.filterMap_cons, Call.forwarded?, Except.isOk, Except.toBool, Trail.calls_freeing, Trail.calls_announce,
      filterMap_ite] at forwards

end Decided

/-! ### Giving a packet up -/

namespace Entry

/-- The element took part in deciding on the packet of the event, which has this match. -/
def Involves (x : Entry) (m : HeaderMatch) (e : ElementId) : Prop :=
  ∃ arrival o, .process arrival o ∈ x.calls ∧ o.arrival.incoming = m ∧ e ∈ o.elements

/-- The event ends the handling of a packet of the match without a flow for it, and the element has been left with state
    for the packet. -/
inductive Abandons (x : Entry) : HeaderMatch → ElementId → Prop
  | decided {arrival : Arrival} {o : Outcome} {e : ElementId} (asked : .process arrival o ∈ x.calls) (left : e ∈ o.owed)
      (unparked : x.asks = []) (uninstalled : x.forwards = []) : Abandons x o.arrival.incoming e
  | resumed {token : Token} {p : ParkedPacket} {e : ElementId} (answer : x.answered? = some token)
      (waits : x.before.parking.waiting.get? token = some p) (left : e ∈ p.elements) (uninstalled : x.forwards = []) :
      Abandons x p.incoming e

theorem freed_incoming (asked : .process arrival o ∈ x.calls) (freed : .freeFlow e m answer ∈ x.calls) :
    m = o.arrival.incoming := by
  obtain ⟨n, port, packet, rest, -, -, calls, follows⟩ := follows_of_process asked
  rw [calls] at freed
  cases follows with
  | failed _ rest =>
    have named : e ∈ o.elements ∧ m = o.arrival.incoming ∧ answer = x.answers.freeFlow e o.arrival.incoming := by
      simpa [rest, Trail.calls_freeing, Trail.freeFlow_mem_release, -Trail.calls_release] using freed
    exact named.2.1
  | carriedOut _ course rest => exact course.freed_incoming (by simpa [rest] using freed)

theorem freed_resumed (answers : x.answered? = some token) (waits : x.before.parking.waiting.get? token = some p)
    (freed : .freeFlow e m answer ∈ x.calls) : m = p.incoming :=
  ((goesOn_of_waits answers waits).about _ freed).2

theorem freed_removed {r : FlowRemoval} (event : x.event = .flowRemoved r) (freed : .freeFlow e m answer ∈ x.calls) :
    m = r.pattern := by
  obtain ⟨c', trail, course, -, calls⟩ := x.course
  rw [event] at course
  rw [calls] at freed
  cases course with
  | removed =>
    rw [Trail.calls_append, Trail.calls_count, List.nil_append, Trail.freeFlow_mem_release] at freed
    exact freed.2.1

/-- All elements that an event has free their state do so for one match. -/
theorem freed_match {m' : HeaderMatch} {e' : ElementId} (about : x.Removes m ∨ x.Abandons m e)
    (freed : .freeFlow e' m' answer ∈ x.calls) : m' = m := by
  rcases about with ⟨r, event, rfl⟩ | abandons
  · exact freed_removed event freed
  · cases abandons with
    | decided asked => exact freed_incoming asked freed
    | resumed answers waits => exact freed_resumed answers waits freed

theorem frees_cases (mem : e ∈ x.frees) :
    ∃ m, (x.Removes m ∧ e ∈ (x.before.ledger.elements? m).getD .empty) ∨ x.Abandons m e := by
  generalize event : x.event = ev
  cases event ▸ x.dealing with
  | parked parked => simp [frees, parked.freed] at mem
  | astray _ _ _ _ nothing | unasked _ _ _ nothing => simp [frees, nothing] at mem
  | concluded _ left _ _ conclusion =>
    cases conclusion.elements with
    | recorded _ _ _ _ none => simp [frees, none] at mem
    | released uninstalled _ all =>
      rw [frees, all, ← left] at mem
      obtain ⟨arrival, o, asked, left⟩ := Call.mem_owed.1 mem
      exact ⟨_, .inr (.decided asked left conclusion.tokens uninstalled)⟩
  | @resumed token mac p waits _ _ conclusion =>
    cases conclusion.elements with
    | recorded _ _ _ _ none => simp [frees, none] at mem
    | released uninstalled _ all =>
      rw [frees, all] at mem
      exact ⟨_, .inr (.resumed (by simp [answered?, event]) waits mem uninstalled)⟩
  | @removed r _ _ _ _ _ all =>
    rw [frees, all] at mem
    exact ⟨r.pattern, .inl ⟨⟨r, event, rfl⟩, mem⟩⟩
  | apart _ _ _ quiet => simp [frees, quiet.freed] at mem

theorem Abandons.mem_frees (h : x.Abandons m e) : e ∈ x.frees := by
  cases h with
  | decided asked left unparked uninstalled =>
    have owed : e ∈ x.owed := Call.mem_owed.2 ⟨_, _, asked, left⟩
    obtain ⟨n, port, packet, rest, -, decides, -⟩ := follows_of_process asked
    cases decides.event ▸ x.dealing with
    | parked parked => cases unparked.symm.trans parked.tokens
    | astray _ _ _ _ nothing => simp [nothing] at asked
    | concluded _ whole _ _ conclusion =>
      cases conclusion.elements with
      | recorded _ forwarded => cases uninstalled.symm.trans forwarded
      | released _ _ all => rwa [frees, all, ← whole]
    | apart lifecycle => cases lifecycle
  | resumed answers waits left uninstalled =>
    cases (conclusion_answered answers waits).2.elements with
    | recorded _ forwarded => cases uninstalled.symm.trans forwarded
    | released _ _ all => rwa [frees, all]

/-- Elements are told to free their state for a match when its flow is gone and when a packet of the match is given
    up. -/
theorem frees_iff : (∃ answer, .freeFlow e m answer ∈ x.calls) ↔
    (x.Removes m ∧ e ∈ (x.before.ledger.elements? m).getD .empty) ∨ x.Abandons m e := by
  constructor
  · rintro ⟨answer, freed⟩
    obtain ⟨m', about⟩ := frees_cases (Call.mem_freed.2 ⟨m, answer, freed⟩)
    obtain rfl := freed_match (about.imp_left And.left) freed
    exact about
  · intro about
    have mem : e ∈ x.frees := by
      rcases about with ⟨removes, held⟩ | abandons
      · cases was : x.before.ledger.elements? m with
        | none => simp [was] at held
        | some elements =>
          rw [was] at held
          rw [frees_removed removes was]
          exact held
      · exact abandons.mem_frees
    obtain ⟨m', answer, freed⟩ := Call.mem_freed.1 mem
    obtain rfl := freed_match (about.imp_left And.left) freed
    exact ⟨answer, freed⟩

theorem Abandons.uninstalled (h : x.Abandons m e) : x.forwards = [] := by
  cases h <;> assumption

theorem uninstalled_of_freed (freed : .freeFlow e m answer ∈ x.calls) : x.forwards = [] := by
  rcases frees_iff.1 ⟨answer, freed⟩ with ⟨removes, -⟩ | abandons
  · rcases x.ledger_cases with ⟨none, -⟩ | ⟨-, -, none, -⟩ | ⟨-, -, -, kept, -⟩
    · exact none
    · exact none
    · exact absurd removes (kept m)
  · exact abandons.uninstalled

/-- A packet that is given up leaves the ledger as it is. -/
theorem Abandons.ledger (h : x.Abandons m e) : x.after.ledger = x.before.ledger := by
  rcases x.ledger_cases with ⟨-, -, ledger⟩ | ⟨r, event, -, -⟩ | ⟨m, elements, forwards, -⟩
  · exact ledger
  · cases h with
    | decided asked =>
      obtain ⟨n, port, packet, rest, -, decides, -⟩ := follows_of_process asked
      cases event.symm.trans decides.event
    | resumed answers => simp [answered?, event] at answers
  · cases h.uninstalled.symm.trans forwards

end Entry

/-! ### Freeing while a flow is installed -/

theorem Entry.forwarded_incoming (asked : .process arrival o ∈ x.calls) (forwards : m ∈ x.forwards) :
    m = o.arrival.incoming := by
  obtain ⟨n, port, packet, rest, -, -, calls, follows⟩ := follows_of_process asked
  rw [Entry.forwards, calls, List.filterMap_cons_none rfl] at forwards
  cases follows with
  | failed _ rest => simp [rest, Trail.calls_freeing, filterMap_ite, List.filterMap_cons, Call.forwarded?] at forwards
  | carriedOut _ course rest => exact course.forwarded_incoming (rest ▸ forwards)

/-- With the exact policy, a flow that an answer brings about is of the match of the packet that waited. -/
theorem Entry.forwarded_resumed (exact : x.answers.widen = Policy.exact.widen) (answers : x.answered? = some token)
    (waits : x.before.parking.waiting.get? token = some p) (forwards : m ∈ x.forwards) : m = p.incoming := by
  obtain ⟨rule, asked, -, -, rfl⟩ := Call.mem_forwarded.1 forwards
  rcases ((goesOn_of_waits answers waits).about _ asked).2 with own | widened
  · exact own
  · rw [widened, exact]
    rfl

/-- With the exact policy, the packet that a flow was installed for is of the flow's match. -/
theorem Run.origin_involves (run : Run config observed past x.before) (exact : x.answers.widen = Policy.exact.widen)
    (forwards : m ∈ x.forwards) (origin : x.origin? past = some y) (took : e ∈ y.elements) : y.Involves m e := by
  cases answers : x.answered? with
  | none =>
    obtain rfl : x = y := by simpa [Entry.origin?, answers] using origin
    obtain ⟨arrival, o, asked, took⟩ := Call.mem_elements.1 took
    exact ⟨arrival, o, asked, (Entry.forwarded_incoming asked forwards).symm, took⟩
  | some token =>
    cases waits : x.before.parking.waiting.get? token with
    | none => simp [Entry.forwards, Entry.calls_unasked answers waits] at forwards
    | some p =>
      obtain ⟨y', n, origin', parks⟩ := run.origin_parks answers waits
      obtain rfl := Option.some.inj (origin.symm.trans origin')
      obtain rfl := Entry.forwarded_resumed exact answers waits forwards
      rw [Entry.elements, parks.2.elements] at took
      -- No element has taken part in deciding on a packet from a tunnel.
      cases parks.suspends with
      | tunnelled => cases took
      | toLocal decides => exact ⟨_, _, decides.asked, rfl, took⟩

/-- An element is told to free its state for a match while the ledger has it under the match, exactly when a packet of
    the match is given up and a flow of the match is installed for a packet that the element took part in deciding on.
    No event both installs a flow and has elements free their state, so that the ledger during the call is the one
    after the event. -/
theorem Run.freed_while_installed_iff (run : Run config observed past x.before)
    (exact : ∀ y ∈ x :: past, y.answers.widen = Policy.exact.widen) (m : HeaderMatch) (e : ElementId) :
    ((∃ answer, .freeFlow e m answer ∈ x.calls) → x.forwards = []) ∧
    ((∃ answer, .freeFlow e m answer ∈ x.calls) ∧
        (∃ elements, x.after.ledger.elements? m = some elements ∧ e ∈ elements) ↔
      x.Abandons m e ∧
        ∃ z earlier y, InstalledSince m past z earlier ∧ z.origin? earlier = some y ∧ y.Involves m e) := by
  refine ⟨fun ⟨_, freed⟩ => Entry.uninstalled_of_freed freed, ?_, ?_⟩
  · rintro ⟨freed, elements, held, mem⟩
    rcases Entry.frees_iff.1 freed with ⟨removes, -⟩ | abandons
    · cases held.symm.trans (Entry.elements?_removed removes).2
    · rw [abandons.ledger] at held
      obtain ⟨z, earlier, y, installed, origin, took⟩ := (run.ledger_members m e).1 (by rwa [held])
      refine ⟨abandons, z, earlier, y, installed, origin, ?_⟩
      obtain ⟨recent, rfl, forwards, -⟩ := installed
      exact run.upTo.origin_involves (exact z (by simp)) forwards origin took
  · rintro ⟨abandons, z, earlier, y, installed, origin, arrival, o, asked, -, took⟩
    have members := (run.ledger_members m e).2
      ⟨z, earlier, y, installed, origin, Call.mem_elements.2 ⟨_, _, asked, took⟩⟩
    refine ⟨Entry.frees_iff.2 (.inr abandons), ?_⟩
    rw [abandons.ledger]
    cases held : x.before.ledger.elements? m with
    | none => simp [held] at members
    | some elements => exact ⟨elements, rfl, by rwa [held] at members⟩

namespace Sample

/-- The first of two packets of a flow has been delivered. -/
def halfDelivered (a : Answers) : History × Controller :=
  handled default a (pair ++ [.addressResolved ⟨0⟩ (some (port 3).mac)])

/-- The answer for the second packet, which the collaborators may give other answers on. -/
def second (a b : Answers) (mac : Option Mac) : Entry := ⟨(halfDelivered a).2, b, .addressResolved ⟨1⟩ mac⟩

theorem run_second (a b : Answers) (mac : Option Mac) :
    Run default false (halfDelivered a).1 (second a b mac).before := by
  rw [second, halfDelivered]
  exact run_handled default a _

theorem exact_second {a b : Answers} (ha : a.widen = Policy.exact.widen) (hb : b.widen = Policy.exact.widen)
    (mac : Option Mac) : ∀ y ∈ second a b mac :: (halfDelivered a).1, y.answers.widen = Policy.exact.widen :=
  List.forall_mem_cons.2 ⟨hb, fun _ hy => (congrArg Answers.widen (answers_replay hy)).trans ha⟩

end Sample

/-- The second packet of a flow is given up since its address is not found, and the flow of the first is still there. -/
theorem freed_while_installed_timedOut :
    let a := Sample.delivering (.ofList [Sample.element 5])
    (Sample.second a a none).Abandons Sample.flow (Sample.element 5) ∧
      ∃ z earlier y, InstalledSince Sample.flow (Sample.halfDelivered a).1 z earlier ∧ z.origin? earlier = some y ∧
        y.Involves Sample.flow (Sample.element 5) := by
  intro a
  have run : Run default false (Sample.halfDelivered a).1 (Sample.second a a none).before := Sample.run_second a a none
  have freed : .freeFlow (Sample.element 5) Sample.flow (.ok ()) ∈ (Sample.second a a none).calls := by decide +kernel
  have held : (Sample.second a a none).after.ledger.elements? Sample.flow = some (.ofList [Sample.element 5]) := by
    decide +kernel
  exact (run.freed_while_installed_iff (Sample.exact_second rfl rfl none) _ _).2.1 ⟨⟨_, freed⟩, _, held, by decide⟩

/-- The switch takes the flow of the first packet and refuses it for the second. The element is then told to free its
    state for a flow that is installed and goes on being used. -/
theorem freed_while_installed_refused :
    let a := Sample.delivering (.ofList [Sample.element 5])
    let x := Sample.second a { a with addRule := fun _ => .error .disconnected } (some (Sample.port 3).mac)
    Run default false (Sample.halfDelivered a).1 x.before ∧
      (∀ y ∈ x :: (Sample.halfDelivered a).1, y.answers.widen = Policy.exact.widen) ∧
      .freeFlow (Sample.element 5) Sample.flow (.ok ()) ∈ x.calls ∧
      x.before.ledger.elements? Sample.flow = some (.ofList [Sample.element 5]) ∧
      x.after.ledger.elements? Sample.flow = some (.ofList [Sample.element 5]) := by
  intro a x
  exact ⟨Sample.run_second .., Sample.exact_second rfl rfl _, by decide +kernel, by decide +kernel, by decide +kernel⟩

end VirtualRouter
