import VirtualRouter.Proofs.Daemon.Service
import VirtualRouter.Proofs.Run.Waiting

/-! Every request for an address is answered once. The answers that the controller has handled and those on their way are
    those to its requests, one for each, until the daemon stops and the answers on their way are lost. A packet waits under
    a token as long as the answer under this token is on its way. -/

namespace VirtualRouter

/-! ### Known neighbours -/

/-- With one neighbour for an address at most, a next hop has the Ethernet address that the settings say and no other. -/
theorem ResolutionSettings.lookup_eq_some_iff {s : ResolutionSettings} {nextHop : Ipv4} {mac : Mac}
    (distinct : (s.neighbors.map (·.address)).Nodup) : s.lookup nextHop = some mac ↔ ⟨nextHop, mac⟩ ∈ s.neighbors := by
  unfold lookup
  rw [Option.map_eq_some_iff]
  constructor
  · rintro ⟨⟨address, m⟩, found, rfl⟩
    obtain rfl : address = nextHop := by simpa using List.find?_some found
    exact List.mem_reverse.1 (List.mem_of_find?_eq_some found)
  · intro known
    cases found : s.neighbors.reverse.find? (·.address = nextHop) with
    | none => exact absurd (List.find?_eq_none.1 found _ (List.mem_reverse.2 known)) (by simp)
    | some neighbor =>
      obtain rfl : neighbor.address = nextHop := by simpa using List.find?_some found
      have pairs : ((s.neighbors.map fun n => (n.address, n.mac)).map Prod.fst).Nodup := by
        rw [List.map_map]
        exact distinct
      have listed := List.mem_reverse.1 (List.mem_of_find?_eq_some found)
      exact ⟨neighbor, rfl, Table.value_unique pairs (List.mem_map_of_mem listed) (List.mem_map_of_mem known)⟩

/-! ### One answer for each request -/

theorem Entry.asks_eq (x : Entry) : x.asks = x.queries.map Prod.fst := by
  rw [asks, queries, List.map_filterMap]
  exact congrArg (fun f => x.calls.filterMap f) (funext fun c => by cases c <;> rfl)

theorem History.asked_eq (history : History) : history.asked = history.queries.map Prod.fst := by
  rw [asked, queries, List.map_flatMap]
  exact congrArg (fun f => history.flatMap f) (funext Entry.asks_eq)

theorem History.answers_cons (x : Entry) (history : History) :
    History.answers (x :: history) = x.event.answer?.toList ++ history.answers := by
  cases answer : x.event.answer? <;> simp [answers, answer]

namespace Service
variable {config : Config} {observed : Bool} {history : History} {d : Daemon}

/-- The answers on their way, those that were lost when the daemon stopped and those that were handled are the answers to
    all requests. -/
theorem replies (service : Service config observed history d) : ∃ lost,
    (d.inFlight ++ (lost ++ history.answers)).Perm (history.queries.map config.resolution.reply) ∧
      (d.stopped = false → lost = []) := by
  induction service with
  | initial run => exact ⟨[], .nil, fun _ => rfl⟩
  | sent e outside service accepted ih =>
    rw [Daemon.inFlight_send outside accepted]
    obtain ⟨-, rfl⟩ := Daemon.send?_inv accepted
    exact ih
  | answered task service accepted ih =>
    obtain ⟨lost, replied, kept⟩ := ih
    have moved := Daemon.inFlight_answer accepted
    obtain ⟨-, -, rfl⟩ := Daemon.answer?_inv accepted
    exact ⟨lost, (moved.append_right _).trans replied, kept⟩
  | @handled history d d' e rest calls a service next taken ih =>
    obtain ⟨lost, replied, kept⟩ := ih
    have queries : History.queries (⟨d.controller, a, e⟩ :: history) =
        (d.controller.step a e).calls.filterMap Call.query? ++ history.queries := List.flatMap_cons ..
    rw [queries, List.map_append, History.answers_cons]
    obtain rfl | ⟨rfl, rfl⟩ := Daemon.take?_inv next taken
    · refine ⟨lost, ?_, kept⟩
      have handled := Daemon.inFlight_handle next (d.controller.step a e).controller
        ((d.controller.step a e).calls.flatMap (d.resolver.start d.clock))
      rw [service.resolver, Resolver.answers_start] at handled
      rw [service.resolver]
      -- The answer at the head of the queue goes over to those that were handled, and the new ones join those in flight.
      rw [List.perm_iff_count] at replied ⊢
      intro reply
      have before := replied reply
      have moved := congrArg (List.count reply) handled
      simp only [List.count_append] at before moved ⊢
      omega
    · have silent : (d.controller.step a .shutdown).calls = [] := rfl
      have nothing : Event.shutdown.answer? = none := rfl
      refine ⟨d.inFlight ++ lost, ?_, nofun⟩
      simpa [Daemon.inFlight, silent, nothing] using replied
  | waited clock service ih => exact ih

end Service

/-! ### Waiting packets -/

theorem Entry.answered?_eq (x : Entry) : x.answered? = x.event.answer?.map Prod.fst := by
  unfold answered?
  cases x.event <;> rfl

/-- The tokens under which packets wait change by those that are asked under and answered, as long as these are new and
    those known. -/
theorem Entry.keys_balance (x : Entry) (new : ∀ token ∈ x.asks, x.before.parking.contains token = false)
    (known : ∀ token ∈ x.answered?, x.before.parking.contains token = true) :
    (x.answered?.toList ++ x.after.parking.waiting.keys).Perm (x.before.parking.waiting.keys ++ x.asks) := by
  have kept (asks : x.asks = []) (parking : x.after.parking = x.before.parking) (unanswered : x.answered? = none) :
      (x.answered?.toList ++ x.after.parking.waiting.keys).Perm (x.before.parking.waiting.keys ++ x.asks) := by
    rw [asks, parking, unanswered, List.append_nil]
    exact .refl _
  -- Only where a packet is parked or taken out do the keys change.
  generalize he : x.event = e
  have answered : x.answered? = e.answer?.map Prod.fst := he ▸ x.answered?_eq
  cases he ▸ x.dealing with
  | @parked n p parked =>
    have asks : x.asks = [x.before.parking.nextToken] := parked.tokens
    have keys : x.after.parking.waiting.keys = x.before.parking.nextToken :: x.before.parking.waiting.keys := by
      rw [parked.parking]
      exact Table.keys_insert_of_absent p (new _ (asks ▸ List.mem_singleton_self _))
    rw [answered, asks, keys]
    exact (List.perm_append_singleton ..).symm
  | astray _ _ parking _ nothing => exact kept (by simp [asks, nothing]) parking answered
  | concluded _ _ _ parking conclusion => exact kept conclusion.tokens parking answered
  | @resumed token _ _ _ parking _ conclusion =>
    have asks : x.asks = [] := conclusion.tokens
    rw [answered, asks, parking, List.append_nil]
    exact Table.keys_erase_perm (known token (by rw [answered]; rfl))
  | @unasked token _ absent =>
    have waits := known token (by rw [answered]; rfl)
    rw [Parking.contains, Table.contains, absent] at waits
    cases waits
  | removed parking _ tokens => exact kept tokens parking answered
  | apart lifecycle parking _ quiet =>
    refine kept quiet.tokens parking (answered.trans ?_)
    cases e <;> first | rfl | cases lifecycle

theorem Run.parking_nil {config : Config} {observed : Bool} {c : Controller} (run : Run config observed [] c) :
    c.parking = {} := by
  generalize none : ([] : History) = history at run
  induction run with
  | initial => rfl
  | retarget number run ih => exact ih none
  | handle => cases none

/-- A token that is asked under is not that of a waiting packet while there are others. -/
theorem Run.asks_new {config : Config} {observed : Bool} {past : History} {x : Entry} {token : Token}
    (run : Run config observed past x.before) (few : (History.asked (x :: past)).length < UInt64.size)
    (asks : token ∈ x.asks) : x.before.parking.contains token = false := by
  refine Bool.eq_false_iff.2 fun waits => ?_
  obtain ⟨p, waits⟩ := Option.isSome_iff_exists.1 waits
  obtain ⟨recent, y, earlier, n, rfl, -, own, -⟩ := run.waiting_parked waits
  have run : Run config observed ((x :: recent) ++ y :: earlier) x.after := .handle x.answers x.event run
  exact run.fresh few (own ▸ List.mem_singleton_self token) x List.mem_cons_self asks

namespace Service
variable {config : Config} {observed : Bool} {history : History} {d : Daemon}

/-- The tokens of the answers on their way change by those that are asked under and answered, unless the daemon stops. -/
theorem tokens_handle {d' : Daemon} {e : Event} {rest : List Event} {calls : List Call} {a : Answers}
    (service : Service config observed history d) (next : d.queue = e :: rest) (taken : d.take? a = some (d', calls))
    (going : d'.stopped = false) :
    (Entry.answered? ⟨d.controller, a, e⟩).toList ++ d'.inFlight.map Prod.fst =
      d.inFlight.map Prod.fst ++ Entry.asks ⟨d.controller, a, e⟩ := by
  obtain rfl | ⟨-, rfl⟩ := Daemon.take?_inv next taken
  · have handled := congrArg (List.map Prod.fst) (Daemon.inFlight_handle next (d.controller.step a e).controller
      ((d.controller.step a e).calls.flatMap (d.resolver.start d.clock)))
    rw [service.resolver, Resolver.answers_start, List.map_append, List.map_append, List.map_map] at handled
    rw [Entry.answered?_eq, Entry.asks_eq, service.resolver]
    refine Eq.trans ?_ handled
    cases e.answer? <;> rfl
  · cases going

/-- As long as the daemon goes on, packets wait under the tokens of the answers on their way. No answer is handled that
    no packet waits for. -/
theorem waiting (service : Service config observed history d) (few : history.asked.length < UInt64.size) :
    (d.stopped = false → (d.inFlight.map Prod.fst).Perm d.controller.parking.waiting.keys) ∧
      ∀ x ∈ history, ∀ token ∈ x.answered?, x.before.parking.contains token = true := by
  induction service with
  | @initial c run =>
    refine ⟨fun _ => ?_, List.forall_mem_nil _⟩
    show List.Perm [] c.parking.waiting.keys
    rw [run.parking_nil]
    exact .nil
  | sent e outside service accepted ih =>
    rw [Daemon.inFlight_send outside accepted]
    obtain ⟨-, rfl⟩ := Daemon.send?_inv accepted
    exact ih few
  | answered task service accepted ih =>
    have moved := (Daemon.inFlight_answer accepted).map Prod.fst
    obtain ⟨-, -, rfl⟩ := Daemon.answer?_inv accepted
    exact ⟨fun going => moved.trans ((ih few).1 going), (ih few).2⟩
  | @handled history d d' e rest calls a service next taken ih =>
    let x : Entry := ⟨d.controller, a, e⟩
    have asked : History.asked (x :: history) = x.asks ++ history.asked := List.flatMap_cons ..
    have going : d.stopped = false := by
      refine Bool.eq_false_iff.2 fun ended => ?_
      cases next.symm.trans (service.queue_of_stopped ended)
    obtain ⟨balanced, earlier⟩ := ih (by rw [asked, List.length_append] at few; omega)
    have known : ∀ token ∈ x.answered?, x.before.parking.contains token = true := by
      intro token answered
      -- The event is the head of the queue, so that its answer was in flight.
      refine Table.contains_iff.2 ((balanced going).mem_iff.1 ?_)
      rw [x.answered?_eq] at answered
      obtain ⟨reply, answer, rfl⟩ := Option.map_eq_some_iff.1 answered
      exact List.mem_map_of_mem (Daemon.mem_inFlight_of_next next answer)
    refine ⟨fun going' => ?_, List.forall_mem_cons.2 ⟨known, earlier⟩⟩
    have keys := x.keys_balance (fun token asks => service.run.asks_new few asks) known
    have tokens := service.tokens_handle next taken going'
    have after : d'.controller = x.after := by
      obtain rfl | ⟨-, rfl⟩ := Daemon.take?_inv next taken <;> rfl
    rw [after]
    have balance : (x.answered?.toList ++ d'.inFlight.map Prod.fst).Perm
        (x.answered?.toList ++ x.after.parking.waiting.keys) := by
      rw [tokens]
      exact ((balanced going).append_right x.asks).trans keys.symm
    exact (List.perm_append_left_iff _).1 balance
  | waited clock service ih => exact ih few

/-- No request is answered twice. -/
theorem tokens_nodup (service : Service config observed history d) (few : history.asked.length < UInt64.size) :
    ((d.inFlight ++ history.answers).map Prod.fst).Nodup := by
  obtain ⟨lost, replied, -⟩ := service.replies
  have asked : ((d.inFlight ++ (lost ++ history.answers)).map Prod.fst).Perm history.asked := by
    have tokens := replied.map Prod.fst
    rw [List.map_map] at tokens
    rw [history.asked_eq]
    exact tokens
  have nodup := asked.nodup_iff.2 (service.run.asked_nodup few)
  exact nodup.sublist (((List.sublist_append_right lost _).append_left _).map _)

/-- As long as the daemon goes on, the packets that wait are those whose answers are on their way, one packet for each
    answer. No token is answered twice, and none that no packet waits under. Each answer is to the one request under its
    token. With settings that can be used, it gives the address that they have for the next hop, if they have one. -/
theorem resolutions_answered (service : Service config observed history d) (few : history.asked.length < UInt64.size) :
    (d.stopped = false → (d.inFlight.map Prod.fst).Perm d.controller.parking.waiting.keys) ∧
    ((d.inFlight ++ history.answers).map Prod.fst).Nodup ∧
    (∀ x ∈ history, ∀ token mac, x.event = .addressResolved token mac → x.before.parking.contains token = true) ∧
    ∀ token mac, (token, mac) ∈ d.inFlight ++ history.answers →
      ∃ nextHop, (token, nextHop) ∈ history.queries ∧ (∀ other, (token, other) ∈ history.queries → other = nextHop) ∧
        (config.validate = .ok () → ∀ m, mac = some m ↔ ⟨nextHop, m⟩ ∈ config.resolution.neighbors) := by
  refine ⟨(service.waiting few).1, service.tokens_nodup few, fun x mem token mac event => ?_, fun token mac answer => ?_⟩
  · exact (service.waiting few).2 x mem token (by rw [x.answered?_eq, event]; rfl)
  · obtain ⟨lost, replied, -⟩ := service.replies
    have among : (token, mac) ∈ d.inFlight ++ (lost ++ history.answers) :=
      ((List.sublist_append_right lost _).append_left _).subset answer
    obtain ⟨⟨token', nextHop⟩, asked, reply⟩ := List.mem_map.1 (replied.mem_iff.1 among)
    cases reply
    have distinct : (history.queries.map Prod.fst).Nodup := history.asked_eq ▸ service.run.asked_nodup few
    exact ⟨nextHop, asked, fun other again => Table.value_unique distinct again asked,
      fun valid m => ResolutionSettings.lookup_eq_some_iff (Config.nodup_of_validate valid)⟩

end Service

/-! ### A known neighbour -/

namespace Sample

def neighborly : Config := { resolution.neighbors := [⟨⟨10, 0, 0, 1⟩, (port 3).mac⟩] }

def seeking : Answers := answers (.ok ()) (.forward (port 2).id ⟨10, 0, 0, 1⟩)

/-- What the task for the first request answers. -/
def found : Token × Option Mac := (⟨0⟩, some (port 3).mac)

/-- A packet has come in to a daemon with two ports, and the address of its next hop is asked for. The task has the answer
    at first, then it stands in the queue, and then it is handled. -/
theorem service_seeking : ∃ past asked sent history answered,
    (Service neighborly false past asked ∧ asked.stopped = false ∧ asked.queue = [] ∧ asked.inFlight = [found]) ∧
    (Service neighborly false past sent ∧ sent.stopped = false ∧ sent.tasks = [] ∧ sent.inFlight = [found]) ∧
    (Service neighborly false history answered ∧ answered.stopped = false ∧ answered.inFlight = [] ∧
      ∃ x, history = x :: past ∧ x.event = .addressResolved found.1 found.2) ∧
    past.asked = [found.1] ∧ history.asked = [found.1] := by
  have start := Service.initial (.initial : Run neighborly false [] _)
  have first := (start.sent (.portAttached (port 1)) rfl rfl).handled seeking rfl rfl
  have second := (first.sent (.portAttached (port 2)) rfl rfl).handled seeking rfl rfl
  have came := (second.sent (.packetIn (notice .unbuffered)) rfl rfl).handled seeking rfl rfl
  have sent := came.answered ⟨found.1, found.2, 0⟩ rfl
  have answered := sent.handled seeking rfl rfl
  exact ⟨_, _, _, _, _, ⟨came, rfl, rfl, by decide +kernel⟩, ⟨sent, rfl, by decide +kernel, by decide +kernel⟩,
    ⟨answered, rfl, by decide +kernel, _, rfl, rfl⟩, by decide +kernel, by decide +kernel⟩

end Sample

/-- The packet waits for the answer while the task has it and while it stands in the queue, until it is handled and no longer.
    The answer has given the neighbour's address. -/
theorem resolutions_answered_seeking : ∃ past asked sent history answered,
    (Service Sample.neighborly false past asked ∧ asked.queue = [] ∧ Sample.found ∈ asked.inFlight ∧
      asked.controller.parking.contains Sample.found.1 = true) ∧
    (Service Sample.neighborly false past sent ∧ sent.tasks = [] ∧ Sample.found ∈ sent.inFlight ∧
      sent.controller.parking.contains Sample.found.1 = true) ∧
    (Service Sample.neighborly false history answered ∧ Sample.found ∈ history.answers ∧
      (∃ x ∈ history, x.event = .addressResolved Sample.found.1 Sample.found.2 ∧
        x.before.parking.contains Sample.found.1 = true) ∧
      answered.controller.parking.contains Sample.found.1 = false) ∧
    ∃ nextHop, (Sample.found.1, nextHop) ∈ history.queries ∧
      ⟨nextHop, (Sample.port 3).mac⟩ ∈ Sample.neighborly.resolution.neighbors := by
  obtain ⟨past, asked, sent, history, answered, ⟨asks, asking, unsent, before⟩, ⟨sends, sending, idle, during⟩,
    ⟨handles, going, after, x, extended, event⟩, first, only⟩ := Sample.service_seeking
  have few {history : History} (one : history.asked = [Sample.found.1]) : history.asked.length < UInt64.size := by
    rw [one]
    decide
  have valid : Sample.neighborly.validate = .ok () := by decide +kernel
  have latest : x ∈ history := extended ▸ List.mem_cons_self
  have answer : Sample.found ∈ history.answers := List.mem_filterMap.2 ⟨x, latest, by rw [event]; rfl⟩
  have early : Sample.found ∈ asked.inFlight := by simp [before]
  have late : Sample.found ∈ sent.inFlight := by simp [during]
  obtain ⟨parked, -, -, -⟩ := Service.resolutions_answered asks (few first)
  obtain ⟨kept, -, -, -⟩ := Service.resolutions_answered sends (few first)
  obtain ⟨left, -, known, answers⟩ := Service.resolutions_answered handles (few only)
  obtain ⟨nextHop, query, -, gives⟩ := answers _ _ (List.mem_append_right _ answer)
  refine ⟨past, asked, sent, history, answered, ⟨asks, unsent, early, ?_⟩, ⟨sends, idle, late, ?_⟩,
    ⟨handles, answer, ⟨x, latest, event, known x latest _ _ event⟩, ?_⟩, nextHop, query, (gives valid _).1 rfl⟩
  · exact Table.contains_iff.2 ((parked asking).mem_iff.1 (List.mem_map_of_mem early))
  · exact Table.contains_iff.2 ((kept sending).mem_iff.1 (List.mem_map_of_mem late))
  · refine Bool.eq_false_iff.2 fun waits => ?_
    have flying := (left going).mem_iff.2 (Table.contains_iff.1 waits)
    rw [after] at flying
    cases flying

end VirtualRouter
