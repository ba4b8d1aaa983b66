import VirtualRouter.Proofs.Handling.Conclusion

/-! Runs of the controller. A history holds the events that a controller has handled, the latest one first, each with
    the controller before it and the answers that the collaborators gave meanwhile. Between events the service target
    may be set. -/

namespace VirtualRouter

/-- An event that was handled. -/
structure Entry where
  before : Controller
  answers : Answers
  event : Event

namespace Entry

def after (x : Entry) : Controller := (x.before.step x.answers x.event).controller

/-- The calls made while the event was handled. -/
def calls (x : Entry) : List Call := (x.before.step x.answers x.event).calls

def requests (x : Entry) : List Call := x.calls.filter Call.isRequest

/-- The tokens that the resolver was asked under. -/
def asks (x : Entry) : List Token := x.calls.filterMap Call.token?

/-- The token that the event answers. -/
def answered? (x : Entry) : Option Token :=
  match x.event with
  | .addressResolved token _ => some token
  | _ => none

/-- The matches of the forwarding rules that the switch took. -/
def forwards (x : Entry) : List HeaderMatch := x.calls.filterMap Call.forwarded?

def frees (x : Entry) : List ElementId := x.calls.filterMap Call.freed?

/-- The elements that took part in deciding on the packet of the event. -/
def elements (x : Entry) : List ElementId := Call.elements x.calls

/-- The elements that were left with state for the packet of the event. -/
def owed (x : Entry) : List ElementId := Call.owed x.calls

/-- The event says that the rule of a match is gone. -/
def Removes (x : Entry) (m : HeaderMatch) : Prop := ∃ r, x.event = .flowRemoved r ∧ r.pattern = m

/-- The packet of the event waits for the address of its next hop. -/
def Parks (x : Entry) (n : PacketIn) (p : ParkedPacket) : Prop :=
  x.event = .packetIn n ∧ Parked n p x.before x.after.parking x.after.ledger x.calls

theorem dealing (x : Entry) : Dealing x.before x.after.parking x.after.ledger x.calls x.event :=
  x.before.step_dealing x.answers x.event

/-- The event was handled in one of the ways to handle it. -/
theorem course (x : Entry) : ∃ c' trail, Course.Handles x.answers x.before x.event c' trail ∧
    x.after = c'.counting trail.counts ∧ x.calls = trail.calls := by
  obtain ⟨c', trail, course, eq⟩ := Course.step_course x.answers x.before x.event
  exact ⟨c', trail, course, congrArg Turn.controller eq, congrArg Turn.calls eq⟩

/-- The simulation is asked before anything else is done. -/
theorem decided_first (x : Entry) : x.calls.tail.filterMap Call.outcome? = [] := by
  have undecided : x.calls.filterMap Call.outcome? = [] → x.calls.tail.filterMap Call.outcome? = [] :=
    fun h => List.filterMap_eq_nil_iff.2 fun _ hc => List.filterMap_eq_nil_iff.1 h _ (List.mem_of_mem_tail hc)
  generalize he : x.event = e
  cases he ▸ x.dealing with
  | parked parked => exact parked.first
  | astray _ _ _ _ nothing => simp [nothing]
  | concluded _ _ first => exact first
  | resumed _ _ h => exact undecided h
  | unasked _ _ _ nothing => simp [nothing]
  | removed _ _ _ _ _ _ h => exact undecided h
  | apart _ _ _ quiet => exact undecided quiet.undecided

end Entry

abbrev History := List Entry

/-- The tokens that the resolver was asked under, the latest first. -/
def History.asked (history : History) : List Token := history.flatMap Entry.asks

/-- The histories of a controller, with the controller that each leads to. -/
inductive Run (config : Config) (observed : Bool) : History → Controller → Prop
  | initial : Run config observed [] (.initial config observed)
  | retarget {history : History} {c : Controller} (number : PortNumber) (run : Run config observed history c) :
      Run config observed history (c.withServiceTarget number)
  | handle {history : History} {c : Controller} (a : Answers) (e : Event) (run : Run config observed history c) :
      Run config observed (⟨c, a, e⟩ :: history) (c.step a e).controller

namespace Run
variable {config : Config} {observed : Bool} {history recent past : History} {c : Controller} {x : Entry}

/-- The latest event of a run was handled at the end of the run before it, and nothing but the service target has
    changed since. -/
theorem cons_inv (run : Run config observed (x :: past) c) :
    Run config observed past x.before ∧ c.parking = x.after.parking ∧ c.ledger = x.after.ledger := by
  generalize whole : x :: past = history at run
  induction run with
  | initial => cases whole
  | retarget number run ih =>
    obtain ⟨earlier, parking, ledger⟩ := ih whole
    exact ⟨earlier, parking, ledger⟩
  | handle a e run =>
    cases whole
    exact ⟨run, rfl, rfl⟩

/-- The run up to an event of the history. -/
theorem upTo (run : Run config observed (recent ++ x :: past) c) : Run config observed past x.before := by
  induction recent generalizing c with
  | nil => exact run.cons_inv.1
  | cons y recent ih => exact ih run.cons_inv.1

end Run

/-! ### Replaying -/

/-- Handles events in turn, each with the answers given for it. -/
def replay (s : History × Controller) : List (Answers × Event) → History × Controller
  | [] => s
  | (a, e) :: rest => replay (⟨s.2, a, e⟩ :: s.1, (s.2.step a e).controller) rest

/-- Events can come in any order, and the collaborators can give any answers. -/
theorem Run.replay {config : Config} {observed : Bool} {s : History × Controller} (run : Run config observed s.1 s.2)
    (inputs : List (Answers × Event)) :
    Run config observed (VirtualRouter.replay s inputs).1 (VirtualRouter.replay s inputs).2 := by
  induction inputs generalizing s with
  | nil => exact run
  | cons input inputs ih => exact ih (s := (⟨s.2, input.1, input.2⟩ :: s.1, _)) (.handle input.1 input.2 run)

/-- The events that were handled are the given ones, with the given answers. -/
theorem mem_replay {s : History × Controller} {inputs : List (Answers × Event)} {x : Entry}
    (h : x ∈ (VirtualRouter.replay s inputs).1) : x ∈ s.1 ∨ (x.answers, x.event) ∈ inputs := by
  induction inputs generalizing s with
  | nil => exact .inl h
  | cons input inputs ih =>
    rcases ih h with latest | later
    · rcases List.mem_cons.1 latest with rfl | earlier
      · exact .inr List.mem_cons_self
      · exact .inl earlier
    · exact .inr (List.mem_cons_of_mem _ later)

theorem answers_replay {c : Controller} {a : Answers} {events : List Event} {x : Entry}
    (h : x ∈ (VirtualRouter.replay ([], c) (events.map (a, ·))).1) : x.answers = a := by
  rcases mem_replay h with none | input
  · cases none
  · obtain ⟨e, -, same⟩ := List.mem_map.1 input
    exact (Prod.mk.inj same).1.symm

namespace Sample

/-- Collaborators that take or refuse every rule and otherwise fail in nothing, with the same verdict and elements for
    every packet. -/
def answers (rules : Except DatapathError Unit) (verdict : Verdict) (elements : ElementSet := .empty) : Answers where
  addRule _ := rules
  sendPacket _ _ _ _ := .ok ()
  freeBuffer _ := .ok ()
  process arrival := ⟨.ok verdict, arrival, arrival.incoming, elements⟩
  freeFlow _ _ := .ok ()
  addPort _ := .ok ()
  removePort _ := .ok ()
  participants _ := none
  widen _ m := m

def element (k : Nat) : ElementId := ⟨.ofNat k⟩

def port (k : Nat) : VirtualPort :=
  { id := ⟨.ofNat k⟩, number := ⟨.ofNat k⟩, mac := ⟨2, 0, 0, 0, 0, .ofNat k⟩, device := element 0 }

/-- A packet without IPv4 to the first port, which it comes in by. -/
def notice (buffer : Buffer) : PacketIn := .whole buffer ⟨1⟩ [2, 0, 0, 0, 0, 1, 2, 0, 0, 0, 0, 9, 0x88, 0xcc]

def flow : HeaderMatch where
  inPort := some ⟨1⟩
  dlSrc := some ⟨2, 0, 0, 0, 0, 9⟩
  dlDst := some ⟨2, 0, 0, 0, 0, 1⟩
  dlType := some 0x88cc

variable (a : Answers) (buffer : Buffer)

def attached : History × Controller :=
  replay ([], .initial default false) [(a, .portAttached (port 1)), (a, .portAttached (port 2))]

def arrived : Entry := ⟨(attached a).2, a, .packetIn (notice buffer)⟩

/-- The first address that is asked for has been found. -/
def resolved : Entry := ⟨(arrived a buffer).after, a, .addressResolved ⟨0⟩ (some (port 3).mac)⟩

def removed : Entry := ⟨(resolved a buffer).after, a, .flowRemoved { pattern := flow }⟩

theorem run_arrived : Run default false (arrived a buffer :: (attached a).1) (arrived a buffer).after :=
  .handle a _ (Run.replay .initial _)

theorem run_resolved :
    Run default false (resolved a buffer :: arrived a buffer :: (attached a).1) (resolved a buffer).after :=
  .handle a _ (run_arrived a buffer)

theorem run_removed :
    Run default false (removed a buffer :: resolved a buffer :: arrived a buffer :: (attached a).1)
      (removed a buffer).after :=
  .handle a _ (run_resolved a buffer)

/-- Collaborators with which the packet goes from the first port to the second. -/
def delivering (elements : ElementSet) : Answers := answers (.ok ()) (.forward (port 2).id .localhost) elements

/-- Settings with which rules are as wide as can be. -/
def wide : Config := { flows.wildcards := true }

/-- The same collaborators, with the policy that the settings ask for. -/
def follow (config : Config) (a : Answers) : Answers := { a with widen := config.flows.policy.widen }

/-- Events have been handled in turn, with the same answers throughout. -/
def handled (config : Config) (a : Answers) (events : List Event) : History × Controller :=
  replay ([], .initial config false) (events.map (a, ·))

theorem run_handled (config : Config) (a : Answers) (events : List Event) :
    Run config false (handled config a events).1 (handled config a events).2 :=
  Run.replay .initial _

/-- Two packets of one flow have come in. -/
def pair : List Event :=
  [.portAttached (port 1), .portAttached (port 2), .packetIn (notice ⟨7⟩), .packetIn (notice ⟨8⟩)]

end Sample

end VirtualRouter
