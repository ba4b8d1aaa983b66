import VirtualRouter.Bench.Script
import VirtualRouter.Proofs.Run.Registries

/-! The members of port sets. A port of the switch is in a set from when it joins until it leaves, or until the virtual
    port on it is detached. A host takes part in a set from when it is added until it is removed. A set is declared by
    its first participant and stays so without any. -/

namespace VirtualRouter

/-! ### Operations on the members -/

namespace LocalSlices
variable {s : LocalSlices} {set set' : PortId} {number number' : PortNumber}

/-- The port is in the slice of the set. -/
def Holds (s : LocalSlices) (set : PortId) (number : PortNumber) : Prop := number ∈ (s.slice? set).getD .empty

theorem mem_without {slice : OrderedSet PortNumber} :
    number' ∈ (without number slice).getD .empty ↔ number' ≠ number ∧ number' ∈ slice := by
  unfold without
  cases alone : (slice.erase number).isEmpty with
  | true =>
    have gone : number' ∉ slice.erase number := by
      rw [OrderedSet.isEmpty, List.isEmpty_iff] at alone
      rw [← OrderedSet.mem_toList, alone]
      exact List.not_mem_nil
    rw [OrderedSet.mem_erase] at gone
    simp only [alone, if_true, Option.getD_none, OrderedSet.not_mem_empty, false_iff]
    grind
  | false => simp [alone, and_comm]

theorem holds_join : (s.join set number).1.Holds set' number' ↔ (set' = set ∧ number' = number) ∨ s.Holds set' number' := by
  simp only [Holds, join, slice?, Table.get?_insert]
  by_cases here : set' = set
  · simp [here]
  · simp [here]

theorem holds_leave : (s.leave set number).1.Holds set' number' ↔ ¬(set' = set ∧ number' = number) ∧ s.Holds set' number' := by
  unfold leave Holds
  cases held : s.slice? set with
  | none => grind [OrderedSet.not_mem_empty]
  | some slice =>
    have rest : number' ∈ (without number slice).getD .empty ↔ _ := mem_without
    simp only [slice?] at *
    split <;> simp only [Table.get?_insert, Table.get?_erase] <;> grind

theorem holds_leaveAll : (s.leaveAll number).1.Holds set' number' ↔ number' ≠ number ∧ s.Holds set' number' := by
  simp only [Holds, leaveAll, slice?, Table.get?_filterMap]
  cases s.slices.get? set' with
  | none => simp
  | some slice => exact mem_without

end LocalSlices

namespace Participants
variable {m : Participants} {set set' : PortId} {host host' : Ipv4}

theorem hosts?_add : (m.add set host).hosts? set' =
    if set' = set then some (((m.hosts? set).getD .empty).insert host) else m.hosts? set' :=
  Table.get?_insert ..

theorem hosts?_remove : (m.remove set host).1.hosts? set' =
    if set' = set then (m.hosts? set).map (·.erase host) else m.hosts? set' := by
  unfold remove
  cases held : m.hosts? set with
  | none => grind
  | some hosts => exact Table.get?_insert ..

end Participants

/-! ### Ports that have joined -/

variable {config : Config} {observed : Bool} {history past : History} {c c' : Controller} {x : Entry} {a : Answers}
  {set : PortId} {number : PortNumber} {host : Ipv4} {trail : Trail} {initially : Participants}

/-- The event detaches the virtual port on a number. -/
def Entry.Vacates (x : Entry) (number : PortNumber) : Prop :=
  ∃ port, x.event = .portDetached port.id ∧ x.before.ports.byId port.id = some port ∧ port.number = number

/-- The port has joined the set, and since then it has not left it, nor has a virtual port on its number been detached. -/
def History.Joined (history : History) (set : PortId) (number : PortNumber) : Prop :=
  history.Since (fun x => x.event = .portJoined set number) fun x =>
    x.event = .portLeft set number ∨ x.Vacates number

theorem Run.joined_iff (run : Run config observed history c) : c.slices.Holds set number ↔ history.Joined set number := by
  refine run.since_iff (P := fun c => c.slices.Holds set number) (fun held => OrderedSet.not_mem_empty held)
    (fun _ _ => .rfl) fun past x run => ?_
  rw [x.slices_after]
  cases event : x.event with
  | portJoined set' number' =>
    simp only [LocalSlices.holds_join, Entry.Vacates, event, Event.portJoined.injEq]
    grind
  | portLeft set' number' =>
    simp only [LocalSlices.holds_leave, Entry.Vacates, event, Event.portLeft.injEq]
    grind
  | portDetached id =>
    simp only [Entry.Vacates, event]
    cases held : x.before.ports.byId id with
    | none => grind
    | some port =>
      have own : port.id = id := ((run.byId_iff id port).1 held).1
      simp only [Option.elim_some, LocalSlices.holds_leaveAll]
      grind
  | _ => simp [Entry.Vacates, event]

/-! ### Hosts that take part -/

/-- The call changes the hosts of a port set. -/
def Call.isParticipation : Call → Bool
  | addParticipant _ _ | removeParticipant _ _ => true
  | _ => false

theorem membershipAfter_apart (m : Participants) {calls : List Call} (apart : calls.filter Call.isParticipation = []) :
    calls.foldl Bench.membershipAfter m = m := by
  induction calls with
  | nil => rfl
  | cons call calls ih =>
    cases call with
    | addParticipant | removeParticipant => cases apart
    | _ => exact ih apart

namespace Course

theorem CarriesOut.apart {d : DecidedPacket} {v : Verdict} (course : CarriesOut a c d v c' trail) :
    trail.calls.filter Call.isParticipation = [] := by
  cases course <;> simp [Call.isParticipation, Trail.calls_freeing, Trail.calls_announce]

theorem Arrives.apart {n : PacketIn} (course : Arrives a c n c' trail) : trail.calls.filter Call.isParticipation = [] := by
  cases course with
  | decided _ _ _ _ _ course => simpa [Call.isParticipation] using course.apart
  | _ => simp [Call.isParticipation, Trail.calls_freeing]

theorem Resumes.apart {p : ParkedPacket} {mac : Option Mac} (course : Resumes a c p mac c' trail) :
    trail.calls.filter Call.isParticipation = [] := by
  cases course <;> simp [Call.isParticipation, Trail.calls_freeing, Trail.calls_announce]

end Course

/-- The participants of the port sets after a history, in memory. -/
def History.membership (initially : Participants) : History → Participants
  | [] => initially
  | x :: past => x.calls.foldl Bench.membershipAfter (History.membership initially past)

theorem membership_cons : History.membership initially (x :: past) =
    match x.event with
    | .participantAdded set host => (History.membership initially past).add set host
    | .participantRemoved set host => ((History.membership initially past).remove set host).1
    | _ => History.membership initially past := by
  obtain ⟨c', trail, course, -, calls⟩ := x.course
  rw [History.membership, calls]
  generalize x.event = e at course
  cases course with
  | arrives course => exact membershipAfter_apart _ course.apart
  | resumes _ course => exact membershipAfter_apart _ course.apart
  | removed =>
    refine membershipAfter_apart _ ?_
    simp [Call.isParticipation]
  | attached =>
    refine membershipAfter_apart _ ?_
    simp [Call.isParticipation]
  | _ => rfl

/-- The set was declared at first, or a host has been added to it. -/
def History.Declared (initially : Participants) (history : History) (set : PortId) : Prop :=
  (initially.hosts? set).isSome = true ∨ ∃ x ∈ history, ∃ host, x.event = .participantAdded set host

/-- The host has been added to the set and not been removed since, or it took part at first and was never removed. -/
def History.Participates (initially : Participants) (history : History) (set : PortId) (host : Ipv4) : Prop :=
  (history.Since (fun x => x.event = .participantAdded set host) fun x => x.event = .participantRemoved set host) ∨
    host ∈ (initially.hosts? set).getD .empty ∧ ∀ x ∈ history, x.event ≠ .participantRemoved set host

theorem declared_iff :
    ((history.membership initially).hosts? set).isSome = true ↔ history.Declared initially set := by
  induction history with
  | nil => simp [History.membership, History.Declared]
  | cons x past ih =>
    have cons : History.Declared initially (x :: past) set ↔
        (∃ host, x.event = .participantAdded set host) ∨ History.Declared initially past set := by
      simp only [History.Declared, List.mem_cons, exists_eq_or_imp]
      grind
    rw [cons, ← ih, membership_cons]
    cases event : x.event with
    | participantAdded set' host' =>
      simp only [Participants.hosts?_add, Event.participantAdded.injEq]
      grind
    | participantRemoved set' host' =>
      simp only [Participants.hosts?_remove]
      grind
    | _ => simp

theorem participates_iff :
    host ∈ ((history.membership initially).hosts? set).getD .empty ↔ history.Participates initially set host := by
  refine since_or_initially (P := fun history => host ∈ ((history.membership initially).hosts? set).getD .empty)
    (fun x past => ?_) history
  rw [membership_cons]
  cases event : x.event with
  | participantAdded set' host' =>
    simp only [Participants.hosts?_add, Event.participantAdded.injEq]
    by_cases here : set = set'
    · simp [here, eq_comm]
    · simp [here, Ne.symm here]
  | participantRemoved set' host' =>
    simp only [Participants.hosts?_remove, Event.participantRemoved.injEq]
    by_cases here : set = set'
    · subst here
      cases (History.membership initially past).hosts? set <;> simp [eq_comm, and_comm]
    · simp [here, Ne.symm here]
  | _ => simp

end VirtualRouter
