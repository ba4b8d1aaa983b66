import VirtualRouter.Proofs.Run.History

/-! What the registries hold along a run. Packets, answers of the resolver and reports of the switch leave the attached
    ports, the tunnels and the slices of the port sets as they are, and every other event is one operation on one or two of
    them. What an event brings about there stands until a later event undoes it, so that a registry holds exactly what has
    been brought about and not been undone since. -/

namespace VirtualRouter

variable {config : Config} {observed : Bool} {history past : History} {c c' : Controller} {x y : Entry} {a : Answers}
  {trail : Trail}

/-! ### Attaching and detaching ports -/

namespace PortTable
variable {t t' : PortTable} {port port' : VirtualPort} {id : PortId} {fault : Fault}

theorem byId_attach (fits : t.attach port = .ok t') (id : PortId) :
    t.byId port.id = none ∧ t'.byId id = if id = port.id then some port else t.byId id := by
  unfold attach at fits
  split at fits
  · cases fits
  rename_i new
  split at fits
  · cases fits
  cases fits
  refine ⟨?_, Table.get?_insert ..⟩
  simpa [Table.contains, byId] using new

theorem detach_inv (found : t.detach id = .ok (t', port)) :
    t.byId id = some port ∧ ∀ other, t'.byId other = if other = id then none else t.byId other := by
  unfold detach at found
  split at found
  · rename_i held
    cases found
    exact ⟨held, fun _ => Table.get?_erase ..⟩
  · cases found

theorem byId_of_undetached (absent : t.detach id = .error fault) : t.byId id = none := by
  unfold detach at absent
  split at absent
  · cases absent
  · assumption

end PortTable

/-! ### What one event does to the registries -/

/-- The registries are the same. -/
structure Controller.SameRegistries (c c' : Controller) : Prop where
  ports : c'.ports = c.ports
  tunnels : c'.tunnels = c.tunnels
  slices : c'.slices = c.slices

/-- The settings are the same. -/
structure Controller.SameSettings (c c' : Controller) : Prop where
  localAddress : c'.localAddress = c.localAddress
  flows : c'.flows = c.flows
  observed : c'.observed = c.observed

namespace Course

theorem CarriesOut.registries {d : DecidedPacket} {v : Verdict} (course : CarriesOut a c d v c' trail) :
    c.SameRegistries c' := by
  cases course <;> exact ⟨rfl, rfl, rfl⟩

theorem Arrives.registries {n : PacketIn} (course : Arrives a c n c' trail) : c.SameRegistries c' := by
  cases course with
  | decided _ _ _ _ _ course => exact course.registries
  | _ => exact ⟨rfl, rfl, rfl⟩

theorem Resumes.registries {p : ParkedPacket} {mac : Option Mac} (course : Resumes a c p mac c' trail) :
    c.SameRegistries c' := by
  cases course <;> exact ⟨rfl, rfl, rfl⟩

/-- Handling an event changes no setting, and no counter but by its trail. -/
theorem Handles.frame {e : Event} (course : Handles a c e c' trail) :
    c.SameSettings c' ∧ c'.counters = c.counters := by
  cases course with
  | arrives course =>
    cases course with
    | decided _ _ _ _ _ course => cases course <;> exact ⟨⟨rfl, rfl, rfl⟩, rfl⟩
    | _ => exact ⟨⟨rfl, rfl, rfl⟩, rfl⟩
  | resumes _ course => cases course <;> exact ⟨⟨rfl, rfl, rfl⟩, rfl⟩
  | _ => exact ⟨⟨rfl, rfl, rfl⟩, rfl⟩

end Course

namespace Entry

theorem ports_after (x : Entry) : x.after.ports =
    match x.event with
    | .portAttached port => (x.before.ports.attach port).toOption.getD x.before.ports
    | .portDetached id => ((x.before.ports.detach id).toOption.map Prod.fst).getD x.before.ports
    | _ => x.before.ports := by
  obtain ⟨c', trail, course, after, -⟩ := x.course
  rw [after, Controller.ports_counting]
  generalize x.event = e at course
  cases course with
  | arrives course => exact course.registries.ports
  | resumes _ course => exact course.registries.ports
  | attached fits => simp [fits, Except.toOption]
  | unattached clash => simp [clash, Except.toOption]
  | detached found => simp [found, Except.toOption]
  | undetached absent => simp [absent, Except.toOption]
  | _ => rfl

theorem tunnels_after (x : Entry) : x.after.tunnels =
    match x.event with
    | .tunnelAdded number peer => x.before.tunnels.add number peer
    | .tunnelRemoved number => (x.before.tunnels.remove number).1
    | .portLocated id host => x.before.tunnels.locate id host
    | .portUnlocated id => (x.before.tunnels.unlocate id).1
    | _ => x.before.tunnels := by
  obtain ⟨c', trail, course, after, -⟩ := x.course
  rw [after, Controller.tunnels_counting]
  generalize x.event = e at course
  cases course with
  | arrives course => exact course.registries.tunnels
  | resumes _ course => exact course.registries.tunnels
  | _ => rfl

theorem slices_after (x : Entry) : x.after.slices =
    match x.event with
    | .portDetached id => (x.before.ports.byId id).elim x.before.slices fun port =>
        (x.before.slices.leaveAll port.number).1
    | .portJoined set number => (x.before.slices.join set number).1
    | .portLeft set number => (x.before.slices.leave set number).1
    | _ => x.before.slices := by
  obtain ⟨c', trail, course, after, -⟩ := x.course
  rw [after, Controller.slices_counting]
  generalize x.event = e at course
  cases course with
  | arrives course => exact course.registries.slices
  | resumes _ course => exact course.registries.slices
  | @detached id ports port found =>
    obtain ⟨held, -⟩ := PortTable.detach_inv found
    simp [held]
  | undetached absent => simp [PortTable.byId_of_undetached absent]
  | _ => rfl

end Entry

/-! ### What stands -/

/-- An event has brought something about, and no later one has undone it. -/
def History.Since (history : History) (brings undoes : Entry → Prop) : Prop :=
  ∃ recent x past, history = recent ++ x :: past ∧ brings x ∧ ∀ y ∈ recent, ¬undoes y

section Since
variable {brings undoes : Entry → Prop}

theorem since_nil : ¬History.Since [] brings undoes := by
  rintro ⟨recent, x, past, eq, -⟩
  cases recent <;> cases eq

theorem since_cons : History.Since (y :: history) brings undoes ↔ brings y ∨ ¬undoes y ∧ history.Since brings undoes := by
  constructor
  · rintro ⟨recent, x, past, eq, brought, kept⟩
    cases recent with
    | nil =>
      cases eq
      exact .inl brought
    | cons z recent =>
      cases eq
      obtain ⟨now, kept⟩ := List.forall_mem_cons.1 kept
      exact .inr ⟨now, recent, x, past, rfl, brought, kept⟩
  · rintro (brought | ⟨now, recent, x, past, rfl, brought, kept⟩)
    · exact ⟨[], y, history, rfl, brought, by simp⟩
    · exact ⟨y :: recent, x, past, rfl, brought, List.forall_mem_cons.2 ⟨now, kept⟩⟩

/-- What every event brings about, undoes or else leaves alone holds after a history exactly if it stands, or held before
    and no event has undone it. -/
theorem since_or_initially {P : History → Prop} (step : ∀ x past, P (x :: past) ↔ brings x ∨ ¬undoes x ∧ P past)
    (history : History) : P history ↔ history.Since brings undoes ∨ P [] ∧ ∀ x ∈ history, ¬undoes x := by
  induction history with
  | nil => simp [since_nil]
  | cons x past ih =>
    rw [step, ih, since_cons, List.forall_mem_cons]
    grind

/-- What every event brings about, undoes or else leaves alone holds at the end of a run exactly if it stands. -/
theorem Run.since_iff {P : Controller → Prop} (run : Run config observed history c)
    (initially : ¬P (.initial config observed)) (retarget : ∀ c number, P (c.withServiceTarget number) ↔ P c)
    (step : ∀ past x, Run config observed past x.before → (P x.after ↔ brings x ∨ ¬undoes x ∧ P x.before)) :
    P c ↔ history.Since brings undoes := by
  induction run with
  | initial => exact iff_of_false initially since_nil
  | retarget number run ih => exact (retarget _ _).trans ih
  | @handle history c a e run ih =>
    rw [since_cons, ← ih]
    exact step history ⟨c, a, e⟩ run

end Since

/-- The settings of a controller are those that it was set up with. -/
theorem Run.settings (run : Run config observed history c) : (Controller.initial config observed).SameSettings c := by
  induction run with
  | initial => exact ⟨rfl, rfl, rfl⟩
  | retarget _ _ ih => exact ⟨ih.localAddress, ih.flows, ih.observed⟩
  | @handle history c a e run ih =>
    obtain ⟨c', trail, course, after, -⟩ := Entry.course ⟨c, a, e⟩
    obtain ⟨same, -⟩ := course.frame
    show Controller.SameSettings _ (Entry.after ⟨c, a, e⟩)
    rw [after]
    exact ⟨same.localAddress.trans ih.localAddress, same.flows.trans ih.flows, same.observed.trans ih.observed⟩

/-! ### The attached ports -/

/-- The event attaches the port. -/
def Entry.Attaches (x : Entry) (port : VirtualPort) : Prop :=
  x.event = .portAttached port ∧ ∃ ports, x.before.ports.attach port = .ok ports

/-- The port has been attached and not been detached since. -/
def History.Attached (history : History) (port : VirtualPort) : Prop :=
  history.Since (fun x => x.Attaches port) fun x => x.event = .portDetached port.id

theorem Entry.byId_after (x : Entry) (id : PortId) (port : VirtualPort) : x.after.ports.byId id = some port ↔
    (port.id = id ∧ x.Attaches port) ∨ x.event ≠ .portDetached id ∧ x.before.ports.byId id = some port := by
  rw [x.ports_after]
  cases event : x.event with
  | portAttached other =>
    cases fits : x.before.ports.attach other with
    | error fault =>
      have refused : ¬x.Attaches port := by
        rintro ⟨same, ports, taken⟩
        cases event.symm.trans same
        cases fits.symm.trans taken
      simp [refused, fits, Except.toOption]
    | ok ports =>
      obtain ⟨new, held⟩ := PortTable.byId_attach fits id
      have attaches : x.Attaches port ↔ other = port := by
        constructor
        · rintro ⟨same, -⟩
          cases event.symm.trans same
          rfl
        · rintro rfl
          exact ⟨event, ports, fits⟩
      simp only [fits, Except.toOption, Option.getD_some, held, attaches]
      by_cases here : id = other.id
      · subst here
        grind
      · grind
  | portDetached other =>
    cases found : x.before.ports.detach other with
    | error fault =>
      have absent := PortTable.byId_of_undetached found
      simp only [found, Except.toOption]
      grind [Attaches]
    | ok r =>
      obtain ⟨ports, held⟩ := r
      simp only [found, Except.toOption, Option.map_some, Option.getD_some, (PortTable.detach_inv found).2 id]
      grind [Attaches]
  | _ => simp [Attaches, event]

/-- The port of an identifier is the one that has been attached under it and not been detached since. -/
theorem Run.byId_iff (run : Run config observed history c) (id : PortId) (port : VirtualPort) :
    c.ports.byId id = some port ↔ port.id = id ∧ history.Attached port := by
  have since := run.since_iff (P := fun c => c.ports.byId id = some port) (fun held => nomatch held) (fun _ _ => .rfl)
    (fun _ x _ => x.byId_after id port)
  rw [since]
  constructor
  · rintro ⟨recent, x, past, rfl, ⟨rfl, attaches⟩, kept⟩
    exact ⟨rfl, recent, x, past, rfl, attaches, kept⟩
  · rintro ⟨rfl, recent, x, past, rfl, attaches, kept⟩
    exact ⟨recent, x, past, rfl, ⟨rfl, attaches⟩, kept⟩

theorem Run.byId_eq_none (run : Run config observed history c) {id : PortId}
    (away : ∀ port, port.id = id → ¬history.Attached port) : c.ports.byId id = none := by
  refine Option.eq_none_iff_forall_ne_some.2 fun port held => ?_
  obtain ⟨own, attached⟩ := (run.byId_iff id port).1 held
  exact away port own attached

end VirtualRouter
