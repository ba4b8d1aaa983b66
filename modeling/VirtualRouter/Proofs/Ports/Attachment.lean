import VirtualRouter.Proofs.Run.Registries

/-! The two indexes of the attached ports. Every port is held under its own identifier, and the index by number has the
    identifiers of exactly the ports that are held, so that no two of them share a number. A port can be attached if it
    clashes with none that is. -/

namespace VirtualRouter

variable {config : Config} {observed : Bool} {history : History} {c : Controller} {t t' : PortTable}
  {port other : VirtualPort} {id : PortId} {number : PortNumber} {fault : Fault}

/-- The ports have the same identifier or the same number. -/
def VirtualPort.Clashes (port other : VirtualPort) : Prop := port.id = other.id ∨ port.number = other.number

namespace PortTable

/-- The indexes agree. -/
structure Coherent (t : PortTable) : Prop where
  own : ∀ {id port}, t.byId id = some port → port.id = id
  owner : ∀ {number id}, t.owners.get? number = some id ↔ ∃ port, t.byId id = some port ∧ port.number = number

theorem coherent_empty : ({} : PortTable).Coherent := ⟨nofun, by simp [byId]⟩

/-- A port is attached under an identifier and on a number that are free. -/
theorem attach_inv (fits : t.attach port = .ok t') : t.ports.get? port.id = none ∧ t.owners.get? port.number = none ∧
    t' = { ports := t.ports.insert port.id port, owners := t.owners.insert port.number port.id } := by
  unfold attach at fits
  split at fits
  · cases fits
  rename_i newId
  split at fits
  · cases fits
  rename_i newNumber
  cases fits
  exact ⟨by simpa [Table.contains] using newId, by simpa [Table.contains] using newNumber, rfl⟩

theorem detach_eq_error_iff : t.detach id = .error fault ↔ t.byId id = none ∧ fault = .unknownPort id := by
  constructor
  · intro absent
    have unheld := byId_of_undetached absent
    simp only [detach, unheld, Except.error.injEq] at absent
    exact ⟨unheld, absent.symm⟩
  · rintro ⟨unheld, rfl⟩
    simp only [detach, unheld]

theorem detach_error_iff : (∃ fault, t.detach id = .error fault) ↔ t.byId id = none := by
  simp only [detach_eq_error_iff, exists_and_left, exists_eq, and_true]

namespace Coherent

theorem attach (h : t.Coherent) (fits : t.attach port = .ok t') : t'.Coherent := by
  obtain ⟨newId, newNumber, rfl⟩ := attach_inv fits
  have free {other : VirtualPort} {id : PortId} (held : t.byId id = some other) : other.number ≠ port.number := by
    intro same
    rw [h.owner.2 ⟨other, held, same⟩] at newNumber
    cases newNumber
  refine ⟨fun {id other} held => ?_, fun {number id} => ?_⟩
  · simp only [byId, Table.get?_insert] at held
    split at held
    · cases held
      exact Eq.symm ‹_›
    · exact h.own held
  · have owner := @h.owner number id
    simp only [byId, Table.get?_insert] at owner free ⊢
    by_cases own : id = port.id
    · -- Under the new identifier there was no port before.
      have unowned : t.owners.get? number ≠ some id := fun owned => by
        obtain ⟨other, held, -⟩ := owner.1 owned
        cases (own ▸ newId).symm.trans held
      simp only [own, if_true, Option.some.injEq, exists_eq_left'] at unowned ⊢
      split
      · exact iff_of_true rfl (Eq.symm ‹_›)
      · exact iff_of_false unowned (Ne.symm ‹_›)
    · -- On the new number there was no port before.
      simp only [own, if_false]
      split
      · rename_i here
        refine iff_of_false (fun same => own (Option.some.inj same).symm) ?_
        rintro ⟨other, held, same⟩
        exact free held (same.trans here)
      · exact owner

theorem detach (h : t.Coherent) (found : t.detach id = .ok (t', port)) : t'.Coherent := by
  unfold PortTable.detach at found
  split at found
  · rename_i held
    cases found
    have taken := h.owner.2 ⟨port, held, rfl⟩
    refine ⟨fun {id other} held => ?_, fun {number other} => ?_⟩
    · simp only [byId, Table.get?_erase] at held
      split at held
      · cases held
      · exact h.own held
    · have owner := @h.owner number other
      simp only [byId, Table.get?_erase] at owner held ⊢
      grind
  · cases found

/-- The port on a number is the one that is held with this number. -/
theorem byNumber_iff (h : t.Coherent) :
    t.byNumber number = some port ↔ t.byId port.id = some port ∧ port.number = number := by
  rw [byNumber, Option.bind_eq_some_iff]
  constructor
  · rintro ⟨id, owner, held⟩
    obtain ⟨other, same, rfl⟩ := h.owner.1 owner
    cases held.symm.trans same
    obtain rfl := h.own held
    exact ⟨held, rfl⟩
  · rintro ⟨held, rfl⟩
    exact ⟨port.id, h.owner.2 ⟨port, held, rfl⟩, held⟩

theorem byNumber_eq_none_iff (h : t.Coherent) : t.byNumber number = none ↔ t.owners.get? number = none := by
  constructor
  · intro free
    refine Option.eq_none_iff_forall_ne_some.2 fun id owner => ?_
    obtain ⟨port, held, -⟩ := h.owner.1 owner
    rw [byNumber, owner] at free
    cases held.symm.trans free
  · intro free
    rw [byNumber, free]
    rfl

theorem attach_ok_iff (h : t.Coherent) :
    (∃ t', t.attach port = .ok t') ↔ t.byId port.id = none ∧ t.byNumber port.number = none := by
  rw [h.byNumber_eq_none_iff]
  constructor
  · rintro ⟨t', fits⟩
    obtain ⟨newId, newNumber, -⟩ := attach_inv fits
    exact ⟨newId, newNumber⟩
  · rintro ⟨newId, newNumber⟩
    rw [byId] at newId
    simp [PortTable.attach, Table.contains, newId, newNumber]

/-- A used identifier is reported before a used number. -/
theorem attach_eq_error_iff (h : t.Coherent) : t.attach port = .error fault ↔
    t.byId port.id ≠ none ∧ fault = .duplicatePort port.id ∨
      t.byId port.id = none ∧ t.byNumber port.number ≠ none ∧ fault = .duplicatePortNumber port.number := by
  rw [Ne, Ne, h.byNumber_eq_none_iff, byId]
  cases newId : t.ports.get? port.id with
  | some => simp [PortTable.attach, Table.contains, newId, eq_comm]
  | none =>
    cases newNumber : t.owners.get? port.number with
    | some => simp [PortTable.attach, Table.contains, newId, newNumber, eq_comm]
    | none => simp [PortTable.attach, Table.contains, newId, newNumber]

/-- What cannot be attached is a port that clashes with one that is. -/
theorem attach_error_iff (h : t.Coherent) :
    (∃ fault, t.attach port = .error fault) ↔ ∃ other, t.byId other.id = some other ∧ port.Clashes other := by
  constructor
  · rintro ⟨fault, refused⟩
    rcases h.attach_eq_error_iff.1 refused with ⟨used, -⟩ | ⟨-, used, -⟩
    · obtain ⟨other, held⟩ := Option.ne_none_iff_exists'.1 used
      have own : other.id = port.id := h.own held
      exact ⟨other, own ▸ held, .inl own.symm⟩
    · obtain ⟨other, found⟩ := Option.ne_none_iff_exists'.1 used
      obtain ⟨held, same⟩ := h.byNumber_iff.1 found
      exact ⟨other, held, .inr same.symm⟩
  · rintro ⟨other, held, clash⟩
    cases fits : t.attach port with
    | error fault => exact ⟨fault, rfl⟩
    | ok t' =>
      obtain ⟨newId, newNumber⟩ := h.attach_ok_iff.1 ⟨t', fits⟩
      rcases clash with same | same
      · cases held.symm.trans (same ▸ newId)
      · cases (h.byNumber_iff.2 ⟨held, same.symm⟩).symm.trans newNumber

/-- The attached ports are listed once each. -/
theorem mem_all (h : t.Coherent) : port ∈ t.all ↔ t.byId port.id = some port := by
  rw [all, List.mem_filterMap]
  constructor
  · rintro ⟨id, -, held⟩
    obtain rfl := h.own held
    exact held
  · intro held
    have key : port.id ∈ t.ports.keys := Table.contains_iff.1 (Option.isSome_iff_exists.2 ⟨port, held⟩)
    exact ⟨port.id, (List.mergeSort_perm ..).mem_iff.2 key, held⟩

theorem nodup_all (h : t.Coherent) : t.all.Nodup := by
  have keys : (Ranked.sort t.ports.keys).Nodup := (List.mergeSort_perm ..).nodup_iff.2 t.ports.distinct
  refine List.Pairwise.filterMap t.byId (fun id id' different port held port' held' same => different ?_) keys
  exact (h.own held).symm.trans (same ▸ h.own held')

end Coherent

end PortTable

namespace Entry

/-- The port that the event attaches. -/
def attachment? (x : Entry) : Option VirtualPort :=
  match x.event with
  | .portAttached port =>
    match x.before.ports.attach port with
    | .ok _ => some port
    | .error _ => none
  | _ => none

/-- The port that the event detaches. -/
def detachment? (x : Entry) : Option VirtualPort :=
  match x.event with
  | .portDetached id => x.before.ports.byId id
  | _ => none

theorem attachment?_eq_some_iff {x : Entry} : x.attachment? = some port ↔ x.Attaches port := by
  unfold attachment? Attaches
  cases x.event with
  | portAttached other =>
    cases fits : x.before.ports.attach other with
    | error fault =>
      refine iff_of_false (by simp [fits]) ?_
      rintro ⟨⟨⟩, ports, taken⟩
      cases fits.symm.trans taken
    | ok ports =>
      simp only [fits, Option.some.injEq, Event.portAttached.injEq]
      exact ⟨fun same => ⟨same, ports, same ▸ fits⟩, And.left⟩
  | _ => exact iff_of_false nofun nofun

theorem calls_attachment {x : Entry} (attached : x.attachment? = some port) :
    x.calls = [.addPort port (x.answers.addPort port),
      .addRule (dhcpRule port.number) (x.answers.addRule (dhcpRule port.number))] := by
  obtain ⟨event, ports, fits⟩ := attachment?_eq_some_iff.1 attached
  obtain ⟨c', trail, course, -, calls⟩ := x.course
  rw [event] at course
  rw [calls]
  cases course with
  | attached => simp
  | unattached clash => cases fits.symm.trans clash

/-- No rule is asked for when a port cannot be attached. -/
theorem attachment_of_rule {x : Entry} {rule : FlowRule} {answer : Except DatapathError Unit}
    (event : x.event = .portAttached port) (asked : .addRule rule answer ∈ x.calls) : x.attachment? = some port := by
  obtain ⟨c', trail, course, -, calls⟩ := x.course
  rw [event] at course
  rw [calls] at asked
  cases course with
  | attached fits => exact attachment?_eq_some_iff.2 ⟨event, _, fits⟩
  | unattached => simp at asked

/-- An event attaches a port under an identifier that is free, detaches a port, or leaves the ports as they are. -/
inductive Reshapes (x : Entry) : Prop
  | attaches {port : VirtualPort} (attached : x.attachment? = some port) (undetached : x.detachment? = none)
      (new : x.before.ports.byId port.id = none)
      (after : ∀ id, x.after.ports.byId id = if id = port.id then some port else x.before.ports.byId id) : Reshapes x
  | detaches {port : VirtualPort} (unattached : x.attachment? = none) (detached : x.detachment? = some port)
      (held : x.before.ports.byId port.id = some port)
      (after : ∀ id, x.after.ports.byId id = if id = port.id then none else x.before.ports.byId id) : Reshapes x
  | keeps (unattached : x.attachment? = none) (undetached : x.detachment? = none)
      (after : x.after.ports = x.before.ports) : Reshapes x

theorem reshapes (x : Entry) (coherent : x.before.ports.Coherent) : x.Reshapes := by
  have ports := x.ports_after
  cases event : x.event with
  | portAttached port =>
    rw [event] at ports
    cases fits : x.before.ports.attach port with
    | error fault =>
      exact .keeps (by simp [attachment?, event, fits]) (by simp [detachment?, event])
        (by simpa [fits, Except.toOption] using ports)
    | ok ports' =>
      have after : x.after.ports = ports' := by simpa [fits, Except.toOption] using ports
      refine .attaches (by simp [attachment?, event, fits]) (by simp [detachment?, event])
        (PortTable.byId_attach fits port.id).1 fun id => ?_
      rw [after]
      exact (PortTable.byId_attach fits id).2
  | portDetached id =>
    rw [event] at ports
    cases found : x.before.ports.detach id with
    | error fault =>
      exact .keeps (by simp [attachment?, event])
        (by simpa [detachment?, event] using PortTable.byId_of_undetached found)
        (by simpa [found, Except.toOption] using ports)
    | ok r =>
      obtain ⟨ports', port⟩ := r
      have after : x.after.ports = ports' := by simpa [found, Except.toOption] using ports
      obtain ⟨held, others⟩ := PortTable.detach_inv found
      obtain rfl := coherent.own held
      refine .detaches (by simp [attachment?, event]) (by simpa [detachment?, event] using held) held
        fun other => ?_
      rw [after]
      exact others other
  | _ =>
    rw [event] at ports
    exact .keeps (by simp [attachment?, event]) (by simp [detachment?, event]) ports

end Entry

namespace Run

theorem coherent (run : Run config observed history c) : c.ports.Coherent := by
  induction run with
  | initial => exact PortTable.coherent_empty
  | retarget _ _ ih => exact ih
  | @handle history c a e run ih =>
    show (Entry.after ⟨c, a, e⟩).ports.Coherent
    rw [Entry.ports_after]
    cases e with
    | portAttached port =>
      cases fits : c.ports.attach port with
      | ok ports => simpa [fits, Except.toOption] using ih.attach fits
      | error fault => simpa [fits, Except.toOption] using ih
    | portDetached id =>
      cases found : c.ports.detach id with
      | ok r =>
        obtain ⟨ports, port⟩ := r
        simpa [found, Except.toOption] using ih.detach found
      | error fault => simpa [found, Except.toOption] using ih
    | _ => exact ih

theorem attached_iff (run : Run config observed history c) :
    c.ports.byId port.id = some port ↔ history.Attached port :=
  (run.byId_iff ..).trans (and_iff_right rfl)

/-- The port on a number is the one with this number that has been attached and not been detached since. -/
theorem byNumber_iff (run : Run config observed history c) :
    c.ports.byNumber number = some port ↔ history.Attached port ∧ port.number = number := by
  rw [run.coherent.byNumber_iff, run.attached_iff]

end Run

end VirtualRouter
