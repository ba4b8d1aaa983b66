import VirtualRouter.Proofs.Collection.Contents
import VirtualRouter.Proofs.Ports.Attachment

/-! The attached ports as one table. Whatever ports are attached and detached, in whatever order and with whatever success,
    the lookups by number and by identifier find the same ports. A port is attached exactly if neither its identifier nor
    its number is in use, and detaching it takes back what attaching it did. -/

namespace VirtualRouter

namespace PortTable

variable {t t' : PortTable} {port other : VirtualPort} {id : PortId} {number : PortNumber} {fault : Fault}

/-! ### One call -/

theorem detach_attach (fits : t.attach port = .ok t') : t'.detach port.id = .ok (t, port) := by
  obtain ⟨newId, newNumber, rfl⟩ := attach_inv fits
  simp only [detach, byId, Table.get?_insert_self, Table.erase_insert_of_get?_eq_none newId,
    Table.erase_insert_of_get?_eq_none newNumber]

theorem detach_ok_iff : (∃ t', t.detach id = .ok (t', port)) ↔ t.byId id = some port := by
  constructor
  · rintro ⟨t', found⟩
    exact (detach_inv found).1
  · intro held
    simp only [detach, held]
    exact ⟨_, rfl⟩

theorem encard_byId (t : PortTable) : {id | (t.byId id).isSome = true}.encard = t.size := t.ports.encard_held

namespace Coherent

theorem byNumber_attach (h : t.Coherent) (fits : t.attach port = .ok t') (number : PortNumber) :
    t'.byNumber number = if number = port.number then some port else t.byNumber number := by
  have lookup (id : PortId) := byId_attach fits id
  obtain ⟨newId, -, rfl⟩ := attach_inv fits
  simp only [byNumber, Table.get?_insert]
  split
  · exact (lookup port.id).2.trans (if_pos rfl)
  · cases owner : t.owners.get? number with
    | none => rfl
    | some id =>
      -- The port on another number was held before, and so has another identifier.
      obtain ⟨other, held, -⟩ := h.owner.1 owner
      have others : id ≠ port.id := by
        rintro rfl
        cases newId.symm.trans held
      exact (lookup id).2.trans (if_neg others)

theorem byNumber_detach (h : t.Coherent) (found : t.detach id = .ok (t', port)) (number : PortNumber) :
    t'.byNumber number = if number = port.number then none else t.byNumber number := by
  obtain ⟨held, lookup⟩ := detach_inv found
  simp only [PortTable.detach, held, Except.ok.injEq, Prod.mk.injEq, and_true] at found
  subst found
  simp only [byNumber, Table.get?_erase]
  split
  · rfl
  · rename_i elsewhere
    cases owner : t.owners.get? number with
    | none => rfl
    | some other =>
      -- The port on another number is not the one that is detached.
      obtain ⟨port', held', here⟩ := h.owner.1 owner
      have others : other ≠ id := by
        rintro rfl
        cases held.symm.trans held'
        exact elsewhere here.symm
      exact (lookup other).trans (if_neg others)

/-- Every port that is found by its identifier is found by its number, and no two by the same. -/
theorem encard_byNumber (h : t.Coherent) : {number | (t.byNumber number).isSome = true}.encard = t.size := by
  have numbers : {number | (t.byNumber number).isSome = true} = {number | ∃ id, t.owners.get? number = some id} := by
    refine Set.ext fun number => ?_
    rw [Set.mem_ofPred_eq, Set.mem_ofPred_eq, ← Option.ne_none_iff_isSome, ← Option.ne_none_iff_exists', Ne, Ne,
      h.byNumber_eq_none_iff]
  have ids : {id | (t.byId id).isSome = true} = {id | ∃ number, t.owners.get? number = some id} := by
    refine Set.ext fun id => ?_
    simp [Option.isSome_iff_exists, h.owner]
  rw [← t.encard_byId, numbers, ids]
  refine encard_eq_of_paired (fun owner owner' => Option.some.inj (owner.symm.trans owner')) fun owner owner' => ?_
  obtain ⟨port, held, rfl⟩ := h.owner.1 owner
  obtain ⟨port', held', rfl⟩ := h.owner.1 owner'
  cases held.symm.trans held'
  rfl

end Coherent

/-! ### Any number of calls -/

/-- What can be asked of the table. -/
inductive Request where
  | attach (port : VirtualPort)
  | detach (id : PortId)

/-- The event that makes the controller pass the request on. -/
def Request.event : Request → Event
  | attach port => .portAttached port
  | detach id => .portDetached id

/-- The table after a request: the one before it if the request is refused. -/
def after (t : PortTable) : Request → PortTable
  | .attach port =>
    match t.attach port with
    | .ok t' => t'
    | .error _ => t
  | .detach id =>
    match t.detach id with
    | .ok (t', _) => t'
    | .error _ => t

/-- The table after some requests, beginning without ports. -/
def reached (requests : List Request) : PortTable := requests.foldl after {}

theorem Coherent.after (h : t.Coherent) (request : Request) : (t.after request).Coherent := by
  cases request with
  | attach port =>
    simp only [PortTable.after]
    split
    · rename_i fits
      exact h.attach fits
    · exact h
  | detach id =>
    simp only [PortTable.after]
    split
    · rename_i found
      exact h.detach found
    · exact h

theorem coherent_reached (requests : List Request) : (reached requests).Coherent :=
  List.foldlRecOn requests after coherent_empty fun _ h request _ => h.after request

/-- The controller's table goes the same way. -/
theorem ports_step (c : Controller) (a : Answers) (request : Request) :
    (c.step a request.event).controller.ports = c.ports.after request := by
  refine (Entry.ports_after ⟨c, a, request.event⟩).trans ?_
  cases request with
  | attach port =>
    simp only [Request.event, after]
    cases c.ports.attach port <;> rfl
  | detach id =>
    simp only [Request.event, after]
    cases c.ports.detach id <;> rfl

/-! ### One table -/

/-- Both lookups find the same ports, each under one identifier and one number, and as many as the size says. -/
structure Single (t : PortTable) : Prop where
  byNumber_iff : ∀ number port, t.byNumber number = some port ↔ t.byId port.id = some port ∧ port.number = number
  own : ∀ id port, t.byId id = some port → port.id = id
  apart : ∀ port other, t.byId port.id = some port → t.byId other.id = some other → port.Clashes other → port = other
  ids : {id | (t.byId id).isSome = true}.encard = t.size
  numbers : {number | (t.byNumber number).isSome = true}.encard = t.size

/-- What attaching the port comes to. -/
structure Attaching (t : PortTable) (port : VirtualPort) : Prop where
  succeeds : (∃ t', t.attach port = .ok t') ↔ t.byId port.id = none ∧ t.byNumber port.number = none
  refuses : ∀ fault, t.attach port = .error fault ↔
    t.byId port.id ≠ none ∧ fault = .duplicatePort port.id ∨
      t.byId port.id = none ∧ t.byNumber port.number ≠ none ∧ fault = .duplicatePortNumber port.number
  unchanged : ∀ fault, t.attach port = .error fault →
    ∀ (c : Controller) (a : Answers), c.ports = t → (c.step a (.portAttached port)).controller.ports = t
  lookups : ∀ t', t.attach port = .ok t' →
    (∀ id, t'.byId id = if id = port.id then some port else t.byId id) ∧
      ∀ number, t'.byNumber number = if number = port.number then some port else t.byNumber number
  undone : ∀ t', t.attach port = .ok t' → t'.detach port.id = .ok (t, port)

/-- What detaching the port of an identifier comes to. -/
structure Detaching (t : PortTable) (id : PortId) : Prop where
  succeeds : ∀ port, (∃ t', t.detach id = .ok (t', port)) ↔ t.byId id = some port
  refuses : ∀ fault, t.detach id = .error fault ↔ t.byId id = none ∧ fault = .unknownPort id
  unchanged : ∀ fault, t.detach id = .error fault →
    ∀ (c : Controller) (a : Answers), c.ports = t → (c.step a (.portDetached id)).controller.ports = t
  lookups : ∀ t' port, t.detach id = .ok (t', port) →
    (∀ other, t'.byId other = if other = id then none else t.byId other) ∧
      ∀ number, t'.byNumber number = if number = port.number then none else t.byNumber number

namespace Coherent

theorem single (h : t.Coherent) : t.Single where
  byNumber_iff _ _ := h.byNumber_iff
  own _ _ held := h.own held
  apart port other held held' clash := by
    rcases clash with same | same
    · rw [same] at held
      exact Option.some.inj (held.symm.trans held')
    · have owner := h.owner.2 ⟨port, held, same⟩
      have owner' := h.owner.2 ⟨other, held', rfl⟩
      rw [Option.some.inj (owner.symm.trans owner')] at held
      exact Option.some.inj (held.symm.trans held')
  ids := t.encard_byId
  numbers := h.encard_byNumber

theorem attaching (h : t.Coherent) (port : VirtualPort) : t.Attaching port where
  succeeds := h.attach_ok_iff
  refuses _ := h.attach_eq_error_iff
  unchanged fault refused c a same := by
    subst same
    refine (ports_step c a (.attach port)).trans ?_
    simp only [PortTable.after, refused]
  lookups t' fits := ⟨fun id => (byId_attach fits id).2, h.byNumber_attach fits⟩
  undone _ fits := detach_attach fits

theorem detaching (h : t.Coherent) (id : PortId) : t.Detaching id where
  succeeds _ := detach_ok_iff
  refuses _ := detach_eq_error_iff
  unchanged fault refused c a same := by
    subst same
    refine (ports_step c a (.detach id)).trans ?_
    simp only [PortTable.after, refused]
  lookups t' port found := ⟨(detach_inv found).2, h.byNumber_detach found⟩

end Coherent

/-- After any requests the two indexes are one table of ports, from which every port is attached and detached as a whole.
    The controller's table goes through the same states. -/
theorem indexes_single (requests : List Request) :
    let t := reached requests
    t.Single ∧ (∀ port, t.Attaching port) ∧ (∀ id, t.Detaching id) ∧
      ∀ (c : Controller) (a : Answers) (request : Request), c.ports = t →
        (c.step a request.event).controller.ports = reached (requests ++ [request]) := by
  intro t
  have coherent : t.Coherent := coherent_reached requests
  refine ⟨coherent.single, coherent.attaching, coherent.detaching, fun c a request same => ?_⟩
  rw [reached, List.foldl_append, ports_step, same]
  rfl

end PortTable

namespace Sample

/-- The third port is refused, since it wants the number of the second. -/
def comings : List PortTable.Request :=
  [.attach (port 1), .attach (port 2), .attach { port 3 with number := ⟨2⟩ }, .detach (port 1).id]

end Sample

/-- When a controller has gone through these requests, the first port can be attached again, and detaching it leads back. -/
theorem PortTable.indexes_single_returned :
    let a := Sample.answers (.ok ()) .noRoute
    let c := (Sample.handled default a (Sample.comings.map Request.event)).2
    let t := reached Sample.comings
    c.ports = t ∧ (∃ t', t.attach (Sample.port 1) = .ok t' ∧ t'.byNumber (Sample.port 1).number = some (Sample.port 1) ∧
        t'.detach (Sample.port 1).id = .ok (t, Sample.port 1)) ∧
      (c.step a (Request.attach (Sample.port 1)).event).controller.ports =
        reached (Sample.comings ++ [.attach (Sample.port 1)]) := by
  intro a c t
  have same : c.ports = t := by decide +kernel
  have free : t.byId (Sample.port 1).id = none ∧ t.byNumber (Sample.port 1).number = none := by decide +kernel
  obtain ⟨-, attaching, -, steps⟩ := indexes_single Sample.comings
  obtain ⟨t', fits⟩ := (attaching (Sample.port 1)).succeeds.2 free
  have found := ((attaching (Sample.port 1)).lookups t' fits).2 (Sample.port 1).number
  exact ⟨same, ⟨t', fits, found.trans (if_pos rfl), (attaching (Sample.port 1)).undone t' fits⟩,
    steps c a (.attach (Sample.port 1)) same⟩

end VirtualRouter
