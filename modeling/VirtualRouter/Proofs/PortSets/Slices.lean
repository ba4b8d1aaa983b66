import VirtualRouter.Proofs.Collection.Contents
import VirtualRouter.Proofs.PortSets.Membership

/-! The slices of port sets under any requests. No slice is stored without a port, so that two tables of slices with the same
    members are the same table to every lookup. Taking a port out of all sets at once is taking it out of each of them in
    turn, whatever the order. -/

namespace VirtualRouter.LocalSlices

variable {s t : LocalSlices} {set set' : PortId} {number number' : PortNumber} {slice : OrderedSet PortNumber}
  {sets : List PortId}

/-! ### Slices and their members -/

/-- Every stored slice has a port. -/
def Normal (s : LocalSlices) : Prop := ∀ set slice, s.slice? set = some slice → ∃ number, number ∈ slice

theorem holds_of_slice? (stored : s.slice? set = some slice) : s.Holds set number ↔ number ∈ slice := by
  rw [Holds, stored, Option.getD_some]

theorem not_holds_of_slice? (absent : s.slice? set = none) : ¬s.Holds set number := by
  rw [Holds, absent]
  exact OrderedSet.not_mem_empty

namespace Normal

theorem isSome_slice?_iff (normal : s.Normal) : (s.slice? set).isSome = true ↔ ∃ number, s.Holds set number := by
  cases stored : s.slice? set with
  | none => simp [not_holds_of_slice? stored]
  | some slice => simpa [holds_of_slice? stored] using normal set slice stored

/-- The members tell the slices. -/
theorem slice?_congr (normal : s.Normal) (normal' : t.Normal) (same : ∀ number, s.Holds set number ↔ t.Holds set number) :
    s.slice? set = t.slice? set := by
  have presence : (s.slice? set).isSome = true ↔ (t.slice? set).isSome = true := by
    rw [normal.isSome_slice?_iff, normal'.isSome_slice?_iff]
    exact exists_congr same
  cases stored : s.slice? set with
  | none =>
    cases stored' : t.slice? set with
    | none => rfl
    | some slice' => simp [stored, stored'] at presence
  | some slice =>
    cases stored' : t.slice? set with
    | none => simp [stored, stored'] at presence
    | some slice' =>
      refine congrArg some (OrderedSet.ext fun number => ?_)
      rw [← holds_of_slice? stored, ← holds_of_slice? stored']
      exact same number

end Normal

/-! ### What a request leaves -/

theorem exists_mem_of_without {rest : OrderedSet PortNumber} (kept : without number slice = some rest) :
    ∃ number, number ∈ rest := by
  simp only [without] at kept
  split at kept
  · cases kept
  · rename_i some_left
    cases kept
    rw [OrderedSet.isEmpty, Bool.not_eq_true, List.isEmpty_eq_false_iff] at some_left
    exact List.exists_mem_of_ne_nil _ some_left

theorem slice?_join : (s.join set number).1.slice? set' =
    if set' = set then some (((s.slice? set).getD .empty).insert number) else s.slice? set' :=
  Table.get?_insert ..

theorem slice?_leave : (s.leave set number).1.slice? set' =
    if set' = set then (s.slice? set).bind (without number) else s.slice? set' := by
  unfold leave
  cases stored : s.slice? set with
  | none => grind
  | some slice =>
    simp only [Option.bind_some]
    split
    · rename_i rest kept
      rw [kept]
      exact Table.get?_insert ..
    · rename_i gone
      rw [gone]
      exact Table.get?_erase ..

theorem slice?_leaveAll : (s.leaveAll number).1.slice? set = (s.slice? set).bind (without number) :=
  Table.get?_filterMap ..

namespace Normal

theorem join (normal : s.Normal) : (s.join set number).1.Normal := by
  intro set' slice stored
  rw [slice?_join] at stored
  split at stored
  · cases stored
    exact ⟨number, OrderedSet.mem_insert.2 (.inl rfl)⟩
  · exact normal set' slice stored

theorem leave (normal : s.Normal) : (s.leave set number).1.Normal := by
  intro set' slice stored
  rw [slice?_leave] at stored
  split at stored
  · obtain ⟨before, -, kept⟩ := Option.bind_eq_some_iff.1 stored
    exact exists_mem_of_without kept
  · exact normal set' slice stored

theorem leaveAll : (s.leaveAll number).1.Normal := by
  intro set slice stored
  rw [slice?_leaveAll] at stored
  obtain ⟨before, -, kept⟩ := Option.bind_eq_some_iff.1 stored
  exact exists_mem_of_without kept

end Normal

/-! ### One set after another -/

/-- Takes a port out of some sets in turn; the answers say in which of them it was. -/
def leaveEach (s : LocalSlices) (number : PortNumber) : List PortId → LocalSlices × List Bool
  | [] => (s, [])
  | set :: sets =>
    let rest := leaveEach (s.leave set number).1 number sets
    (rest.1, (s.leave set number).2 :: rest.2)

theorem join_answer : (s.join set number).2 = true ↔ ¬s.Holds set number := decide_eq_true_iff

theorem leave_answer : (s.leave set number).2 = true ↔ s.Holds set number := by
  unfold leave
  cases stored : s.slice? set with
  | none => simp [not_holds_of_slice? stored]
  | some slice => simp [holds_of_slice? stored]

theorem Normal.leaveEach (normal : s.Normal) : (s.leaveEach number sets).1.Normal := by
  induction sets generalizing s with
  | nil => exact normal
  | cons set sets ih => exact ih normal.leave

theorem holds_leaveEach : (s.leaveEach number sets).1.Holds set' number' ↔
    ¬(set' ∈ sets ∧ number' = number) ∧ s.Holds set' number' := by
  induction sets generalizing s with
  | nil => simp [leaveEach]
  | cons set sets ih =>
    rw [leaveEach, ih, holds_leave, List.mem_cons]
    grind

/-- Each set is asked as it was at first, if none is asked twice. -/
theorem answers_leaveEach (once : sets.Nodup) :
    (s.leaveEach number sets).2 = sets.map fun set => (s.leave set number).2 := by
  induction sets generalizing s with
  | nil => rfl
  | cons set sets ih =>
    obtain ⟨new, once⟩ := List.nodup_cons.1 once
    simp only [leaveEach, List.map_cons, ih once]
    refine congrArg _ (List.map_congr_left fun other mem => Bool.eq_iff_iff.2 ?_)
    rw [leave_answer, leave_answer, holds_leave]
    have apart : other ≠ set := fun same => new (same ▸ mem)
    simp [apart]

theorem leaveAll_answer (s : LocalSlices) (number : PortNumber) :
    (s.leaveAll number).2 = s.slices.keys.countP fun set => (s.leave set number).2 := by
  simp only [leaveAll, Table.values, Table.keys, List.countP_map]
  refine List.countP_congr fun e mem => ?_
  have stored : s.slice? e.1 = some e.2 := Table.get?_eq_some_iff.2 mem
  rw [Function.comp_apply, Function.comp_apply, leave_answer, holds_of_slice? stored, decide_eq_true_iff]

/-! ### Any number of requests -/

/-- What can be asked of the slices. -/
inductive Request where
  | join (set : PortId) (number : PortNumber)
  | leave (set : PortId) (number : PortNumber)
  | leaveAll (number : PortNumber)

def after (s : LocalSlices) : Request → LocalSlices
  | .join set number => (s.join set number).1
  | .leave set number => (s.leave set number).1
  | .leaveAll number => (s.leaveAll number).1

/-- The slices after some requests, beginning with none. -/
def reached (requests : List Request) : LocalSlices := requests.foldl after {}

/-- The port has joined the set, and has not left it since, neither alone nor together with all others. -/
def Joined (requests : List Request) (set : PortId) (number : PortNumber) : Prop :=
  Stands requests (· = .join set number) fun r => r = .leave set number ∨ r = .leaveAll number

theorem Normal.after (normal : s.Normal) (request : Request) : (s.after request).Normal := by
  cases request with
  | join => exact normal.join
  | leave => exact normal.leave
  | leaveAll => exact leaveAll

theorem normal_reached (requests : List Request) : (reached requests).Normal :=
  List.foldlRecOn requests LocalSlices.after (fun _ _ stored => nomatch stored) fun _ normal request _ =>
    normal.after request

theorem holds_reached (requests : List Request) : (reached requests).Holds set number ↔ Joined requests set number := by
  refine (foldl_iff_stands (I := fun _ => True) (P := fun s : LocalSlices => s.Holds set number) (fun _ _ _ => trivial)
    (fun s r _ => ?_) trivial).trans (or_iff_left fun held => OrderedSet.not_mem_empty held.1)
  cases r with
  | join set' number' =>
    simp only [LocalSlices.after, holds_join, Request.join.injEq]
    grind
  | leave set' number' =>
    simp only [LocalSlices.after, holds_leave, Request.leave.injEq]
    grind
  | leaveAll number' =>
    simp only [LocalSlices.after, holds_leaveAll, Request.leaveAll.injEq]
    grind

/-- What an event makes the controller ask of its slices, with these ports attached. -/
def requested (ports : PortTable) : Event → Option Request
  | .portJoined set number => some (.join set number)
  | .portLeft set number => some (.leave set number)
  | .portDetached id => (ports.byId id).map fun port => .leaveAll port.number
  | _ => none

/-- The controller's slices go the same way. -/
theorem slices_step (c : Controller) (a : Answers) (event : Event) :
    (c.step a event).controller.slices = (requested c.ports event).toList.foldl LocalSlices.after c.slices := by
  refine (Entry.slices_after ⟨c, a, event⟩).trans ?_
  cases event with
  | portDetached id =>
    simp only [requested]
    cases c.ports.byId id <;> rfl
  | _ => rfl

/-! ### Answers -/

/-- The answer to a request for one set says whether any port is in a set now and was not before, or the other way round. -/
structure Answering (s : LocalSlices) (set : PortId) (number : PortNumber) : Prop where
  join : (s.join set number).2 = true ↔ ∃ set' number', ¬((s.join set number).1.Holds set' number' ↔ s.Holds set' number')
  leave : (s.leave set number).2 = true ↔
    ∃ set' number', ¬((s.leave set number).1.Holds set' number' ↔ s.Holds set' number')

theorem answering (s : LocalSlices) (set : PortId) (number : PortNumber) : s.Answering set number where
  join := by
    rw [join_answer]
    constructor
    · intro new
      exact ⟨set, number, fun same => new (same.1 (holds_join.2 (.inl ⟨rfl, rfl⟩)))⟩
    · rintro ⟨set', number', changed⟩ held
      refine changed (holds_join.trans (or_iff_right_of_imp ?_))
      rintro ⟨rfl, rfl⟩
      exact held
  leave := by
    rw [leave_answer]
    constructor
    · intro held
      exact ⟨set, number, fun same => (holds_leave.1 (same.2 held)).1 ⟨rfl, rfl⟩⟩
    · rintro ⟨set', number', changed⟩
      by_contra absent
      refine changed (holds_leave.trans (and_iff_right_of_imp ?_))
      rintro held ⟨rfl, rfl⟩
      exact absent held

/-- What taking the port out of every set comes to. -/
structure LeavingAll (s : LocalSlices) (number : PortNumber) : Prop where
  slices : ∀ sets : List PortId, sets.Perm s.slices.keys →
    ∀ set, (s.leaveEach number sets).1.slice? set = (s.leaveAll number).1.slice? set
  answers : ∀ sets : List PortId, sets.Perm s.slices.keys →
    (s.leaveEach number sets).2.count true = (s.leaveAll number).2
  alone : ∀ sets : List PortId, sets.Perm s.slices.keys →
    sets.countP (fun set => (s.leave set number).2) = (s.leaveAll number).2
  others : ∀ set number', (s.leaveAll number).1.Holds set number' ↔ number' ≠ number ∧ s.Holds set number'

theorem Normal.leavingAll (normal : s.Normal) (number : PortNumber) : s.LeavingAll number := by
  have alone (sets : List PortId) (all : sets.Perm s.slices.keys) :
      sets.countP (fun set => (s.leave set number).2) = (s.leaveAll number).2 := by
    rw [leaveAll_answer, all.countP_eq]
  refine ⟨fun sets all set => ?_, fun sets all => ?_, alone, fun set number' => holds_leaveAll⟩
  · refine normal.leaveEach.slice?_congr Normal.leaveAll fun number' => ?_
    rw [holds_leaveEach, holds_leaveAll]
    -- A set in which the port is has a slice, and so is one of those that it is taken out of.
    have asked (held : s.Holds set number') : set ∈ sets := by
      rw [all.mem_iff, ← Table.contains_iff]
      exact normal.isSome_slice?_iff.2 ⟨number', held⟩
    grind
  · have once : sets.Nodup := all.nodup_iff.2 s.slices.distinct
    rw [answers_leaveEach once, List.count_eq_countP, List.countP_map, ← alone sets all]
    exact List.countP_congr fun set _ => by simp

/-- After any requests there is a slice for exactly the sets that have a port, and it has the ports that have joined and not
    left. Taking a port out of all sets is taking it out of each, and an answer says whether anything has changed. The
    controller's slices go through the same states. -/
theorem slices_normalised (requests : List Request) :
    let s := reached requests
    s.Normal ∧
    (∀ set, (s.slice? set).isSome = true ↔ ∃ number, Joined requests set number) ∧
    (∀ set slice number, s.slice? set = some slice → (number ∈ slice ↔ Joined requests set number)) ∧
    (∀ number, s.LeavingAll number) ∧
    (∀ set number, s.Answering set number) ∧
    ∀ (c : Controller) (a : Answers) (event : Event), c.slices = s →
      (c.step a event).controller.slices = reached (requests ++ (requested c.ports event).toList) := by
  intro s
  have normal : s.Normal := normal_reached requests
  refine ⟨normal, fun set => ?_, fun set slice number stored => ?_, normal.leavingAll, s.answering, ?_⟩
  · rw [normal.isSome_slice?_iff]
    exact exists_congr fun number => holds_reached requests
  · rw [← holds_of_slice? stored]
    exact holds_reached requests
  · intro c a event same
    rw [slices_step, same, reached, List.foldl_append]
    rfl

end VirtualRouter.LocalSlices

namespace VirtualRouter

namespace Sample

def multicast (k : Nat) : PortId := ⟨.ofNat (0x500 + k)⟩

/-- The fifth port is in two sets, in one of them with the sixth, which has left a third. -/
def memberships : List LocalSlices.Request :=
  [.join (multicast 1) ⟨5⟩, .join (multicast 2) ⟨5⟩, .join (multicast 3) ⟨6⟩, .join (multicast 2) ⟨6⟩,
    .leave (multicast 3) ⟨6⟩]

/-- The events that make the controller ask this, once the fifth port is attached. -/
def gatherings : List Event :=
  [.portAttached (port 5), .portJoined (multicast 1) ⟨5⟩, .portJoined (multicast 2) ⟨5⟩, .portJoined (multicast 3) ⟨6⟩,
    .portJoined (multicast 2) ⟨6⟩, .portLeft (multicast 3) ⟨6⟩]

end Sample

/-- When a controller has gone through these events, detaching the fifth port takes it out of both of its sets, as leaving the
    second and then the first does. -/
theorem LocalSlices.slices_normalised_detached :
    let a := Sample.answers (.ok ()) .noRoute
    let c := (Sample.handled default a Sample.gatherings).2
    let s := reached Sample.memberships
    let sets := [Sample.multicast 2, Sample.multicast 1]
    c.slices = s ∧ sets.Perm s.slices.keys ∧ (s.slice? (Sample.multicast 3)).isSome = false ∧
      (s.leaveEach ⟨5⟩ sets).2.count true = (s.leaveAll ⟨5⟩).2 ∧ (s.leaveAll ⟨5⟩).2 = 2 ∧
      (∀ set, (s.leaveEach ⟨5⟩ sets).1.slice? set = (s.leaveAll ⟨5⟩).1.slice? set) ∧
      (∃ number, Joined Sample.memberships (Sample.multicast 2) number) ∧
      (c.step a (.portDetached (Sample.port 5).id)).controller.slices =
        reached (Sample.memberships ++ [.leaveAll ⟨5⟩]) := by
  intro a c s sets
  have same : c.slices = s := by decide +kernel
  have all : sets.Perm s.slices.keys := by decide +kernel
  have left : (s.slice? (Sample.multicast 3)).isSome = false := by decide +kernel
  have stored : (s.slice? (Sample.multicast 2)).isSome = true := by decide +kernel
  have both : (s.leaveAll ⟨5⟩).2 = 2 := by decide +kernel
  have asked : requested c.ports (.portDetached (Sample.port 5).id) = some (.leaveAll ⟨5⟩) := by rfl
  obtain ⟨-, present, -, leavingAll, -, steps⟩ := slices_normalised Sample.memberships
  have next := steps c a (.portDetached (Sample.port 5).id) same
  rw [asked] at next
  exact ⟨same, all, left, (leavingAll ⟨5⟩).answers sets all, both, (leavingAll ⟨5⟩).slices sets all, (present _).1 stored,
    next⟩

end VirtualRouter
