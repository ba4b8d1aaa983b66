import VirtualRouter.Proofs.Flows.LedgerContents

/-! Where the state that forwarding elements keep for packets goes. Each decision leaves some elements with state. The
    state is held by the packet while it waits, then by the flow that is installed for it, until the element is told to
    free it; no element is told so more often than it was left with state. -/

namespace VirtualRouter

variable {config : Config} {observed : Bool} {history recent past : History} {c : Controller} {x y : Entry}
  {m : HeaderMatch} {e : ElementId} {elements : ElementSet}

/-! ### Holders of an element's state -/

/-- The number of waiting packets that hold an element's state. -/
def Parking.holding (p : Parking) (e : ElementId) : Nat := p.waiting.values.countP fun q => e ∈ q.elements

/-- The number of flows that hold an element's state. -/
def FlowLedger.holding (l : FlowLedger) (e : ElementId) : Nat := l.flows.values.countP fun s => e ∈ s

theorem Parking.holding_park_le (p : Parking) (q : ParkedPacket) (e : ElementId) :
    (p.park q).1.holding e ≤ p.holding e + q.elements.toList.count e := by
  have erased := p.waiting.countP_values_erase p.nextToken fun q => e ∈ q.elements
  rw [OrderedSet.count_toList]
  simp only [holding, park, Table.countP_values_insert, decide_eq_true_eq]
  omega

theorem Parking.holding_take {p : Parking} {token : Token} {q : ParkedPacket}
    (waits : p.waiting.get? token = some q) (e : ElementId) :
    (p.take token).1.holding e + q.elements.toList.count e = p.holding e := by
  have erased := p.waiting.countP_values_erase token fun q => e ∈ q.elements
  rw [OrderedSet.count_toList]
  simpa [holding, take, waits] using erased

theorem FlowLedger.holding_record_le (l : FlowLedger) (m : HeaderMatch) (s : ElementSet) (e : ElementId) :
    (l.record m s).holding e ≤ l.holding e + s.toList.count e := by
  have erased := l.flows.countP_values_erase m fun s => e ∈ s
  rw [OrderedSet.count_toList]
  simp only [holding, record, Table.countP_values_insert, decide_eq_true_eq, OrderedSet.mem_union]
  cases was : l.flows.get? m with
  | none =>
    simp only [elements?, was, Option.getD_none, OrderedSet.not_mem_empty, false_or, Option.any_none] at erased ⊢
    omega
  | some old =>
    simp only [elements?, was, Option.getD_some, Option.any_some, decide_eq_true_eq] at erased ⊢
    by_cases held : e ∈ old <;> by_cases new : e ∈ s <;>
      simp only [held, new, or_true, or_false, if_true, if_false] at erased ⊢ <;> omega

theorem FlowLedger.holding_release (l : FlowLedger) (m : HeaderMatch) (e : ElementId) :
    (l.release m).1.holding e + (l.release m).2.toList.count e = l.holding e := by
  have erased := l.flows.countP_values_erase m fun s => e ∈ s
  rw [OrderedSet.count_toList]
  cases was : l.flows.get? m with
  | none => simpa [holding, release, elements?, was] using erased
  | some old => simpa [holding, release, elements?, was] using erased

/-! ### What is freed or held has been left -/

/-- The end of a packet's handling moves no more state than the packet left. -/
theorem Discharge.balance {owed : ElementSet} {l l' : FlowLedger} {calls : List Call}
    (h : Discharge elements owed l l' calls) (e : ElementId) :
    (calls.filterMap Call.freed?).count e + l'.holding e ≤ l.holding e + owed.toList.count e := by
  cases h with
  | recorded m _ ledger whole freed =>
    have recorded := l.holding_record_le m elements e
    rw [freed, ledger, whole, List.count_nil]
    omega
  | released _ ledger freed =>
    rw [freed, ledger]
    omega

theorem Entry.balance (x : Entry) (e : ElementId) :
    x.frees.count e + x.after.parking.holding e + x.after.ledger.holding e ≤
      x.before.parking.holding e + x.before.ledger.holding e + x.owed.count e := by
  generalize he : x.event = ev
  cases he ▸ x.dealing with
  | @parked n p parked =>
    have entered := x.before.parking.holding_park_le p e
    have owed : x.owed = p.elements.toList := parked.owed
    have frees : x.frees = [] := parked.freed
    rw [parked.parking, parked.ledger, owed, frees, List.count_nil]
    omega
  | astray _ _ parking ledger nothing =>
    have frees : x.frees = [] := by simp [frees, nothing]
    rw [parking, ledger, frees, List.count_nil]
    omega
  | @concluded n elements owed _ left _ parking conclusion =>
    have moved := conclusion.elements.balance e
    have owed : x.owed = owed.toList := left
    rw [parking, owed, frees]
    omega
  | resumed waits parking _ conclusion =>
    have moved := conclusion.elements.balance e
    have left := Parking.holding_take waits e
    rw [parking, frees]
    omega
  | unasked _ parking ledger nothing =>
    have frees : x.frees = [] := by simp [frees, nothing]
    rw [parking, ledger, frees, List.count_nil]
    omega
  | @removed r parking ledger _ _ _ freed =>
    have left := x.before.ledger.holding_release r.pattern e
    rw [parking, ledger, frees, freed]
    omega
  | apart _ parking ledger quiet =>
    rw [parking, ledger, frees, quiet.freed, List.count_nil]
    omega

theorem Run.balance (run : Run config observed history c) (e : ElementId) :
    (history.flatMap Entry.frees).count e + c.parking.holding e + c.ledger.holding e ≤
      (history.flatMap Entry.owed).count e := by
  induction run with
  | initial => exact Nat.le_refl 0
  | retarget _ _ ih => exact ih
  | @handle history c a ev run ih =>
    have step := Entry.balance ⟨c, a, ev⟩ e
    rw [List.flatMap_cons, List.flatMap_cons, List.count_append, List.count_append]
    show _ + (Entry.after ⟨c, a, ev⟩).parking.holding e + (Entry.after ⟨c, a, ev⟩).ledger.holding e ≤ _
    change _ + c.parking.holding e + c.ledger.holding e ≤ _ at ih
    have step : _ ≤ c.parking.holding e + c.ledger.holding e + _ := step
    omega

/-! ### What is left is held or freed -/

/-- A decision left an element with state; some events have been handled since, and some calls were made between. -/
def Report (history recent : History) (x : Entry) (rest : List Call) (e : ElementId) : Prop :=
  ∃ past before arrival o, history = recent ++ x :: past ∧ x.calls = before ++ .process arrival o :: rest ∧ e ∈ o.owed

/-- The element was told to free its state, by one of the calls or during one of the events. -/
def FreedIn (recent : History) (rest : List Call) (e : ElementId) : Prop :=
  e ∈ rest.filterMap Call.freed? ∨ ∃ y ∈ recent, e ∈ y.frees

/-- The packet of the event still waits and holds the element's state. -/
def WaitsHolding (c : Controller) (x : Entry) (e : ElementId) : Prop :=
  ∃ n p, x.Parks n p ∧ c.parking.waiting.get? x.before.parking.nextToken = some p ∧ e ∈ p.elements

/-- A flow that was installed for the packet of the event holds the element's state. -/
def FlowHolding (c : Controller) (recent : History) (x : Entry) (e : ElementId) : Prop :=
  ∃ y ∈ x :: x.answersIn recent, ∃ m ∈ y.forwards, ∃ elements, c.ledger.elements? m = some elements ∧ e ∈ elements

theorem Entry.frees_removed (h : x.Removes m) (held : x.before.ledger.elements? m = some elements) :
    x.frees = elements.toList := by
  obtain ⟨r, event, rfl⟩ := h
  cases event ▸ x.dealing with
  | removed _ _ _ _ _ freed =>
    rw [frees, freed]
    simp [FlowLedger.release, held]
  | apart lifecycle => cases lifecycle

/-- A flow that holds an element's state keeps it until the element frees it. -/
theorem Run.held_or_freed (run : Run config observed (recent ++ x :: past) c)
    (held : x.after.ledger.elements? m = some elements) (mem : e ∈ elements) :
    (∃ elements, c.ledger.elements? m = some elements ∧ e ∈ elements) ∨ ∃ y ∈ recent, e ∈ y.frees := by
  induction recent generalizing c with
  | nil =>
    rw [run.cons_inv.2.2]
    exact .inl ⟨elements, held, mem⟩
  | cons y recent ih =>
    obtain ⟨run, -, ledger⟩ := run.cons_inv
    rw [ledger]
    rcases ih run with ⟨before, held, mem⟩ | ⟨z, hz, freed⟩
    · by_cases removes : y.Removes m
      · refine .inr ⟨y, List.mem_cons_self, ?_⟩
        rw [Entry.frees_removed removes held]
        exact mem
      by_cases forwards : m ∈ y.forwards
      · obtain ⟨-, new, -, now⟩ := Entry.elements?_installed forwards
        rw [held, Option.getD_some] at now
        exact .inl ⟨_, now, OrderedSet.mem_union.2 (.inl mem)⟩
      · exact .inl ⟨before, (Entry.elements?_frame forwards removes).trans held, mem⟩
    · exact .inr ⟨z, List.mem_cons_of_mem _ hz, freed⟩

/-- Recorded elements are in the ledger. -/
theorem Discharge.recorded_mem {owed : ElementSet} {l l' : FlowLedger} {calls : List Call}
    (h : Discharge elements owed l l' calls) (mem : e ∈ owed) :
    e ∈ calls.filterMap Call.freed? ∨
      ∃ m ∈ calls.filterMap Call.forwarded?, ∃ elements, l'.elements? m = some elements ∧ e ∈ elements := by
  cases h with
  | recorded m forwarded ledger whole _ =>
    rw [whole] at mem
    refine .inr ⟨m, by simp [forwarded], ((l.elements? m).getD .empty).union elements, ?_,
      OrderedSet.mem_union.2 (.inr mem)⟩
    rw [ledger, FlowLedger.elements?_record, if_pos rfl]
  | released _ _ freed =>
    rw [freed]
    exact .inl mem

/-- The calls after a decision are all the calls of its event but the decision itself. -/
theorem Report.calls {rest : List Call} (report : Report history recent x rest e) :
    e ∈ x.owed ∧ x.frees = rest.filterMap Call.freed? := by
  obtain ⟨past, before, arrival, o, -, calls, mem⟩ := report
  have first := x.decided_first
  cases before with
  | cons call before =>
    rw [calls, List.cons_append, List.tail_cons, List.filterMap_append, List.append_eq_nil_iff] at first
    cases first.2
  | nil =>
    rw [calls, List.nil_append, List.tail_cons] at first
    rw [Entry.owed, Entry.frees, calls, List.nil_append]
    refine ⟨?_, rfl⟩
    rw [Call.owed_process _ _ first]
    exact mem

theorem Run.report_followed (run : Run config observed history c) (few : history.asked.length < UInt64.size)
    {rest : List Call} (report : Report history recent x rest e) :
    WaitsHolding c x e ∨ FlowHolding c recent x e ∨ FreedIn recent rest e := by
  obtain ⟨owed, frees⟩ := report.calls
  obtain ⟨past, -, -, -, rfl, -, -⟩ := report
  have freed (h : e ∈ x.frees) : FreedIn recent rest e := .inl (frees ▸ h)
  generalize he : x.event = ev
  cases he ▸ x.dealing with
  | @parked n p parked =>
    have mem : e ∈ p.elements := by rwa [Entry.owed, parked.owed] at owed
    have parks : x.Parks n p := ⟨he, parked⟩
    cases run.fate parks with
    | waiting _ waits => exact .inl ⟨n, p, parks, waits, mem⟩
    | answered y late hy answer waits answers =>
      have conclusion := (Entry.conclusion_answered answer waits).2
      rcases conclusion.elements.recorded_mem mem with gone | ⟨m, forwards, elements, held, mem⟩
      · exact .inr (.inr (.inr ⟨y, hy, gone⟩))
      · obtain ⟨later, earlier, rfl⟩ := List.append_of_mem hy
        have run' : Run config observed (later ++ y :: (earlier ++ x :: past)) c := by simpa using run
        rcases run'.held_or_freed held mem with ⟨elements, held, mem⟩ | ⟨z, hz, gone⟩
        · exact .inr (.inl ⟨y, by simp [answers], m, forwards, elements, held, mem⟩)
        · exact .inr (.inr (.inr ⟨z, List.mem_append_left _ hz, gone⟩))
    | displaced again =>
      obtain ⟨z, hz, again⟩ := again
      exact absurd again (run.fresh few (by simp [parks.asks]) z hz)
  | astray _ _ _ _ nothing => simp [Entry.owed, Call.owed, nothing] at owed
  | @concluded n elements owed' _ left _ _ conclusion =>
    have mem : e ∈ owed' := by rwa [Entry.owed, left] at owed
    rcases conclusion.elements.recorded_mem mem with gone | ⟨m, forwards, elements, held, mem⟩
    · exact .inr (.inr (freed gone))
    · rcases run.held_or_freed held mem with ⟨elements, held, mem⟩ | later
      · exact .inr (.inl ⟨x, List.mem_cons_self, m, forwards, elements, held, mem⟩)
      · exact .inr (.inr (.inr later))
  | resumed _ _ undecided => simp [Entry.owed, Call.owed_undecided undecided] at owed
  | unasked _ _ _ nothing => simp [Entry.owed, Call.owed, nothing] at owed
  | removed _ _ _ _ _ _ undecided => simp [Entry.owed, Call.owed_undecided undecided] at owed
  | apart _ _ _ quiet => simp [Entry.owed, Call.owed_undecided quiet.undecided] at owed

/-- No state that elements keep for packets is lost, and none is freed too often. The releases of an element, the
    waiting packets that hold it and the flows that hold it are together at most as many as the times that it was left
    with state. Each time, the state is still held by the packet while it waits, or by a flow that was installed for
    it, or the element has been told to free it since. -/
theorem Run.elements_released (run : Run config observed history c) (few : history.asked.length < UInt64.size) :
    (∀ e, (history.flatMap Entry.frees).count e + c.parking.holding e + c.ledger.holding e ≤
      (history.flatMap Entry.owed).count e) ∧
    (∀ recent x rest e, Report history recent x rest e →
      WaitsHolding c x e ∨ FlowHolding c recent x e ∨ FreedIn recent rest e) ∧
    (c.parking.isEmpty = true → c.ledger.isEmpty = true →
      ∀ recent x rest e, Report history recent x rest e → FreedIn recent rest e) := by
  refine ⟨run.balance, fun _ _ _ _ => run.report_followed few, ?_⟩
  intro unparked unrecorded recent x rest e report
  rcases run.report_followed few report with ⟨n, p, -, waits, -⟩ | ⟨y, -, m, -, elements, held, -⟩ | freed
  · rw [Table.get?_of_isEmpty unparked] at waits
    cases waits
  · rw [FlowLedger.elements?, Table.get?_of_isEmpty unrecorded] at held
    cases held
  · exact freed

/-- An element that took part in delivering a packet has been told to free its state once the flow is gone. -/
theorem elements_released_removed :
    let a := Sample.delivering (.ofList [Sample.element 5])
    FreedIn [Sample.removed a ⟨7⟩, Sample.resolved a ⟨7⟩] (Sample.arrived a ⟨7⟩).calls.tail (Sample.element 5) := by
  intro a
  have few : (History.asked (Sample.removed a ⟨7⟩ :: Sample.resolved a ⟨7⟩ :: Sample.arrived a ⟨7⟩ ::
      (Sample.attached a).1)).length < UInt64.size := by decide +kernel
  have unparked : (Sample.removed a ⟨7⟩).after.parking.isEmpty = true := by decide +kernel
  have unrecorded : (Sample.removed a ⟨7⟩).after.ledger.isEmpty = true := by decide +kernel
  refine (Run.elements_released (Sample.run_removed a ⟨7⟩) few).2.2 unparked unrecorded _ (Sample.arrived a ⟨7⟩) _ _
    ⟨_, [], _, _, rfl, rfl, ?_⟩
  decide +kernel

end VirtualRouter
