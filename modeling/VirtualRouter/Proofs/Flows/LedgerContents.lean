import VirtualRouter.Proofs.Run.Waiting

/-! What the ledger of flows holds. A match is in the ledger exactly when the switch has taken a forwarding rule for it
    since the last report that its rule is gone, and then with the elements of the packets that these rules were
    installed for. -/

namespace VirtualRouter

variable {config : Config} {observed : Bool} {history past : History} {c : Controller} {x y : Entry}
  {token : Token} {m : HeaderMatch} {p : ParkedPacket}

/-- The arrival of the packet that an event is about: an answer of the resolver is about the packet that was parked when
    the answer's token was last handed out. -/
def Entry.origin? (x : Entry) (past : History) : Option Entry :=
  match x.answered? with
  | some token => past.find? fun y => token ∈ y.asks
  | none => some x

/-- The switch took a forwarding rule of the match during the event, and no later event has reported the rule gone. -/
def InstalledSince (m : HeaderMatch) (history : History) (x : Entry) (past : History) : Prop :=
  ∃ recent, history = recent ++ x :: past ∧ m ∈ x.forwards ∧ ∀ y ∈ recent, ¬y.Removes m

/-! ### What one event does to the ledger -/

/-- The elements of the packet that an event is about, if the event is its arrival or takes it out of the parking. -/
def Entry.Brings (x : Entry) (elements : ElementSet) : Prop :=
  (x.answered? = none ∧ x.elements = elements.toList) ∨
    ∃ token p, x.answered? = some token ∧ x.before.parking.waiting.get? token = some p ∧ elements = p.elements

theorem Entry.ledger_cases (x : Entry) :
    (x.forwards = [] ∧ (∀ m, ¬x.Removes m) ∧ x.after.ledger = x.before.ledger) ∨
      (∃ r, x.event = .flowRemoved r ∧ x.forwards = [] ∧ x.after.ledger = (x.before.ledger.release r.pattern).1) ∨
      ∃ m elements, x.forwards = [m] ∧ (∀ m, ¬x.Removes m) ∧ x.Brings elements ∧
        x.after.ledger = x.before.ledger.record m elements := by
  generalize he : x.event = e
  have unremoved (h : ∀ r, e ≠ .flowRemoved r) : ∀ m, ¬x.Removes m :=
    fun _ ⟨r, removed, _⟩ => h r (he.symm.trans removed)
  cases he ▸ x.dealing with
  | parked parked => exact .inl ⟨parked.forwarded, unremoved (by simp), parked.ledger⟩
  | astray _ _ _ ledger nothing => exact .inl ⟨by simp [forwards, nothing], unremoved (by simp), ledger⟩
  | concluded took _ _ _ conclusion =>
    cases conclusion.elements with
    | recorded m forwarded ledger =>
      exact .inr (.inr ⟨m, _, forwarded, unremoved (by simp), .inl ⟨by simp [answered?, he], took⟩, ledger⟩)
    | released forwarded ledger => exact .inl ⟨forwarded, unremoved (by simp), ledger⟩
  | resumed waits _ _ conclusion =>
    cases conclusion.elements with
    | recorded m forwarded ledger =>
      exact .inr (.inr ⟨m, _, forwarded, unremoved (by simp), .inr ⟨_, _, by simp [answered?, he], waits, rfl⟩, ledger⟩)
    | released forwarded ledger => exact .inl ⟨forwarded, unremoved (by simp), ledger⟩
  | unasked _ _ ledger nothing => exact .inl ⟨by simp [forwards, nothing], unremoved (by simp), ledger⟩
  | removed _ ledger _ _ forwarded => exact .inr (.inl ⟨_, rfl, forwarded, ledger⟩)
  | apart lifecycle _ ledger quiet =>
    exact .inl ⟨quiet.forwarded, unremoved (by rintro r rfl; cases lifecycle), ledger⟩

/-- An event that neither installs a flow nor reports it gone leaves it in the ledger as it is. -/
theorem Entry.elements?_frame (forwards : m ∉ x.forwards) (removes : ¬x.Removes m) :
    x.after.ledger.elements? m = x.before.ledger.elements? m := by
  rcases x.ledger_cases with ⟨-, -, ledger⟩ | ⟨r, event, -, ledger⟩ | ⟨m', elements, installs, -, -, ledger⟩
  · rw [ledger]
  · have other : m ≠ r.pattern := fun h => removes ⟨r, event, h.symm⟩
    rw [ledger, FlowLedger.elements?_release, if_neg other]
  · have other : m ≠ m' := by simpa [installs] using forwards
    rw [ledger, FlowLedger.elements?_record, if_neg other]

/-! ### Flows installed since the last report -/

theorem installedSince_nil : ¬InstalledSince m [] x past := by
  rintro ⟨recent, eq, -⟩
  cases recent <;> cases eq

theorem installedSince_cons : InstalledSince m (y :: history) x past ↔
    (x = y ∧ past = history ∧ m ∈ y.forwards) ∨ (¬y.Removes m ∧ InstalledSince m history x past) := by
  constructor
  · rintro ⟨recent, eq, installs, kept⟩
    cases recent with
    | nil =>
      cases eq
      exact .inl ⟨rfl, rfl, installs⟩
    | cons z recent =>
      cases eq
      obtain ⟨removes, kept⟩ := List.forall_mem_cons.1 kept
      exact .inr ⟨removes, recent, rfl, installs, kept⟩
  · rintro (⟨rfl, rfl, installs⟩ | ⟨removes, recent, rfl, installs, kept⟩)
    · exact ⟨[], rfl, installs, by simp⟩
    · exact ⟨y :: recent, rfl, installs, List.forall_mem_cons.2 ⟨removes, kept⟩⟩

/-- The packet that an answer takes out of the parking was parked at its origin. -/
theorem Run.origin_parks (run : Run config observed past x.before) (answer : x.answered? = some token)
    (waits : x.before.parking.waiting.get? token = some p) : ∃ y n, x.origin? past = some y ∧ y.Parks n p := by
  obtain ⟨recent, y, past, n, rfl, parks, asks, fresh⟩ := run.waiting_parked waits
  refine ⟨y, n, ?_, parks⟩
  have unasked : recent.find? (fun z => token ∈ z.asks) = none := by simpa using fresh
  simp [Entry.origin?, answer, List.find?_append, unasked, asks]

theorem Run.origin_elements (run : Run config observed past x.before) {elements : ElementSet}
    (brings : x.Brings elements) : ∃ y, x.origin? past = some y ∧ y.elements = elements.toList := by
  rcases brings with ⟨arrival, took⟩ | ⟨token, p, answer, waits, rfl⟩
  · exact ⟨x, by simp [Entry.origin?, arrival], took⟩
  · obtain ⟨y, n, origin, parks⟩ := run.origin_parks answer waits
    exact ⟨y, origin, parks.2.elements⟩

/-! ### The ledger along a run -/

/-- An event that reports a flow gone takes it out of the ledger. -/
theorem Entry.elements?_removed (h : x.Removes m) : m ∉ x.forwards ∧ x.after.ledger.elements? m = none := by
  rcases x.ledger_cases with ⟨-, removes, -⟩ | ⟨r, event, none, ledger⟩ | ⟨-, -, -, removes, -⟩
  · exact absurd h (removes m)
  · obtain ⟨r', event', rfl⟩ := h
    cases event.symm.trans event'
    exact ⟨by simp [none], by rw [ledger, FlowLedger.elements?_release, if_pos rfl]⟩
  · exact absurd h (removes m)

/-- An event that installs a flow joins the elements of its packet to those in the ledger. -/
theorem Entry.elements?_installed (h : m ∈ x.forwards) : ¬x.Removes m ∧ ∃ elements, x.Brings elements ∧
    x.after.ledger.elements? m = some (((x.before.ledger.elements? m).getD .empty).union elements) := by
  rcases x.ledger_cases with ⟨none, -⟩ | ⟨r, event, none, -⟩ | ⟨m', elements, installs, removes, brings, ledger⟩
  · simp [none] at h
  · simp [none] at h
  · obtain rfl : m = m' := by simpa [installs] using h
    exact ⟨removes m, elements, brings, by rw [ledger, FlowLedger.elements?_record, if_pos rfl]⟩

namespace Run

theorem ledger_contains (run : Run config observed history c) (m : HeaderMatch) :
    c.ledger.contains m = true ↔ ∃ x past, InstalledSince m history x past := by
  induction run with
  | initial =>
    constructor
    · rintro ⟨⟩
    · rintro ⟨x, past, installed⟩
      exact absurd installed installedSince_nil
  | retarget _ _ ih => exact ih
  | @handle history c a e run ih =>
    let y : Entry := ⟨c, a, e⟩
    show (y.after.ledger.elements? m).isSome = true ↔ ∃ x past, InstalledSince m (y :: history) x past
    have ih : (y.before.ledger.elements? m).isSome = true ↔ _ := ih
    simp only [installedSince_cons]
    by_cases removes : y.Removes m
    · obtain ⟨uninstalled, gone⟩ := Entry.elements?_removed removes
      simp [gone, removes, uninstalled]
    by_cases forwards : m ∈ y.forwards
    · obtain ⟨-, elements, -, now⟩ := Entry.elements?_installed forwards
      simp only [now, Option.isSome_some, true_iff]
      exact ⟨y, history, .inl ⟨rfl, rfl, forwards⟩⟩
    · rw [Entry.elements?_frame forwards removes, ih]
      simp [removes, forwards]

theorem ledger_members (run : Run config observed history c) (m : HeaderMatch) (e : ElementId) :
    e ∈ (c.ledger.elements? m).getD .empty ↔
      ∃ x past y, InstalledSince m history x past ∧ x.origin? past = some y ∧ e ∈ y.elements := by
  induction run with
  | initial =>
    constructor
    · intro h
      exact absurd h OrderedSet.not_mem_empty
    · rintro ⟨x, past, y, installed, -⟩
      exact absurd installed installedSince_nil
  | retarget _ _ ih => exact ih
  | @handle history c a ev run ih =>
    let z : Entry := ⟨c, a, ev⟩
    show e ∈ (z.after.ledger.elements? m).getD .empty ↔
      ∃ x past y, InstalledSince m (z :: history) x past ∧ x.origin? past = some y ∧ e ∈ y.elements
    have ih : e ∈ (z.before.ledger.elements? m).getD .empty ↔ _ := ih
    by_cases removes : z.Removes m
    · obtain ⟨uninstalled, gone⟩ := Entry.elements?_removed removes
      simp [installedSince_cons, gone, removes, uninstalled]
    by_cases forwards : m ∈ z.forwards
    · obtain ⟨-, elements, brings, now⟩ := Entry.elements?_installed forwards
      obtain ⟨o, origin, own⟩ := Run.origin_elements (x := z) run brings
      rw [now, Option.getD_some, OrderedSet.mem_union, ih]
      constructor
      · rintro (⟨x, past, y, installed, rest⟩ | h)
        · exact ⟨x, past, y, installedSince_cons.2 (.inr ⟨removes, installed⟩), rest⟩
        · exact ⟨z, history, o, installedSince_cons.2 (.inl ⟨rfl, rfl, forwards⟩), origin, by rwa [own]⟩
      · rintro ⟨x, past, y, installed, was, h⟩
        rcases installedSince_cons.1 installed with ⟨rfl, rfl, -⟩ | ⟨-, installed⟩
        · obtain rfl := Option.some.inj (origin.symm.trans was)
          rw [own] at h
          exact .inr h
        · exact .inl ⟨x, past, y, installed, was, h⟩
    · rw [Entry.elements?_frame forwards removes, ih]
      simp [installedSince_cons, removes, forwards]

/-- The ledger holds a flow exactly when the switch has taken a forwarding rule of its match since the last report that
    the rule is gone, with exactly the elements of the packets that these rules were installed for. An event that
    neither installs the flow nor reports it gone leaves it as it is. -/
theorem ledger_contents (run : Run config observed history c) (m : HeaderMatch) :
    (c.ledger.contains m = true ↔ ∃ x past, InstalledSince m history x past) ∧
    (∀ elements, c.ledger.elements? m = some elements → ∀ e, e ∈ elements ↔
      ∃ x past y, InstalledSince m history x past ∧ x.origin? past = some y ∧ e ∈ y.elements) ∧
    ∀ x ∈ history, m ∉ x.forwards → ¬x.Removes m → x.after.ledger.elements? m = x.before.ledger.elements? m := by
  refine ⟨run.ledger_contains m, fun elements held e => ?_, fun x _ => Entry.elements?_frame⟩
  rw [← run.ledger_members m e, held, Option.getD_some]

/-- The flow of a delivered packet is recorded with the element that took part in the decision on it. -/
theorem ledger_contents_delivered :
    let a := Sample.delivering (.ofList [Sample.element 5])
    ∃ x past y, InstalledSince Sample.flow (Sample.resolved a ⟨7⟩ :: Sample.arrived a ⟨7⟩ :: (Sample.attached a).1) x past ∧
      x.origin? past = some y ∧ Sample.element 5 ∈ y.elements := by
  intro a
  have held : (Sample.resolved a ⟨7⟩).after.ledger.elements? Sample.flow = some (.ofList [Sample.element 5]) := by
    decide +kernel
  exact ((ledger_contents (Sample.run_resolved a ⟨7⟩) Sample.flow).2.1 _ held _).1 (by decide)

end Run

end VirtualRouter
