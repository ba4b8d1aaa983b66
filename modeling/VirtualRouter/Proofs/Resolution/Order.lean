import VirtualRouter.Proofs.Run.History

/-! The order in which the resolver answers does not matter. What an answer comes to depends on the packet that waits
    under its token, the ports and the settings, and on nothing that another answer changes. Two answers for different
    tokens therefore lead to the same controller in either order, and so do any number of them. -/

namespace VirtualRouter

variable {a : Answers} {c c' d d' : Controller} {x y : Trail} {p : ParkedPacket} {token : Token} {mac : Option Mac}

/-! ### Recording flows -/

namespace FlowLedger
variable {l l' : FlowLedger}

/-- The ledger with a flow recorded, if there is one. -/
def noting (l : FlowLedger) : Option (HeaderMatch × ElementSet) → FlowLedger
  | some (m, elements) => l.record m elements
  | none => l

theorem elements?_noting_congr (same : ∀ m, l.elements? m = l'.elements? m) (flow : Option (HeaderMatch × ElementSet))
    (m : HeaderMatch) : (l.noting flow).elements? m = (l'.noting flow).elements? m := by
  cases flow with
  | none => exact same m
  | some flow => simp only [noting, elements?_record, same]

/-- Flows are recorded in any order, also when they are of one match. -/
theorem elements?_noting_comm (l : FlowLedger) (flow flow' : Option (HeaderMatch × ElementSet)) (m : HeaderMatch) :
    ((l.noting flow).noting flow').elements? m = ((l.noting flow').noting flow).elements? m := by
  rcases flow with _ | ⟨m₁, s₁⟩
  · rfl
  rcases flow' with _ | ⟨m₂, s₂⟩
  · rfl
  have joined (s : ElementSet) : (s.union s₁).union s₂ = (s.union s₂).union s₁ :=
    OrderedSet.ext fun e => by simp only [OrderedSet.mem_union, or_right_comm]
  simp only [noting, elements?_record]
  by_cases first : m = m₁ <;> by_cases second : m = m₂
  · subst first second
    simp [joined]
  · subst first
    simp [second]
  · subst second
    simp [first]
  · simp [first, second]

end FlowLedger

/-! ### What an answer comes to -/

/-- The flow that an answer has recorded, if one was installed, and the trail that its handling leaves. -/
structure Settlement where
  flow : Option (HeaderMatch × ElementSet) := none
  trail : Trail := {}

namespace Controller

/-- The controllers are alike in all that the handling of an answer under the token depends on. -/
structure Agrees (c d : Controller) (token : Token) : Prop where
  ports : d.ports = c.ports
  flows : d.flows = c.flows
  observed : d.observed = c.observed
  waits : d.parking.waiting.get? token = c.parking.waiting.get? token

/-- The controller after an answer under a token that came to this. -/
def settled (c : Controller) (token : Token) (s : Settlement) : Controller :=
  let released : Controller := { c with parking := (c.parking.take token).1, ledger := c.ledger.noting s.flow }
  released.counting s.trail.counts

end Controller

namespace Course

/-- There is one way only to go on with a packet. -/
theorem Resumes.unique (h : Resumes a c p mac c' x) (h' : Resumes a c p mac d' y) : c' = d' ∧ x = y := by
  cases h <;> cases h' <;> simp_all

/-- A packet is gone on with in the same way by every controller with these ports and settings. -/
theorem Resumes.transfer (course : Resumes a c p mac c' x) : ∃ flow, ∀ d : Controller,
    Resumes a { d with ports := c.ports, flows := c.flows, observed := c.observed } p mac
      { d with ports := c.ports, flows := c.flows, observed := c.observed, ledger := d.ledger.noting flow } x := by
  cases course with
  | vanishedTunnelled gone => exact ⟨none, fun _ => .vanishedTunnelled gone⟩
  | relayed here relay => exact ⟨none, fun _ => .relayed here relay⟩
  | forwardedTunnelled here plain taken => exact ⟨some (_, _), fun _ => .forwardedTunnelled here plain taken⟩
  | refusedTunnelled here plain refusal => exact ⟨none, fun _ => .refusedTunnelled here plain refusal⟩
  | timedOutTunnelled => exact ⟨none, fun _ => .timedOutTunnelled⟩
  | vanishedLocal gone => exact ⟨none, fun _ => .vanishedLocal gone⟩
  | forwardedLocal here taken => exact ⟨some (_, _), fun _ => .forwardedLocal here taken⟩
  | refusedLocal here refusal => exact ⟨none, fun _ => .refusedLocal here refusal⟩
  | timedOutLocal => exact ⟨none, fun _ => .timedOutLocal⟩

end Course

namespace Controller

theorem step_absent (absent : c.parking.waiting.get? token = none) :
    c.step a (.addressResolved token mac) = ⟨c, []⟩ := by
  obtain ⟨c', x, course, eq⟩ := Course.step_course a c (.addressResolved token mac)
  cases course with
  | unasked => exact eq
  | resumes waits =>
    rw [absent] at waits
    cases waits

theorem step_resumes (waits : c.parking.waiting.get? token = some p)
    (course : Course.Resumes a { c with parking := (c.parking.take token).1 } p mac c' x) :
    c.step a (.addressResolved token mac) = ⟨c'.counting x.counts, x.calls⟩ := by
  obtain ⟨d, y, course', eq⟩ := Course.step_course a c (.addressResolved token mac)
  cases course' with
  | unasked absent =>
    rw [waits] at absent
    cases absent
  | resumes found course' =>
    obtain rfl := Option.some.inj (waits.symm.trans found)
    obtain ⟨rfl, rfl⟩ := course.unique course'
    exact eq

/-- An answer comes to the same for all controllers that agree. -/
theorem exists_settlement (a : Answers) (c : Controller) (token : Token) (mac : Option Mac) :
    ∃ s : Settlement, ∀ d, c.Agrees d token →
      d.step a (.addressResolved token mac) = ⟨d.settled token s, s.trail.calls⟩ := by
  cases waits : c.parking.waiting.get? token with
  | none =>
    refine ⟨{}, fun d agrees => ?_⟩
    have absent := agrees.waits.trans waits
    rw [step_absent absent, settled, Parking.take, Table.erase_of_get?_eq_none absent]
    rfl
  | some p =>
    obtain ⟨c', x, course, -⟩ := Course.resumes a { c with parking := (c.parking.take token).1 } p mac
    obtain ⟨flow, transfer⟩ := course.transfer
    refine ⟨⟨flow, x⟩, fun d agrees => ?_⟩
    have course := transfer { d with parking := (d.parking.take token).1 }
    simp only [← agrees.ports, ← agrees.flows, ← agrees.observed] at course
    exact step_resumes (agrees.waits.trans waits) course

/-! ### Two answers -/

/-- The controllers are the same, but for the order in which their ledgers list the flows. -/
structure Alike (c d : Controller) : Prop where
  rest : c = { d with ledger := c.ledger }
  ledger : ∀ m, c.ledger.elements? m = d.ledger.elements? m

theorem Alike.refl (c : Controller) : c.Alike c := ⟨rfl, fun _ => rfl⟩

theorem Alike.trans {e : Controller} (h : c.Alike d) (h' : d.Alike e) : c.Alike e := by
  refine ⟨?_, fun m => (h.ledger m).trans (h'.ledger m)⟩
  rw [h.rest, h'.rest]

theorem Alike.agrees (h : c.Alike d) (token : Token) : c.Agrees d token := by
  rw [h.rest]
  exact ⟨rfl, rfl, rfl, rfl⟩

/-- Answers under other tokens do not matter. -/
theorem agrees_settled {other : Token} (differs : other ≠ token) (s : Settlement) :
    c.Agrees (c.settled token s) other :=
  ⟨rfl, rfl, rfl, by simp [settled, Parking.take, Table.get?_erase, differs]⟩

theorem Alike.settled (h : c.Alike d) (token : Token) (s : Settlement) :
    (c.settled token s).Alike (d.settled token s) := by
  refine ⟨?_, fun m => FlowLedger.elements?_noting_congr h.ledger s.flow m⟩
  rw [h.rest]
  rfl

/-- Two answers come to the same in either order. -/
theorem settled_comm (c : Controller) (token token' : Token) (s s' : Settlement) :
    ((c.settled token s).settled token' s').Alike ((c.settled token' s').settled token s) := by
  have counters : (s.trail.counts ++ s'.trail.counts).foldl Counters.bump c.counters =
      (s'.trail.counts ++ s.trail.counts).foldl Counters.bump c.counters :=
    List.perm_append_comm.foldl_eq' (fun k _ j _ cs => Counters.bump_comm cs k j) c.counters
  refine ⟨?_, fun m => FlowLedger.elements?_noting_comm c.ledger s.flow s'.flow m⟩
  rw [List.foldl_append, List.foldl_append] at counters
  simp only [settled, counting, Parking.take, Table.erase_comm _ token token', counters]

/-! ### Any number of answers -/

/-- Handles answers in turn. The calls made on an answer are listed under its token. -/
def answerAll (a : Answers) (c : Controller) : List (Token × Option Mac) → Controller × List (Token × List Call)
  | [] => (c, [])
  | (token, mac) :: rest =>
    let turn := c.step a (.addressResolved token mac)
    let last := turn.controller.answerAll a rest
    (last.1, (token, turn.calls) :: last.2)

/-- Answers come to the same for controllers that are alike. -/
theorem Alike.answerAll (h : c.Alike d) (answers : List (Token × Option Mac)) :
    (c.answerAll a answers).1.Alike (d.answerAll a answers).1 ∧
      (c.answerAll a answers).2 = (d.answerAll a answers).2 := by
  induction answers generalizing c d with
  | nil => exact ⟨h, rfl⟩
  | cons answer rest ih =>
    obtain ⟨token, mac⟩ := answer
    obtain ⟨s, comes⟩ := exists_settlement a c token mac
    have hc := comes c ⟨rfl, rfl, rfl, rfl⟩
    have hd := comes d (h.agrees token)
    obtain ⟨alike, log⟩ := ih (h.settled token s)
    simp only [Controller.answerAll, hc, hd, log]
    exact ⟨alike, trivial⟩

/-- The order in which answers under different tokens come does not matter. The controller ends up with the same
    ports, tunnels, port sets, waiting packets and counters and with the same elements behind every flow, and on each
    answer the same calls are made. -/
theorem answerAll_perm (a : Answers) (c : Controller) {answers answers' : List (Token × Option Mac)}
    (perm : answers.Perm answers') (distinct : (answers.map Prod.fst).Nodup) :
    (c.answerAll a answers).1.Alike (c.answerAll a answers').1 ∧
      (c.answerAll a answers).2.Perm (c.answerAll a answers').2 := by
  induction perm generalizing c with
  | nil => exact ⟨.refl c, .nil⟩
  | cons answer _ ih =>
    obtain ⟨token, mac⟩ := answer
    obtain ⟨alike, log⟩ := ih (c.step a (.addressResolved token mac)).controller (List.nodup_cons.1 distinct).2
    exact ⟨alike, log.cons _⟩
  | swap first second rest =>
    obtain ⟨token, mac⟩ := first
    obtain ⟨token', mac'⟩ := second
    have differs : token' ≠ token := by
      rintro rfl
      simp at distinct
    -- Either answer comes to the same as it would alone, since the other one is under another token.
    obtain ⟨s, comes⟩ := exists_settlement a c token mac
    obtain ⟨s', comes'⟩ := exists_settlement a c token' mac'
    have at_once := comes c ⟨rfl, rfl, rfl, rfl⟩
    have at_once' := comes' c ⟨rfl, rfl, rfl, rfl⟩
    have after := comes _ (agrees_settled differs.symm s')
    have after' := comes' _ (agrees_settled differs s)
    obtain ⟨alike, log⟩ := (settled_comm c token' token s' s).answerAll rest (a := a)
    simp only [answerAll, at_once, at_once', after, after', log]
    exact ⟨alike, .swap ..⟩
  | trans perm _ ih ih' =>
    obtain ⟨alike, log⟩ := ih c distinct
    obtain ⟨alike', log'⟩ := ih' c ((perm.map Prod.fst).nodup_iff.1 distinct)
    exact ⟨alike.trans alike', log.trans log'⟩

end Controller

/-- One of two packets of a flow is delivered and the other is not, in either order. -/
theorem answerAll_perm_mixed :
    let a := Sample.delivering (.ofList [Sample.element 5])
    let c := (Sample.handled default a Sample.pair).2
    let found := (⟨0⟩, some (Sample.port 3).mac)
    let missing := (⟨1⟩, none)
    c.parking.size = 2 ∧
      (c.answerAll a [found, missing]).1.Alike (c.answerAll a [missing, found]).1 ∧
      (c.answerAll a [found, missing]).2.Perm (c.answerAll a [missing, found]).2 := by
  intro a c found missing
  exact ⟨by decide +kernel, Controller.answerAll_perm a _ (.swap ..) (by decide)⟩

end VirtualRouter
