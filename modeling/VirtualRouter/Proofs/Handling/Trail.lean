import VirtualRouter.Controller.Event

/-! What a turn leaves behind besides new registries: the things counted and the calls made, in order. Every single
    step that only counts and calls adds a trail to its turn, and the trails of steps in a row are joined. -/

namespace VirtualRouter

/-! ### Trails -/

/-- The things counted and the calls made during a part of a turn, in order. -/
structure Trail where
  counts : List Counter := []
  calls : List Call := []

namespace Trail

instance : Append Trail := ⟨fun x y => ⟨x.counts ++ y.counts, x.calls ++ y.calls⟩⟩

@[simp] theorem counts_append (x y : Trail) : (x ++ y).counts = x.counts ++ y.counts := rfl

@[simp] theorem calls_append (x y : Trail) : (x ++ y).calls = x.calls ++ y.calls := rfl

theorem append_assoc (x y z : Trail) : x ++ y ++ z = x ++ (y ++ z) := by
  show mk _ _ = mk _ _
  simp

@[simp] theorem append_empty (x : Trail) : x ++ {} = x := by
  show mk _ _ = _
  simp

@[simp] theorem empty_append (x : Trail) : {} ++ x = x := rfl

def count (k : Counter) : Trail := ⟨[k], []⟩

def call (c : Call) : Trail := ⟨[], [c]⟩

/-- What is counted of a call's answer: nothing unless it failed. -/
def failure {ε : Type} (k : Counter) : Except ε Unit → Trail
  | .ok _ => {}
  | .error _ => count k

def freeing (a : Answers) (buffer : Buffer) : Trail :=
  if buffer.isBuffered then
    call (.freeBuffer buffer (a.freeBuffer buffer)) ++ failure .datapathErrors (a.freeBuffer buffer)
  else {}

def discard (a : Answers) (buffer : Buffer) : Trail := count .packetsDropped ++ freeing a buffer

def release (a : Answers) (flow : HeaderMatch) (elements : ElementSet) : Trail where
  counts := elements.toList.flatMap fun e =>
    (failure .elementCleanupFailures (a.freeFlow e flow)).counts
  calls := elements.toList.map fun e => .freeFlow e flow (a.freeFlow e flow)

def announce (observed : Bool) (incoming installed : HeaderMatch) (ingress : PortId) (elements : ElementSet) : Trail :=
  if observed then call (.installed incoming installed ingress elements) else {}

def send (a : Answers) (buffer : Buffer) (inPort : PortNumber) (actions : List Action) (data : Octets) : Trail :=
  call (.sendPacket buffer inPort actions data (a.sendPacket buffer inPort actions data)) ++
    failure .datapathErrors (a.sendPacket buffer inPort actions data)

/-- The switch is asked for a rule that drops packets. -/
def drop (a : Answers) (rule : FlowRule) : Trail :=
  call (.addRule rule (a.addRule rule)) ++
    match a.addRule rule with
    | .ok _ => count .blackholesInstalled
    | .error _ => count .datapathErrors

/-- A packet of which the switch holds no copy is sent along with the rule for it. -/
def emission (a : Answers) (buffer : Buffer) (actions : List Action) (data : Octets) : Trail :=
  if buffer.isBuffered then {} else send a buffer .none actions data

/-- The switch takes a forwarding rule. -/
def accepted (a : Answers) (rule : FlowRule) (data : Octets) : Trail :=
  call (.addRule rule (.ok ())) ++ count .flowsInstalled ++ emission a rule.buffer rule.actions data

/-- The switch refuses a forwarding rule. -/
def refused (a : Answers) (rule : FlowRule) (error : DatapathError) : Trail :=
  call (.addRule rule (.error error)) ++ count .datapathErrors ++ discard a rule.buffer

/-! ### The calls of a trail -/

section Calls
variable (a : Answers) (buffer : Buffer) (rule : FlowRule) (data : Octets)

@[simp] theorem calls_count (k : Counter) : (count k).calls = [] := rfl

@[simp] theorem calls_call (c : Call) : (call c).calls = [c] := rfl

@[simp] theorem calls_failure {ε : Type} (k : Counter) (answer : Except ε Unit) : (failure k answer).calls = [] := by
  cases answer <;> rfl

theorem calls_freeing : (freeing a buffer).calls =
    if buffer.isBuffered then [.freeBuffer buffer (a.freeBuffer buffer)] else [] := by
  unfold freeing
  split <;> simp

@[simp] theorem calls_discard : (discard a buffer).calls = (freeing a buffer).calls := by simp [discard]

@[simp] theorem calls_release (flow : HeaderMatch) (elements : ElementSet) :
    (release a flow elements).calls = elements.toList.map fun e => .freeFlow e flow (a.freeFlow e flow) := rfl

theorem calls_announce (observed : Bool) (incoming installed : HeaderMatch) (ingress : PortId) (elements : ElementSet) :
    (announce observed incoming installed ingress elements).calls =
      if observed then [.installed incoming installed ingress elements] else [] := by
  unfold announce
  split <;> rfl

@[simp] theorem calls_send (inPort : PortNumber) (actions : List Action) :
    (send a buffer inPort actions data).calls =
      [.sendPacket buffer inPort actions data (a.sendPacket buffer inPort actions data)] := by
  simp [send]

@[simp] theorem calls_drop : (drop a rule).calls = [.addRule rule (a.addRule rule)] := by
  unfold drop
  cases a.addRule rule <;> simp

@[simp] theorem calls_emission (actions : List Action) : (emission a buffer actions data).calls =
    if buffer.isBuffered then []
    else [.sendPacket buffer .none actions data (a.sendPacket buffer .none actions data)] := by
  unfold emission
  split <;> simp

@[simp] theorem calls_accepted : (accepted a rule data).calls =
    .addRule rule (.ok ()) :: (emission a rule.buffer rule.actions data).calls := by
  simp [accepted]

/-- The rule that the switch takes is the one that it is asked for. -/
theorem addRule_mem_accepted {rule rule' : FlowRule} :
    .addRule rule (.ok ()) ∈ (accepted a rule' data).calls ↔ rule = rule' := by
  rw [calls_accepted, calls_emission]
  split <;> simp

theorem addRule_not_mem_announce {rule : FlowRule} {answer : Except DatapathError Unit} (observed : Bool)
    (incoming installed : HeaderMatch) (ingress : PortId) (elements : ElementSet) :
    .addRule rule answer ∉ (announce observed incoming installed ingress elements).calls := by
  rw [calls_announce]
  split <;> simp

@[simp] theorem calls_refused (error : DatapathError) : (refused a rule error).calls =
    .addRule rule (.error error) :: (freeing a rule.buffer).calls := by
  simp [refused]

end Calls

end Trail

/-! ### Rules -/

section Rules
variable (s : FlowSettings) (pattern : HeaderMatch) (buffer : Buffer) (actions : List Action)

@[simp] theorem buffer_dropping (idle hard : UInt16) : (FlowRule.dropping pattern buffer idle hard).buffer = buffer :=
  rfl

@[simp] theorem isDrop_dropping (idle hard : UInt16) : (FlowRule.dropping pattern buffer idle hard).isDrop = true :=
  rfl

@[simp] theorem buffer_blackhole : (s.blackhole pattern buffer).buffer = buffer := rfl

@[simp] theorem isDrop_blackhole : (s.blackhole pattern buffer).isDrop = true := rfl

@[simp] theorem pattern_forwarding : (s.forwarding pattern buffer actions).pattern = pattern := rfl

@[simp] theorem buffer_forwarding : (s.forwarding pattern buffer actions).buffer = buffer := rfl

@[simp] theorem actions_forwarding : (s.forwarding pattern buffer actions).actions = actions := rfl

@[simp] theorem notifyRemoval_forwarding : (s.forwarding pattern buffer actions).notifyRemoval = true := rfl

end Rules

/-! ### Counting -/

/-- The controller with things counted, in order. -/
def Controller.counting (c : Controller) (ks : List Counter) : Controller :=
  { c with counters := ks.foldl Counters.bump c.counters }

namespace Controller
variable (c : Controller) (ks ls : List Counter)

@[simp] theorem ports_counting : (c.counting ks).ports = c.ports := rfl

@[simp] theorem tunnels_counting : (c.counting ks).tunnels = c.tunnels := rfl

@[simp] theorem slices_counting : (c.counting ks).slices = c.slices := rfl

@[simp] theorem ledger_counting : (c.counting ks).ledger = c.ledger := rfl

@[simp] theorem parking_counting : (c.counting ks).parking = c.parking := rfl

@[simp] theorem flows_counting : (c.counting ks).flows = c.flows := rfl

@[simp] theorem observed_counting : (c.counting ks).observed = c.observed := rfl

@[simp] theorem localAddress_counting : (c.counting ks).localAddress = c.localAddress := rfl

@[simp] theorem serviceTarget_counting : (c.counting ks).serviceTarget = c.serviceTarget := rfl

@[simp] theorem counting_nil : c.counting [] = c := rfl

@[simp] theorem counting_counting : (c.counting ks).counting ls = c.counting (ks ++ ls) := by
  simp [counting]

end Controller

/-! ### Turns -/

namespace Turn

/-- The turn after a trail. -/
def along (t : Turn) (x : Trail) : Turn := ⟨t.controller.counting x.counts, t.calls ++ x.calls⟩

variable (a : Answers) (t : Turn)

@[simp] theorem controller_along (x : Trail) : (t.along x).controller = t.controller.counting x.counts := rfl

@[simp] theorem calls_along (x : Trail) : (t.along x).calls = t.calls ++ x.calls := rfl

@[simp] theorem along_empty : t.along {} = t := by simp [along]

@[simp] theorem along_along (x y : Trail) : (t.along x).along y = t.along (x ++ y) := by
  simp [along]

theorem count_eq (k : Counter) : t.count k = t.along (.count k) := by
  simp [count, along, Trail.count, Controller.counting]

theorem call_eq (c : Call) : t.call c = t.along (.call c) := rfl

theorem countFailure_eq {ε : Type} (k : Counter) (answer : Except ε Unit) :
    t.countFailure k answer = t.along (.failure k answer) := by
  cases answer with
  | ok _ => exact (along_empty t).symm
  | error _ => exact count_eq t k

theorem freeBuffer_eq (buffer : Buffer) : t.freeBuffer a buffer = t.along (.freeing a buffer) := by
  unfold freeBuffer Trail.freeing
  split
  · rw [countFailure_eq, call_eq, along_along]
  · exact (along_empty t).symm

theorem discard_eq (buffer : Buffer) : t.discard a buffer = t.along (.discard a buffer) := by
  rw [discard, freeBuffer_eq, count_eq, along_along, Trail.discard]

theorem releaseElement_eq (flow : HeaderMatch) (e : ElementId) :
    t.releaseElement a flow e =
      t.along (.call (.freeFlow e flow (a.freeFlow e flow)) ++
        .failure .elementCleanupFailures (a.freeFlow e flow)) := by
  rw [releaseElement, countFailure_eq, call_eq, along_along]

theorem releaseElements_eq (flow : HeaderMatch) (elements : ElementSet) :
    t.releaseElements a flow elements = t.along (.release a flow elements) := by
  have fold : ∀ (es : List ElementId) (t : Turn), es.foldl (releaseElement a flow) t =
      t.along ⟨es.flatMap fun e => (Trail.failure .elementCleanupFailures (a.freeFlow e flow)).counts,
        es.map fun e => .freeFlow e flow (a.freeFlow e flow)⟩ := by
    intro es
    induction es with
    | nil => exact fun t => (along_empty t).symm
    | cons e es ih =>
      intro t
      rw [List.foldl_cons, ih, releaseElement_eq, along_along, List.flatMap_cons, List.map_cons]
      cases a.freeFlow e flow <;> rfl
  exact fold elements.toList t

theorem announce_eq (incoming installed : HeaderMatch) (ingress : PortId) (elements : ElementSet) :
    t.announce incoming installed ingress elements =
      t.along (.announce t.controller.observed incoming installed ingress elements) := by
  unfold announce Trail.announce
  split
  · rfl
  · exact (along_empty t).symm

theorem installDrop_eq (rule : FlowRule) : t.installDrop a rule = t.along (.drop a rule) := by
  unfold installDrop Trail.drop
  cases a.addRule rule <;> simp only [count_eq, call_eq, along_along]

theorem blackhole_eq (pattern : HeaderMatch) (buffer : Buffer) :
    t.blackhole a pattern buffer = t.along (.drop a (t.controller.flows.blackhole pattern buffer)) :=
  installDrop_eq a t _

theorem sendPacket_eq (buffer : Buffer) (inPort : PortNumber) (actions : List Action) (data : Octets) :
    t.sendPacket a buffer inPort actions data = t.along (.send a buffer inPort actions data) := by
  rw [sendPacket, countFailure_eq, call_eq, along_along, Trail.send]

theorem installForward_ok {pattern : HeaderMatch} {buffer : Buffer} {actions : List Action} (data : Octets)
    (h : a.addRule (t.controller.flows.forwarding pattern buffer actions) = .ok ()) :
    t.installForward a pattern buffer actions data =
      (t.along (.accepted a (t.controller.flows.forwarding pattern buffer actions) data), true) := by
  unfold installForward Trail.accepted Trail.emission
  cases hb : buffer.isBuffered <;>
    simp [h, hb, call_eq, count_eq, sendPacket_eq]

theorem installForward_error {pattern : HeaderMatch} {buffer : Buffer} {actions : List Action} (data : Octets)
    {error : DatapathError} (h : a.addRule (t.controller.flows.forwarding pattern buffer actions) = .error error) :
    t.installForward a pattern buffer actions data =
      (t.along (.refused a (t.controller.flows.forwarding pattern buffer actions) error), false) := by
  simp only [installForward, h, call_eq, count_eq, along_along, discard_eq, Trail.refused, buffer_forwarding]

theorem unreachable_eq (code : UnreachableCode) (ingress : PortId) (packet : Packet) :
    t.unreachable code ingress packet = t.along (.call (.unreachable code ingress packet)) := rfl

theorem widen_eq (scope : FlowScope) (incoming : HeaderMatch) :
    t.widen a scope incoming = t.along (.call (.widen scope incoming (a.widen scope incoming))) := rfl

end Turn

end VirtualRouter
