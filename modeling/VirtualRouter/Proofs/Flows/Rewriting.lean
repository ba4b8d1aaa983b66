import VirtualRouter.Flow.Action
import VirtualRouter.Proofs.Flows.Coverage

/-! What packets carry when a flow has rewritten them. The shortest list of actions between two matches turns every packet
    that agrees with the first into one that agrees with the second. A packet that does not agree with the first keeps
    its own value wherever the two matches are equal, so that leaving out a setting is sound only if the match that is
    installed pins the field. -/

namespace VirtualRouter

/-- A field's value after its setting in the shortest list between two matches. -/
def rewritten {α : Type} [DecidableEq α] (incoming wanted : Option α) (value : α) : α :=
  (wanted.filter fun _ => incoming ≠ wanted).getD value

/-- The headers after the settings of the shortest list between two matches. -/
def Addressing.rewritten (h : Addressing) (incoming wanted : HeaderMatch) : Addressing where
  dlSrc := VirtualRouter.rewritten incoming.dlSrc wanted.dlSrc h.dlSrc
  dlDst := VirtualRouter.rewritten incoming.dlDst wanted.dlDst h.dlDst
  nwSrc := VirtualRouter.rewritten incoming.nwSrc wanted.nwSrc h.nwSrc
  nwDst := VirtualRouter.rewritten incoming.nwDst wanted.nwDst h.nwDst
  tpSrc := VirtualRouter.rewritten incoming.tpSrc wanted.tpSrc h.tpSrc
  tpDst := VirtualRouter.rewritten incoming.tpDst wanted.tpDst h.tpDst

section Field
variable {α : Type} [DecidableEq α] {incoming wanted : Option α} {value w : α}

theorem rewritten_same : rewritten incoming incoming value = value := by
  cases incoming <;> simp [rewritten, Option.filter]

/-- A field takes its wanted value unless its setting is left out and it had another value before. -/
theorem rewritten_eq_iff : rewritten incoming (some w) value = w ↔ (incoming = some w → value = w) := by
  by_cases same : incoming = some w
  · rw [same, rewritten_same]
    simp
  · simp [rewritten, Option.filter, same]

end Field

/-- Wanted Ethernet addresses replace those of a packet that agrees with the first match, and nothing else changes. -/
theorem Addressing.rewritten_addresses {incoming : HeaderMatch} {h : Addressing} (src dst : Mac)
    (hsrc : incoming.dlSrc = some h.dlSrc) (hdst : incoming.dlDst = some h.dlDst) :
    h.rewritten incoming { incoming with dlSrc := some src, dlDst := some dst } = { h with dlSrc := src, dlDst := dst } := by
  have fromSrc : VirtualRouter.rewritten incoming.dlSrc (some src) h.dlSrc = src :=
    rewritten_eq_iff.2 fun same => Option.some.inj (hsrc.symm.trans same)
  have toDst : VirtualRouter.rewritten incoming.dlDst (some dst) h.dlDst = dst :=
    rewritten_eq_iff.2 fun same => Option.some.inj (hdst.symm.trans same)
  simp only [Addressing.rewritten, fromSrc, toDst, rewritten_same]

namespace Action

theorem perform_setting {α : Type} [DecidableEq α] {set : α → Action} (get : Addressing → α)
    (put : α → Addressing → Addressing) (performs : ∀ v rest h, perform (set v :: rest) h = perform rest (put v h))
    (same : ∀ h, put (get h) h = h) (incoming wanted : Option α) (rest : List Action) (h : Addressing) :
    perform (setting set incoming wanted ++ rest) h = perform rest (put (rewritten incoming wanted (get h)) h) := by
  unfold setting rewritten
  cases wanted.filter fun _ => incoming ≠ wanted with
  | none => exact congrArg _ (same h).symm
  | some v => exact performs v rest h

theorem perform_outputs (ports : List PortNumber) (h : Addressing) :
    perform (ports.map output) h = ports.map fun port => (port, h) := by
  induction ports with
  | nil => rfl
  | cons port ports ih => exact congrArg _ ih

/-- The shortest list sends one copy out of each port, all with the same headers. -/
theorem perform_between (incoming wanted : HeaderMatch) (ports : List PortNumber) (h : Addressing) :
    perform (between incoming wanted ports) h = ports.map fun port => (port, h.rewritten incoming wanted) := by
  simp only [between, settings, List.append_assoc]
  rw [perform_setting (·.dlSrc) (fun v h => { h with dlSrc := v }) (fun _ _ _ => rfl) fun _ => rfl,
    perform_setting (·.dlDst) (fun v h => { h with dlDst := v }) (fun _ _ _ => rfl) fun _ => rfl,
    perform_setting (·.nwSrc) (fun v h => { h with nwSrc := v }) (fun _ _ _ => rfl) fun _ => rfl,
    perform_setting (·.nwDst) (fun v h => { h with nwDst := v }) (fun _ _ _ => rfl) fun _ => rfl,
    perform_setting (·.tpSrc) (fun v h => { h with tpSrc := v }) (fun _ _ _ => rfl) fun _ => rfl,
    perform_setting (·.tpDst) (fun v h => { h with tpDst := v }) (fun _ _ _ => rfl) fun _ => rfl]
  exact perform_outputs ports _

/-- The port that an action sends a copy out of. -/
def output? : Action → Option PortNumber
  | output port => some port
  | _ => none

/-- The ports that actions send copies out of, in order. -/
def outputs (actions : List Action) : List PortNumber := actions.filterMap output?

theorem outputs_setting {α : Type} [DecidableEq α] (set : α → Action) (silent : ∀ v, (set v).output? = none)
    (incoming wanted : Option α) : outputs (setting set incoming wanted) = [] := by
  unfold setting outputs
  cases wanted.filter fun _ => incoming ≠ wanted with
  | none => rfl
  | some v => exact List.filterMap_cons_none (silent v)

/-- The shortest list sends copies out of the ports that it is made for. -/
theorem outputs_between (incoming wanted : HeaderMatch) (ports : List PortNumber) :
    outputs (between incoming wanted ports) = ports := by
  have sent : outputs (ports.map output) = ports := by
    rw [outputs, List.filterMap_map]
    exact List.filterMap_some
  have joined (xs ys : List Action) : outputs (xs ++ ys) = outputs xs ++ outputs ys := List.filterMap_append
  simp only [between, settings, joined, sent]
  simp only [outputs_setting setDlSrc fun _ => rfl, outputs_setting setDlDst fun _ => rfl,
    outputs_setting setNwSrc fun _ => rfl, outputs_setting setNwDst fun _ => rfl,
    outputs_setting setTpSrc fun _ => rfl, outputs_setting setTpDst fun _ => rfl, List.nil_append]

/-- The shortest list sets no other source address than the wanted one. -/
theorem setDlSrc_mem_between {incoming wanted : HeaderMatch} {ports : List PortNumber} {mac : Mac}
    (sets : setDlSrc mac ∈ between incoming wanted ports) : wanted.dlSrc = some mac := by
  have sets : wanted.dlSrc = some mac ∧ incoming.dlSrc ≠ wanted.dlSrc := by
    simpa [between, settings, setting] using sets
  exact sets.1

/-- The actions send a packet out of one port, from one station to another. -/
def Delivers (actions : List Action) (port : PortNumber) (src dst : Mac) (p : Packet) : Prop :=
  ∀ h : Addressing, h.dlSrc = p.dlSrc → h.dlDst = p.dlDst →
    ∃ copy, perform actions h = [(port, copy)] ∧ copy.dlSrc = src ∧ copy.dlDst = dst

/-- A packet goes from one station to another unless one of the settings is left out and the packet had another address
    in its place. -/
theorem delivers_between_iff {incoming wanted : HeaderMatch} {port : PortNumber} {src dst : Mac} {p : Packet}
    (wantedSrc : wanted.dlSrc = some src) (wantedDst : wanted.dlDst = some dst) :
    Delivers (between incoming wanted [port]) port src dst p ↔
      (incoming.dlSrc = some src → p.dlSrc = src) ∧ (incoming.dlDst = some dst → p.dlDst = dst) := by
  rw [← rewritten_eq_iff, ← rewritten_eq_iff, ← wantedSrc, ← wantedDst]
  constructor
  · intro delivers
    obtain ⟨copy, sent, fromSrc, toDst⟩ := delivers ⟨p.dlSrc, p.dlDst, default, default, 0, 0⟩ rfl rfl
    rw [perform_between] at sent
    cases sent
    exact ⟨fromSrc, toDst⟩
  · rintro ⟨fromSrc, toDst⟩ h hsrc hdst
    refine ⟨_, perform_between .., ?_, ?_⟩
    · exact (congrArg _ hsrc).trans fromSrc
    · exact (congrArg _ hdst).trans toDst

end Action

end VirtualRouter
