import VirtualRouter.Proofs.Flows.Rewriting

/-! The shortest list of actions between two matches. A packet that agrees with the first match leaves once by every port,
    in their order, and always with the second match laid over its headers: what this match constrains has its value
    there, and what it leaves open is as it was. No setting can be spared as long as there is a port to leave by, since
    without it some packet that agrees with the first match keeps another value in that field. -/

namespace VirtualRouter

variable {incoming wanted fewer : HeaderMatch} {h : Addressing} {ports : List PortNumber} {action : Action}

/-! ### Headers under a match -/

/-- The match agrees with the headers in every field that it constrains and that actions can set. -/
structure HeaderMatch.Admits (m : HeaderMatch) (h : Addressing) : Prop where
  dlSrc : Allows m.dlSrc (some h.dlSrc)
  dlDst : Allows m.dlDst (some h.dlDst)
  nwSrc : Allows m.nwSrc (some h.nwSrc)
  nwDst : Allows m.nwDst (some h.nwDst)
  tpSrc : Allows m.tpSrc (some h.tpSrc)
  tpDst : Allows m.tpDst (some h.tpDst)

/-- The headers with the values of a match in the fields that it constrains. -/
def Addressing.overlaid (h : Addressing) (m : HeaderMatch) : Addressing where
  dlSrc := m.dlSrc.getD h.dlSrc
  dlDst := m.dlDst.getD h.dlDst
  nwSrc := m.nwSrc.getD h.nwSrc
  nwDst := m.nwDst.getD h.nwDst
  tpSrc := m.tpSrc.getD h.tpSrc
  tpDst := m.tpDst.getD h.tpDst

/-- Headers that stand for those of any packet. -/
def Addressing.anyone : Addressing := ⟨.zero, .zero, default, default, 0, 0⟩

theorem allows_getD {α : Type} (field : Option α) (value : α) : Allows field (some (field.getD value)) := by
  cases field with
  | none => exact .inl rfl
  | some _ => exact .inr rfl

/-- Every match agrees with headers that it has been laid over. -/
theorem HeaderMatch.admits_overlaid (m : HeaderMatch) (h : Addressing) : m.Admits (h.overlaid m) :=
  ⟨allows_getD .., allows_getD .., allows_getD .., allows_getD .., allows_getD .., allows_getD ..⟩

section Field
variable {α : Type} {field goal : Option α} {value v : α}

theorem getD_ne (other : value ≠ v) (constrained : field ≠ some v) : field.getD value ≠ v := by
  cases field with
  | none => exact other
  | some w => exact fun same => constrained (congrArg some same)

/-- Where the setting of a field is left out, an agreeing packet has the wanted value already. -/
theorem rewritten_of_allows [DecidableEq α] (allows : Allows field (some value)) :
    rewritten field goal value = goal.getD value := by
  cases goal with
  | none => rfl
  | some w => exact rewritten_eq_iff.2 fun same => Option.some.inj (allows.of_pinned same)

end Field

theorem Addressing.rewritten_of_admits (admits : incoming.Admits h) :
    h.rewritten incoming wanted = h.overlaid wanted := by
  simp only [Addressing.rewritten, Addressing.overlaid, rewritten_of_allows admits.dlSrc,
    rewritten_of_allows admits.dlDst, rewritten_of_allows admits.nwSrc, rewritten_of_allows admits.nwDst,
    rewritten_of_allows admits.tpSrc, rewritten_of_allows admits.tpDst]

namespace Action

theorem perform_between_admits (admits : incoming.Admits h) (wanted : HeaderMatch) (ports : List PortNumber) :
    perform (between incoming wanted ports) h = ports.map fun port => (port, h.overlaid wanted) := by
  rw [perform_between, Addressing.rewritten_of_admits admits]

/-! ### Lists without one of their settings -/

/-- A setting of the list sets a field to the wanted value where the first match has another or none. -/
theorem mem_setting_iff {α : Type} [DecidableEq α] {set : α → Action} {field goal : Option α} :
    action ∈ setting set field goal ↔ ∃ v, goal = some v ∧ field ≠ some v ∧ set v = action := by
  cases goal with
  | none => simp [setting]
  | some w => by_cases same : field = some w <;> simp [setting, Option.filter, same, eq_comm]

/-- A setting is needed if without it the list is the one for a second match that leaves its field open, since a packet
    that agrees with the first match can have another value there. -/
theorem erase_needed {α : Type} [DecidableEq α] {field : Option α} {v a b : α} (fewer : HeaderMatch)
    (get : Addressing → α) (put : α → Addressing) (admitted : ∀ w, get ((put w).overlaid incoming) = field.getD w)
    (sets : ∀ h : Addressing, get (h.overlaid wanted) = v) (keeps : ∀ h : Addressing, get (h.overlaid fewer) = get h)
    (somewhere : ports ≠ []) (constrained : field ≠ some v) (distinct : a ≠ b)
    (erased : (between incoming wanted ports).erase action = between incoming fewer ports) :
    ∃ h, incoming.Admits h ∧
      perform ((between incoming wanted ports).erase action) h ≠ perform (between incoming wanted ports) h := by
  obtain ⟨w, differs⟩ := exists_ne_of_ne distinct v
  have admits := incoming.admits_overlaid (put w)
  refine ⟨_, admits, fun same => ?_⟩
  rw [erased, perform_between_admits admits, perform_between_admits admits] at same
  obtain ⟨port, _, rfl⟩ := List.exists_cons_of_ne_nil somewhere
  -- The first copy has the packet's own value on one side and the wanted one on the other.
  have first := congrArg (fun copy => get copy.2) (List.cons.inj same).1
  exact getD_ne differs constrained ((admitted w).symm.trans ((keeps _).symm.trans (first.trans (sets _))))

/-- Packets that agree with the first match leave by every port, in order, and with the second match laid over their
    headers; and without any one of the settings some of them would leave with other headers. -/
theorem between_economical (incoming wanted : HeaderMatch) (ports : List PortNumber) :
    (∀ h, incoming.Admits h →
      perform (between incoming wanted ports) h = ports.map fun port => (port, h.overlaid wanted)) ∧
    (ports ≠ [] → ∀ action ∈ between incoming wanted ports, action.output? = none → ∃ h, incoming.Admits h ∧
      perform ((between incoming wanted ports).erase action) h ≠ perform (between incoming wanted ports) h) := by
  refine ⟨fun h admits => perform_between_admits admits wanted ports, fun somewhere action mem silent => ?_⟩
  simp only [between, settings, List.mem_append, mem_setting_iff, List.mem_map] at mem
  have macs : Mac.zero ≠ .broadcast := by decide
  have addresses : Ipv4.localhost ≠ default := by decide
  have transports : (0 : UInt16) ≠ 1 := by decide
  rcases mem with (((((dlSrc | dlDst) | nwSrc) | nwDst) | tpSrc) | tpDst) | sent
  · obtain ⟨mac, goal, differs, rfl⟩ := dlSrc
    refine erase_needed { wanted with dlSrc := none } (·.dlSrc) ({ Addressing.anyone with dlSrc := · }) (fun _ => rfl)
      (fun h => congrArg (·.getD h.dlSrc) goal) (fun _ => rfl) somewhere differs macs ?_
    simp [between, settings, goal, differs, setting, Option.filter]
  · obtain ⟨mac, goal, differs, rfl⟩ := dlDst
    refine erase_needed { wanted with dlDst := none } (·.dlDst) ({ Addressing.anyone with dlDst := · }) (fun _ => rfl)
      (fun h => congrArg (·.getD h.dlDst) goal) (fun _ => rfl) somewhere differs macs ?_
    simp [between, settings, List.erase_append, goal, differs, setting, Option.filter]
  · obtain ⟨address, goal, differs, rfl⟩ := nwSrc
    refine erase_needed { wanted with nwSrc := none } (·.nwSrc) ({ Addressing.anyone with nwSrc := · }) (fun _ => rfl)
      (fun h => congrArg (·.getD h.nwSrc) goal) (fun _ => rfl) somewhere differs addresses ?_
    simp [between, settings, List.erase_append, goal, differs, setting, Option.filter]
  · obtain ⟨address, goal, differs, rfl⟩ := nwDst
    refine erase_needed { wanted with nwDst := none } (·.nwDst) ({ Addressing.anyone with nwDst := · }) (fun _ => rfl)
      (fun h => congrArg (·.getD h.nwDst) goal) (fun _ => rfl) somewhere differs addresses ?_
    simp [between, settings, List.erase_append, goal, differs, setting, Option.filter]
  · obtain ⟨port, goal, differs, rfl⟩ := tpSrc
    refine erase_needed { wanted with tpSrc := none } (·.tpSrc) ({ Addressing.anyone with tpSrc := · }) (fun _ => rfl)
      (fun h => congrArg (·.getD h.tpSrc) goal) (fun _ => rfl) somewhere differs transports ?_
    simp [between, settings, List.erase_append, goal, differs, setting, Option.filter]
  · obtain ⟨port, goal, differs, rfl⟩ := tpDst
    refine erase_needed { wanted with tpDst := none } (·.tpDst) ({ Addressing.anyone with tpDst := · }) (fun _ => rfl)
      (fun h => congrArg (·.getD h.tpDst) goal) (fun _ => rfl) somewhere differs transports ?_
    simp [between, settings, List.erase_append, goal, differs, setting, Option.filter]
  · obtain ⟨port, -, rfl⟩ := sent
    cases silent

end Action

namespace Sample

def arriving : HeaderMatch := { dlSrc := some .zero, nwDst := some .localhost }

/-- The source is to be another one, and the destination is open before. -/
def leaving : HeaderMatch := { dlSrc := some .broadcast, dlDst := some .zero, nwDst := some .localhost }

def rewriting : List Action := Action.between arriving leaving [⟨1⟩, ⟨2⟩]

theorem economical_between :
    let h := Addressing.anyone.overlaid arriving
    arriving.Admits h ∧ Action.perform rewriting h = [(⟨1⟩, h.overlaid leaving), (⟨2⟩, h.overlaid leaving)] ∧
      ∃ h, arriving.Admits h ∧ Action.perform (rewriting.erase (.setDlDst .zero)) h ≠ Action.perform rewriting h := by
  have admits := arriving.admits_overlaid Addressing.anyone
  obtain ⟨sends, needs⟩ := Action.between_economical arriving leaving [⟨1⟩, ⟨2⟩]
  exact ⟨admits, sends _ admits, needs (by decide) (.setDlDst .zero) (by decide) rfl⟩

end Sample

end VirtualRouter
