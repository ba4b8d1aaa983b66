import VirtualRouter.Proofs.Run.Registries

/-! Tunnels and their peers. A host that is laid a tunnel to loses the tunnel it had, and a port that becomes a tunnel loses
    the peer it had, so that at every moment tunnels and peers belong to each other in pairs. A pair stands until its
    port or its peer is used for another tunnel or the tunnel is removed, and the host of a remote port until another
    host is noted for the port or it is forgotten. -/

namespace VirtualRouter

/-- Storing under a key in place of another one. -/
theorem Table.get?_insert_displacing {κ ν : Type} [DecidableEq κ] (t : Table κ ν) (k j old : κ) (v : ν) :
    ((if old = k then t else t.erase old).insert k v).get? j =
      if j = k then some v else if j = old then none else t.get? j := by
  rw [get?_insert]
  by_cases same : old = k
  · rw [if_pos same, same]
    grind
  · rw [if_neg same, get?_erase]

namespace TunnelTable
variable {t : TunnelTable} {number number' : PortNumber} {peer peer' : Ipv4}

/-- The tunnel of every peer leads to the peer, and the other way round. -/
def Paired (t : TunnelTable) : Prop :=
  ∀ number peer, t.towards peer = some number ↔ t.peers.get? number = some peer

/-! ### Laying a tunnel -/

theorem towards_add_eq (t : TunnelTable) (number : PortNumber) (peer peer' : Ipv4) :
    (t.add number peer).towards peer' =
      if peer' = peer then some number else if t.peers.get? number = some peer' then none else t.towards peer' := by
  unfold towards add
  cases t.peers.get? number with
  | none => simp [Table.get?_insert]
  | some old =>
    simp only [Table.get?_insert_displacing]
    grind

theorem get?_peers_add (t : TunnelTable) (number number' : PortNumber) (peer : Ipv4) :
    (t.add number peer).peers.get? number' =
      if number' = number then some peer else if t.towards peer = some number' then none else t.peers.get? number' := by
  -- The tunnel that the port loses is not the peer's, so that the peer's own is still found.
  have own (old : Ipv4) : (if old = peer then t.numbers else t.numbers.erase old).get? peer = t.numbers.get? peer := by
    by_cases same : old = peer
    · rw [if_pos same]
    · rw [if_neg same, Table.get?_erase, if_neg (Ne.symm same)]
  unfold towards add
  cases t.peers.get? number <;> simp only [own] <;> cases t.numbers.get? peer with
  | none => simp [Table.get?_insert]
  | some old =>
    simp only [Table.get?_insert_displacing]
    grind

/-- A new tunnel takes the place of all that have its port or its peer. -/
theorem towards_add (paired : t.Paired) : (t.add number peer).towards peer' = some number' ↔
    (number' = number ∧ peer' = peer) ∨ ¬(number' = number ∨ peer' = peer) ∧ t.towards peer' = some number' := by
  have unique := paired number peer'
  rw [towards_add_eq]
  grind

theorem paired_add (paired : t.Paired) (number : PortNumber) (peer : Ipv4) : (t.add number peer).Paired := by
  intro number' peer'
  have unique := paired number' peer
  have same := paired number' peer'
  rw [towards_add paired, get?_peers_add]
  grind

/-! ### Removing one -/

theorem towards_remove (paired : t.Paired) : (t.remove number).1.towards peer' = some number' ↔
    number' ≠ number ∧ t.towards peer' = some number' := by
  have unique := paired number peer'
  unfold remove
  cases held : t.peers.get? number with
  | none => grind
  | some peer =>
    have back := paired number peer
    simp only [towards, Table.get?_erase] at *
    grind

theorem paired_remove (paired : t.Paired) (number : PortNumber) : (t.remove number).1.Paired := by
  intro number' peer'
  have same := paired number' peer'
  have unique := paired number peer'
  rw [towards_remove paired]
  unfold remove
  cases held : t.peers.get? number with
  | none => grind
  | some peer =>
    simp only [Table.get?_erase]
    grind

end TunnelTable

variable {config : Config} {observed : Bool} {history past : History} {c : Controller} {x : Entry} {number : PortNumber}
  {host : Ipv4} {id : PortId}

/-! ### Tunnels along a run -/

theorem Run.paired (run : Run config observed history c) : c.tunnels.Paired := by
  induction run with
  | initial => exact fun _ _ => iff_of_false nofun nofun
  | retarget _ _ ih => exact ih
  | @handle history c a e run ih =>
    show (Entry.after ⟨c, a, e⟩).tunnels.Paired
    rw [Entry.tunnels_after]
    cases e with
    | tunnelAdded number peer => exact TunnelTable.paired_add ih number peer
    | tunnelRemoved number => exact TunnelTable.paired_remove ih number
    | _ => exact ih

/-- The tunnel to the host has been laid on the port, and since then neither has been used for another, nor has the
    tunnel been removed. -/
def History.TunnelTo (history : History) (number : PortNumber) (host : Ipv4) : Prop :=
  history.Since (fun x => x.event = .tunnelAdded number host) fun x =>
    (∃ other, x.event = .tunnelAdded number other) ∨ (∃ other, x.event = .tunnelAdded other host) ∨
      x.event = .tunnelRemoved number

/-- The host was the last to be noted for the remote port, and has not been forgotten since. -/
def History.Located (history : History) (id : PortId) (host : Ipv4) : Prop :=
  history.Since (fun x => x.event = .portLocated id host) fun x =>
    (∃ other, x.event = .portLocated id other) ∨ x.event = .portUnlocated id

theorem Run.towards_iff (run : Run config observed history c) :
    c.tunnels.towards host = some number ↔ history.TunnelTo number host := by
  refine run.since_iff (P := fun c => c.tunnels.towards host = some number) nofun (fun _ _ => .rfl) fun past x run => ?_
  rw [x.tunnels_after]
  cases event : x.event with
  | tunnelAdded number' host' =>
    simp only [TunnelTable.towards_add run.paired, Event.tunnelAdded.injEq]
    grind
  | tunnelRemoved number' =>
    simp only [TunnelTable.towards_remove run.paired]
    grind
  | portLocated | portUnlocated => simp [TunnelTable.locate, TunnelTable.unlocate, TunnelTable.towards]
  | _ => simp

theorem Run.located_iff (run : Run config observed history c) :
    c.tunnels.locations.get? id = some host ↔ history.Located id host := by
  refine run.since_iff (P := fun c => c.tunnels.locations.get? id = some host) nofun (fun _ _ => .rfl) fun past x _ => ?_
  rw [x.tunnels_after]
  cases event : x.event with
  | portLocated id' host' =>
    simp only [TunnelTable.locate, Table.get?_insert, Event.portLocated.injEq]
    grind
  | portUnlocated id' =>
    simp only [TunnelTable.unlocate, Table.get?_erase, Event.portUnlocated.injEq]
    grind
  | tunnelRemoved number =>
    simp only [TunnelTable.remove]
    split <;> simp
  | tunnelAdded => simp [TunnelTable.add]
  | _ => simp

end VirtualRouter
