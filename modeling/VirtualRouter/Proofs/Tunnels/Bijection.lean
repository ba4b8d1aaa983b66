import VirtualRouter.Proofs.Collection.Contents
import VirtualRouter.Proofs.Tunnels.Pairing

/-! The tunnels as pairs of a port and a peer. Whatever tunnels are laid and removed, and wherever remote ports are, in
    whatever order, a pair is in the table exactly if it was the last to be laid of those with its port or its peer, and has
    not been removed. The way to a remote port is the tunnel that its host has at the time. -/

namespace VirtualRouter

namespace TunnelTable

variable {t : TunnelTable} {number number' : PortNumber} {peer peer' host : Ipv4} {port : PortId}

/-! ### Requests -/

/-- What can be asked of the table. -/
inductive Request where
  | add (number : PortNumber) (peer : Ipv4)
  | remove (number : PortNumber)
  | locate (port : PortId) (host : Ipv4)
  | unlocate (port : PortId)

/-- The event that makes the controller pass the request on. -/
def Request.event : Request → Event
  | add number peer => .tunnelAdded number peer
  | remove number => .tunnelRemoved number
  | locate port host => .portLocated port host
  | unlocate port => .portUnlocated port

def after (t : TunnelTable) : Request → TunnelTable
  | .add number peer => t.add number peer
  | .remove number => (t.remove number).1
  | .locate port host => t.locate port host
  | .unlocate port => (t.unlocate port).1

/-- The table after some requests, beginning without tunnels. -/
def reached (requests : List Request) : TunnelTable := requests.foldl after {}

/-- The controller's table goes the same way. -/
theorem tunnels_step (c : Controller) (a : Answers) (request : Request) :
    (c.step a request.event).controller.tunnels = c.tunnels.after request := by
  refine (Entry.tunnels_after ⟨c, a, request.event⟩).trans ?_
  cases request <;> rfl

/-- The port was the last to be laid a tunnel on to the peer, and neither has been used for another since, nor has the tunnel
    been removed. -/
def Registered (requests : List Request) (number : PortNumber) (peer : Ipv4) : Prop :=
  Stands requests (· = .add number peer) fun r =>
    (∃ other, r = .add number other) ∨ (∃ other, r = .add other peer) ∨ r = .remove number

/-- The host was the last to be noted for the port, and has not been forgotten since. -/
def Located (requests : List Request) (port : PortId) (host : Ipv4) : Prop :=
  Stands requests (· = .locate port host) fun r => (∃ other, r = .locate port other) ∨ r = .unlocate port

theorem paired_empty : ({} : TunnelTable).Paired := fun _ _ => iff_of_false nofun nofun

theorem Paired.after (paired : t.Paired) (request : Request) : (t.after request).Paired := by
  cases request with
  | add number peer => exact paired_add paired number peer
  | remove number => exact paired_remove paired number
  | locate | unlocate => exact paired

theorem paired_reached (requests : List Request) : (reached requests).Paired :=
  List.foldlRecOn requests after paired_empty fun _ paired request _ => paired.after request

theorem towards_reached (requests : List Request) :
    (reached requests).towards peer = some number ↔ Registered requests number peer := by
  refine (foldl_iff_stands (P := fun t => t.towards peer = some number) (fun _ r paired => paired.after r)
    (fun t r paired => ?_) paired_empty).trans (or_iff_left fun held => nomatch held.1)
  cases r with
  | add number' peer' =>
    simp only [after, towards_add paired, Request.add.injEq]
    grind
  | remove number' =>
    simp only [after, towards_remove paired]
    grind
  | locate | unlocate => simp [after, locate, unlocate, towards]

theorem locations_reached (requests : List Request) :
    (reached requests).locations.get? port = some host ↔ Located requests port host := by
  refine (foldl_iff_stands (I := fun _ => True) (P := fun t : TunnelTable => t.locations.get? port = some host)
    (fun _ _ _ => trivial) (fun t r _ => ?_) trivial).trans (or_iff_left fun held => nomatch held.1)
  cases r with
  | locate port' host' =>
    simp only [after, locate, Table.get?_insert, Request.locate.injEq]
    grind
  | unlocate port' =>
    simp only [after, unlocate, Table.get?_erase, Request.unlocate.injEq]
    grind
  | remove number =>
    simp only [after, remove]
    split <;> simp
  | add => simp [after, add]

/-! ### Pairs -/

/-- A port is a tunnel exactly if one peer is reached through it. -/
theorem isTunnel_iff (paired : t.Paired) : t.isTunnel number = true ↔ ∃! peer, t.towards peer = some number := by
  rw [isTunnel, Table.contains, Option.isSome_iff_exists]
  constructor
  · rintro ⟨peer, held⟩
    refine ⟨peer, (paired number peer).2 held, fun peer' held' => ?_⟩
    exact Option.some.inj (((paired number peer').1 held').symm.trans held)
  · rintro ⟨peer, held, -⟩
    exact ⟨peer, (paired number peer).1 held⟩

/-- There are as many tunnels as peers that are reached. -/
theorem encard_towards (paired : t.Paired) : {peer | (t.towards peer).isSome = true}.encard = t.size := by
  have peers : {peer | (t.towards peer).isSome = true} = {peer | ∃ number, t.peers.get? number = some peer} := by
    refine Set.ext fun peer => ?_
    simp only [Set.mem_ofPred_eq, Option.isSome_iff_exists, fun number => paired number peer]
  have numbers : {number | (t.peers.get? number).isSome = true} = {number | ∃ peer, t.peers.get? number = some peer} :=
    Set.ext fun number => Option.isSome_iff_exists
  rw [size, ← t.peers.encard_held, peers, numbers]
  refine (encard_eq_of_paired (fun held held' => Option.some.inj (held.symm.trans held')) fun held held' => ?_).symm
  exact Option.some.inj (((paired _ _).2 held).symm.trans ((paired _ _).2 held'))

theorem remove_answer (paired : t.Paired) : (t.remove number).2 = some peer ↔ t.towards peer = some number := by
  rw [paired, remove]
  split
  · rename_i held
    rw [held]
  · rename_i free
    rw [free]

/-- Ports and peers belong together in pairs, each of which was the last to be laid. -/
structure PairsUp (requests : List Request) (t : TunnelTable) : Prop where
  towards : ∀ number peer, t.towards peer = some number ↔ Registered requests number peer
  peers : ∀ number peer, t.peers.get? number = some peer ↔ Registered requests number peer
  isTunnel : ∀ number, t.isTunnel number = true ↔ ∃! peer, t.towards peer = some number
  size : {peer | (t.towards peer).isSome = true}.encard = t.size

/-- What laying a tunnel on the port to the peer comes to. -/
structure Laying (t : TunnelTable) (number : PortNumber) (peer : Ipv4) : Prop where
  laid : (t.add number peer).towards peer = some number
  formerPeer : ∀ other, other ≠ peer → t.towards other = some number → (t.add number peer).towards other = none
  formerPort : ∀ other, other ≠ number → t.towards peer = some other → (t.add number peer).isTunnel other = false
  others : ∀ number' peer', number' ≠ number → peer' ≠ peer →
    ((t.add number peer).towards peer' = some number' ↔ t.towards peer' = some number')

/-- What removing the tunnel on the port comes to. -/
structure Removing (t : TunnelTable) (number : PortNumber) : Prop where
  answer : ∀ peer, (t.remove number).2 = some peer ↔ t.towards peer = some number
  pairs : ∀ number' peer', (t.remove number).1.towards peer' = some number' ↔
    number' ≠ number ∧ t.towards peer' = some number'

theorem Paired.laying (paired : t.Paired) (number : PortNumber) (peer : Ipv4) : t.Laying number peer where
  laid := (towards_add paired).2 (.inl ⟨rfl, rfl⟩)
  formerPeer other different held := by
    rw [towards_add_eq, if_neg different, if_pos ((paired number other).1 held)]
  formerPort other different held := by
    rw [isTunnel, Table.contains, get?_peers_add, if_neg different, if_pos held]
    rfl
  others number' peer' numbers peers := by
    rw [towards_add paired]
    simp [numbers, peers]

theorem Paired.removing (paired : t.Paired) (number : PortNumber) : t.Removing number where
  answer _ := remove_answer paired
  pairs _ _ := towards_remove paired

/-- After any requests the tunnels are pairs of a port and a peer, and the way to a remote port is the tunnel to the host
    that it is at, also when this is laid anew. The controller's table goes through the same states. -/
theorem pairs_last_laid (requests : List Request) :
    let t := reached requests
    t.PairsUp requests ∧ (∀ number peer, t.Laying number peer) ∧ (∀ number, t.Removing number) ∧
      (∀ port number, t.towardsPort port = some number ↔
        ∃ host, Located requests port host ∧ t.towards host = some number) ∧
      (∀ port host number, Located requests port host → (t.add number host).towardsPort port = some number) ∧
      ∀ (c : Controller) (a : Answers) (request : Request), c.tunnels = t →
        (c.step a request.event).controller.tunnels = reached (requests ++ [request]) := by
  intro t
  have paired : t.Paired := paired_reached requests
  refine ⟨⟨?_, ?_, ?_, encard_towards paired⟩, paired.laying, paired.removing, ?_, ?_, ?_⟩
  · exact fun number peer => towards_reached requests
  · exact fun number peer => (paired number peer).symm.trans (towards_reached requests)
  · exact fun number => isTunnel_iff paired
  · intro port number
    rw [towardsPort, Option.bind_eq_some_iff]
    exact exists_congr fun host => and_congr_left fun _ => locations_reached requests
  · intro port host number located
    have held : (t.add number host).locations.get? port = some host := (locations_reached requests).2 located
    rw [towardsPort, held]
    exact (paired.laying number host).laid
  · intro c a request same
    rw [reached, List.foldl_append, tunnels_step, same]
    rfl

end TunnelTable

namespace Sample

/-- The second tunnel takes the port of the first, and the fourth the peer of the third. A remote port is behind the first
    peer, and then behind the second. -/
def layings : List TunnelTable.Request :=
  [.add ⟨100⟩ ⟨192, 168, 0, 2⟩, .locate (port 9).id ⟨192, 168, 0, 2⟩, .add ⟨100⟩ ⟨192, 168, 0, 3⟩,
    .add ⟨101⟩ ⟨192, 168, 0, 4⟩, .locate (port 9).id ⟨192, 168, 0, 3⟩, .add ⟨102⟩ ⟨192, 168, 0, 4⟩]

end Sample

/-- When a controller has gone through these requests, a tunnel that takes the port of one peer and the place of another's is
    the only one that is left, and the way to the remote port. -/
theorem TunnelTable.pairs_last_laid_displacing :
    let a := Sample.answers (.ok ()) .noRoute
    let c := (Sample.handled default a (Sample.layings.map Request.event)).2
    let t := reached Sample.layings
    let u := t.add ⟨102⟩ ⟨192, 168, 0, 3⟩
    c.tunnels = t ∧ Located Sample.layings (Sample.port 9).id ⟨192, 168, 0, 3⟩ ∧
      u.towards ⟨192, 168, 0, 3⟩ = some ⟨102⟩ ∧ u.towards ⟨192, 168, 0, 4⟩ = none ∧ u.isTunnel ⟨100⟩ = false ∧
      u.towardsPort (Sample.port 9).id = some ⟨102⟩ ∧
      (c.step a (.tunnelAdded ⟨102⟩ ⟨192, 168, 0, 3⟩)).controller.tunnels =
        reached (Sample.layings ++ [.add ⟨102⟩ ⟨192, 168, 0, 3⟩]) := by
  intro a c t u
  have same : c.tunnels = t := by decide +kernel
  have located : Located Sample.layings (Sample.port 9).id ⟨192, 168, 0, 3⟩ :=
    (locations_reached Sample.layings).1 (by decide +kernel)
  obtain ⟨-, laying, -, -, follows, steps⟩ := pairs_last_laid Sample.layings
  have now : t.Laying ⟨102⟩ ⟨192, 168, 0, 3⟩ := laying ⟨102⟩ ⟨192, 168, 0, 3⟩
  have fourth : t.towards ⟨192, 168, 0, 4⟩ = some ⟨102⟩ := by decide +kernel
  have second : t.towards ⟨192, 168, 0, 3⟩ = some ⟨100⟩ := by decide +kernel
  exact ⟨same, located, now.laid, now.formerPeer _ (by decide) fourth, now.formerPort _ (by decide) second,
    follows _ _ _ located, steps c a (.add ⟨102⟩ ⟨192, 168, 0, 3⟩) same⟩

end VirtualRouter
