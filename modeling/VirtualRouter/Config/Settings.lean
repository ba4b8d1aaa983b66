import VirtualRouter.Address.Mac
import VirtualRouter.Address.Ipv4
import VirtualRouter.Fault
import VirtualRouter.Flow.Policy

/-!
The settings of the controller and its daemon, each with its default, and the check they have to pass before use: a
temporary drop rule has a timeout, a resolution may take some time, the event queue has room, and no address has two
static neighbours.
-/

namespace VirtualRouter

/-! ### Settings -/

/-- What the controller is and where it runs. -/
structure NodeSettings where
  datapathId : UInt64 := 0
  localAddress : Ipv4 := .localhost
  deriving DecidableEq, Repr, Inhabited

/-- How long installed rules live, in seconds, and how wide they are. -/
structure FlowSettings where
  /-- Idle timeout of forwarding rules. -/
  idleExpire : UInt16 := 60
  /-- Idle timeout of temporary drop rules. -/
  blackholeIdle : UInt16 := 0
  /-- Hard timeout of temporary drop rules. -/
  blackholeHard : UInt16 := 5
  /-- Rules leave everything but the network layer open. -/
  wildcards : Bool := false
  deriving DecidableEq, Repr, Inhabited

/-- The policy that the settings ask for. -/
def FlowSettings.policy (s : FlowSettings) : Policy := if s.wildcards then .networkOnly else .exact

/-- A next hop whose Ethernet address is known beforehand. -/
structure Neighbor where
  address : Ipv4
  mac : Mac
  deriving DecidableEq, Repr, Inhabited

/-- How addresses of next hops are found. -/
structure ResolutionSettings where
  /-- How long an unknown next hop is waited for, in milliseconds. -/
  timeout : UInt64 := 3000
  neighbors : List Neighbor := []
  deriving DecidableEq, Repr, Inhabited

/-- How events wait for the controller. -/
structure DaemonSettings where
  queueDepth : UInt64 := 1024
  deriving DecidableEq, Repr, Inhabited

/-- All settings. -/
structure Config where
  node : NodeSettings := {}
  flows : FlowSettings := {}
  resolution : ResolutionSettings := {}
  daemon : DaemonSettings := {}
  deriving DecidableEq, Repr, Inhabited

/-! ### The check -/

/-- Why settings cannot be used. -/
inductive ConfigProblem where
  | permanentBlackhole
  | noResolutionTime
  | noQueue
  | repeatedNeighbor (address : Ipv4)
  deriving DecidableEq, Repr

/-- The report of unusable settings. -/
def ConfigProblem.message : ConfigProblem → String
  | .permanentBlackhole => "blackhole flows need an idle or hard timeout"
  | .noResolutionTime => "resolution timeout_ms must be > 0"
  | .noQueue => "event_queue_depth must be > 0"
  | .repeatedNeighbor address => "duplicate static neighbor " ++ address.text

namespace Config

/-- The first address of a list that stands among those before it. -/
def repeated? (seen : List Ipv4) : List Ipv4 → Option Ipv4
  | [] => none
  | address :: rest => if address ∈ seen then some address else repeated? (address :: seen) rest

/-- The first problem with the settings. -/
def problem? (c : Config) : Option ConfigProblem :=
  if c.flows.blackholeIdle = 0 ∧ c.flows.blackholeHard = 0 then some .permanentBlackhole
  else if c.resolution.timeout = 0 then some .noResolutionTime
  else if c.daemon.queueDepth = 0 then some .noQueue
  else (repeated? [] (c.resolution.neighbors.map (·.address))).map .repeatedNeighbor

/-- Refuses settings with a problem. -/
def validate (c : Config) : Except Fault Unit :=
  match c.problem? with
  | some problem => .error (.config problem.message)
  | none => .ok ()

theorem repeated?_eq_none_iff {seen addresses : List Ipv4} :
    repeated? seen addresses = none ↔ addresses.Nodup ∧ ∀ address ∈ addresses, address ∉ seen := by
  induction addresses generalizing seen with
  | nil => simp [repeated?]
  | cons address rest ih =>
    unfold repeated?
    split
    · rename_i repeated
      simp [repeated]
    · rename_i new
      rw [ih]
      simp only [List.nodup_cons, List.mem_cons, not_or, forall_eq_or_imp]
      constructor
      · rintro ⟨nodup, others⟩
        exact ⟨⟨fun again => (others _ again).1 rfl, nodup⟩, new, fun a ha => (others a ha).2⟩
      · rintro ⟨⟨once, nodup⟩, -, unseen⟩
        exact ⟨nodup, fun a ha => ⟨fun same => once (same ▸ ha), unseen a ha⟩⟩

theorem problem?_of_validate {c : Config} (valid : c.validate = .ok ()) : c.problem? = none := by
  unfold validate at valid
  split at valid
  · cases valid
  · assumption

/-- With settings that can be used, a temporary drop rule has a timeout. -/
theorem timeout_of_validate {c : Config} (valid : c.validate = .ok ()) :
    c.flows.blackholeIdle ≠ 0 ∨ c.flows.blackholeHard ≠ 0 := by
  have fine := problem?_of_validate valid
  unfold problem? at fine
  split at fine
  · cases fine
  · rename_i limited
    exact Decidable.not_and_iff_not_or_not.1 limited

/-- Settings that can be used have one neighbour for an address at most. -/
theorem nodup_of_validate {c : Config} (valid : c.validate = .ok ()) :
    (c.resolution.neighbors.map (·.address)).Nodup := by
  have fine := problem?_of_validate valid
  unfold problem? at fine
  split at fine
  · cases fine
  split at fine
  · cases fine
  split at fine
  · cases fine
  exact (repeated?_eq_none_iff.1 (Option.map_eq_none_iff.1 fine)).1

end Config

end VirtualRouter
