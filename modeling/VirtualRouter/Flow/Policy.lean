import VirtualRouter.Flow.HeaderMatch

/-!
How far a flow may reach beyond the packet that asked for it. The exact policy installs the packet's own match; the
network policy keeps the ingress port, the ethertype, the protocol and both network addresses, and leaves the
Ethernet addresses and transport ports open.
-/

namespace VirtualRouter

/-- What a match is about to be installed for. -/
inductive FlowScope where
  /-- A drop rule for a blackhole verdict. -/
  | blackhole
  /-- A flow out of a local port. -/
  | localForward
  /-- A flow for packets from a tunnel. -/
  | tunnelForward
  deriving DecidableEq, Repr

/-- Why a packet could not be delivered, as told to its sender. -/
inductive UnreachableCode where
  | net
  | host
  | filterProhibited
  deriving DecidableEq, Repr

/-- The code of the ICMP message. -/
def UnreachableCode.code : UnreachableCode → Nat
  | .net => 0
  | .host => 1
  | .filterProhibited => 13

/-- The policies that a configuration can ask for. -/
inductive Policy where
  | exact
  | networkOnly
  deriving DecidableEq, Repr

namespace Policy

/-- The match with all but the network layer's fields left open. -/
def networkFields (m : HeaderMatch) : HeaderMatch :=
  { m with dlSrc := none, dlDst := none, tpSrc := none, tpDst := none }

/-- The match to install for a packet's exact match. -/
def widen : Policy → FlowScope → HeaderMatch → HeaderMatch
  | exact, _, m => m
  | networkOnly, _, m => networkFields m

end Policy

end VirtualRouter
