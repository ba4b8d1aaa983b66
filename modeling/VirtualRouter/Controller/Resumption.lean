import VirtualRouter.Controller.Turn

/-!
Answers of the resolver. The packet that waits under the token goes on, if one does; an answer for any other token
changes nothing. With an address it leaves by the egress port as that is now; without one its exact match is dropped
for a while, and the policy is told. An ICMP error that a peer passes on is sent without a rule.
-/

namespace VirtualRouter

namespace Turn

/-- The match of a packet that goes out of a port to a station. -/
def addressed (wanted : HeaderMatch) (egress : VirtualPort) (mac : Mac) : HeaderMatch :=
  { wanted with dlSrc := some egress.mac, dlDst := some mac }

/-- Sends on a packet from a tunnel. -/
def resumeTunnelled (a : Answers) (p : TunnelledPacket) (mac : Mac) (t : Turn) : Turn :=
  match t.controller.ports.byId p.header.egress with
  | none => t.discard a p.buffer
  | some egress =>
    let actions := Action.between p.incoming (addressed p.incoming egress mac) [egress.number]
    if p.header.isIcmpRelay then t.sendPacket a p.buffer p.inPort actions p.data
    else
      let pattern := a.widen .tunnelForward p.incoming
      let (t, accepted) := (t.widen a .tunnelForward p.incoming).installForward a pattern p.buffer actions p.data
      if accepted then t.record pattern .empty else t

/-- Gives up on a packet from a tunnel. -/
def abortTunnelled (a : Answers) (p : TunnelledPacket) (t : Turn) : Turn :=
  t.blackhole a p.incoming p.buffer |>.unreachable .host p.header.ingress p.packet

/-- Sends on a packet to a local port. -/
def resumeLocal (a : Answers) (p : LocalPacket) (mac : Mac) (t : Turn) : Turn :=
  match t.controller.ports.byId p.egress with
  | none => t.releaseElements a p.incoming p.elements |>.discard a p.buffer
  | some egress =>
    let actions := Action.between p.incoming (addressed p.wanted egress mac) [egress.number]
    let pattern := a.widen .localForward p.incoming
    let (t, accepted) := (t.widen a .localForward p.incoming).installForward a pattern p.buffer actions p.data
    if accepted then t.announce p.incoming pattern p.ingress p.elements |>.record pattern p.elements
    else t.releaseElements a p.incoming p.elements

/-- Gives up on a packet to a local port. -/
def abortLocal (a : Answers) (p : LocalPacket) (t : Turn) : Turn :=
  t.blackhole a p.incoming p.buffer
    |>.releaseElements a p.incoming p.elements
    |>.unreachable .host p.ingress p.packet

/-- Handles an answer of the resolver: the address, or none if it could not be found. -/
def addressResolved (a : Answers) (token : Token) (mac : Option Mac) (t : Turn) : Turn :=
  match t.controller.parking.take token with
  | (_, none) => t
  | (parking, some parked) =>
    let t := { t with controller.parking := parking }
    match parked, mac with
    | .tunnelled p, some mac => (t.count .resolutionsSucceeded).resumeTunnelled a p mac
    | .tunnelled p, none => (t.count .resolutionsFailed).abortTunnelled a p
    | .toLocal p, some mac => (t.count .resolutionsSucceeded).resumeLocal a p mac
    | .toLocal p, none => (t.count .resolutionsFailed).abortLocal a p

end Turn

end VirtualRouter
