import VirtualRouter.Controller.Turn

/-!
Carrying out the simulation's verdicts. A blackhole verdict becomes a temporary drop rule that the policy may widen,
a verdict on a packet without IPv4 a permanent one for its ethertype, and a rejected packet or one without a way out
a temporary one for its exact match. A packet to a local port waits for the address of its next hop; one to a port
set or to a port of another host gets its forwarding rule at once.
-/

namespace VirtualRouter

/-- The ports towards a port that is not attached here, and the headers that a packet needs on the way: a port set,
    whose hosts are given, by its members, any other port through the tunnel to its host. -/
def Controller.towards (c : Controller) (d : DecidedPacket) (out : PortId) (nextHop : Ipv4) :
    Option (OrderedSet Ipv4) → OrderedSet PortNumber × HeaderMatch
  | some hosts => (fanOut c.localAddress c.slices c.tunnels out hosts, d.wanted)
  | none =>
    match c.tunnels.towardsPort out with
    | some tunnel =>
      let (src, dst) := TunnelHeader.encode ⟨d.source, out, nextHop⟩
      (OrderedSet.empty.insert tunnel, { d.wanted with dlSrc := some src, dlDst := some dst })
    | none => (.empty, d.wanted)

namespace Turn

/-- Parks a packet and asks for the address of its next hop. -/
def requestAddress (port : PortId) (nextHop : Ipv4) (packet : ParkedPacket) (t : Turn) : Turn :=
  let (parking, token) := t.controller.parking.park packet
  (count { t with controller.parking := parking } .resolutionsStarted).call (.resolve token port nextHop)

/-- Drops the packets of an exact match for a while, and tells the policy why. -/
def reject (a : Answers) (code : UnreachableCode) (d : DecidedPacket) (t : Turn) : Turn :=
  t.blackhole a d.incoming d.buffer
    |>.releaseElements a d.incoming d.elements
    |>.unreachable code d.source d.packet

/-- Sends a packet out of ports, by a rule for its exact match. -/
def forwardExact (a : Answers) (d : DecidedPacket) (ports : OrderedSet PortNumber) (wanted : HeaderMatch)
    (t : Turn) : Turn :=
  let (t, accepted) := t.installForward a d.incoming d.buffer (Action.between d.incoming wanted ports.toList) d.data
  if accepted then t.record d.incoming d.elements else t.releaseElements a d.incoming d.elements

/-- Sends a packet on towards a port of the topology. -/
def forward (a : Answers) (d : DecidedPacket) (out : PortId) (nextHop : Ipv4) (t : Turn) : Turn :=
  if (t.controller.ports.byId out).isSome then
    t.requestAddress out nextHop (.toLocal { d with egress := out })
  else
    let (ports, wanted) := t.controller.towards d out nextHop (a.participants out)
    let t := t.call (.participants out (a.participants out))
    if ports.isEmpty then t.reject a .net d else t.forwardExact a d ports wanted

/-- Carries out a verdict. -/
def carryOut (a : Answers) (d : DecidedPacket) (t : Turn) : Verdict → Turn
  | .blackhole =>
    let installed := a.widen .blackhole d.incoming
    t.widen a .blackhole d.incoming
      |>.blackhole a installed d.buffer
      |>.announce d.incoming installed d.ingress d.elements
      |>.releaseElements a d.incoming d.elements
  | .consumed => t.freeBuffer a d.buffer
  | .forward out nextHop => t.forward a d out nextHop
  | .notIpv4 => t.installDrop a (.dropping d.incoming.ethertypeOnly d.buffer 0 0)
  | .noRoute => t.reject a .net d
  | .reject => t.reject a .filterProhibited d

end Turn

end VirtualRouter
