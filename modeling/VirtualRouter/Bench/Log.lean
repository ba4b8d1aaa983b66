import VirtualRouter.Bench.Script

/-!
What a bench shows of the calls made on it. Only recording collaborators show their calls, and the membership of port
sets never does. The elements released for one flow in a row are shown in ascending order.
-/

namespace VirtualRouter

/-- The call was refused, where a script can have it refused. -/
def Call.isRefused : Call → Bool
  | .addRule _ (.error _) => true
  | .sendPacket _ _ _ _ (.error _) => true
  | .freeBuffer _ (.error _) => true
  | .addPort _ (.error _) => true
  | .removePort _ (.error _) => true
  | _ => false

namespace Bench

/-- The switch is scripted. -/
def Switch.isScripted : Switch → Bool
  | .scripted => true
  | .counting _ => false

/-- The simulation is scripted. -/
def Engine.isScripted : Engine → Bool
  | .scripted => true
  | .bare _ => false

/-- The policy is recorded. -/
def Guide.isRecorded : Guide → Bool
  | .recorded _ => true
  | .configured _ => false

/-- The call is shown. -/
def shows (b : Bench) : Call → Bool
  | .addRule _ _ => b.switch.isScripted
  | .sendPacket _ _ _ _ _ => b.switch.isScripted
  | .freeBuffer _ _ => b.switch.isScripted
  | .process _ _ => b.engine.isScripted
  | .freeFlow _ _ _ => b.engine.isScripted
  | .addPort _ _ => b.engine.isScripted
  | .removePort _ _ => b.engine.isScripted
  | .participants _ _ => false
  | .addParticipant _ _ => false
  | .removeParticipant _ _ => false
  | .resolve _ _ _ => b.showsResolver
  | .dhcp _ _ _ => b.showsDhcp
  | .widen _ _ _ => b.guide.isRecorded
  | .unreachable _ _ _ => b.guide.isRecorded
  | .installed _ _ _ _ => b.guide.isRecorded

/-- The releases of two calls stand in the wrong order. -/
def releasedLater : Call → Call → Bool
  | .freeFlow e flow _, .freeFlow e' flow' _ => flow = flow' ∧ rank e' < rank e
  | _, _ => false

/-- Puts a call before ordered calls, behind releases for the same flow that go first. -/
def place (c : Call) : List Call → List Call
  | [] => [c]
  | d :: rest => if releasedLater c d then d :: place c rest else c :: d :: rest

/-- The calls with every run of releases for one flow in ascending order. -/
def ordered (calls : List Call) : List Call := calls.foldr place []

end Bench

end VirtualRouter
