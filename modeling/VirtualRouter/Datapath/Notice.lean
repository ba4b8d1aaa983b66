import VirtualRouter.Flow.HeaderMatch
import VirtualRouter.Datapath.Buffer

/-!
What the switch reports: a packet that no rule matched, and a rule that is gone.
-/

namespace VirtualRouter

/-- The bytes of a packet. -/
abbrev Octets := List UInt8

/-- A packet that no rule of the switch matched. -/
structure PacketIn where
  buffer : Buffer
  /-- The packet's length on the wire, where the bytes at hand may be fewer. -/
  totalLength : UInt16
  inPort : PortNumber
  data : Octets
  deriving DecidableEq, Repr

/-- A packet with all its bytes at hand; lengths above 16 bits are reported as the highest one. -/
def PacketIn.whole (buffer : Buffer) (inPort : PortNumber) (data : Octets) : PacketIn :=
  { buffer, totalLength := UInt16.ofNat (min data.length 0xffff), inPort, data }

/-- Why a rule is gone. -/
inductive RemovalReason where
  | idleTimeout
  | hardTimeout
  | delete
  deriving DecidableEq, Repr

/-- The name of a reason. -/
def RemovalReason.text : RemovalReason → String
  | .idleTimeout => "idle_timeout"
  | .hardTimeout => "hard_timeout"
  | .delete => "delete"

/-- A rule that the switch no longer holds, with what it counted. -/
structure FlowRemoval where
  pattern : HeaderMatch
  cookie : UInt64 := 0
  priority : UInt16 := 0
  reason : RemovalReason := .idleTimeout
  durationNanos : Nat := 0
  idleTimeout : UInt16 := 0
  packetCount : UInt64 := 0
  byteCount : UInt64 := 0
  deriving DecidableEq, Repr

end VirtualRouter
