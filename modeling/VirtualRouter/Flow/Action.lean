import VirtualRouter.Flow.HeaderMatch

/-!
Actions of a flow rule. An action list sets header fields and sends copies of the packet; a copy carries the
headers as they stand when it is sent. The shortest list that turns one match into another sets exactly the fields
that the second match constrains to another value than the first, before the first copy is sent.
-/

namespace VirtualRouter

/-- One action on a packet. -/
inductive Action where
  | setDlSrc (mac : Mac)
  | setDlDst (mac : Mac)
  | setNwSrc (address : Ipv4)
  | setNwDst (address : Ipv4)
  | setTpSrc (port : UInt16)
  | setTpDst (port : UInt16)
  | output (port : PortNumber)
  | toController (maxLength : UInt16)
  deriving DecidableEq, Repr

/-- The header fields that actions can set. -/
structure Addressing where
  dlSrc : Mac
  dlDst : Mac
  nwSrc : Ipv4
  nwDst : Ipv4
  tpSrc : UInt16
  tpDst : UInt16
  deriving DecidableEq, Repr

namespace Action

/-! ### Meaning -/

/-- The headers after an action. -/
def apply : Action → Addressing → Addressing
  | setDlSrc mac, h => { h with dlSrc := mac }
  | setDlDst mac, h => { h with dlDst := mac }
  | setNwSrc address, h => { h with nwSrc := address }
  | setNwDst address, h => { h with nwDst := address }
  | setTpSrc port, h => { h with tpSrc := port }
  | setTpDst port, h => { h with tpDst := port }
  | output _, h => h
  | toController _, h => h

/-- The copies that an action list sends out of ports, each with the headers it carries. -/
def perform : List Action → Addressing → List (PortNumber × Addressing)
  | [], _ => []
  | output port :: rest, h => (port, h) :: perform rest h
  | action :: rest, h => perform rest (action.apply h)

/-! ### The shortest list between two matches -/

/-- The setting of one field: only if the wanted value is constrained and differs. -/
def setting {α : Type} [DecidableEq α] (set : α → Action) (incoming wanted : Option α) : List Action :=
  ((wanted.filter fun _ => incoming ≠ wanted).map set).toList

/-- The settings that turn packets of one match into packets of another. -/
def settings (incoming wanted : HeaderMatch) : List Action :=
  setting setDlSrc incoming.dlSrc wanted.dlSrc ++
  setting setDlDst incoming.dlDst wanted.dlDst ++
  setting setNwSrc incoming.nwSrc wanted.nwSrc ++
  setting setNwDst incoming.nwDst wanted.nwDst ++
  setting setTpSrc incoming.tpSrc wanted.tpSrc ++
  setting setTpDst incoming.tpDst wanted.tpDst

/-- The actions that turn packets of one match into packets of another and send a copy out of each port. -/
def between (incoming wanted : HeaderMatch) (ports : List PortNumber) : List Action :=
  settings incoming wanted ++ ports.map output

end Action

end VirtualRouter
