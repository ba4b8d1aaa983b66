import VirtualRouter.Text.Numeral
import VirtualRouter.Address.TextError
import VirtualRouter.Collection.Ranked

/-!
Port numbers of the switch. Numbers above `0xff00` are reserved; three of them have names, which are written in
capitals and read in either case. Every other number is written in decimal.
-/

namespace VirtualRouter

/-- A port number of the switch. -/
structure PortNumber where
  number : UInt16
  deriving DecidableEq, Repr, Inhabited

namespace PortNumber

/-- The highest number of a physical or virtual port. -/
def highest : PortNumber := ⟨0xff00⟩

/-- The switch's own networking stack. -/
def switchLocal : PortNumber := ⟨0xfffe⟩

/-- The controller. -/
def controller : PortNumber := ⟨0xfffd⟩

/-- No port: where packets that the controller sends come from. -/
def none : PortNumber := ⟨0xffff⟩

/-- A number that no port can have. -/
def isReserved (p : PortNumber) : Bool := highest.number < p.number

/-- Port numbers are ordered as numbers. -/
instance : Ranked PortNumber where
  rank p := p.number.toNat
  rank_injective a b h := by cases a; cases b; exact congrArg _ (UInt16.toNat_inj.1 h)

/-! ### Text -/

/-- The port number as characters. -/
def textChars (p : PortNumber) : List Char :=
  if p = switchLocal then "LOCAL".toList
  else if p = controller then "CONTROLLER".toList
  else if p = none then "NONE".toList
  else Numeral.decimal p.number.toNat

/-- The port number as text. -/
def text (p : PortNumber) : String := String.ofList p.textChars

/-- The port number that a text stands for: a name in either case, or a number of 16 bits. -/
def ofText? (s : String) : Option PortNumber :=
  let name := String.ofList (s.toList.map Char.toUpper)
  if name = "LOCAL" then some switchLocal
  else if name = "CONTROLLER" then some controller
  else if name = "NONE" then some none
  else (Numeral.unsigned? 10 UInt16.size s.toList).map fun n => ⟨UInt16.ofNat n⟩

/-- Reads a port number; a refused text is reported as it stands. -/
def parse (s : String) : Except TextError PortNumber :=
  match ofText? s with
  | some p => .ok p
  | Option.none => .error (.portNumber s)

end PortNumber

end VirtualRouter
