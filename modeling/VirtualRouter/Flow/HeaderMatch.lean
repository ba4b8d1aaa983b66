import VirtualRouter.Address.Mac
import VirtualRouter.Address.Ipv4
import VirtualRouter.Address.PortNumber

/-!
Header matches. A match constrains some of nine header fields and leaves the others open; two matches are equal
when they constrain the same fields to the same values, which makes a match the identity of an installed flow. The
text of a match lists the constrained fields as `name=value` between commas in a fixed order, or is a star when
there are none.
-/

namespace VirtualRouter

/-- The header fields that a flow rule is about. An open field is `none`. -/
structure HeaderMatch where
  inPort : Option PortNumber := none
  dlSrc : Option Mac := none
  dlDst : Option Mac := none
  dlType : Option UInt16 := none
  nwProto : Option UInt8 := none
  nwSrc : Option Ipv4 := none
  nwDst : Option Ipv4 := none
  tpSrc : Option UInt16 := none
  tpDst : Option UInt16 := none
  deriving DecidableEq, Repr, Inhabited

namespace HeaderMatch

/-- The match that constrains nothing. -/
def any : HeaderMatch := {}

/-- The match with every field but the ethertype left open. -/
def ethertypeOnly (m : HeaderMatch) : HeaderMatch := { dlType := m.dlType }

/-! ### Text -/

/-- A field's name and value, if the field is constrained. -/
def fieldText {α : Type} (name : String) (valueText : α → List Char) (v : Option α) : List (List Char) :=
  (v.map fun a => name.toList ++ '=' :: valueText a).toList

/-- An ethertype as four hexadecimal digits after the mark of the base. -/
def ethertypeText (t : UInt16) : List Char := '0' :: 'x' :: Numeral.fixed 16 4 t.toNat

/-- The constrained fields as text, in the order in which they are written. -/
def fieldTexts (m : HeaderMatch) : List (List Char) :=
  fieldText "in_port" PortNumber.textChars m.inPort ++
  fieldText "dl_src" Mac.textChars m.dlSrc ++
  fieldText "dl_dst" Mac.textChars m.dlDst ++
  fieldText "dl_type" ethertypeText m.dlType ++
  fieldText "nw_proto" (Numeral.decimal ·.toNat) m.nwProto ++
  fieldText "nw_src" Ipv4.textChars m.nwSrc ++
  fieldText "nw_dst" Ipv4.textChars m.nwDst ++
  fieldText "tp_src" (Numeral.decimal ·.toNat) m.tpSrc ++
  fieldText "tp_dst" (Numeral.decimal ·.toNat) m.tpDst

/-- The match as text. -/
def text (m : HeaderMatch) : String :=
  match m.fieldTexts with
  | [] => "*"
  | fields => String.ofList ([','].intercalate fields)

end HeaderMatch

end VirtualRouter
