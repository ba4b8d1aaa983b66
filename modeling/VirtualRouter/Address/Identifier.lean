import VirtualRouter.Text.Numeral
import VirtualRouter.Address.TextError
import VirtualRouter.Collection.Ranked

/-!
Identifiers of virtual ports and forwarding elements. An identifier is a number of 128 bits, written as 32
lower-case hexadecimal digits in groups of 8, 4, 4, 4 and 12 between hyphens. A reader takes that form, the form
without hyphens, the hyphenated form in braces and the hyphenated form after `urn:uuid:`, with letters of either
case. Only the low 32 bits of a port's identifier, its short form, travel inside a tunnel.
-/

namespace VirtualRouter

/-- A 128-bit identifier. -/
structure Identifier where
  toNat : Nat
  isLt : toNat < 0x100000000000000000000000000000000
  deriving DecidableEq, Repr

namespace Identifier

instance : Inhabited Identifier := ⟨⟨0, by decide⟩⟩

/-- Identifiers are ordered as numbers. -/
instance : Ranked Identifier where
  rank := toNat
  rank_injective a b h := by cases a; cases b; simp_all

/-- The identifier of a number, cut to 128 bits. -/
def ofNat (n : Nat) : Identifier := ⟨n % 0x100000000000000000000000000000000, Nat.mod_lt _ (by decide)⟩

/-! ### Text -/

/-- All 32 hexadecimal digits. -/
def hexDigits (i : Identifier) : List Char := Numeral.fixed 16 32 i.toNat

/-- The digits in their five groups. -/
def groups (i : Identifier) : List (List Char) :=
  let ds := i.hexDigits
  [ds.take 8, (ds.drop 8).take 4, (ds.drop 12).take 4, (ds.drop 16).take 4, ds.drop 20]

/-- The hyphenated form. -/
def text (i : Identifier) : String := String.ofList (['-'].intercalate i.groups)

/-- The identifier of 32 hexadecimal digits. -/
def ofHexDigits? (cs : List Char) : Option Identifier :=
  if cs.length = 32 then (Numeral.digits? 16 cs).map ofNat else none

/-- The identifier of a hyphenated text. -/
def ofHyphenated? (cs : List Char) : Option Identifier :=
  let parts := cs.splitOn '-'
  if parts.map List.length = [8, 4, 4, 4, 12] then ofHexDigits? parts.flatten else none

/-- What is left of a text after the beginning that marks a name of this kind, in letters of either case. -/
def afterUrn? (cs : List Char) : Option (List Char) :=
  if (cs.take 9).map Char.toLower = "urn:uuid:".toList then some (cs.drop 9) else none

/-- What stands between braces. -/
def inBraces? : List Char → Option (List Char)
  | '{' :: rest => if rest.getLast? = some '}' then some rest.dropLast else none
  | _ => none

/-- The identifier that a text stands for, in any of the four forms. -/
def ofText? (s : String) : Option Identifier :=
  let cs := s.toList
  (ofHexDigits? cs).or <| (ofHyphenated? cs).or <|
    ((inBraces? cs).bind ofHyphenated?).or ((afterUrn? cs).bind ofHyphenated?)

/-- Reads an identifier; a refused text is reported as it stands. -/
def parse (s : String) : Except TextError Identifier :=
  match ofText? s with
  | some i => .ok i
  | none => .error (.identifier s)

/-! ### Short form -/

/-- The low 32 bits. -/
def short (i : Identifier) : UInt32 := UInt32.ofNat i.toNat

/-- The identifier whose low 32 bits are given and whose other bits are zero. -/
def ofShort (s : UInt32) : Identifier := ⟨s.toNat, Nat.lt_trans s.toNat_lt (by decide)⟩

@[simp] theorem short_ofShort (s : UInt32) : (ofShort s).short = s := by
  simp [short, ofShort]

/-! ### Random identifiers -/

/-- The version number kept in the 13th hexadecimal digit. -/
def version (i : Identifier) : Nat := (i.toNat >>> 76) % 16

/-- An identifier from 128 random bits: the version digit becomes four and the top bits of the 17th digit one and
    zero, which marks the identifier as random. -/
def ofRandomBits (n : Nat) : Identifier :=
  ofNat ((n >>> 80) <<< 80 + 4 <<< 76 + ((n >>> 64) % 0x1000) <<< 64 + 1 <<< 63 + n % (1 <<< 62))

/-- The next random identifier of a generator, and the generator after it. -/
def fresh (g : StdGen) : Identifier × StdGen :=
  let (n, g) := randNat g 0 0xffffffffffffffffffffffffffffffff
  (ofRandomBits n, g)

end Identifier

/-! ### What identifiers name -/

/-- The identifier of a virtual port or of a port set. -/
structure PortId where
  id : Identifier
  deriving DecidableEq, Repr, Inhabited

/-- The identifier of a forwarding element: a router or bridge that may hold state for a flow. -/
structure ElementId where
  id : Identifier
  deriving DecidableEq, Repr, Inhabited

namespace PortId

instance : Ranked PortId where
  rank p := rank p.id
  rank_injective a b h := by cases a; cases b; exact congrArg _ (Ranked.rank_injective _ _ h)

/-- The hyphenated form of the identifier. -/
def text (p : PortId) : String := p.id.text

/-- Reads a port identifier. -/
def parse (s : String) : Except TextError PortId := (Identifier.parse s).map mk

/-- The low 32 bits, as carried through a tunnel. -/
def short (p : PortId) : UInt32 := p.id.short

/-- The port whose identifier has the given low 32 bits and no others. -/
def ofShort (s : UInt32) : PortId := ⟨.ofShort s⟩

@[simp] theorem short_ofShort (s : UInt32) : (ofShort s).short = s := Identifier.short_ofShort s

end PortId

namespace ElementId

instance : Ranked ElementId where
  rank e := rank e.id
  rank_injective a b h := by cases a; cases b; exact congrArg _ (Ranked.rank_injective _ _ h)

/-- The hyphenated form of the identifier. -/
def text (e : ElementId) : String := e.id.text

/-- Reads an element identifier. -/
def parse (s : String) : Except TextError ElementId := (Identifier.parse s).map mk

end ElementId

end VirtualRouter
