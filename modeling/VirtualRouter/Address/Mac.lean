import VirtualRouter.Text.Numeral
import VirtualRouter.Address.TextError
import VirtualRouter.Collection.Ranked

/-!
Ethernet addresses. An address is six octets; the lowest bit of the first marks a group. It is written as six
pairs of lower-case hexadecimal digits between colons. A reader takes hyphens as separators as soon as the text
holds one, colons otherwise, and needs exactly six groups of two characters, each a hexadecimal numeral; since a
numeral may carry a plus sign, a plus sign and one digit are such a group too.
-/

namespace VirtualRouter

/-- A 48-bit Ethernet address, octet by octet. -/
structure Mac where
  o0 : UInt8
  o1 : UInt8
  o2 : UInt8
  o3 : UInt8
  o4 : UInt8
  o5 : UInt8
  deriving DecidableEq, Repr, Inhabited

namespace Mac

/-- The address of all stations. -/
def broadcast : Mac := ⟨0xff, 0xff, 0xff, 0xff, 0xff, 0xff⟩

/-- The address whose octets are all zero. -/
def zero : Mac := ⟨0, 0, 0, 0, 0, 0⟩

/-- The octets, in transmission order. -/
def octets (m : Mac) : List UInt8 := [m.o0, m.o1, m.o2, m.o3, m.o4, m.o5]

/-- The address with the given octets, if there are six of them. -/
def ofOctets? : List UInt8 → Option Mac
  | [a, b, c, d, e, f] => some ⟨a, b, c, d, e, f⟩
  | _ => none

@[simp] theorem ofOctets?_octets (m : Mac) : ofOctets? m.octets = some m := rfl

/-- A group address, the broadcast address among them. -/
def isMulticast (m : Mac) : Bool := m.o0 &&& 1 != 0

/-- An address of a single station. -/
def isUnicast (m : Mac) : Bool := !m.isMulticast

/-- Addresses are ordered by their octets, the first octet counting most. -/
instance : Ranked Mac where
  rank m := m.octets.foldl (fun n o => n * 256 + o.toNat) 0
  rank_injective a b h := by
    obtain ⟨a0, a1, a2, a3, a4, a5⟩ := a
    obtain ⟨b0, b1, b2, b3, b4, b5⟩ := b
    simp only [octets, List.foldl_cons, List.foldl_nil] at h
    have ha0 := a0.toNat_lt; have ha1 := a1.toNat_lt; have ha2 := a2.toNat_lt
    have ha3 := a3.toNat_lt; have ha4 := a4.toNat_lt; have ha5 := a5.toNat_lt
    have hb0 := b0.toNat_lt; have hb1 := b1.toNat_lt; have hb2 := b2.toNat_lt
    have hb3 := b3.toNat_lt; have hb4 := b4.toNat_lt; have hb5 := b5.toNat_lt
    simp only [mk.injEq, ← UInt8.toNat_inj]
    omega

/-! ### Text -/

/-- An octet as two hexadecimal digits. -/
def octetText (o : UInt8) : List Char := Numeral.fixed 16 2 o.toNat

/-- The address as characters. -/
def textChars (m : Mac) : List Char := [':'].intercalate (m.octets.map octetText)

/-- The address as text. -/
def text (m : Mac) : String := String.ofList m.textChars

/-- One group: two characters that are a hexadecimal numeral. -/
def group? : List Char → Option UInt8
  | [a, b] => (Numeral.unsigned? 16 256 [a, b]).map UInt8.ofNat
  | _ => none

/-- The separator that a text is split at. -/
def separator (cs : List Char) : Char := if '-' ∈ cs then '-' else ':'

/-- The address that a text stands for. -/
def ofText? (s : String) : Option Mac :=
  ((s.toList.splitOn (separator s.toList)).mapM group?).bind ofOctets?

/-- Reads an address; a refused text is reported as it stands. -/
def parse (s : String) : Except TextError Mac :=
  match ofText? s with
  | some m => .ok m
  | none => .error (.macAddress s)

end Mac

end VirtualRouter
