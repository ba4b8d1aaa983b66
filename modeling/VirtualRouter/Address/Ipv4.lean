import VirtualRouter.Text.Numeral
import VirtualRouter.Collection.Ranked

/-!
IPv4 addresses. An address is four octets, written in decimal between dots. A reader needs exactly four groups,
each of one to three decimal digits up to 255 without a leading zero.
-/

namespace VirtualRouter

/-- A 32-bit network address, octet by octet. -/
structure Ipv4 where
  o0 : UInt8
  o1 : UInt8
  o2 : UInt8
  o3 : UInt8
  deriving DecidableEq, Repr, Inhabited

namespace Ipv4

/-- The address of this host itself. -/
def localhost : Ipv4 := ⟨127, 0, 0, 1⟩

/-- The octets, in network order. -/
def octets (a : Ipv4) : List UInt8 := [a.o0, a.o1, a.o2, a.o3]

/-- Addresses are ordered by their octets, the first octet counting most. -/
instance : Ranked Ipv4 where
  rank a := a.octets.foldl (fun n o => n * 256 + o.toNat) 0
  rank_injective a b h := by
    obtain ⟨a0, a1, a2, a3⟩ := a
    obtain ⟨b0, b1, b2, b3⟩ := b
    simp only [octets, List.foldl_cons, List.foldl_nil] at h
    have ha0 := a0.toNat_lt; have ha1 := a1.toNat_lt; have ha2 := a2.toNat_lt; have ha3 := a3.toNat_lt
    have hb0 := b0.toNat_lt; have hb1 := b1.toNat_lt; have hb2 := b2.toNat_lt; have hb3 := b3.toNat_lt
    simp only [mk.injEq, ← UInt8.toNat_inj]
    omega

/-- The address as characters. -/
def textChars (a : Ipv4) : List Char := ['.'].intercalate (a.octets.map fun o => Numeral.decimal o.toNat)

/-- The address as text. -/
def text (a : Ipv4) : String := String.ofList a.textChars

/-- One group: a decimal number up to 255 in at most three digits, without a leading zero. -/
def group? (cs : List Char) : Option UInt8 :=
  if cs.length ≤ 3 ∧ (cs.head? = some '0' → cs = ['0']) then
    ((Numeral.digits? 10 cs).filter (· < 256)).map UInt8.ofNat
  else none

/-- The address that a text stands for. -/
def ofText? (s : String) : Option Ipv4 :=
  match (s.toList.splitOn '.').mapM group? with
  | some [a, b, c, d] => some ⟨a, b, c, d⟩
  | _ => none

end Ipv4

end VirtualRouter
