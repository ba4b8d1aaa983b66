import VirtualRouter.Address.Ipv4
import VirtualRouter.Proofs.Text.Numerals
import VirtualRouter.Proofs.Text.Pieces

/-! The texts of network addresses. An address is read from the text that is written for it, and from no other. -/

namespace VirtualRouter.Ipv4

variable {a : Ipv4} {o : UInt8} {s : String} {cs : List Char}

/-- An octet has one text. -/
theorem group?_eq_some_iff : group? cs = some o ↔ cs = Numeral.decimal o.toNat := by
  constructor
  · intro readable
    unfold group? at readable
    split at readable
    · rename_i shape
      obtain ⟨n, numeral, octet⟩ := Option.map_eq_some_iff.1 readable
      obtain ⟨numeral, small⟩ := Option.filter_eq_some_iff.1 numeral
      have value : o.toNat = n := by
        rw [← octet, UInt8.toNat_ofNat', Nat.mod_eq_of_lt (of_decide_eq_true small)]
      rw [value]
      exact Numeral.eq_decimal_of_digits? numeral shape.2
    · cases readable
  · rintro rfl
    have each : ∀ n < 256, group? (Numeral.decimal n) = some (UInt8.ofNat n) := by decide +kernel
    rw [each _ o.toNat_lt, UInt8.ofNat_toNat]

theorem not_mem_of_group? {c : Char} (readable : group? cs = some o) (mark : c.isDigit = false) : c ∉ cs := by
  rw [group?_eq_some_iff.1 readable]
  intro mem
  rw [Numeral.isDigit_of_mem_decimal mem] at mark
  cases mark

/-- An address is read from its own text only. -/
theorem ofText?_eq_some_iff : ofText? s = some a ↔ s = a.text := by
  have four : ofText? s = some a ↔ (s.toList.splitOn '.').mapM group? = some a.octets := by
    unfold ofText?
    split
    · rename_i read
      rw [read, Option.some.injEq, Option.some.injEq]
      constructor
      · rintro rfl
        rfl
      · intro same
        cases a
        cases same
        rfl
    · rename_i other
      exact iff_of_false nofun (other _ _ _ _)
  rw [four, mapM_splitOn_iff fun readable => not_mem_of_group? readable (by decide)]
  simp only [group?_eq_some_iff, forall₂_eq_map_iff, exists_eq_left]
  constructor
  · rintro ⟨-, chars⟩
    rw [← String.ofList_toList (s := s), chars]
    rfl
  · rintro rfl
    exact ⟨List.cons_ne_nil _ _, String.toList_ofList⟩

theorem text_injective : Function.Injective text := by
  intro a b same
  have read := ofText?_eq_some_iff.2 same
  rw [ofText?_eq_some_iff.2 rfl] at read
  exact Option.some.inj read

end VirtualRouter.Ipv4
