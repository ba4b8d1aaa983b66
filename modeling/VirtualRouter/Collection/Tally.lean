/-!
Counters of 64 bits that stop at their highest value.
-/

namespace VirtualRouter

/-- A counter that never wraps. -/
structure Tally where
  count : UInt64 := 0
  deriving DecidableEq, Repr, Inhabited

namespace Tally

/-- One more, unless the counter is full. -/
def next (t : Tally) : Tally := if t.count = 0xffffffffffffffff then t else ⟨t.count + 1⟩

/-- The number counted. -/
def toNat (t : Tally) : Nat := t.count.toNat

/-- A counter that is not full grows by one. -/
theorem toNat_next (t : Tally) : t.next.toNat = min (t.toNat + 1) (UInt64.size - 1) := by
  have hlt := t.count.toNat_lt
  unfold next toNat
  split
  · rename_i h
    simp [h]
  · rename_i h
    have hne : t.count.toNat ≠ 18446744073709551615 := fun e => h (UInt64.toNat_inj.1 e)
    rw [UInt64.toNat_add]
    simp only [UInt64.reduceToNat, UInt64.size] at hlt ⊢
    omega

end Tally

end VirtualRouter
