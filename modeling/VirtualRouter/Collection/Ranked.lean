/-!
Values ordered by a number. A rank is injective, so that comparing ranks is a strict total order and two values
of one rank are the same value.
-/

namespace VirtualRouter

/-- Values that a natural number identifies and orders. -/
class Ranked (α : Type) where
  rank : α → Nat
  rank_injective : ∀ a b : α, rank a = rank b → a = b

export Ranked (rank)

namespace Ranked

variable {α : Type} [Ranked α]

theorem rank_inj {a b : α} : rank a = rank b ↔ a = b :=
  ⟨rank_injective a b, fun h => h ▸ rfl⟩

/-- The values in ascending order, repetitions kept. -/
def sort (xs : List α) : List α := xs.mergeSort fun a b => rank a ≤ rank b

end Ranked

end VirtualRouter
