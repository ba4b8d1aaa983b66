import VirtualRouter.Text.Numeral

/-!
Handles of the packets that the switch holds. One handle says that the switch holds nothing and that the packet's
bytes travel with the notice.
-/

namespace VirtualRouter

/-- A handle into the switch's packet buffers. -/
structure Buffer where
  handle : UInt32
  deriving DecidableEq, Repr, Inhabited

namespace Buffer

/-- The handle of a packet that the switch does not hold. -/
def unbuffered : Buffer := ⟨0xffffffff⟩

/-- The switch holds the packet. -/
def isBuffered (b : Buffer) : Bool := b ≠ unbuffered

/-- The handle as text: a number, or the word for none. -/
def text (b : Buffer) : String :=
  if b.isBuffered then String.ofList (Numeral.decimal b.handle.toNat) else "unbuffered"

end Buffer

end VirtualRouter
