import VirtualRouter.Flow.Policy
import VirtualRouter.Frame.Packet

/-! Which packets a match covers: those whose exact match agrees with it in every field that it constrains. A match that
    the exact policy installs covers packets with the same Ethernet addresses only; one that the network policy installs
    leaves both addresses open, and so covers a packet with any others as well. -/

namespace VirtualRouter

/-- An open field of a match allows every value, a constrained one only its own. -/
def Allows {α : Type} (field value : Option α) : Prop := field = none ∨ field = value

instance {α : Type} [DecidableEq α] (field value : Option α) : Decidable (Allows field value) :=
  inferInstanceAs (Decidable (_ ∨ _))

theorem Allows.of_pinned {α : Type} {field value : Option α} {v : α} (allows : Allows field value)
    (pinned : field = some v) : value = some v := by
  rcases allows with isOpen | same
  · rw [pinned] at isOpen
    cases isOpen
  · exact same.symm.trans pinned

/-- Of two different values one is another than the given one. -/
theorem exists_ne_of_ne {α : Type} [DecidableEq α] {a b : α} (distinct : a ≠ b) (value : α) : ∃ other, other ≠ value := by
  by_cases same : a = value
  · exact ⟨b, fun also => distinct (same.trans also.symm)⟩
  · exact ⟨a, same⟩

structure HeaderMatch.Covers (m exact : HeaderMatch) : Prop where
  inPort : Allows m.inPort exact.inPort
  dlSrc : Allows m.dlSrc exact.dlSrc
  dlDst : Allows m.dlDst exact.dlDst
  dlType : Allows m.dlType exact.dlType
  nwProto : Allows m.nwProto exact.nwProto
  nwSrc : Allows m.nwSrc exact.nwSrc
  nwDst : Allows m.nwDst exact.nwDst
  tpSrc : Allows m.tpSrc exact.tpSrc
  tpDst : Allows m.tpDst exact.tpDst

instance (m exact : HeaderMatch) : Decidable (m.Covers exact) :=
  decidable_of_iff (Allows m.inPort exact.inPort ∧ Allows m.dlSrc exact.dlSrc ∧ Allows m.dlDst exact.dlDst ∧
      Allows m.dlType exact.dlType ∧ Allows m.nwProto exact.nwProto ∧ Allows m.nwSrc exact.nwSrc ∧
      Allows m.nwDst exact.nwDst ∧ Allows m.tpSrc exact.tpSrc ∧ Allows m.tpDst exact.tpDst)
    ⟨fun ⟨a, b, c, d, e, f, g, h, i⟩ => ⟨a, b, c, d, e, f, g, h, i⟩,
      fun ⟨a, b, c, d, e, f, g, h, i⟩ => ⟨a, b, c, d, e, f, g, h, i⟩⟩

/-- The packet with other Ethernet addresses. -/
def Packet.readdressed (p : Packet) (src dst : Mac) : Packet := { p with dlSrc := src, dlDst := dst }

namespace HeaderMatch
variable {m exact : HeaderMatch} {p : Packet} {number : PortNumber} {src dst : Mac}

theorem Covers.self (m : HeaderMatch) : m.Covers m :=
  ⟨.inr rfl, .inr rfl, .inr rfl, .inr rfl, .inr rfl, .inr rfl, .inr rfl, .inr rfl, .inr rfl⟩

theorem Covers.networkFields (covers : m.Covers exact) : (Policy.networkFields m).Covers exact :=
  { covers with dlSrc := .inl rfl, dlDst := .inl rfl, tpSrc := .inl rfl, tpDst := .inl rfl }

/-- A policy never narrows a match. -/
theorem Covers.widen (covers : m.Covers exact) (policy : Policy) (scope : FlowScope) :
    (policy.widen scope m).Covers exact := by
  cases policy with
  | exact => exact covers
  | networkOnly => exact covers.networkFields

/-- Only the Ethernet addresses decide whether a match that covers a packet covers it with others. -/
theorem Covers.readdressed (covers : m.Covers (p.exactMatch number)) (s : Allows m.dlSrc (some src))
    (d : Allows m.dlDst (some dst)) : m.Covers ((p.readdressed src dst).exactMatch number) :=
  { covers with dlSrc := s, dlDst := d }

end HeaderMatch

end VirtualRouter
