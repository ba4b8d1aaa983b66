import VirtualRouter.Document.Names
import VirtualRouter.Proofs.Addresses.Ipv4Text
import VirtualRouter.Proofs.Addresses.MacText

/-! What values in a document say. A number, a truth value, a text or an address is said by values of one form each. A record
    is a table, a list of the values of its fields in their order, or a moment, which says nothing of any field. -/

namespace VirtualRouter

open Document

namespace Document.Value

variable {α : Type} {v : Value} {names : List String} {said : Option Value} {default a : α} {value? : Value → Option α}
  {Says : Value → α → Prop}

/-! ### Scalars -/

theorem below?_eq_some_iff {bound n : Nat} : v.below? bound = some n ↔ v = .integer n ∧ n < bound := by
  cases v with
  | integer i =>
    simp only [below?, integer.injEq, Option.ite_none_right_eq_some, Option.some.injEq]
    omega
  | _ => simp [below?]

theorem word?_eq_some_iff {n : UInt16} : v.word? = some n ↔ v = .integer n.toNat := by
  simp only [word?, Option.map_eq_some_iff, below?_eq_some_iff]
  constructor
  · rintro ⟨k, ⟨rfl, small⟩, rfl⟩
    rw [UInt16.toNat_ofNat', Nat.mod_eq_of_lt small]
  · rintro rfl
    exact ⟨n.toNat, ⟨rfl, n.toNat_lt⟩, UInt16.ofNat_toNat⟩

theorem long?_eq_some_iff {n : UInt64} : v.long? = some n ↔ v = .integer n.toNat := by
  simp only [long?, Option.map_eq_some_iff, below?_eq_some_iff]
  constructor
  · rintro ⟨k, ⟨rfl, small⟩, rfl⟩
    rw [UInt64.toNat_ofNat', Nat.mod_eq_of_lt small]
  · rintro rfl
    exact ⟨n.toNat, ⟨rfl, n.toNat_lt⟩, UInt64.ofNat_toNat⟩

theorem bool?_eq_some_iff {b : Bool} : v.bool? = some b ↔ v = .bool b := by
  cases v <;> simp [bool?]

theorem text?_eq_some_iff {s : String} : v.text? = some s ↔ v = .text s := by
  cases v <;> simp [text?]

theorem listOf?_eq_some_iff (reads : ∀ {v a}, value? v = some a ↔ Says v a) {values : List α} :
    v.listOf? value? = some values ↔ ∃ items, v = .list items ∧ List.Forall₂ Says items values := by
  cases v with
  | list items => simp [listOf?, mapM_eq_some_iff, reads]
  | _ => simp [listOf?]

/-! ### Records -/

/-- The value can be a record with these fields: a table, if what it has under other names is sound, a list or a moment. -/
def IsRecord (names : List String) : Value → Prop
  | table fields => ∀ name v, (name, v) ∈ fields → name ∉ names → v.isSound = true
  | list _ => True
  | moment => True
  | _ => False

/-- What a record with these fields says of one of them. -/
def field (names : List String) : Value → String → Option Value
  | table fields, name => fields.lookup name
  | list items, name => (names.zip items).lookup name
  | _, _ => none

theorem isRecord_table_iff {fields : List (String × Value)} :
    (table fields).IsRecord names ↔ (fields.all fun (name, v) => name ∈ names || v.isSound) = true := by
  simp only [IsRecord, List.all_eq_true, Prod.forall, Bool.or_eq_true, decide_eq_true_eq, or_iff_not_imp_left]

/-- A table is a record if it has fields of the record only. -/
theorem isRecord_of_known {fields : List (String × Value)} (known : fields.map Prod.fst ⊆ names) :
    (table fields).IsRecord names :=
  fun _ _ mem unknown => absurd (known (List.mem_map_of_mem mem)) unknown

theorem fields?_eq_some_iff {fields : String → Option Value} :
    v.fields? .ignored names = some fields ↔ v.IsRecord names ∧ fields = v.field names := by
  cases v with
  | table entries =>
    rw [fields?, Option.ite_none_right_eq_some, isRecord_table_iff]
    exact and_congr_right fun _ => Option.some_inj.trans eq_comm
  | list items =>
    rw [fields?, if_pos (.inr rfl)]
    exact (Option.some_inj.trans eq_comm).trans (and_iff_right trivial).symm
  | moment => exact (Option.some_inj.trans eq_comm).trans (and_iff_right trivial).symm
  | _ => simp [fields?, IsRecord]

/-- A value is what is said of it, or its default if nothing is said. -/
def Overlaid (Says : Value → α → Prop) (default : α) : Option Value → α → Prop
  | some v, a => Says v a
  | none, a => a = default

theorem setting?_eq_some_iff (reads : ∀ {v a}, value? v = some a ↔ Says v a) :
    setting? value? default said = some a ↔ Overlaid Says default said a := by
  cases said with
  | none => simp [setting?, Overlaid, eq_comm]
  | some v => exact reads

theorem needed?_eq_some_iff (reads : ∀ {v a}, value? v = some a ↔ Says v a) :
    needed? value? said = some a ↔ ∃ v, said = some v ∧ Says v a := by
  cases said with
  | none => simp [needed?]
  | some v => simp [needed?, reads]

end Document.Value

/-! ### Addresses -/

theorem Ipv4.ofValue?_eq_some_iff {v : Value} {a : Ipv4} : ofValue? v = some a ↔ v = .text a.text := by
  simp [ofValue?, Option.bind_eq_some_iff, Value.text?_eq_some_iff, ofText?_eq_some_iff]

theorem Mac.ofValue?_eq_some_iff {v : Value} {m : Mac} : ofValue? v = some m ↔ ∃ s, v = .text s ∧ Spells s m := by
  simp only [ofValue?, Option.bind_eq_some_iff, Value.text?_eq_some_iff, ofText?_eq_some_iff]

end VirtualRouter
