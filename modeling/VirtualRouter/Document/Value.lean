/-!
Documents: what a text of settings says, whatever its format. A record is read from a table by the names of its
fields. A list stands for a record too, its items being the fields in their order, and a moment in time counts as a
record without any of the fields. A number that nothing can hold does no harm as long as nobody looks at it: fields
under other names are looked at, items beyond the fields are not.
-/

namespace VirtualRouter.Document

/-- A value in a document. Fractional numbers and moments in time are no settings, so only their kind is kept. -/
inductive Value where
  | null
  | bool (value : Bool)
  | integer (value : Int)
  | fraction
  /-- A number that no type of numbers holds. -/
  | unusable
  | moment
  | text (value : String)
  | list (items : List Value)
  | table (fields : List (String × Value))
  deriving Repr, Inhabited

/-- What becomes of items beyond the fields of a record that is written as a list. -/
inductive Surplus where
  | refused
  | ignored
  deriving DecidableEq, Repr

namespace Value

/-! ### Scalars -/

/-- A truth value. -/
def bool? : Value → Option Bool
  | bool b => some b
  | _ => none

/-- A number from zero up to a bound. -/
def below? (bound : Nat) : Value → Option Nat
  | integer n => if 0 ≤ n ∧ n < bound then some n.toNat else none
  | _ => none

/-- A number of 16 bits. -/
def word? (v : Value) : Option UInt16 := (v.below? UInt16.size).map UInt16.ofNat

/-- A number of 64 bits. -/
def long? (v : Value) : Option UInt64 := (v.below? UInt64.size).map UInt64.ofNat

/-- A text. -/
def text? : Value → Option String
  | text s => some s
  | _ => none

/-- A list of values of one kind. -/
def listOf? {α : Type} (item? : Value → Option α) : Value → Option (List α)
  | list items => items.mapM item?
  | _ => none

/-! ### Soundness -/

mutual

/-- There is no unusable number in the value. -/
def isSound : Value → Bool
  | unusable => false
  | list items => areSound items
  | table fields => haveSoundValues fields
  | _ => true

/-- There is no unusable number in the values. -/
def areSound : List Value → Bool
  | [] => true
  | v :: rest => v.isSound && areSound rest

/-- There is no unusable number in the values of fields. -/
def haveSoundValues : List (String × Value) → Bool
  | [] => true
  | (_, v) :: rest => v.isSound && haveSoundValues rest

end

/-! ### Records -/

/-- The fields of a record, by name, if the value can be one with fields of the given names. -/
def fields? (surplus : Surplus) (names : List String) : Value → Option (String → Option Value)
  | table fields =>
    if fields.all fun (name, v) => name ∈ names || v.isSound then some fun name => fields.lookup name else none
  | list items =>
    if items.length ≤ names.length ∨ surplus = .ignored then some fun name => (names.zip items).lookup name
    else none
  | moment => some fun _ => none
  | _ => none

/-- A field that has a default. -/
def setting? {α : Type} (value? : Value → Option α) (default : α) : Option Value → Option α
  | some v => value? v
  | none => some default

/-- A field that has to be there. -/
def needed? {α : Type} (value? : Value → Option α) : Option Value → Option α
  | some v => value? v
  | none => none

end Value

end VirtualRouter.Document
