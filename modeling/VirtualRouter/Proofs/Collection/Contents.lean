import Mathlib.Data.Set.Card
import VirtualRouter.Collection.Table

/-! What tables hold. The size of a table is the number of keys that have a value, and the two sides of a relation that pairs
    them off have as many members. After a row of requests, what each request brings about, undoes or leaves alone holds
    exactly if the last request that had to do with it has brought it about. -/

namespace VirtualRouter

/-! ### How many keys -/

/-- The size of a table is the number of keys that have a value. -/
theorem Table.encard_held {κ ν : Type} [DecidableEq κ] (t : Table κ ν) :
    {k | (t.get? k).isSome = true}.encard = t.size := by
  have keys : {k | (t.get? k).isSome = true} = ↑t.keys.toFinset := by
    refine Set.ext fun k => ?_
    rw [Finset.mem_coe, List.mem_toFinset]
    exact contains_iff
  have distinct : t.keys.Nodup := t.distinct
  have count : t.keys.toFinset.card = t.size := by
    rw [List.toFinset_card_of_nodup distinct]
    exact List.length_map _
  rw [keys, Set.encard_coe_eq_coe_finsetCard, count]

/-- What is paired off, each with one and no two with the same, is as many on both sides. -/
theorem encard_eq_of_paired {α β : Type} {R : α → β → Prop} (single : ∀ {a b b'}, R a b → R a b' → b = b')
    (apart : ∀ {a a' b}, R a b → R a' b → a = a') : {a | ∃ b, R a b}.encard = {b | ∃ a, R a b}.encard := by
  have left : {a | ∃ b, R a b} = Prod.fst '' {p : α × β | R p.1 p.2} := by
    refine Set.ext fun a => ⟨fun ⟨b, h⟩ => ⟨(a, b), h, rfl⟩, ?_⟩
    rintro ⟨⟨a, b⟩, h, rfl⟩
    exact ⟨b, h⟩
  have right : {b | ∃ a, R a b} = Prod.snd '' {p : α × β | R p.1 p.2} := by
    refine Set.ext fun b => ⟨fun ⟨a, h⟩ => ⟨(a, b), h, rfl⟩, ?_⟩
    rintro ⟨⟨a, b⟩, h, rfl⟩
    exact ⟨a, h⟩
  have onLeft : Set.InjOn Prod.fst {p : α × β | R p.1 p.2} := by
    rintro ⟨a, b⟩ h ⟨a', b'⟩ h' rfl
    exact congrArg (Prod.mk a) (single h h')
  have onRight : Set.InjOn Prod.snd {p : α × β | R p.1 p.2} := by
    rintro ⟨a, b⟩ h ⟨a', b'⟩ h' rfl
    exact congrArg (Prod.mk · b) (apart h h')
  rw [left, right, onLeft.encard_image, onRight.encard_image]

/-! ### Since which request -/

/-- A request has brought something about, and no later one has undone it. -/
def Stands {ρ : Type} (requests : List ρ) (brings undoes : ρ → Prop) : Prop :=
  ∃ earlier request later, requests = earlier ++ request :: later ∧ brings request ∧ ∀ r ∈ later, ¬undoes r

section Stands
variable {σ ρ : Type} {requests : List ρ} {request : ρ} {brings undoes : ρ → Prop}

theorem stands_nil : ¬Stands [] brings undoes := by
  rintro ⟨earlier, request, later, eq, -⟩
  cases earlier <;> cases eq

theorem stands_cons : Stands (request :: requests) brings undoes ↔
    (brings request ∧ ∀ r ∈ requests, ¬undoes r) ∨ Stands requests brings undoes := by
  constructor
  · rintro ⟨earlier, r, later, eq, brought, kept⟩
    cases earlier with
    | nil =>
      cases eq
      exact .inl ⟨brought, kept⟩
    | cons first earlier =>
      cases eq
      exact .inr ⟨earlier, r, later, rfl, brought, kept⟩
  · rintro (⟨brought, kept⟩ | ⟨earlier, r, later, rfl, brought, kept⟩)
    · exact ⟨[], request, requests, rfl, brought, kept⟩
    · exact ⟨request :: earlier, r, later, rfl, brought, kept⟩

/-- What each request brings about, undoes or else leaves alone holds after all of them exactly if it stands, or held before
    them and none has undone it. -/
theorem foldl_iff_stands {step : σ → ρ → σ} {I P : σ → Prop} (keeps : ∀ s r, I s → I (step s r))
    (steps : ∀ s r, I s → (P (step s r) ↔ brings r ∨ ¬undoes r ∧ P s)) {s : σ} (inv : I s) :
    P (requests.foldl step s) ↔ Stands requests brings undoes ∨ P s ∧ ∀ r ∈ requests, ¬undoes r := by
  induction requests generalizing s with
  | nil => simp [stands_nil]
  | cons request requests ih =>
    rw [List.foldl_cons, ih (keeps s request inv), steps s request inv, stands_cons, List.forall_mem_cons]
    grind

end Stands

end VirtualRouter
