import VirtualRouter.Collection.Ranked

/-!
Finite sets of ranked values, kept as strictly ascending lists. A set is determined by its members, so that two
sets built in different orders are the same value, and its list shows the members in ascending order, each once.
-/

namespace VirtualRouter

/-- A finite set, as the strictly ascending list of its members. -/
structure OrderedSet (α : Type) [Ranked α] where
  toList : List α
  ascending : toList.Pairwise fun a b => rank a < rank b
  deriving DecidableEq

namespace OrderedSet

variable {α : Type} [Ranked α]

/-! ### Inserting into an ascending list -/

/-- Puts a value where it belongs in an ascending list, unless it is there. -/
def insertInto (x : α) : List α → List α
  | [] => [x]
  | y :: ys =>
    if rank x < rank y then x :: y :: ys
    else if rank x = rank y then y :: ys
    else y :: insertInto x ys

theorem mem_insertInto {a x : α} {xs : List α} : a ∈ insertInto x xs ↔ a = x ∨ a ∈ xs := by
  induction xs with
  | nil => simp [insertInto]
  | cons y ys ih =>
    unfold insertInto
    split
    · simp
    · split
      · rename_i h
        simp only [Ranked.rank_inj.1 h, List.mem_cons]
        exact ⟨Or.inr, fun h => h.elim Or.inl id⟩
      · simp only [List.mem_cons, ih]
        exact ⟨fun h => h.elim (Or.inr ∘ Or.inl) (·.elim Or.inl (Or.inr ∘ Or.inr)),
          fun h => h.elim (Or.inr ∘ Or.inl) (·.elim Or.inl (Or.inr ∘ Or.inr))⟩

theorem insertInto_ascending {x : α} {xs : List α} (h : xs.Pairwise fun a b => rank a < rank b) :
    (insertInto x xs).Pairwise fun a b => rank a < rank b := by
  induction xs with
  | nil => simp [insertInto]
  | cons y ys ih =>
    obtain ⟨hy, hys⟩ := List.pairwise_cons.1 h
    unfold insertInto
    split
    · rename_i hxy
      refine List.pairwise_cons.2 ⟨fun a ha => ?_, h⟩
      rcases List.mem_cons.1 ha with rfl | ha
      · exact hxy
      · exact Nat.lt_trans hxy (hy a ha)
    · split
      · exact h
      · rename_i hxy hne
        refine List.pairwise_cons.2 ⟨fun a ha => ?_, ih hys⟩
        rcases mem_insertInto.1 ha with rfl | ha
        · omega
        · exact hy a ha

/-! ### Sets -/

/-- The set without members. -/
def empty : OrderedSet α := ⟨[], .nil⟩

instance : Inhabited (OrderedSet α) := ⟨empty⟩

instance : Membership α (OrderedSet α) := ⟨fun s a => a ∈ s.toList⟩

instance [DecidableEq α] (a : α) (s : OrderedSet α) : Decidable (a ∈ s) :=
  inferInstanceAs (Decidable (a ∈ s.toList))

/-- The set with one more member. -/
def insert (s : OrderedSet α) (a : α) : OrderedSet α := ⟨insertInto a s.toList, insertInto_ascending s.ascending⟩

/-- The members that pass a test. -/
def filter (s : OrderedSet α) (p : α → Bool) : OrderedSet α := ⟨s.toList.filter p, s.ascending.filter p⟩

/-- The set without a value. -/
def erase [DecidableEq α] (s : OrderedSet α) (a : α) : OrderedSet α := s.filter (· ≠ a)

/-- The members of either set. -/
def union (s t : OrderedSet α) : OrderedSet α := t.toList.foldl insert s

/-- The set of the values in a list. -/
def ofList (xs : List α) : OrderedSet α := xs.foldl insert empty

/-- The number of members. -/
def size (s : OrderedSet α) : Nat := s.toList.length

/-- The set has no member. -/
def isEmpty (s : OrderedSet α) : Bool := s.toList.isEmpty

/-! ### Members -/

@[simp] theorem mem_toList {a : α} {s : OrderedSet α} : a ∈ s.toList ↔ a ∈ s := Iff.rfl

@[simp] theorem toList_empty : (empty : OrderedSet α).toList = [] := rfl

@[simp] theorem not_mem_empty {a : α} : ¬a ∈ (empty : OrderedSet α) := List.not_mem_nil

@[simp] theorem mem_insert {a b : α} {s : OrderedSet α} : a ∈ s.insert b ↔ a = b ∨ a ∈ s := mem_insertInto

@[simp] theorem mem_filter {a : α} {s : OrderedSet α} {p : α → Bool} : a ∈ s.filter p ↔ a ∈ s ∧ p a = true :=
  List.mem_filter

@[simp] theorem mem_erase [DecidableEq α] {a b : α} {s : OrderedSet α} : a ∈ s.erase b ↔ a ∈ s ∧ a ≠ b := by
  simp [erase]

theorem mem_foldl_insert {a : α} {xs : List α} {s : OrderedSet α} : a ∈ xs.foldl insert s ↔ a ∈ s ∨ a ∈ xs := by
  induction xs generalizing s with
  | nil => simp
  | cons x xs ih =>
    rw [List.foldl_cons, ih, mem_insert, List.mem_cons]
    exact ⟨fun h => h.elim (·.elim (Or.inr ∘ Or.inl) Or.inl) (Or.inr ∘ Or.inr),
      fun h => h.elim (Or.inl ∘ Or.inr) (·.elim (Or.inl ∘ Or.inl) Or.inr)⟩

@[simp] theorem mem_union {a : α} {s t : OrderedSet α} : a ∈ s.union t ↔ a ∈ s ∨ a ∈ t := mem_foldl_insert

@[simp] theorem mem_ofList {a : α} {xs : List α} : a ∈ ofList xs ↔ a ∈ xs := by
  simp [ofList, mem_foldl_insert]

/-- Ascending lists with the same members are the same list. -/
theorem ascending_ext {xs ys : List α} (hx : xs.Pairwise fun a b => rank a < rank b)
    (hy : ys.Pairwise fun a b => rank a < rank b) (h : ∀ a, a ∈ xs ↔ a ∈ ys) : xs = ys := by
  induction xs generalizing ys with
  | nil => cases ys with
    | nil => rfl
    | cons y ys => exact absurd ((h y).2 List.mem_cons_self) List.not_mem_nil
  | cons x xs ih => cases ys with
    | nil => exact absurd ((h x).1 List.mem_cons_self) List.not_mem_nil
    | cons y ys =>
      obtain ⟨hx', hxs⟩ := List.pairwise_cons.1 hx
      obtain ⟨hy', hys⟩ := List.pairwise_cons.1 hy
      have hxy : x = y := by
        rcases List.mem_cons.1 ((h x).1 List.mem_cons_self) with e | hm
        · exact e
        · rcases List.mem_cons.1 ((h y).2 List.mem_cons_self) with e | hm'
          · exact e.symm
          · have := hy' x hm; have := hx' y hm'; omega
      subst hxy
      refine congrArg _ (ih hxs hys fun a => ⟨fun ha => ?_, fun ha => ?_⟩)
      · rcases List.mem_cons.1 ((h a).1 (List.mem_cons_of_mem _ ha)) with e | hm
        · have := hx' a ha; rw [e] at this; omega
        · exact hm
      · rcases List.mem_cons.1 ((h a).2 (List.mem_cons_of_mem _ ha)) with e | hm
        · have := hy' a ha; rw [e] at this; omega
        · exact hm

/-- Sets with the same members are the same set. -/
theorem ext {s t : OrderedSet α} (h : ∀ a, a ∈ s ↔ a ∈ t) : s = t := by
  cases s; cases t
  simp only [mk.injEq]
  exact ascending_ext ‹_› ‹_› h

theorem nodup (s : OrderedSet α) : s.toList.Nodup := by
  refine s.ascending.imp ?_
  rintro a _ h rfl
  exact Nat.lt_irrefl _ h

/-- A set lists each member once. -/
theorem count_toList [DecidableEq α] (s : OrderedSet α) (a : α) : s.toList.count a = if a ∈ s then 1 else 0 :=
  s.nodup.count

end OrderedSet

end VirtualRouter
