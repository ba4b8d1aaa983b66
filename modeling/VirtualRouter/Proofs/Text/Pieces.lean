import Mathlib.Data.List.Forall2

/-! Texts in pieces between separators. Where no piece that can be read holds the separator, a text is read piece by piece
    exactly if it is such pieces with the separator between them. -/

namespace VirtualRouter

variable {α β : Type} {c separator : Char} {pieces : List (List Char)}

/-! ### Pieces put together -/

theorem mem_intercalate_iff : c ∈ [separator].intercalate pieces ↔
    c = separator ∧ 1 < pieces.length ∨ ∃ piece ∈ pieces, c ∈ piece := by
  induction pieces with
  | nil => simp
  | cons piece pieces ih =>
    cases pieces with
    | nil => simp
    | cons next pieces =>
      rw [List.intercalate_cons_cons, List.mem_append, List.mem_append, ih, List.mem_singleton]
      simp only [List.length_cons, List.mem_cons, exists_eq_or_imp]
      grind

theorem map_intercalate (f : Char → Char) :
    ([separator].intercalate pieces).map f = [f separator].intercalate (pieces.map (List.map f)) := by
  induction pieces with
  | nil => rfl
  | cons piece pieces ih =>
    cases pieces with
    | nil => simp
    | cons next pieces =>
      rw [List.map_cons, List.map_cons, List.intercalate_cons_cons, List.intercalate_cons_cons, List.map_append,
        List.map_append, ih]
      rfl

/-! ### Pieces read one by one -/

/-- Items that each are the text of a value are the texts of these values. -/
theorem forall₂_eq_map_iff {f : β → α} {items : List α} {values : List β} :
    List.Forall₂ (fun item value => item = f value) items values ↔ items = values.map f := by
  rw [← List.forall₂_map_right_iff (R := Eq), List.forall₂_eq_eq_eq]

/-- Reading each item of a list gives the values of these items in their order. -/
theorem mapM_eq_some_iff {read? : α → Option β} {items : List α} {values : List β} :
    items.mapM read? = some values ↔ List.Forall₂ (fun item value => read? item = some value) items values := by
  induction items generalizing values with
  | nil =>
    rw [List.forall₂_nil_left_iff, List.mapM_nil]
    exact Option.some_inj.trans eq_comm
  | cons item items ih =>
    rw [List.forall₂_cons_left_iff, List.mapM_cons]
    simp only [Option.bind_eq_bind, Option.bind_eq_some_iff, Option.pure_def, Option.some.injEq, ih]
    grind

/-- A text is read piece by piece exactly if it is made of pieces that can be read. -/
theorem mapM_splitOn_iff {read? : List Char → Option α}
    (apart : ∀ {piece a}, read? piece = some a → separator ∉ piece) {cs : List Char} {values : List α} :
    (cs.splitOn separator).mapM read? = some values ↔ values ≠ [] ∧
      ∃ pieces, List.Forall₂ (fun piece value => read? piece = some value) pieces values ∧
        cs = [separator].intercalate pieces := by
  rw [mapM_eq_some_iff]
  constructor
  · intro all
    refine ⟨?_, _, all, (List.intercalate_splitOn separator).symm⟩
    rintro rfl
    exact List.splitOn_ne_nil separator cs (List.forall₂_nil_right_iff.1 all)
  · rintro ⟨some_value, pieces, all, rfl⟩
    have some_piece : pieces ≠ [] := by
      rintro rfl
      exact some_value (List.forall₂_nil_left_iff.1 all)
    have free : ∀ piece ∈ pieces, separator ∉ piece :=
      ((List.forall₂_and_left _ _).1 (all.imp fun _ _ readable => ⟨apart readable, readable⟩)).1
    rwa [List.splitOn_intercalate separator free some_piece]

end VirtualRouter
