/-!
Finite maps as lists of entries with distinct keys. A table is read through `get?`: storing under a key changes
the value there and nowhere else, erasing a key leaves every other value, and the size counts the keys. The order
of the entries means nothing.
-/

namespace VirtualRouter

/-- A finite map, as the list of its entries. -/
structure Table (κ ν : Type) where
  entries : List (κ × ν)
  distinct : (entries.map Prod.fst).Nodup
  deriving DecidableEq

namespace Table

variable {κ ν : Type} [DecidableEq κ]

omit [DecidableEq κ] in
theorem filter_distinct {es : List (κ × ν)} (h : (es.map Prod.fst).Nodup) (p : κ × ν → Bool) :
    ((es.filter p).map Prod.fst).Nodup :=
  h.sublist (List.filter_sublist.map _)

/-- The map without entries. -/
def empty : Table κ ν := ⟨[], .nil⟩

omit [DecidableEq κ] in
instance : Inhabited (Table κ ν) := ⟨⟨[], .nil⟩⟩

/-- The value under a key. -/
def get? (t : Table κ ν) (k : κ) : Option ν := (t.entries.find? (·.1 = k)).map Prod.snd

/-- The key has a value. -/
def contains (t : Table κ ν) (k : κ) : Bool := (t.get? k).isSome

/-- The table without a key. -/
def erase (t : Table κ ν) (k : κ) : Table κ ν := ⟨t.entries.filter (·.1 ≠ k), filter_distinct t.distinct _⟩

/-- The table with a value stored under a key, in place of the one before. -/
def insert (t : Table κ ν) (k : κ) (v : ν) : Table κ ν :=
  ⟨(k, v) :: (t.erase k).entries, by
    refine List.nodup_cons.2 ⟨?_, (t.erase k).distinct⟩
    simp [erase]⟩

/-- Replaces every value, dropping the entries that have none any more. -/
def filterMap (t : Table κ ν) (f : κ → ν → Option ν) : Table κ ν :=
  ⟨t.entries.filterMap fun e => (f e.1 e.2).map fun v => (e.1, v), by
    have h := t.distinct
    revert h
    induction t.entries with
    | nil => simp
    | cons e es ih =>
      intro h
      obtain ⟨he, hes⟩ := List.nodup_cons.1 h
      simp only [List.filterMap_cons]
      split
      · exact ih hes
      · rename_i e' he'
        obtain ⟨v, -, rfl⟩ := Option.map_eq_some_iff.1 he'
        refine List.nodup_cons.2 ⟨fun hm => he ?_, ih hes⟩
        obtain ⟨x, hx, hxe⟩ := List.mem_map.1 hm
        obtain ⟨y, hy, hyx⟩ := List.mem_filterMap.1 hx
        obtain ⟨w, -, rfl⟩ := Option.map_eq_some_iff.1 hyx
        exact List.mem_map.2 ⟨y, hy, hxe⟩⟩

/-- The keys. -/
def keys (t : Table κ ν) : List κ := t.entries.map Prod.fst

/-- The values. -/
def values (t : Table κ ν) : List ν := t.entries.map Prod.snd

/-- The number of keys. -/
def size (t : Table κ ν) : Nat := t.entries.length

/-- The table has no key. -/
def isEmpty (t : Table κ ν) : Bool := t.entries.isEmpty

/-! ### What is under a key -/

omit [DecidableEq κ] in
theorem value_unique {es : List (κ × ν)} (h : (es.map Prod.fst).Nodup) {k : κ} {v w : ν}
    (hv : (k, v) ∈ es) (hw : (k, w) ∈ es) : v = w := by
  induction es with
  | nil => exact absurd hv List.not_mem_nil
  | cons e es ih =>
    obtain ⟨he, hes⟩ := List.nodup_cons.1 h
    rcases List.mem_cons.1 hv with hv | hv <;> rcases List.mem_cons.1 hw with hw | hw
    · exact (Prod.mk.inj (hv.trans hw.symm)).2
    · exact absurd (List.mem_map.2 ⟨_, hw, by rw [← hv]⟩) he
    · exact absurd (List.mem_map.2 ⟨_, hv, by rw [← hw]⟩) he
    · exact ih hes hv hw

/-- A key has a value exactly when the table has that entry. -/
theorem get?_eq_some_iff {t : Table κ ν} {k : κ} {v : ν} : t.get? k = some v ↔ (k, v) ∈ t.entries := by
  unfold get?
  rw [Option.map_eq_some_iff]
  constructor
  · rintro ⟨⟨k', v'⟩, h, rfl⟩
    have hk : k' = k := by simpa using List.find?_some h
    exact hk ▸ List.mem_of_find?_eq_some h
  · intro h
    cases hf : t.entries.find? (·.1 = k) with
    | none => exact absurd (List.find?_eq_none.1 hf _ h) (by simp)
    | some e =>
      refine ⟨e, rfl, ?_⟩
      have hk : e.1 = k := by simpa using List.find?_some hf
      exact value_unique t.distinct (hk ▸ List.mem_of_find?_eq_some hf) h

@[simp] theorem get?_empty (k : κ) : (empty : Table κ ν).get? k = none := rfl

theorem get?_erase (t : Table κ ν) (k j : κ) : (t.erase k).get? j = if j = k then none else t.get? j := by
  apply Option.ext
  intro v
  rw [get?_eq_some_iff]
  split
  · rename_i h
    simp [erase, h]
  · rename_i h
    simp [erase, h, get?_eq_some_iff]

@[simp] theorem get?_erase_self (t : Table κ ν) (k : κ) : (t.erase k).get? k = none := by simp [get?_erase]

theorem erase_comm (t : Table κ ν) (k j : κ) : (t.erase k).erase j = (t.erase j).erase k := by
  simp only [erase, List.filter_filter, Bool.and_comm]

theorem erase_of_get?_eq_none {t : Table κ ν} {k : κ} (h : t.get? k = none) : t.erase k = t := by
  have absent : ∀ e ∈ t.entries, e.1 ≠ k := by
    rintro ⟨j, v⟩ mem rfl
    rw [get?_eq_some_iff.2 mem] at h
    cases h
  have kept : t.entries.filter (·.1 ≠ k) = t.entries := List.filter_eq_self.2 fun e mem => decide_eq_true (absent e mem)
  cases t
  simpa only [erase, mk.injEq] using kept

/-- Erasing takes back what was stored under a key that had no value. -/
theorem erase_insert_of_get?_eq_none {t : Table κ ν} {k : κ} (h : t.get? k = none) (v : ν) :
    (t.insert k v).erase k = t := by
  have dropped : (t.insert k v).erase k = (t.erase k).erase k := by
    simp only [insert, erase, List.filter_cons, ne_eq, not_true_eq_false, decide_false, Bool.false_eq_true, if_false]
  rw [dropped, erase_of_get?_eq_none h, erase_of_get?_eq_none h]

theorem get?_insert (t : Table κ ν) (k j : κ) (v : ν) :
    (t.insert k v).get? j = if j = k then some v else t.get? j := by
  apply Option.ext
  intro w
  rw [get?_eq_some_iff]
  split
  · rename_i h
    simp [insert, erase, h, eq_comm]
  · rename_i h
    simp [insert, erase, h, get?_eq_some_iff]

@[simp] theorem get?_insert_self (t : Table κ ν) (k : κ) (v : ν) : (t.insert k v).get? k = some v := by
  simp [get?_insert]

theorem get?_filterMap (t : Table κ ν) (f : κ → ν → Option ν) (k : κ) :
    (t.filterMap f).get? k = (t.get? k).bind (f k) := by
  apply Option.ext
  intro v
  rw [get?_eq_some_iff, Option.bind_eq_some_iff]
  simp only [filterMap, List.mem_filterMap, Option.map_eq_some_iff, Prod.mk.injEq]
  constructor
  · rintro ⟨⟨k', w⟩, hm, u, hf, rfl, rfl⟩
    exact ⟨w, get?_eq_some_iff.2 hm, hf⟩
  · rintro ⟨w, hw, hf⟩
    exact ⟨(k, w), get?_eq_some_iff.1 hw, v, hf, rfl, rfl⟩

theorem contains_iff {t : Table κ ν} {k : κ} : t.contains k = true ↔ k ∈ t.keys := by
  simp only [contains, Option.isSome_iff_exists, get?_eq_some_iff, keys, List.mem_map]
  exact ⟨fun ⟨v, h⟩ => ⟨_, h, rfl⟩, fun ⟨⟨_, v⟩, h, e⟩ => ⟨v, e ▸ h⟩⟩

theorem get?_of_isEmpty {t : Table κ ν} (h : t.isEmpty = true) (k : κ) : t.get? k = none := by
  rw [isEmpty, List.isEmpty_iff] at h
  simp [get?, h]

/-! ### Keys -/

theorem keys_erase (t : Table κ ν) (k : κ) : (t.erase k).keys = t.keys.filter (· ≠ k) := by
  simp only [keys, erase, List.filter_map]
  rfl

/-- Erasing a key takes it from the keys. -/
theorem keys_erase_perm {t : Table κ ν} {k : κ} (h : t.contains k = true) : (k :: (t.erase k).keys).Perm t.keys := by
  have distinct : t.keys.Nodup := t.distinct
  have erased : (t.erase k).keys = t.keys.erase k := by
    rw [keys_erase, distinct.erase_eq_filter]
    exact List.filter_congr fun j _ => decide_not
  rw [erased]
  exact (List.perm_cons_erase (contains_iff.1 h)).symm

theorem keys_insert_of_absent {t : Table κ ν} {k : κ} (v : ν) (h : t.contains k = false) :
    (t.insert k v).keys = k :: t.keys := by
  have kept : (t.erase k).keys = t.keys := by
    rw [keys_erase, List.filter_eq_self]
    intro j hj
    refine decide_eq_true fun same => ?_
    rw [contains_iff.2 (same ▸ hj)] at h
    cases h
  exact congrArg (k :: ·) kept

/-! ### Counting values -/

theorem countP_filter_key {es : List (κ × ν)} (distinct : (es.map Prod.fst).Nodup) (k : κ) (f : ν → Bool) :
    (es.filter (·.1 ≠ k)).countP (f ∘ Prod.snd) +
        (if ((es.find? (·.1 = k)).map Prod.snd).any f then 1 else 0) = es.countP (f ∘ Prod.snd) := by
  induction es with
  | nil => rfl
  | cons e es ih =>
    rw [List.map_cons, List.nodup_cons] at distinct
    obtain ⟨new, distinct⟩ := distinct
    by_cases here : e.1 = k
    · have others : es.filter (·.1 ≠ k) = es := by
        refine List.filter_eq_self.2 fun o ho => decide_eq_true fun same => new ?_
        exact List.mem_map.2 ⟨o, ho, same.trans here.symm⟩
      simp only [ne_eq, decide_not] at others
      simp [here, others, List.countP_cons]
    · have ih := ih distinct
      simp only [here, ne_eq, not_false_eq_true, decide_true, List.filter_cons_of_pos, List.countP_cons,
        List.find?_cons, decide_false] at ih ⊢
      omega

/-- Erasing a key takes its value from the counted ones. -/
theorem countP_values_erase (t : Table κ ν) (k : κ) (f : ν → Bool) :
    (t.erase k).values.countP f + (if (t.get? k).any f then 1 else 0) = t.values.countP f := by
  rw [values, values, List.countP_map, List.countP_map]
  exact countP_filter_key t.distinct k f

theorem countP_values_insert (t : Table κ ν) (k : κ) (v : ν) (f : ν → Bool) :
    (t.insert k v).values.countP f = (t.erase k).values.countP f + if f v then 1 else 0 :=
  List.countP_cons

end Table

end VirtualRouter
