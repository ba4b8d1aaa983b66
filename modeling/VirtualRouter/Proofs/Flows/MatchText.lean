import VirtualRouter.Flow.HeaderMatch
import VirtualRouter.Proofs.Addresses.Ipv4Text
import VirtualRouter.Proofs.Addresses.MacText

/-! The texts of header matches. No value is written with a comma and no name with an equals sign, so that the fields are
    what stands between the commas, each with what stands before its first equals sign for a name. Hence a text tells which
    fields a match constrains and to which values. -/

namespace VirtualRouter

variable {c : Char} {n : Nat}

/-! ### Values -/

theorem Numeral.comma_not_mem_decimal : ',' ∉ decimal n := by
  intro mem
  cases isDigit_of_mem_decimal mem

theorem Numeral.comma_not_mem_fixed {width : Nat} : ',' ∉ fixed 16 width n := by
  have others : ∀ d < 16, ',' ≠ d.digitChar := by decide
  intro mem
  obtain ⟨d, small, same⟩ := exists_digit_of_mem_fixed (by decide) mem
  exact others d small same

namespace PortNumber

/-- The ports that have a name. -/
def named : List PortNumber := [switchLocal, controller, none]

theorem textChars_of_not_mem_named {p : PortNumber} (unnamed : p ∉ named) :
    p.textChars = Numeral.decimal p.number.toNat := by
  simp only [named, List.mem_cons, List.not_mem_nil, not_or] at unnamed
  rw [textChars, if_neg unnamed.1, if_neg unnamed.2.1, if_neg unnamed.2.2.1]

/-- A named port is written in letters, and every other port in figures. -/
theorem textChars_injective : Function.Injective textChars := by
  have names_differ : ∀ p ∈ named, ∀ q ∈ named, p.textChars = q.textChars → p = q := by decide
  have letter : ∀ p ∈ named, 'O' ∈ p.textChars := by decide
  have apart {p q : PortNumber} (name : p ∈ named) (unnamed : q ∉ named) : p.textChars ≠ q.textChars := by
    intro same
    have inside := letter p name
    rw [same, textChars_of_not_mem_named unnamed] at inside
    cases Numeral.isDigit_of_mem_decimal inside
  intro p q same
  by_cases name : p ∈ named
  · by_cases name' : q ∈ named
    · exact names_differ p name q name' same
    · exact absurd same (apart name name')
  · by_cases name' : q ∈ named
    · exact absurd same.symm (apart name' name)
    · rw [textChars_of_not_mem_named name, textChars_of_not_mem_named name'] at same
      have number := UInt16.toNat_inj.1 (Numeral.decimal_injective same)
      cases p
      cases q
      exact congrArg mk number

theorem comma_not_mem_textChars (p : PortNumber) : ',' ∉ p.textChars := by
  by_cases name : p ∈ named
  · exact (by decide : ∀ p ∈ named, ',' ∉ p.textChars) p name
  · rw [textChars_of_not_mem_named name]
    exact Numeral.comma_not_mem_decimal

end PortNumber

theorem Mac.textChars_injective : Function.Injective textChars := fun _ _ same =>
  text_injective (congrArg String.ofList same)

theorem Mac.comma_not_mem_textChars (m : Mac) : ',' ∉ m.textChars := by
  rw [textChars, mem_intercalate_iff]
  rintro (⟨same, -⟩ | ⟨piece, mem, inside⟩)
  · cases same
  · obtain ⟨o, -, rfl⟩ := List.mem_map.1 mem
    exact Numeral.comma_not_mem_fixed inside

theorem Ipv4.textChars_injective : Function.Injective textChars := fun _ _ same =>
  text_injective (congrArg String.ofList same)

theorem Ipv4.comma_not_mem_textChars (a : Ipv4) : ',' ∉ a.textChars := by
  rw [textChars, mem_intercalate_iff]
  rintro (⟨same, -⟩ | ⟨piece, mem, inside⟩)
  · cases same
  · obtain ⟨o, -, rfl⟩ := List.mem_map.1 mem
    exact Numeral.comma_not_mem_decimal inside

namespace HeaderMatch

variable {α : Type} {name other : String} {valueText : α → List Char} {v : Option α} {t : List Char}
  {texts texts' : List (List Char)} {a b m : HeaderMatch}

theorem ethertypeText_injective : Function.Injective ethertypeText := by
  intro t u same
  have digits : Numeral.fixed 16 4 t.toNat = Numeral.fixed 16 4 u.toNat := by
    simpa [ethertypeText] using same
  have fits (t : UInt16) : t.toNat < 16 ^ 4 := Nat.lt_of_lt_of_eq t.toNat_lt (by decide)
  exact UInt16.toNat_inj.1 (Numeral.fixed_inj (by decide) (by decide) (fits t) (fits u) digits)

theorem comma_not_mem_ethertypeText (t : UInt16) : ',' ∉ ethertypeText t := by
  simp [ethertypeText, Numeral.comma_not_mem_fixed]

/-! ### Fields -/

/-- What the texts of fields give as value of the field of a name. -/
def valueTexts (name : String) (texts : List (List Char)) : List (List Char) :=
  texts.filterMap fun t => if t.takeWhile (· ≠ '=') = name.toList then some ((t.dropWhile (· ≠ '=')).drop 1) else none

theorem valueTexts_append : valueTexts name (texts ++ texts') = valueTexts name texts ++ valueTexts name texts' :=
  List.filterMap_append

/-- A field's own name is found before its value, and no other. -/
theorem valueTexts_fieldText (plain : '=' ∉ other.toList) : valueTexts name (fieldText other valueText v) =
    if other = name then (v.map valueText).toList else [] := by
  cases v with
  | none => simp [fieldText, valueTexts]
  | some x =>
    have named : ∀ c ∈ other.toList, decide (c ≠ '=') = true := fun c mem => decide_eq_true fun same => plain (same ▸ mem)
    have before : (other.toList ++ '=' :: valueText x).takeWhile (· ≠ '=') = other.toList := by
      rw [List.takeWhile_append_of_pos named]
      simp
    have behind : (other.toList ++ '=' :: valueText x).dropWhile (· ≠ '=') = '=' :: valueText x := by
      rw [List.dropWhile_append_of_pos named]
      simp
    simp only [fieldText, Option.map_some, Option.toList_some, valueTexts, List.filterMap_cons, before, behind,
      String.toList_inj, List.filterMap_nil]
    by_cases own : other = name <;> simp [own]

theorem marks_of_mem_fieldText (plain : ',' ∉ name.toList) (values : ∀ x, ',' ∉ valueText x)
    (mem : t ∈ fieldText name valueText v) : '=' ∈ t ∧ ',' ∉ t := by
  obtain ⟨x, -, rfl⟩ : ∃ x, v = some x ∧ _ = t := by simpa [fieldText] using mem
  simp [plain, values x]

/-! ### Matches -/

theorem marks_of_mem_fieldTexts (mem : t ∈ m.fieldTexts) : '=' ∈ t ∧ ',' ∉ t := by
  have decimal (n : Nat) : ',' ∉ Numeral.decimal n := Numeral.comma_not_mem_decimal
  simp only [fieldTexts, List.mem_append] at mem
  rcases mem with (((((((mem | mem) | mem) | mem) | mem) | mem) | mem) | mem) | mem
  · exact marks_of_mem_fieldText (by decide) PortNumber.comma_not_mem_textChars mem
  · exact marks_of_mem_fieldText (by decide) Mac.comma_not_mem_textChars mem
  · exact marks_of_mem_fieldText (by decide) Mac.comma_not_mem_textChars mem
  · exact marks_of_mem_fieldText (by decide) comma_not_mem_ethertypeText mem
  · exact marks_of_mem_fieldText (by decide) (fun _ => decimal _) mem
  · exact marks_of_mem_fieldText (by decide) Ipv4.comma_not_mem_textChars mem
  · exact marks_of_mem_fieldText (by decide) Ipv4.comma_not_mem_textChars mem
  · exact marks_of_mem_fieldText (by decide) (fun _ => decimal _) mem
  · exact marks_of_mem_fieldText (by decide) (fun _ => decimal _) mem

/-- Each field is found under its name, if it is constrained. -/
theorem valueTexts_fieldTexts (m : HeaderMatch) :
    valueTexts "in_port" m.fieldTexts = (m.inPort.map PortNumber.textChars).toList ∧
    valueTexts "dl_src" m.fieldTexts = (m.dlSrc.map Mac.textChars).toList ∧
    valueTexts "dl_dst" m.fieldTexts = (m.dlDst.map Mac.textChars).toList ∧
    valueTexts "dl_type" m.fieldTexts = (m.dlType.map ethertypeText).toList ∧
    valueTexts "nw_proto" m.fieldTexts = (m.nwProto.map (Numeral.decimal ·.toNat)).toList ∧
    valueTexts "nw_src" m.fieldTexts = (m.nwSrc.map Ipv4.textChars).toList ∧
    valueTexts "nw_dst" m.fieldTexts = (m.nwDst.map Ipv4.textChars).toList ∧
    valueTexts "tp_src" m.fieldTexts = (m.tpSrc.map (Numeral.decimal ·.toNat)).toList ∧
    valueTexts "tp_dst" m.fieldTexts = (m.tpDst.map (Numeral.decimal ·.toNat)).toList := by
  simp [fieldTexts, valueTexts_append, valueTexts_fieldText]

theorem fieldTexts_injective : Function.Injective fieldTexts := by
  intro a b same
  have tells {α : Type} {valueText : α → List Char} (apart : Function.Injective valueText) {v w : Option α}
      (same : (v.map valueText).toList = (w.map valueText).toList) : v = w := by
    cases v <;> cases w <;> simp_all [apart.eq_iff]
  have byte : Function.Injective fun n : UInt8 => Numeral.decimal n.toNat := fun _ _ same =>
    UInt8.toNat_inj.1 (Numeral.decimal_injective same)
  have word : Function.Injective fun n : UInt16 => Numeral.decimal n.toNat := fun _ _ same =>
    UInt16.toNat_inj.1 (Numeral.decimal_injective same)
  obtain ⟨inPort, dlSrc, dlDst, dlType, nwProto, nwSrc, nwDst, tpSrc, tpDst⟩ := a.valueTexts_fieldTexts
  obtain ⟨inPort', dlSrc', dlDst', dlType', nwProto', nwSrc', nwDst', tpSrc', tpDst'⟩ := b.valueTexts_fieldTexts
  rw [same] at inPort dlSrc dlDst dlType nwProto nwSrc nwDst tpSrc tpDst
  cases a
  cases b
  simp only [mk.injEq]
  exact ⟨tells PortNumber.textChars_injective (inPort.symm.trans inPort'),
    tells Mac.textChars_injective (dlSrc.symm.trans dlSrc'), tells Mac.textChars_injective (dlDst.symm.trans dlDst'),
    tells ethertypeText_injective (dlType.symm.trans dlType'), tells byte (nwProto.symm.trans nwProto'),
    tells Ipv4.textChars_injective (nwSrc.symm.trans nwSrc'), tells Ipv4.textChars_injective (nwDst.symm.trans nwDst'),
    tells word (tpSrc.symm.trans tpSrc'), tells word (tpDst.symm.trans tpDst')⟩

theorem text_of_fieldTexts_ne_nil (constrained : m.fieldTexts ≠ []) :
    m.text = String.ofList ([','].intercalate m.fieldTexts) := by
  unfold text
  split
  · contradiction
  · rfl

/-- The star has no equals sign, and so is not the text of any field. -/
theorem text_eq_star_iff_fieldTexts : m.text = "*" ↔ m.fieldTexts = [] := by
  constructor
  · intro star
    by_contra constrained
    obtain ⟨t, mem⟩ := List.exists_mem_of_ne_nil _ constrained
    have inside : '=' ∈ [','].intercalate m.fieldTexts :=
      mem_intercalate_iff.2 (.inr ⟨t, mem, (marks_of_mem_fieldTexts mem).1⟩)
    rw [text_of_fieldTexts_ne_nil constrained] at star
    rw [← String.toList_ofList (l := [','].intercalate m.fieldTexts), star] at inside
    revert inside
    decide
  · intro nothing
    simp [text, nothing]

theorem text_injective : Function.Injective text := by
  intro a b same
  refine fieldTexts_injective ?_
  by_cases open_ : a.fieldTexts = []
  · have star := text_eq_star_iff_fieldTexts.2 open_
    rw [open_, text_eq_star_iff_fieldTexts.1 (same ▸ star)]
  · have constrained : b.fieldTexts ≠ [] := fun nothing =>
      open_ (text_eq_star_iff_fieldTexts.1 (same.trans (text_eq_star_iff_fieldTexts.2 nothing)))
    rw [text_of_fieldTexts_ne_nil open_, text_of_fieldTexts_ne_nil constrained, String.ofList_inj] at same
    have apart (m : HeaderMatch) : ∀ t ∈ m.fieldTexts, ',' ∉ t := fun t mem => (marks_of_mem_fieldTexts mem).2
    calc a.fieldTexts
      _ = ([','].intercalate a.fieldTexts).splitOn ',' := (List.splitOn_intercalate ',' (apart a) open_).symm
      _ = ([','].intercalate b.fieldTexts).splitOn ',' := by rw [same]
      _ = b.fieldTexts := List.splitOn_intercalate ',' (apart b) constrained

/-- Two matches have one text exactly if they are the same match, and the star is the text of the match that constrains
    nothing. -/
theorem text_identifies :
    (∀ a b : HeaderMatch, a.text = b.text ↔ a = b) ∧ ∀ m : HeaderMatch, m.text = "*" ↔ m = any := by
  refine ⟨fun a b => text_injective.eq_iff, fun m => ?_⟩
  rw [← text_injective.eq_iff (b := any)]
  rfl

example : text { inPort := some .controller, dlType := some 0x800, tpDst := some 0 } =
    "in_port=CONTROLLER,dl_type=0x0800,tp_dst=0" := by
  decide +kernel

end HeaderMatch

end VirtualRouter
