import VirtualRouter.Address.Mac
import VirtualRouter.Proofs.Text.Numerals
import VirtualRouter.Proofs.Text.Pieces

/-! The texts of Ethernet addresses. A text stands for an address exactly if it is six groups between separators that are all
    colons or all hyphens, where a group is two hexadecimal digits of either case, or a plus sign and one digit. The
    address is what the groups say in their order, and it is written in small letters between colons. -/

namespace VirtualRouter.Mac

variable {m : Mac} {o : UInt8} {s : String} {c : Char} {cs : List Char} {value : Nat}

/-- The character is the digit of a value in base sixteen, in either case. -/
def IsHexDigit (c : Char) (value : Nat) : Prop := value < 16 ∧ c.toLower = value.digitChar

/-- The groups that stand for an octet. -/
inductive Group : List Char → UInt8 → Prop
  | digits {a b : Char} {high low : Nat} {o : UInt8} (first : IsHexDigit a high) (second : IsHexDigit b low)
      (sum : o.toNat = high * 16 + low) : Group [a, b] o
  | signed {a : Char} {o : UInt8} (digit : IsHexDigit a o.toNat) : Group ['+', a] o

/-- The text is a group for each octet in their order, with the same separator between any two. -/
def Spells (s : String) (m : Mac) : Prop :=
  ∃ separator groups, (separator = ':' ∨ separator = '-') ∧ List.Forall₂ Group groups m.octets ∧
    s.toList = [separator].intercalate groups

/-! ### Groups -/

theorem IsHexDigit.ne (digit : IsHexDigit c value) {mark : Char} (other : ∀ n < 16, mark.toLower ≠ n.digitChar) :
    c ≠ mark := by
  rintro rfl
  exact other _ digit.1 digit.2

theorem digits?_single {a : Char} : Numeral.digits? 16 [a] = some value ↔ IsHexDigit a value := by
  simp [Numeral.digits?, Numeral.ofDigits?, Numeral.digit?_sixteen_iff, IsHexDigit]

theorem digits?_pair {a b : Char} : Numeral.digits? 16 [a, b] = some value ↔
    ∃ high low, IsHexDigit a high ∧ IsHexDigit b low ∧ value = high * 16 + low := by
  simp only [Numeral.digits?, Numeral.ofDigits?, List.isEmpty_cons, Bool.false_eq_true, if_false,
    Option.bind_eq_some_iff, Numeral.digit?_sixteen_iff, Option.some.injEq, Nat.zero_mul, Nat.zero_add]
  constructor
  · rintro ⟨high, first, low, second, rfl⟩
    exact ⟨high, low, first, second, rfl⟩
  · rintro ⟨high, low, first, second, rfl⟩
    exact ⟨high, first, low, second, rfl⟩

theorem group?_eq_some_iff : group? cs = some o ↔ Group cs o := by
  have octet (n : Nat) : n < 256 ∧ UInt8.ofNat n = o ↔ n = o.toNat := by
    have := o.toNat_lt
    rw [← UInt8.toNat_inj, UInt8.toNat_ofNat']
    omega
  constructor
  · intro readable
    unfold group? at readable
    split at readable
    · rename_i a b
      obtain ⟨n, numeral, same⟩ := Option.map_eq_some_iff.1 readable
      obtain ⟨numeral, small⟩ := Numeral.unsigned?_eq_some_iff.1 numeral
      obtain rfl := (octet n).1 ⟨small, same⟩
      rcases numeral with digits | ⟨rest, eq, digits⟩
      · obtain ⟨high, low, first, second, sum⟩ := digits?_pair.1 digits
        exact .digits first second sum
      · cases eq
        exact .signed (digits?_single.1 digits)
    · cases readable
  · have read {a b : Char} (numeral : Numeral.digits? 16 [a, b] = some o.toNat ∨
        ∃ rest, [a, b] = '+' :: rest ∧ Numeral.digits? 16 rest = some o.toNat) : group? [a, b] = some o :=
      Option.map_eq_some_iff.2 ⟨_, Numeral.unsigned?_eq_some_iff.2 ⟨numeral, o.toNat_lt⟩, UInt8.ofNat_toNat⟩
    intro group
    cases group with
    | digits first second sum => exact read (.inl (digits?_pair.2 ⟨_, _, first, second, sum⟩))
    | signed digit => exact read (.inr ⟨_, rfl, digits?_single.2 digit⟩)

theorem Group.not_mem_separator (group : Group cs o) {separator : Char} (separates : separator = ':' ∨ separator = '-') :
    separator ∉ cs := by
  have other : ∀ n < 16, separator.toLower ≠ n.digitChar := by
    rcases separates with rfl | rfl <;> decide
  have plus : separator ≠ '+' := by
    rcases separates with rfl | rfl <;> decide
  cases group with
  | digits first second => simp [(first.ne other).symm, (second.ne other).symm]
  | signed digit => simp [(digit.ne other).symm, plus]

/-! ### Addresses -/

theorem ofOctets?_eq_some_iff {octets : List UInt8} : ofOctets? octets = some m ↔ octets = m.octets := by
  constructor
  · intro six
    unfold ofOctets? at six
    split at six
    · cases six
      rfl
    · cases six
  · rintro rfl
    exact ofOctets?_octets m

theorem separator_cases (cs : List Char) : separator cs = ':' ∨ separator cs = '-' := by
  unfold separator
  split
  · exact .inr rfl
  · exact .inl rfl

/-- A text with several groups is split at what separates them. -/
theorem separator_intercalate {groups : List (List Char)} (all : List.Forall₂ Group groups m.octets) {mark : Char}
    (separates : mark = ':' ∨ mark = '-') : separator ([mark].intercalate groups) = mark := by
  have several : 1 < groups.length := by
    rw [all.length_eq]
    exact (by decide : 1 < 6)
  have free : ∀ group ∈ groups, '-' ∉ group :=
    ((List.forall₂_and_left _ _).1 (all.imp fun _ _ group => ⟨group.not_mem_separator (.inr rfl), group⟩)).1
  have hyphen : '-' ∈ [mark].intercalate groups ↔ '-' = mark := by
    rw [mem_intercalate_iff]
    grind
  unfold separator
  rcases separates with rfl | rfl
  · exact if_neg (mt hyphen.1 (by decide))
  · exact if_pos (hyphen.2 rfl)

theorem ofText?_eq_some_iff : ofText? s = some m ↔ Spells s m := by
  have split_iff : ofText? s = some m ↔
      (s.toList.splitOn (separator s.toList)).mapM group? = some m.octets := by
    simp only [ofText?, Option.bind_eq_some_iff, ofOctets?_eq_some_iff, exists_eq_right]
  have apart {piece : List Char} {o : UInt8} (readable : group? piece = some o) : separator s.toList ∉ piece :=
    (group?_eq_some_iff.1 readable).not_mem_separator (separator_cases _)
  rw [split_iff, mapM_splitOn_iff apart]
  simp only [group?_eq_some_iff]
  constructor
  · rintro ⟨-, groups, all, eq⟩
    exact ⟨_, groups, separator_cases _, all, eq⟩
  · rintro ⟨mark, groups, separates, all, eq⟩
    refine ⟨List.cons_ne_nil _ _, groups, all, ?_⟩
    rw [eq, separator_intercalate all separates]

theorem parse_eq_ok_iff : parse s = .ok m ↔ Spells s m := by
  rw [← ofText?_eq_some_iff, parse]
  split
  · rename_i read
    rw [read, Except.ok.injEq, Option.some.injEq]
  · rename_i refused
    simp [refused]

theorem parse_eq_error_iff {e : TextError} : parse s = .error e ↔ e = .macAddress s ∧ ¬∃ m, Spells s m := by
  simp only [← ofText?_eq_some_iff, parse]
  split
  · rename_i m read
    simp [read]
  · rename_i refused
    simp [refused, eq_comm]

/-! ### Writing -/

theorem octetText_eq : octetText o = [(o.toNat / 16).digitChar, (o.toNat % 16).digitChar] := by
  have := o.toNat_lt
  simp only [octetText, Numeral.fixed, List.nil_append, List.cons_append]
  rw [Nat.mod_eq_of_lt (by omega : o.toNat / 16 < 16)]

theorem group_octetText (o : UInt8) : Group (octetText o) o := by
  have lower : ∀ n < 16, n.digitChar.toLower = n.digitChar := by decide
  have small (n : Nat) (less : n < 16) : IsHexDigit n.digitChar n := ⟨less, lower n less⟩
  have := o.toNat_lt
  rw [octetText_eq]
  exact .digits (small _ (by omega)) (small _ (Nat.mod_lt _ (by decide))) (Nat.div_add_mod' _ _).symm

theorem spells_text (m : Mac) : Spells m.text m := by
  refine ⟨':', m.octets.map octetText, .inl rfl, ?_, String.toList_ofList⟩
  rw [List.forall₂_map_left_iff, List.forall₂_same]
  exact fun o _ => group_octetText o

theorem text_injective : Function.Injective text := by
  intro m m' same
  have read := ofText?_eq_some_iff.2 (spells_text m)
  rw [same, ofText?_eq_some_iff.2 (spells_text m')] at read
  exact (Option.some.inj read).symm

/-- A character of a text as it is written: a colon for a hyphen, a small letter for a capital. -/
def written (c : Char) : Char := if c = '-' then ':' else c.toLower

theorem Group.map_written (group : Group cs o) (unsigned : '+' ∉ cs) : cs.map written = octetText o := by
  cases group with
  | digits first second sum =>
    have hyphen : ∀ n < 16, '-'.toLower ≠ n.digitChar := by decide
    have high := first.1
    have low := second.1
    rw [octetText_eq, sum]
    rw [List.map_cons, List.map_cons, written, written, if_neg (first.ne hyphen), if_neg (second.ne hyphen), first.2,
      second.2]
    congr 3 <;> omega
  | signed => exact absurd List.mem_cons_self unsigned

theorem Spells.textChars_eq (spells : Spells s m) (unsigned : '+' ∉ s.toList) : m.textChars = s.toList.map written := by
  obtain ⟨mark, groups, separates, all, eq⟩ := spells
  have mark_written : written mark = ':' := by
    rcases separates with rfl | rfl <;> rfl
  have free : ∀ group ∈ groups, '+' ∉ group := fun group mem plus =>
    unsigned (eq ▸ mem_intercalate_iff.2 (.inr ⟨group, mem, plus⟩))
  have each : List.Forall₂ (fun group o => group.map written = octetText o) groups m.octets :=
    ((List.forall₂_and_left _ _).2 ⟨free, all⟩).imp fun _ _ group => group.2.map_written group.1
  rw [eq, map_intercalate, mark_written, forall₂_eq_map_iff.1 (List.forall₂_map_left_iff.2 each)]
  rfl

/-- A text is read as an address exactly if it spells it, and is otherwise reported as it stands. The text of an address
    is read as this address, and a text without a sign differs from it in its capitals and hyphens only. -/
theorem parse_exact (s : String) :
    (∀ m, parse s = .ok m ↔ Spells s m) ∧
    (∀ e, parse s = .error e ↔ e = .macAddress s ∧ ¬∃ m, Spells s m) ∧
    (∀ m : Mac, parse m.text = .ok m) ∧
    ∀ m, parse s = .ok m → '+' ∉ s.toList → m.text = String.ofList (s.toList.map written) := by
  refine ⟨fun m => parse_eq_ok_iff, fun e => parse_eq_error_iff, fun m => parse_eq_ok_iff.2 (spells_text m), ?_⟩
  intro m read unsigned
  exact congrArg String.ofList ((parse_eq_ok_iff.1 read).textChars_eq unsigned)

/-- Groups of either case between hyphens are read in their order and written in small letters between colons. -/
theorem parse_exact_hyphens :
    let s := "0A-1b-FF-00-9e-C3"
    let m : Mac := ⟨0x0a, 0x1b, 0xff, 0x00, 0x9e, 0xc3⟩
    parse s = .ok m ∧ '+' ∉ s.toList ∧ Spells s m ∧ m.text = String.ofList (s.toList.map written) := by
  intro s m
  have read : parse s = .ok m := by decide +kernel
  have unsigned : '+' ∉ s.toList := by decide +kernel
  obtain ⟨accepted, -, -, rewritten⟩ := parse_exact s
  exact ⟨read, unsigned, (accepted m).1 read, rewritten m read unsigned⟩

end VirtualRouter.Mac
