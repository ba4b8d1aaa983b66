import Mathlib.Algebra.Ring.Nat
import VirtualRouter.Text.Numeral

/-! Numerals that are written and read. In a base up to sixteen a number is read as itself, be it written in as few digits
    as it needs or in a fixed number of digits that suffices. The digits of base sixteen are the figures and the first six
    letters of either case. -/

namespace VirtualRouter.Numeral

variable {base bound width n m value : Nat} {c : Char} {cs ds : List Char}

/-! ### Digits -/

theorem digit?_eq_some_iff : digit? base c = some n ↔ digitValue c = some n ∧ n < base := by
  simp [digit?, Option.filter_eq_some_iff]

theorem digit?_digitChar (small : n < base) (le : base ≤ 16) : digit? base n.digitChar = some n := by
  have value : ∀ n < 16, digitValue n.digitChar = some n := by decide
  exact digit?_eq_some_iff.2 ⟨value n (by omega), small⟩

/-- A digit is an ASCII character. -/
theorem toNat_lt_of_digitValue (valued : digitValue c = some n) : c.toNat < 128 := by
  have upTo {last : Char} (le : c ≤ last) (ascii : last.toNat < 128) : c.toNat < 128 :=
    Nat.lt_of_le_of_lt (Char.le_def.1 le) ascii
  unfold digitValue at valued
  split at valued
  · rename_i figure
    exact upTo figure.2 (by decide)
  split at valued
  · rename_i small
    exact upTo small.2 (by decide)
  split at valued
  · rename_i capital
    exact upTo capital.2 (by decide)
  · cases valued

/-- The characters for a value in base sixteen are its digit in either case. -/
theorem digit?_sixteen_iff : digit? 16 c = some n ↔ n < 16 ∧ c.toLower = n.digitChar := by
  have table : ∀ k < 128, ∀ n < 16, digit? 16 (Char.ofNat k) = some n ↔ (Char.ofNat k).toLower = n.digitChar := by
    decide +kernel
  have lower_ascii : ∀ n < 16, n.digitChar.toNat < 128 := by decide
  constructor
  · intro valued
    obtain ⟨valued', small⟩ := digit?_eq_some_iff.1 valued
    have row := table c.toNat (toNat_lt_of_digitValue valued') n small
    rw [Char.ofNat_toNat] at row
    exact ⟨small, row.1 valued⟩
  · rintro ⟨small, lower⟩
    have ascii : c.toNat < 128 := by
      -- Only a capital is changed, and that is an ASCII character too.
      unfold Char.toLower at lower
      split at lower
      · rename_i capital
        exact Nat.lt_of_le_of_lt (UInt32.le_iff_toNat_le.1 capital.2) (by decide)
      · exact lower ▸ lower_ascii n small
    have row := table c.toNat ascii n small
    rw [Char.ofNat_toNat] at row
    exact row.2 lower

theorem eq_digitChar_of_digit? (digit : digit? 10 c = some n) : c = n.digitChar := by
  have table : ∀ k < 128, ∀ n < 10, digit? 10 (Char.ofNat k) = some n → Char.ofNat k = n.digitChar := by decide +kernel
  obtain ⟨valued, small⟩ := digit?_eq_some_iff.1 digit
  have row := table c.toNat (toNat_lt_of_digitValue valued) n small
  rw [Char.ofNat_toNat] at row
  exact row digit

/-! ### Signs -/

theorem digits?_plus : digits? base ('+' :: cs) = none := by
  have plus : digit? base '+' = none := rfl
  simp [digits?, ofDigits?, plus]

/-- A sign is not a digit, so that a numeral has one exactly if it is read without it. -/
theorem unsigned?_eq_some_iff : unsigned? base bound cs = some n ↔
    (digits? base cs = some n ∨ ∃ rest, cs = '+' :: rest ∧ digits? base rest = some n) ∧ n < bound := by
  simp only [unsigned?, Option.filter_eq_some_iff, decide_eq_true_eq]
  refine and_congr_left fun _ => ?_
  split
  · simp [digits?_plus]
  · rename_i unsigned
    exact (or_iff_left fun ⟨rest, eq, _⟩ => unsigned rest eq).symm

/-! ### Reading what is written -/

theorem ofDigits?_append : ofDigits? base value (cs ++ ds) =
    (ofDigits? base value cs).bind fun value => ofDigits? base value ds := by
  induction cs generalizing value with
  | nil => rfl
  | cons c cs ih =>
    simp only [List.cons_append, ofDigits?, Option.bind_assoc, ih]

theorem ofDigits?_decimal : ofDigits? 10 0 (decimal n) = some n := by
  induction n using Nat.strongRecOn with
  | ind n ih =>
    rw [decimal, Nat.toDigits_eq_if (by decide)]
    split
    · rename_i small
      simp [ofDigits?, digit?_digitChar small]
    · have last := digit?_digitChar (Nat.mod_lt n (by decide : 0 < 10)) (by decide)
      have others := ih (n / 10) (by omega)
      rw [decimal] at others
      simp only [ofDigits?_append, others, ofDigits?, last, Option.bind_some]
      exact congrArg some (Nat.div_add_mod' n 10)

theorem digits?_decimal (n : Nat) : digits? 10 (decimal n) = some n := by
  have digits : (decimal n).isEmpty = false := by simp [decimal]
  rw [digits?, if_neg (by simp [digits]), ofDigits?_decimal]

theorem decimal_injective : Function.Injective decimal := by
  intro n m same
  have read := digits?_decimal n
  rw [same, digits?_decimal] at read
  exact (Option.some.inj read).symm

/-- Behind digits that are written for a number, a run of digits makes the text of a greater one. -/
theorem decimal_append (pos : 0 < value) (read : ofDigits? 10 value cs = some n) : decimal value ++ cs = decimal n := by
  induction cs generalizing value with
  | nil =>
    cases read
    exact List.append_nil _
  | cons c cs ih =>
    obtain ⟨d, digit, read⟩ := Option.bind_eq_some_iff.1 read
    have small := (digit?_eq_some_iff.1 digit).2
    have next : decimal (value * 10 + d) = decimal value ++ [c] := by
      rw [decimal, Nat.mul_comm, ← Nat.toDigits_append_toDigits (by decide) pos small, Nat.toDigits_of_lt_base small,
        ← eq_digitChar_of_digit? digit]
      rfl
    rw [← ih (by omega) read, next, List.append_assoc]
    rfl

/-- A run of digits without a leading zero is the text of the number that it stands for. -/
theorem eq_decimal_of_digits? (read : digits? 10 cs = some n) (plain : cs.head? = some '0' → cs = ['0']) :
    cs = decimal n := by
  cases cs with
  | nil => cases read
  | cons c cs =>
    simp only [digits?, List.isEmpty_cons, Bool.false_eq_true, if_false, ofDigits?, Nat.zero_mul, Nat.zero_add] at read
    obtain ⟨d, digit, read⟩ := Option.bind_eq_some_iff.1 read
    have first := eq_digitChar_of_digit? digit
    have small := (digit?_eq_some_iff.1 digit).2
    cases d with
    | zero =>
      cases plain (congrArg some first)
      cases read
      rfl
    | succ d =>
      rw [← decimal_append (Nat.succ_pos d) read, decimal, Nat.toDigits_of_lt_base small, ← first]
      rfl

theorem isDigit_of_mem_decimal (mem : c ∈ decimal n) : c.isDigit = true :=
  Nat.isDigit_of_mem_toDigits (by decide) (by decide) mem

theorem ofDigits?_fixed (pos : 0 < base) (le : base ≤ 16) :
    ofDigits? base 0 (fixed base width n) = some (n % base ^ width) := by
  induction width generalizing n with
  | zero => simp [fixed, ofDigits?, Nat.mod_one]
  | succ width ih =>
    have last := digit?_digitChar (Nat.mod_lt n pos) le
    simp only [fixed, ofDigits?_append, ih, Option.bind_some, ofDigits?, last]
    rw [Nat.pow_succ', Nat.mod_mul, Nat.add_comm, Nat.mul_comm]

theorem fixed_inj (pos : 0 < base) (le : base ≤ 16) (fits : n < base ^ width) (fits' : m < base ^ width)
    (same : fixed base width n = fixed base width m) : n = m := by
  have read : ofDigits? base 0 (fixed base width n) = some (n % base ^ width) := ofDigits?_fixed pos le
  rw [same, ofDigits?_fixed pos le, Nat.mod_eq_of_lt fits, Nat.mod_eq_of_lt fits'] at read
  exact (Option.some.inj read).symm

theorem exists_digit_of_mem_fixed (pos : 0 < base) (mem : c ∈ fixed base width n) : ∃ d < base, c = d.digitChar := by
  induction width generalizing n with
  | zero => cases mem
  | succ width ih =>
    rcases List.mem_append.1 mem with mem | mem
    · exact ih mem
    · exact ⟨n % base, Nat.mod_lt n pos, List.mem_singleton.1 mem⟩

end VirtualRouter.Numeral
