/-!
Numbers as characters. A numeral is written in a base up to sixteen with lower-case letters, either in as few
digits as it needs or in a fixed number of digits; it is read in either case. An unsigned numeral may carry one
leading plus sign, has at least one digit and stays below the bound it is read against; leading zeros are free.
-/

namespace VirtualRouter.Numeral

/-! ### Digits -/

/-- The value of a digit character: decimal digits, then the letters of either case from ten on. -/
def digitValue (c : Char) : Option Nat :=
  if '0' ≤ c ∧ c ≤ '9' then some (c.toNat - '0'.toNat)
  else if 'a' ≤ c ∧ c ≤ 'z' then some (c.toNat - 'a'.toNat + 10)
  else if 'A' ≤ c ∧ c ≤ 'Z' then some (c.toNat - 'A'.toNat + 10)
  else none

/-- The value of a character that is a digit of the base. -/
def digit? (base : Nat) (c : Char) : Option Nat :=
  (digitValue c).filter (· < base)

/-! ### Writing -/

/-- A number in decimal, without leading zeros. -/
def decimal (n : Nat) : List Char := Nat.toDigits 10 n

/-- The lowest digits of a number, as many as asked for, leading zeros included. -/
def fixed (base : Nat) : Nat → Nat → List Char
  | 0, _ => []
  | width + 1, n => fixed base width (n / base) ++ [(n % base).digitChar]

/-! ### Reading -/

/-- The number that a run of digits stands for, after the digits read so far. -/
def ofDigits? (base : Nat) : Nat → List Char → Option Nat
  | value, [] => some value
  | value, c :: rest => (digit? base c).bind fun d => ofDigits? base (value * base + d) rest

/-- A run of at least one digit. -/
def digits? (base : Nat) (cs : List Char) : Option Nat :=
  if cs.isEmpty then none else ofDigits? base 0 cs

/-- An unsigned numeral below a bound, with an optional plus sign. -/
def unsigned? (base bound : Nat) (cs : List Char) : Option Nat :=
  (digits? base (match cs with
    | '+' :: rest => rest
    | _ => cs)).filter (· < bound)

end VirtualRouter.Numeral
