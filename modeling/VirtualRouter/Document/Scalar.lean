import VirtualRouter.Document.Quoted
import VirtualRouter.Document.Value

/-!
Values written without quotes: truth values, whole numbers, fractional numbers and moments in time. Digits may be
grouped by single underscores. A decimal number has no leading zero; hexadecimal, octal and binary numbers have no
sign. A whole number beyond 128 bits and a fractional one beyond the range of binary64 are numbers that cannot be
used, and so are the mark of a base without digits and a decimal number with stray characters behind an underscore,
which may be whole words between tabs. A moment is a date, a time, or both with an optional offset, and exists in the
calendar.
-/

namespace VirtualRouter.Document

/-! ### Whole numbers -/

/-- The digits of a numeral without its underscores, each of which stands between two digits. -/
def ungrouped? (cs : List Char) : Option (List Char) :=
  let groups := cs.splitOn '_'
  if groups.all fun g => !g.isEmpty then some groups.flatten else none

/-- A numeral in some base, leading zeros free. -/
def grouped? (base : Nat) (cs : List Char) : Option Nat := (ungrouped? cs).bind (Numeral.digits? base)

/-- A decimal numeral without a leading zero. -/
def plain? (cs : List Char) : Option Nat :=
  if cs.head? = some '0' ∧ cs ≠ ['0'] then none else grouped? 10 cs

/-- A sign, if there is one, and what follows it. -/
def signed (cs : List Char) : Bool × List Char :=
  match cs with
  | '-' :: rest => (true, rest)
  | '+' :: rest => (false, rest)
  | _ => (false, cs)

/-- Whole numbers that some integer of 128 bits holds. -/
def isWithin128 (n : Int) : Bool := -0x80000000000000000000000000000000 ≤ n && n < 0x100000000000000000000000000000000

/-- A whole number, if it can be used. -/
def ofWhole (n : Int) : Value := if isWithin128 n then .integer n else .unusable

/-- What follows the mark of a base. -/
def based? (base : Nat) (digits : List Char) : Option Value :=
  if digits.isEmpty then some .unusable else (grouped? base digits).map fun n => ofWhole (Int.ofNat n)

/-- A hexadecimal digit. -/
def isHexDigit (c : Char) : Bool := (Numeral.digit? 16 c).isSome

/-- Decimal digits without a leading zero, and behind the first underscore other characters too, but no mark of a
    fraction or a power, no space, and no quote at the front of a word. Every group from there on begins with a
    hexadecimal digit, and every one but the last ends with one. -/
def isStray (cs : List Char) : Bool :=
  match cs.splitOn '_' with
  | [] => false
  | first :: rest =>
    !first.isEmpty && first.all Char.isDigit && first.head? ≠ some '0' && !rest.isEmpty &&
      rest.all (·.head?.any isHexDigit) && rest.dropLast.all (·.getLast?.any isHexDigit) &&
      (cs.all fun c => c ≠ '.' ∧ c ≠ 'e' ∧ c ≠ 'E' ∧ c ≠ ' ') &&
      (cs.splitOn '\t').all fun word => word.head? ≠ some '"' ∧ word.head? ≠ some '\''

/-- A whole number. -/
def whole? : List Char → Option Value
  | '0' :: 'x' :: digits => based? 16 digits
  | '0' :: 'o' :: digits => based? 8 digits
  | '0' :: 'b' :: digits => based? 2 digits
  | cs =>
    let (negative, digits) := signed cs
    match plain? digits with
    | some n => some (ofWhole (if negative then -Int.ofNat n else Int.ofNat n))
    | none => if isStray digits then some .unusable else none

/-! ### Fractional numbers -/

/-- The least number that binary64 rounds to infinity, halfway between its largest number and the next power of
    two. -/
def overflow : Nat := 1 <<< 1024 - 1 <<< 970

/-- The number of some digits, times a power of ten, is in the range of binary64. -/
def isWithinBinary64 (digits : List Char) (exponent : Int) : Bool :=
  let significant := digits.dropWhile (· = '0')
  let magnitude := significant.length + exponent
  if significant.isEmpty ∨ magnitude < 309 then true
  else if 309 < magnitude then false
  else
    let n := (Numeral.digits? 10 significant).getD 0
    decide (n * Nat.pow 10 exponent.toNat < overflow * Nat.pow 10 (-exponent).toNat)

/-- The exponent after its mark. -/
def exponent? (cs : List Char) : Option Int :=
  let (negative, digits) := signed cs
  (grouped? 10 digits).map fun n => if negative then -Int.ofNat n else Int.ofNat n

/-- The characters before and after the first that passes a test, without it. -/
def cut (p : Char → Bool) (cs : List Char) : List Char × Option (List Char) :=
  match cs.dropWhile (!p ·) with
  | [] => (cs, none)
  | _ :: rest => (cs.takeWhile (!p ·), some rest)

/-- A fractional number. -/
def fraction? (cs : List Char) : Option Value := do
  let digits := (signed cs).2
  if digits = ['i', 'n', 'f'] ∨ digits = ['n', 'a', 'n'] then return .fraction
  let (mantissa, power) := cut (fun c => c = 'e' || c = 'E') digits
  let (integral, fractional) := cut (· = '.') mantissa
  if power.isNone ∧ fractional.isNone then none
  let _ ← plain? integral
  let before ← ungrouped? integral
  let behind ← match fractional with
    | some f => (grouped? 10 f).bind fun _ => ungrouped? f
    | none => some []
  let exponent ← match power with
    | some e => exponent? e
    | none => some 0
  return if isWithinBinary64 (before ++ behind) (exponent - behind.length) then .fraction else .unusable

/-! ### Moments -/

/-- A number of exactly two decimal digits, within bounds. -/
def two? (low high : Nat) (a b : Char) : Option Nat :=
  (Numeral.digits? 10 [a, b]).filter fun n => low ≤ n && n ≤ high

/-- The year has a 29th of February. -/
def isLeap (year : Nat) : Bool := year % 4 = 0 && (year % 100 ≠ 0 || year % 400 = 0)

/-- The number of days in a month. -/
def daysIn (year month : Nat) : Nat :=
  if month = 2 then (if isLeap year then 29 else 28)
  else if month = 4 ∨ month = 6 ∨ month = 9 ∨ month = 11 then 30
  else 31

/-- What follows a date. -/
def afterDate? : List Char → Option (List Char)
  | y₁ :: y₂ :: y₃ :: y₄ :: '-' :: m₁ :: m₂ :: '-' :: d₁ :: d₂ :: rest => do
    let year ← Numeral.digits? 10 [y₁, y₂, y₃, y₄]
    let month ← two? 1 12 m₁ m₂
    let _ ← two? 1 (daysIn year month) d₁ d₂
    return rest
  | _ => none

/-- What follows the fraction of a second, if there is one. -/
def afterSecondFraction? : List Char → Option (List Char)
  | '.' :: rest => if (rest.takeWhile Char.isDigit).isEmpty then none else some (rest.dropWhile Char.isDigit)
  | cs => some cs

/-- What follows the seconds of a time, if there are any. -/
def afterSeconds? : List Char → Option (List Char)
  | ':' :: s₁ :: s₂ :: rest => (two? 0 60 s₁ s₂).bind fun _ => afterSecondFraction? rest
  | ':' :: _ => none
  | cs => some cs

/-- What follows a time. -/
def afterTime? : List Char → Option (List Char)
  | h₁ :: h₂ :: ':' :: m₁ :: m₂ :: rest => do
    let _ ← two? 0 23 h₁ h₂
    let _ ← two? 0 59 m₁ m₂
    afterSeconds? rest
  | _ => none

/-- The text is an offset from universal time, or empty. -/
def isOffset : List Char → Bool
  | [] => true
  | ['Z'] => true
  | ['z'] => true
  | [sign, h₁, h₂, ':', m₁, m₂] =>
    (sign = '+' || sign = '-') && (two? 0 23 h₁ h₂).isSome && (two? 0 59 m₁ m₂).isSome
  | _ => false

/-- The text is a moment in time. -/
def isMoment (cs : List Char) : Bool :=
  match afterDate? cs with
  | some [] => true
  | some (mark :: rest) => (mark = 'T' || mark = 't' || mark = ' ') && (afterTime? rest).any isOffset
  | none => afterTime? cs = some []

/-! ### Any scalar -/

/-- The value of a text without quotes. -/
def scalar? (cs : List Char) : Option Value :=
  if cs = "true".toList then some (.bool true)
  else if cs = "false".toList then some (.bool false)
  else ((whole? cs).or (fraction? cs)).or (if isMoment cs then some .moment else none)

/-- A character of a text without quotes; blanks may stand between two of them. -/
def isScalarChar (c : Char) : Bool := c ∉ ['=', ',', '[', ']', '\x7b', '\x7d', '#', '\r', '\n']

/-- A text without the blanks at its end. -/
def trimBlanks : List Char → List Char
  | [] => []
  | c :: cs =>
    match trimBlanks cs with
    | [] => if isBlank c then [] else [c]
    | rest => c :: rest

/-- Reads a value without quotes. It has blanks in it only between a date and a time, and between stray words. -/
def scalar : Reader Value := fun cs =>
  let text := trimBlanks (cs.takeWhile isScalarChar)
  (scalar? text).map fun v => (v, cs.drop text.length)

end VirtualRouter.Document
