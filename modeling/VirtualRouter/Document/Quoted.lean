import VirtualRouter.Text.Numeral

/-!
Quoted texts. Between double quotes a backslash starts an escape; between single quotes every character stands for
itself. A quote of either kind written three times opens a text of several lines, which closes at the next three;
up to two more quotes right after these still belong to the text. A line break right after the opening is left out,
and a backslash at the end of a line between double quotes takes the blanks and line breaks that follow with it.
Control characters other than the tab are refused, a carriage return unless a line feed follows.
-/

namespace VirtualRouter.Document

/-- A reader takes characters off the front of a text, and says what they mean. -/
abbrev Reader (α : Type) := List Char → Option (α × List Char)

/-! ### Blanks, lines and comments -/

/-- A blank within a line. -/
def isBlank (c : Char) : Bool := c = ' ' || c = '\t'

/-- A character that comments and quoted texts may hold as it is. -/
def isPrintable (c : Char) : Bool := c = '\t' || (' ' ≤ c && c ≠ '\x7f')

/-- What follows a line break. -/
def afterBreak? : List Char → Option (List Char)
  | '\n' :: rest => some rest
  | '\r' :: '\n' :: rest => some rest
  | _ => none

/-- What follows a line break, or all if there is none. -/
def skipBreak (cs : List Char) : List Char := (afterBreak? cs).getD cs

/-- Leaves out blanks. -/
def skipBlanks (cs : List Char) : List Char := cs.dropWhile isBlank

/-- Leaves out a comment up to the end of its line. -/
def skipComment : List Char → List Char
  | '#' :: rest => rest.dropWhile isPrintable
  | cs => cs

/-- Leaves out blanks and line breaks. -/
def skipLines : List Char → List Char
  | '\r' :: '\n' :: rest => skipLines rest
  | c :: rest => if isBlank c || c = '\n' then skipLines rest else c :: rest
  | [] => []

/-- Leaves out blanks, line breaks and comments; the flag says whether a comment has begun. -/
def skipGap : Bool → List Char → List Char
  | _, '\r' :: '\n' :: rest => skipGap false rest
  | _, '\n' :: rest => skipGap false rest
  | true, c :: rest => if isPrintable c then skipGap true rest else c :: rest
  | false, c :: rest => if c = '#' then skipGap true rest else if isBlank c then skipGap false rest else c :: rest
  | _, [] => []

/-! ### Escapes -/

/-- The character of a hexadecimal code. -/
def ofCode? (digits : List Char) : Option Char :=
  (Numeral.digits? 16 digits).bind fun n => if n.isValidChar then some (Char.ofNat n) else none

/-- The character that a single letter after a backslash stands for. -/
def ofEscape? : Char → Option Char
  | 'b' => some '\x08'
  | 't' => some '\t'
  | 'n' => some '\n'
  | 'f' => some '\x0c'
  | 'r' => some '\r'
  | 'e' => some '\x1b'
  | '"' => some '"'
  | '\\' => some '\\'
  | _ => none

/-- A code of a fixed number of digits. -/
def code (width : Nat) : Reader Char := fun cs =>
  if width ≤ cs.length then (ofCode? (cs.take width)).map fun c => (c, cs.drop width) else none

/-- What follows a backslash. -/
def escape : Reader Char
  | 'x' :: rest => code 2 rest
  | 'u' :: rest => code 4 rest
  | 'U' :: rest => code 8 rest
  | c :: rest => (ofEscape? c).map fun c => (c, rest)
  | [] => none

/-! ### Pieces -/

/-- A piece of a quoted text: the characters it stands for, and whether the text ends with it. -/
structure Piece where
  chars : List Char
  isLast : Bool

/-- Characters that are followed by more. -/
def Piece.inner (chars : List Char) : Piece := ⟨chars, false⟩

/-- The closing quotes of a text of several lines, with the quotes that belong to the text. -/
def closing (quote : Char) (rest : List Char) : Piece × List Char :=
  let extra := (rest.take 2).takeWhile (· = quote)
  (⟨extra, true⟩, rest.drop extra.length)

/-- A piece of a text between double quotes. -/
def basicPiece : Reader Piece
  | '"' :: rest => some (⟨[], true⟩, rest)
  | '\\' :: rest => (escape rest).map fun (c, rest) => (.inner [c], rest)
  | c :: rest => if isPrintable c then some (.inner [c], rest) else none
  | [] => none

/-- A piece of a text between single quotes. -/
def literalPiece : Reader Piece
  | '\'' :: rest => some (⟨[], true⟩, rest)
  | c :: rest => if isPrintable c then some (.inner [c], rest) else none
  | [] => none

/-- A line break or a character of a text of several lines. -/
def linePiece (cs : List Char) : Option (Piece × List Char) :=
  match afterBreak? cs, cs with
  | some rest, _ => some (.inner ['\n'], rest)
  | none, c :: rest => if isPrintable c then some (.inner [c], rest) else none
  | none, [] => none

/-- A piece of a text of several lines between double quotes. -/
def basicLinesPiece : Reader Piece
  | '"' :: '"' :: '"' :: rest => some (closing '"' rest)
  | '\\' :: rest =>
    match afterBreak? (skipBlanks rest) with
    | some rest => some (.inner [], skipLines rest)
    | none => (escape rest).map fun (c, rest) => (.inner [c], rest)
  | cs => linePiece cs

/-- A piece of a text of several lines between single quotes. -/
def literalLinesPiece : Reader Piece
  | '\'' :: '\'' :: '\'' :: rest => some (closing '\'' rest)
  | cs => linePiece cs

/-! ### Whole texts -/

/-- Reads pieces up to the last, at most a number of them. -/
def pieces (piece : Reader Piece) : Nat → Reader (List Char)
  | 0, _ => none
  | n + 1, cs => do
    let (p, rest) ← piece cs
    if p.isLast then return (p.chars, rest)
    let (more, rest) ← pieces piece n rest
    return (p.chars ++ more, rest)

/-- Reads a text up to its closing quotes; every piece takes at least one character. -/
def quoted (piece : Reader Piece) : Reader String := fun cs =>
  (pieces piece cs.length cs).map fun (chars, rest) => (String.ofList chars, rest)

/-- Reads a quoted text within one line. -/
def quotedLine : Reader String
  | '"' :: rest => quoted basicPiece rest
  | '\'' :: rest => quoted literalPiece rest
  | _ => none

/-- Reads a quoted text. -/
def quotedText : Reader String
  | '"' :: '"' :: '"' :: rest => quoted basicLinesPiece (skipBreak rest)
  | '\'' :: '\'' :: '\'' :: rest => quoted literalLinesPiece (skipBreak rest)
  | cs => quotedLine cs

end VirtualRouter.Document
