import VirtualRouter.Document.Assembly
import VirtualRouter.Document.Scalar

/-!
Reading a document. A document is a sequence of lines: headings of tables in brackets, of tables of a list in double
brackets, and assignments of a value to a key or a path of keys. Lists and tables in braces may spread over lines,
hold comments and end with a comma; only a path of keys stays on one line. Lists and tables in braces are nested at
most eighty deep, and a path has at most eighty keys.
-/

namespace VirtualRouter.Document

/-- How deep lists and tables in braces may be nested, and how many keys a path may have. -/
def nestingLimit : Nat := 80

/-! ### Keys -/

/-- A character of a key without quotes. -/
def isKeyChar (c : Char) : Bool := c.isAlphanum || c = '_' || c = '-'

/-- Reads a key. -/
def key : Reader String := fun cs =>
  match cs.takeWhile isKeyChar with
  | [] => quotedLine cs
  | word => some (String.ofList word, cs.drop word.length)

/-- Reads keys between dots, at most a number of them. -/
def keysWithin : Nat → Reader (List String)
  | 0, _ => none
  | n + 1, cs => do
    let (k, rest) ← key (skipBlanks cs)
    match skipBlanks rest with
    | '.' :: rest =>
      let (path, rest) ← keysWithin n rest
      return (k :: path, rest)
    | rest => return ([k], rest)

/-- Reads a path of keys with the blanks around it; every key but the last is followed by a dot. -/
def keys : Reader (List String) := keysWithin nestingLimit

/-- Reads one given character. -/
def mark (c : Char) (cs : List Char) : Option (List Char) :=
  if cs.head? = some c then some cs.tail else none

/-! ### Values -/

mutual

/-- Reads a value, with a bound on the steps and on the nesting. -/
def value : Nat → Nat → Reader Value
  | 0, _, _ => none
  | n + 1, depth, cs =>
    match depth, cs with
    | 0, '[' :: _ => none
    | 0, '\x7b' :: _ => none
    | depth + 1, '[' :: rest => (items n depth rest).map fun (vs, rest) => (.list vs, rest)
    | depth + 1, '\x7b' :: rest => do
      let (assignments, rest) ← assignments n depth rest
      let table ← inlineTable? assignments
      return (table, rest)
    | _, '"' :: _ => (quotedText cs).map fun (s, rest) => (.text s, rest)
    | _, '\'' :: _ => (quotedText cs).map fun (s, rest) => (.text s, rest)
    | _, _ => scalar cs

/-- Reads the items of a list up to its end. -/
def items : Nat → Nat → Reader (List Value)
  | 0, _, _ => none
  | n + 1, depth, cs =>
    match skipGap false cs with
    | ']' :: rest => some ([], rest)
    | cs => do
      let (v, rest) ← value n depth cs
      match skipGap false rest with
      | ',' :: rest =>
        let (vs, rest) ← items n depth rest
        return (v :: vs, rest)
      | ']' :: rest => return ([v], rest)
      | _ => none

/-- Reads the assignments of a table in braces up to its end. -/
def assignments : Nat → Nat → Reader (List (List String × Value))
  | 0, _, _ => none
  | n + 1, depth, cs =>
    match skipGap false cs with
    | '\x7d' :: rest => some ([], rest)
    | cs => do
      let (path, rest) ← keys cs
      let rest ← mark '=' (skipGap false rest)
      let (v, rest) ← value n depth (skipGap false rest)
      match skipGap false rest with
      | ',' :: rest =>
        let (more, rest) ← assignments n depth rest
        return ((path, v) :: more, rest)
      | '\x7d' :: rest => return ([(path, v)], rest)
      | _ => none

end

/-! ### Lines -/

/-- What follows the end of a line; only blanks and a comment may stand before it. -/
def lineEnd (cs : List Char) : Option (List Char) :=
  match skipComment (skipBlanks cs) with
  | [] => some []
  | rest => afterBreak? rest

/-- Reads a heading or an assignment. A list takes two steps for each of its characters at most. -/
def statement : Reader Statement
  | '[' :: '[' :: rest => do
    let (path, rest) ← keys rest
    let rest ← mark ']' rest
    let rest ← mark ']' rest
    return (.element path, rest)
  | '[' :: rest => do
    let (path, rest) ← keys rest
    let rest ← mark ']' rest
    return (.table path, rest)
  | cs => do
    let (path, rest) ← keys cs
    let rest ← mark '=' rest
    let (v, rest) ← value (2 * rest.length + 2) nestingLimit (skipBlanks rest)
    return (.assignment path v, rest)

/-- Reads lines, at most a number of them. -/
def statementsWithin : Nat → List Char → Option (List Statement)
  | 0, _ => none
  | n + 1, cs =>
    match skipGap false cs with
    | [] => some []
    | cs => do
      let (s, rest) ← statement cs
      let rest ← lineEnd rest
      let more ← statementsWithin n rest
      return s :: more

/-- The document of a text; a mark of the byte order before it is left out. -/
def read? (s : String) : Option Value :=
  let cs := match s.toList with
    | '\ufeff' :: rest => rest
    | cs => cs
  (statementsWithin (cs.length + 1) cs).bind ofStatements?

end VirtualRouter.Document
