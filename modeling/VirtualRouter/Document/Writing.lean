import VirtualRouter.Text.Numeral
import VirtualRouter.Document.Value

/-!
Writing a document. The table of the whole document and every table inside it are written as blocks with an empty
line between them: a heading, unless it is the whole document, and one line for each field that is no table. A list
of tables becomes a block for each of them. What has no written form is left out.
-/

namespace VirtualRouter.Document

/-! ### Values within a line -/

/-- A character between double quotes. -/
def quotedChar (c : Char) : List Char :=
  if c = '"' ∨ c = '\\' then ['\\', c]
  else if c < ' ' ∨ c = '\x7f' then '\\' :: 'u' :: Numeral.fixed 16 4 c.toNat
  else [c]

/-- A text between double quotes. -/
def quote (s : String) : String := String.ofList ('"' :: s.toList.flatMap quotedChar ++ ['"'])

/-- A whole number. -/
def wholeText (n : Int) : String :=
  String.ofList (if n < 0 then '-' :: Numeral.decimal n.natAbs else Numeral.decimal n.toNat)

mutual

/-- A value as it stands behind its key. -/
def Value.inlineText? : Value → Option String
  | .bool b => some (if b then "true" else "false")
  | .integer n => some (wholeText n)
  | .text s => some (quote s)
  | .list items => some ("[" ++ ", ".intercalate (inlineTexts items) ++ "]")
  | _ => none

/-- The values of a list. -/
def inlineTexts : List Value → List String
  | [] => []
  | v :: rest => v.inlineText?.toList ++ inlineTexts rest

end

/-! ### Blocks -/

/-- The value is written as blocks of its own. -/
def Value.isBlock : Value → Bool
  | .table _ => true
  | .list (.table _ :: _) => true
  | _ => false

/-- The lines of the fields that are no blocks. -/
def fieldLines (fields : List (String × Value)) : String :=
  String.join ((fields.filter (!·.2.isBlock)).filterMap fun (key, v) => v.inlineText?.map (key ++ " = " ++ · ++ "\n"))

mutual

/-- The blocks of a value under a path of keys. -/
def Value.blocks (path : List String) : Value → List String
  | .table fields => ("[" ++ ".".intercalate path ++ "]\n" ++ fieldLines fields) :: fieldBlocks path fields
  | .list items => itemBlocks path items
  | _ => []

/-- The blocks of fields. -/
def fieldBlocks (path : List String) : List (String × Value) → List String
  | [] => []
  | (key, v) :: rest => v.blocks (path ++ [key]) ++ fieldBlocks path rest

/-- The blocks of the tables of a list. -/
def itemBlocks (path : List String) : List Value → List String
  | [] => []
  | .table fields :: rest =>
    ("[[" ++ ".".intercalate path ++ "]]\n" ++ fieldLines fields) :: (fieldBlocks path fields ++ itemBlocks path rest)
  | _ :: rest => itemBlocks path rest

end

/-- The text of a document. -/
def Value.render : Value → String
  | .table fields =>
    let lines := fieldLines fields
    "\n".intercalate ((if lines = "" then [] else [lines]) ++ fieldBlocks [] fields)
  | _ => ""

end VirtualRouter.Document
