import VirtualRouter.Document.Value

/-!
Tables put together from sections and assignments. A table comes about in one of three ways: by a heading of its
own, in passing by the heading of a table inside it, or by an assignment to a path of keys. A heading may take up a
table that came about in passing, and no other; an assignment by a path extends tables of paths only. A value once
assigned, a list or a table among them, stays as it is, and no key is assigned twice.
-/

namespace VirtualRouter.Document

/-- How a table came about. -/
inductive Origin where
  /-- By a heading of its own. -/
  | headed
  /-- In passing, by the heading of a table inside it. -/
  | passed
  /-- By an assignment to a path of keys. -/
  | path
  deriving DecidableEq, Repr

/-- A document in the making. -/
inductive Tree where
  /-- An assigned value. -/
  | value (value : Value)
  | table (origin : Origin) (fields : List (String × Tree))
  /-- A list of tables that each have a heading; the last one may still grow. -/
  | tables (elements : List (List (String × Tree)))

/-- The fields of a table in the making. -/
abbrev Fields := List (String × Tree)

namespace Tree

mutual

/-- What a tree says. -/
def toValue : Tree → Value
  | value v => v
  | table _ fields => .table (fieldValues fields)
  | tables elements => .list (elementValues elements)

/-- What fields say. -/
def fieldValues : List (String × Tree) → List (String × Value)
  | [] => []
  | (key, tree) :: rest => (key, tree.toValue) :: fieldValues rest

/-- What the tables of a list say. -/
def elementValues : List (List (String × Tree)) → List Value
  | [] => []
  | fields :: rest => .table (fieldValues fields) :: elementValues rest

end

end Tree

/-! ### Changing one place -/

/-- Changes what is under a key; nothing becomes of a refused change. -/
def alter (key : String) (change : Option Tree → Option Tree) : Fields → Option Fields
  | [] => (change none).map fun tree => [(key, tree)]
  | (k, tree) :: rest =>
    if k = key then (change (some tree)).map fun tree => (key, tree) :: rest
    else (alter key change rest).map ((k, tree) :: ·)

/-- Changes the table at a path from a table, bringing about what is missing on the way. In a list of tables the last
    is meant. Only an assignment is stopped by tables with a heading. -/
def descend (missing : Origin) (change : Origin → Fields → Option Fields) :
    List String → Origin → Fields → Option Fields
  | [], origin, fields => change origin fields
  | key :: path, _, fields =>
    alter key (fun
      | none => (descend missing change path missing []).map (.table missing)
      | some (.table origin inner) =>
        if missing = .path ∧ origin = .headed then none
        else (descend missing change path origin inner).map (.table origin)
      | some (.tables elements) => do
        let last ← elements.getLast?
        let last ← descend missing change path .headed last
        return .tables (elements.dropLast ++ [last])
      | some (.value _) => none) fields

/-! ### Headings and assignments -/

/-- Splits a path into the way to a table and the key in it. -/
def toKey? (path : List String) : Option (List String × String) := path.getLast?.map fun key => (path.dropLast, key)

/-- Opens a table by its heading. -/
def openTable (root : Fields) (path : List String) : Option Fields := do
  let (way, key) ← toKey? path
  descend .passed (fun _ => alter key fun
    | none => some (.table .headed [])
    | some (.table .passed fields) => some (.table .headed fields)
    | some _ => none) way .headed root

/-- Opens one more table of a list by its heading. -/
def openElement (root : Fields) (path : List String) : Option Fields := do
  let (way, key) ← toKey? path
  descend .passed (fun _ => alter key fun
    | none => some (.tables [[]])
    | some (.tables elements) => some (.tables (elements ++ [[]]))
    | some _ => none) way .headed root

/-- Assigns a value to a path of keys from a table. -/
def assignIn (path : List String) (v : Value) (origin : Origin) (fields : Fields) : Option Fields := do
  let (way, key) ← toKey? path
  descend .path (fun origin fields =>
    if (origin = .path) = (way ≠ []) then
      alter key (fun
        | none => some (.value v)
        | some _ => none) fields
    else none) way origin fields

/-- Assigns a value to a path of keys from the table of a section. -/
def assign (root : Fields) (openPath : List String) (path : List String) (v : Value) : Option Fields :=
  descend .passed (assignIn path v) openPath .headed root

/-- The table of the assignments between braces. -/
def inlineTable? (assignments : List (List String × Value)) : Option Value :=
  (assignments.foldlM (fun fields (path, v) => assignIn path v .headed fields) []).map fun fields =>
    .table (Tree.fieldValues fields)

/-! ### Whole documents -/

/-- One line of a document. -/
inductive Statement where
  /-- The heading of a table. -/
  | table (path : List String)
  /-- The heading of one more table of a list. -/
  | element (path : List String)
  | assignment (path : List String) (value : Value)

/-- The document so far, and the path of the table that assignments go to. -/
structure Draft where
  root : Fields := []
  openPath : List String := []

/-- The draft with one more statement. -/
def Draft.add (d : Draft) : Statement → Option Draft
  | .table path => (openTable d.root path).map fun root => { root, openPath := path }
  | .element path => (openElement d.root path).map fun root => { root, openPath := path }
  | .assignment path v => (assign d.root d.openPath path v).map fun root => { d with root }

/-- The document that statements make up. -/
def ofStatements? (statements : List Statement) : Option Value :=
  (statements.foldlM Draft.add {}).map fun d => .table (Tree.fieldValues d.root)

end VirtualRouter.Document
