import VirtualRouter.Text.Blank
import VirtualRouter.Text.Numeral

/-!
Which lines are logged. A filter is a list of directives between commas, each with a level and, before it, what it is
about: targets that begin with a name, lines that have a field. A level alone is about all lines; a directive without
a level means every level. Of the directives about a line the most specific counts: one with the longest name, of
these one that asks for a field, and of these one whose field comes last in the alphabet. Of two alike the later
counts. A directive that makes no sense is left out, and a filter without any directive lets only errors through.
-/

namespace VirtualRouter

/-! ### Levels -/

/-- How much is logged. -/
inductive LogLevel where
  | off
  | error
  | warn
  | info
  | debug
  | trace
  deriving DecidableEq, Repr

namespace LogLevel

/-- The levels, the most silent first. -/
def all : List LogLevel := [off, error, warn, info, debug, trace]

/-- How much a level lets through. -/
def rank : LogLevel → Nat
  | off => 0
  | error => 1
  | warn => 2
  | info => 3
  | debug => 4
  | trace => 5

/-- The name of a level. -/
def name : LogLevel → String
  | off => "off"
  | error => "error"
  | warn => "warn"
  | info => "info"
  | debug => "debug"
  | trace => "trace"

/-- The level of a name in either case, or of a number. -/
def ofChars? (cs : List Char) : Option LogLevel :=
  match Numeral.unsigned? 10 all.length cs with
  | some n => all[n]?
  | none => all.find? fun level => level.name.toList = cs.map Char.toLower

end LogLevel

/-! ### Directives -/

/-- One directive of a filter. -/
structure LogDirective where
  /-- What the target of a line has to begin with. -/
  target : Option (List Char) := none
  /-- A field that a line has to have. -/
  field : Option (List Char) := none
  level : LogLevel
  deriving DecidableEq, Repr

/-- A line that may be logged. -/
structure LogLine where
  target : String
  fields : List String
  level : LogLevel
  deriving DecidableEq, Repr

namespace LogDirective

/-- A character that a name begins with; it goes on with any. -/
def isNameStart (c : Char) : Bool := c.isAlphanum || c = '_' || c = '-' || c = ':'

/-- A name at the front of a directive, which may be left out. -/
def name? : List Char → Option (Option (List Char))
  | [] => some none
  | c :: rest => if isNameStart c then some (some (c :: rest)) else none

/-- The level behind an equals sign: every level, if nothing stands there. -/
def level? (cs : List Char) : Option LogLevel := if cs.isEmpty then some .trace else LogLevel.ofChars? cs

/-- The level behind a bracket: every level, if only blanks stand there. -/
def levelBehind? : List Char → Option LogLevel
  | '=' :: cs => level? cs
  | cs => if cs.all Text.isBlank then some .trace else none

/-- The field before a closing brace and a bracket, and what follows. A field with a value is none of lines. -/
def field? (cs : List Char) : Option (List Char × List Char) :=
  let field := cs.takeWhile (· ≠ '\x7d')
  match cs.drop field.length with
  | '\x7d' :: ']' :: rest => if field.isEmpty ∨ '=' ∈ field then none else some (field, rest)
  | _ => none

/-- A directive that is a single name: a level, or a target. -/
def ofName (name : List Char) : LogDirective :=
  match LogLevel.ofChars? name with
  | some level => { level }
  | none => { target := some name, level := .trace }

/-- A directive about lines. One about spans of time is none of these. -/
def ofChars? (cs : List Char) : Option LogDirective := do
  let front := cs.takeWhile fun c => c ≠ '=' ∧ c ≠ '['
  let target ← name? front
  match target, cs.drop front.length with
  | some name, [] => return ofName name
  | some name, '=' :: rest => return { target := some name, level := ← level? rest }
  | target, '[' :: '\x7b' :: rest =>
    let (field, rest) ← field? rest
    return { target, field := some field, level := ← levelBehind? rest }
  | _, _ => none

/-- The directive is about a line. -/
def isAbout (d : LogDirective) (line : LogLine) : Bool :=
  (d.target.all fun target => target.isPrefixOf line.target.toList) &&
    d.field.all fun field => String.ofList field ∈ line.fields

/-- How specific a directive is, its field's name aside. -/
def specificity (d : LogDirective) : Nat :=
  2 * (d.target.map (·.length + 1)).getD 0 + (if d.field.isSome then 1 else 0)

/-- A directive is less specific than another. -/
def isBelow (d e : LogDirective) : Bool :=
  d.specificity < e.specificity || d.specificity = e.specificity && decide (d.field.getD [] < e.field.getD [])

end LogDirective

/-! ### Filters -/

/-- The directives of a filter. -/
structure LogFilter where
  directives : List LogDirective
  deriving DecidableEq, Repr

namespace LogFilter

/-- The filter of a text. -/
def ofText (s : String) : LogFilter :=
  match (s.toList.splitOn ',').filterMap LogDirective.ofChars? with
  | [] => ⟨[{ level := .error }]⟩
  | directives => ⟨directives⟩

/-- The directive that counts for a line: the last of the most specific ones about it. -/
def directive? (f : LogFilter) (line : LogLine) : Option LogDirective :=
  (f.directives.filter (·.isAbout line)).foldl (fun best d =>
    match best with
    | some b => if d.isBelow b then some b else some d
    | none => some d) none

/-- The line is logged. -/
def shows (f : LogFilter) (line : LogLine) : Bool :=
  (f.directive? line).any fun d => line.level.rank ≤ d.level.rank

end LogFilter

end VirtualRouter
