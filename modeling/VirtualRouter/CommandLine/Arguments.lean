import VirtualRouter.Text.Numeral

/-!
The arguments of the daemon. Three options take a value, each at most once: behind an equals sign, as the next
argument, or right behind the letter of an option that has one. An argument that begins with a hyphen is never the
value of the one before, unless it is the hyphen alone. The two requests for information are met as soon as they are
read; what follows them is not looked at.
-/

namespace VirtualRouter

/-- What the daemon is told when it is started. -/
structure Arguments where
  /-- The file that holds the settings. -/
  config : String := "/etc/vrn/vrnd.toml"
  /-- What is logged. -/
  logFilter : String := "info"
  /-- The switch to control, in place of the one in the settings. -/
  datapathId : Option UInt64 := none
  deriving DecidableEq, Repr

/-- What a command line asks for. -/
inductive Invocation where
  | run (arguments : Arguments)
  | help
  | version
  /-- The arguments make no sense. -/
  | refused
  deriving DecidableEq, Repr

/-! ### Words -/

/-- An argument, by its form. -/
inductive ArgumentWord where
  /-- A name behind two hyphens, and a value behind an equals sign. -/
  | long (name : List Char) (value : Option (List Char))
  /-- A letter behind one hyphen, and what follows it. -/
  | short (letter : Char) (rest : List Char)
  /-- Two hyphens alone. -/
  | separator
  | plain (text : List Char)
  deriving DecidableEq, Repr

/-- The form of an argument. -/
def ArgumentWord.ofChars : List Char → ArgumentWord
  | ['-', '-'] => .separator
  | '-' :: '-' :: rest =>
    .long (rest.takeWhile (· ≠ '=')) (match rest.dropWhile (· ≠ '=') with
      | _ :: value => some value
      | [] => none)
  | '-' :: letter :: rest => .short letter rest
  | text => .plain text

/-! ### Options -/

/-- The options that take a value. -/
inductive ValueOption where
  | config
  | logFilter
  | datapathId
  deriving DecidableEq, Repr

/-- How far the arguments have been read. -/
structure ArgumentProgress where
  arguments : Arguments := {}
  given : List ValueOption := []
  /-- The option whose value is to be the next argument. -/
  waiting : Option ValueOption := none
  /-- Two hyphens have ended the options. -/
  ended : Bool := false
  deriving DecidableEq, Repr

namespace ArgumentProgress

/-- The arguments with the value of an option, if the option takes it. -/
def setValue? (a : Arguments) (value : List Char) : ValueOption → Option Arguments
  | .config => if value.isEmpty then none else some { a with config := String.ofList value }
  | .logFilter => some { a with logFilter := String.ofList value }
  | .datapathId => (Numeral.unsigned? 10 UInt64.size value).map fun n => { a with datapathId := some (UInt64.ofNat n) }

/-- Gives a value to an option. -/
def give (p : ArgumentProgress) (o : ValueOption) (value : List Char) : Except Invocation ArgumentProgress :=
  if o ∈ p.given then .error .refused
  else match setValue? p.arguments value o with
    | some arguments => .ok { p with arguments, given := o :: p.given, waiting := none }
    | none => .error .refused

/-- Reads an option that has its value behind it, or waits for it. -/
def option (p : ArgumentProgress) (o : ValueOption) : Option (List Char) → Except Invocation ArgumentProgress
  | some value => p.give o value
  | none => .ok { p with waiting := some o }

/-- The value behind the letter of an option, if there is one. -/
def valueBehind : List Char → Option (List Char)
  | [] => none
  | '=' :: value => some value
  | value => some value

/-- Reads a name behind two hyphens. -/
def long (p : ArgumentProgress) (name : String) (value : Option (List Char)) : Except Invocation ArgumentProgress :=
  match name, value with
  | "config", value => p.option .config value
  | "log-level", value => p.option .logFilter value
  | "datapath-id", value => p.option .datapathId value
  | "help", none => .error .help
  | "version", none => .error .version
  | _, _ => .error .refused

/-- Reads a letter behind one hyphen. -/
def short (p : ArgumentProgress) (letter : Char) (rest : List Char) : Except Invocation ArgumentProgress :=
  match letter with
  | 'c' => p.option .config (valueBehind rest)
  | 'l' => p.option .logFilter (valueBehind rest)
  | 'h' => .error .help
  | 'V' => .error .version
  | _ => .error .refused

/-- Reads one argument. -/
def read (p : ArgumentProgress) (text : String) : Except Invocation ArgumentProgress :=
  if p.ended then .error .refused
  else match p.waiting, ArgumentWord.ofChars text.toList with
    | some o, .plain value => p.give o value
    | some _, _ => .error .refused
    | none, .long name value => p.long (String.ofList name) value
    | none, .short letter rest => p.short letter rest
    | none, .separator => .ok { p with ended := true }
    | none, .plain _ => .error .refused

end ArgumentProgress

/-- What a list of arguments asks for. -/
def Invocation.ofArguments (texts : List String) : Invocation :=
  match texts.foldlM ArgumentProgress.read {} with
  | .error invocation => invocation
  | .ok p => if p.waiting.isSome then .refused else .run p.arguments

/-- The file that has to be read for a run. -/
def Invocation.config? : Invocation → Option String
  | .run arguments => some arguments.config
  | _ => none

end VirtualRouter
