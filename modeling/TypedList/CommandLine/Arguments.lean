import TypedList.Analysis

/-!
# Reading the arguments

The arguments are read from left to right, and the first one that cannot stand where it does, or
that asks for the version or for help, ends the reading.  Options may stand on both sides of the
command; the ones behind it win.

Main results:

- Theorem `Argument.spelledBy_of_ofText`: an argument has the spelling of what it is read as.
-/

namespace TypedList

/-- The forms of the output. -/
inductive Format
  | text
  | json
deriving DecidableEq, Repr

/-- The format with a given name. -/
def Format.ofName? (name : Text) : Option Format :=
  if name = "text".toList then some text
  else if name = "json".toList then some json
  else none

/-- What to show of a file. -/
inductive Command
  | tokens
  | check
  | analyze
deriving DecidableEq, Repr

namespace Command

/-- The command with a given name. -/
def ofName? (name : Text) : Option Command :=
  if name = "tokens".toList then some tokens
  else if name = "check".toList then some check
  else if name = "analyze".toList then some analyze
  else none

/-- The parts of an analysis that a command shows. -/
def parts : Command → Parts
  | tokens => .tokens
  | check => .errors
  | analyze => .both

end Command

/-- Where the text comes from. -/
inductive Source
  | standardInput
  | file (name : Text)
deriving DecidableEq, Repr

/-- The source that a file argument names.  No argument and a lone dash mean standard input. -/
def Source.ofArgument : Option Text → Source
  | none => standardInput
  | some name => if name = ['-'] then standardInput else file name

/-- What a command line asks for. -/
structure Request where
  parts : Parts
  format : Format
  mode : QuoteMode
  source : Source
deriving DecidableEq, Repr

/-- Why the arguments are not read to a request. -/
inductive Refusal
  /-- An argument cannot stand where it does. -/
  | usage
  /-- The version is asked for. -/
  | version
  /-- Help is asked for, by an option or by name. -/
  | help
deriving DecidableEq, Repr

/-! ## Single arguments -/

/-- What an argument is by its spelling alone. -/
inductive Argument
  | positional (text : Text)
  /-- The argument `--`, behind which every argument is positional. -/
  | separator
  /-- The option `--format`, whose value is the next argument. -/
  | format
  /-- The option `--format=` with its value. -/
  | formatValue (name : Text)
  | strings
  | version
  | help
  | unknownOption
deriving DecidableEq, Repr

namespace Argument

/-- The argument with a given spelling.  A lone dash is positional. -/
def ofText (t : Text) : Argument :=
  if t = "--".toList then separator
  else if t = "--format".toList then format
  else if "--format=".toList.isPrefixOf t then formatValue (t.drop 9)
  else if t = "--strings".toList then strings
  else if t = "--version".toList ∨ "-V".toList.isPrefixOf t then version
  else if t = "--help".toList ∨ "-h".toList.isPrefixOf t then help
  else if t.head? = some '-' ∧ t ≠ ['-'] then unknownOption
  else positional t

/-- The spellings of an argument. -/
def SpelledBy (t : Text) : Argument → Prop
  | positional name => t = name
  | separator => t = "--".toList
  | format => t = "--format".toList
  | formatValue _ => "--format=".toList <+: t
  | strings => t = "--strings".toList
  | version => t = "--version".toList ∨ "-V".toList <+: t
  | help => t = "--help".toList ∨ "-h".toList <+: t
  | unknownOption => t.head? = some '-' ∧ t ≠ ['-']

/-- An argument has the spelling of what it is read as. -/
theorem spelledBy_of_ofText {t : Text} {a : Argument} (h : ofText t = a) : a.SpelledBy t := by
  subst h
  fun_cases ofText t with
  | case1 hseparator => exact hseparator
  | case2 _ hformat => exact hformat
  | case3 _ _ hvalue => exact List.isPrefixOf_iff_prefix.mp hvalue
  | case4 _ _ _ hstrings => exact hstrings
  | case5 _ _ _ _ hversion => exact hversion.imp_right List.isPrefixOf_iff_prefix.mp
  | case6 _ _ _ _ _ hhelp => exact hhelp.imp_right List.isPrefixOf_iff_prefix.mp
  | case7 _ _ _ _ _ _ hunknown => exact hunknown
  | case8 => rfl

end Argument

/-! ## Levels -/

/-- The arguments on one side of the command's name. -/
structure Level where
  format : Option Format
  strings : Bool
  file : Option Text
deriving DecidableEq, Repr

namespace Level

/-- A level without arguments. -/
def empty : Level := ⟨none, false, none⟩

/-- The level with its format set, which must be a known one and not be set yet. -/
def setFormat (level : Level) (name : Text) : Except Refusal Level :=
  match level.format, Format.ofName? name with
  | none, some format => .ok { level with format := some format }
  | _, _ => .error .usage

/-- The level with string literals asked for, once. -/
def setStrings (level : Level) : Except Refusal Level :=
  if level.strings then .error .usage else .ok { level with strings := true }

/-- The level with its file set, which must have a name and be the only one. -/
def setFile (level : Level) (name : Text) : Except Refusal Level :=
  if name.isEmpty || level.file.isSome then .error .usage
  else .ok { level with file := some name }

end Level

/-! ## Command lines -/

/-- What has been read so far: the arguments before the command, and the command with the arguments
behind it. -/
structure Reading where
  outer : Level
  inner : Option (Command × Level)
deriving DecidableEq, Repr

namespace Reading

/-- Nothing read yet. -/
def empty : Reading := ⟨.empty, none⟩

/-- Changes the level that the next argument belongs to. -/
def update (r : Reading) (change : Level → Except Refusal Level) : Except Refusal Reading :=
  match r.inner with
  | none => do
    let outer ← change r.outer
    return { r with outer }
  | some (command, level) => do
    let level ← change level
    return { r with inner := some (command, level) }

/-- Reads a positional argument that may name a command: the first such name does.  Up to there the
name `help` asks for help; which names may follow it is left to the argument parser. -/
def positional (r : Reading) (t : Text) : Except Refusal Reading :=
  match r.inner, Command.ofName? t with
  | none, some command => .ok { r with inner := some (command, .empty) }
  | none, none => if t = "help".toList then .error .help else r.update (·.setFile t)
  | some _, _ => r.update (·.setFile t)

/-- Whether the version can be asked for: before the command only. -/
def version (r : Reading) : Refusal :=
  if r.inner.isNone then .version else .usage

/-- Reads arguments behind the separator: all are files. -/
def addFiles (r : Reading) : List Text → Except Refusal Reading
  | [] => .ok r
  | t :: rest => do (← r.update (·.setFile t)).addFiles rest

/-- Reads arguments from left to right. -/
def addArguments (r : Reading) : List Text → Except Refusal Reading
  | [] => .ok r
  | t :: rest =>
    match Argument.ofText t with
    | .positional name => do (← r.positional name).addArguments rest
    | .separator => r.addFiles rest
    | .format =>
      match rest with
      | [] => .error .usage
      | name :: rest => do (← r.update (·.setFormat name)).addArguments rest
    | .formatValue name => do (← r.update (·.setFormat name)).addArguments rest
    | .strings => do (← r.update Level.setStrings).addArguments rest
    | .version => .error r.version
    | .help => .error .help
    | .unknownOption => .error .usage

/-- What the arguments ask for.  Behind the command stands what counts; where nothing stands there,
what stands before it does. -/
def request (r : Reading) : Request :=
  let command := (r.inner.map Prod.fst).getD .analyze
  let inner := (r.inner.map Prod.snd).getD .empty
  { parts := command.parts
    format := (inner.format.or r.outer.format).getD .text
    mode := if inner.strings || r.outer.strings then .literal else .marker
    source := .ofArgument (inner.file.or r.outer.file) }

end Reading

/-- Reads a whole command line. -/
def readArguments (arguments : List Text) : Except Refusal Request :=
  (Reading.empty.addArguments arguments).map Reading.request

end TypedList
