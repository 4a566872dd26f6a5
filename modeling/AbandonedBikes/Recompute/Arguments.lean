import AbandonedBikes.Number.Literal
import AbandonedBikes.Text.Terminal
/-!
# Arguments of the recompute command

Arguments are read from left to right. An option takes its value from the same argument, after `=`,
or from the next one, as long as that does not start with a dash. Such a value is checked when the
next option is reached or the arguments end, so an unknown argument is reported before a bad value
that stands in front of it.
-/

namespace AbandonedBikes.Recompute

/-- What the command is asked to do. -/
structure Arguments where
  database : Option String := none
  group : Option Int := none
  json : Bool := false
deriving DecidableEq, Repr, Inhabited

/-- An option that takes a value. -/
inductive ValueOption where
  | database
  | group
deriving DecidableEq, Repr

namespace ValueOption

def name : ValueOption → String
  | .database => "database-url"
  | .group => "group"

/-- The option together with what it takes. -/
def usage : ValueOption → String
  | .database => "--database-url <DATABASE_URL>"
  | .group => "--group <GROUP>"

end ValueOption

/-- Why the arguments are refused. -/
inductive UsageError where
  | unexpected (argument : String)
  | missingValue (option : ValueOption)
  | unwantedValue (flag value : String)
  | repeatedOption (option : ValueOption)
  | repeatedJson
  | badGroup (value : String) (cause : Literal.Malformed)
  | missingDatabase
deriving DecidableEq, Repr

namespace UsageError

def repeatedMessage (usage : String) : String :=
  "error: the argument '" ++ usage ++ "' cannot be used multiple times"

/-- A part of an argument as a message repeats it. -/
def repeated (text : String) : String := "'" ++ Terminal.visible text ++ "'"

/-- The message, of which the first line says what is wrong. -/
def message : UsageError → String
  | .unexpected argument => "error: unexpected argument " ++ repeated argument ++ " found"
  | .missingValue option =>
    "error: a value is required for '" ++ option.usage ++ "' but none was supplied"
  | .unwantedValue flag value =>
    "error: unexpected value " ++ repeated value ++ " for '" ++ flag ++
      "' found; no more were expected"
  | .repeatedOption option => repeatedMessage option.usage
  | .repeatedJson => repeatedMessage "--json"
  | .badGroup value cause =>
    "error: invalid value " ++ repeated value ++ " for '" ++ ValueOption.group.usage ++ "': " ++
      cause.message
  | .missingDatabase =>
    "error: the following required arguments were not provided:\n  " ++ ValueOption.database.usage

end UsageError

/-- A request that the arguments make. -/
inductive Request where
  | help
  | run (arguments : Arguments)
deriving DecidableEq, Repr

/-- An option that was met, and its value if that was met too. -/
structure Pending where
  option : ValueOption
  value : Option String
deriving DecidableEq, Repr

/-- What has been read so far. -/
structure Progress where
  arguments : Arguments := {}
  pending : Option Pending := none
deriving DecidableEq, Repr

/-- How an argument looks. -/
inductive Shape where
  /-- Two dashes alone: only values follow. -/
  | endOfOptions
  /-- Two dashes and a name, with a value after `=`. -/
  | long (name : String) (value : Option String)
  /-- One dash and a letter. -/
  | short (letter : Char)
  | plain
deriving DecidableEq, Repr

namespace Shape

def ofArgument (argument : String) : Shape :=
  match argument.toList with
  | ['-', '-'] => .endOfOptions
  | '-' :: '-' :: rest =>
    let value := (rest.dropWhile (· != '=')).tail?
    .long (String.ofList (rest.takeWhile (· != '='))) (value.map String.ofList)
  | '-' :: letter :: _ => .short letter
  | _ => .plain

end Shape

namespace Arguments

/-- Sets an option, which may be given only once. -/
def set (arguments : Arguments) (option : ValueOption) (value : String) :
    Except UsageError Arguments :=
  match option with
  | .database =>
    if arguments.database.isSome then .error (.repeatedOption .database)
    else .ok { arguments with database := some value }
  | .group =>
    if arguments.group.isSome then .error (.repeatedOption .group)
    else match Literal.integer Literal.signed64 value with
      | .ok group => .ok { arguments with group := some group }
      | .error cause => .error (.badGroup value cause)

def setJson (arguments : Arguments) : Except UsageError Arguments :=
  if arguments.json then .error .repeatedJson else .ok { arguments with json := true }

end Arguments

namespace Progress

/-- Checks the option that was met last. -/
def settle (progress : Progress) : Except UsageError Arguments :=
  match progress.pending with
  | none => .ok progress.arguments
  | some ⟨option, none⟩ => .error (.missingValue option)
  | some ⟨option, some value⟩ => progress.arguments.set option value

/-- Meets an option, which may bring its value along. -/
def meet (progress : Progress) (option : ValueOption) (value : Option String) :
    Except UsageError Progress := do
  let arguments ← progress.settle
  match value with
  | some value => return ⟨← arguments.set option value, none⟩
  | none => return ⟨arguments, some ⟨option, none⟩⟩

/-- Takes a value for the option that was met last. -/
def take (progress : Progress) (value : String) : Except UsageError Progress :=
  match progress.pending with
  | some ⟨option, none⟩ => .ok { progress with pending := some ⟨option, some value⟩ }
  | _ => .error (.unexpected value)

end Progress

/-- Reads the arguments that are left. -/
def read (progress : Progress) : List String → Except UsageError Request
  | [] => return .run (← progress.settle)
  | argument :: rest =>
    match Shape.ofArgument argument with
    | .endOfOptions =>
      match rest with
      | [] => return .run (← progress.settle)
      | value :: _ => .error (.unexpected value)
    | .long "database-url" value => do read (← progress.meet .database value) rest
    | .long "group" value => do read (← progress.meet .group value) rest
    | .long "json" none => do read ⟨← (← progress.settle).setJson, none⟩ rest
    | .long "json" (some value) => .error (.unwantedValue "--json" value)
    | .long "help" none => do
      let _ ← progress.settle
      return .help
    | .long "help" (some value) => .error (.unwantedValue "--help" value)
    | .short 'h' => do
      let _ ← progress.settle
      return .help
    | .long name _ => .error (.unexpected ("--" ++ name))
    | .short letter => .error (.unexpected ("-" ++ letter.toString))
    | .plain => do read (← progress.take argument) rest

/-- Reads the arguments of the command. The database may be named by the environment instead. -/
def Request.ofArguments (database : Option String) (arguments : List String) :
    Except UsageError Request := do
  match ← read {} arguments with
  | .help => return .help
  | .run arguments =>
    match arguments.database.or database with
    | some url => return .run { arguments with database := some url }
    | none => throw .missingDatabase

/-! ## Help -/

/-- The lines that explain the options, all beside them in one column. -/
def optionLines (database : Option String) : List String :=
  let options :=
    [("      " ++ ValueOption.database.usage,
        "Postgres connection string [env: DATABASE_URL=" ++ database.getD "" ++ "]"),
     ("      " ++ ValueOption.group.usage, "Only recompute this bike group"),
     ("      --json", "Print the summary as JSON"),
     ("  -h, --help", "Print help")]
  options.map fun (option, text) =>
    option ++ String.ofList (List.replicate (37 - option.length) ' ') ++ text

/-- The help of the command. -/
def helpLines (database : Option String) : List String :=
  ["Recompute bike group signal counters", "",
   "Usage: bikesignal-recompute [OPTIONS] " ++ ValueOption.database.usage, "", "Options:"] ++
    optionLines database

end AbandonedBikes.Recompute
