/-!
# What a command line asks for

An invocation is one command with its arguments and, for every command alike,
the places of the configuration and of the store.
-/

namespace DashIndex.CommandLine

/-- A shell for which completions are written. -/
inductive Shell where
  | bash
  | elvish
  | fish
  | powershell
  | zsh
  deriving DecidableEq, Repr

/-- The shells and their names. -/
def Shell.names : List (String × Shell) :=
  [("bash", .bash), ("elvish", .elvish), ("fish", .fish), ("powershell", .powershell),
    ("zsh", .zsh)]

/-- The shell of a name. -/
def Shell.ofName? (name : String) : Option Shell :=
  (names.find? (·.1 == name)).map (·.2)

/-- The arguments of a search. -/
structure SearchArguments where
  query : String := ""
  sort : Option String := none
  tags : List String := []
  folder : Option String := none
  limit : Option UInt64 := none
  page : UInt64 := 1
  json : Bool := false
  deriving DecidableEq, Repr

/-- The arguments of an addition. -/
structure AddArguments where
  uid : String
  title : String
  folder : Option String := none
  tags : List String := []
  views : Int64 := 0
  deriving DecidableEq, Repr

inductive Command where
  | sortOptions (json : Bool)
  | search (arguments : SearchArguments)
  | add (arguments : AddArguments)
  | completions (shell : Shell)
  deriving DecidableEq, Repr

/-- A command and the places it works on. -/
structure Invocation where
  config : Option String := none
  db : Option String := none
  command : Command
  deriving DecidableEq, Repr

/-- Why a command line is no invocation. -/
inductive UsageError where
  /-- the help is asked for -/
  | displayHelp
  /-- the version is asked for -/
  | displayVersion
  /-- there is no argument at all -/
  | nothingGiven
  /-- there are options, but no command -/
  | missingSubcommand
  | invalidSubcommand
  /-- an option that is not known, or an argument too many -/
  | unknownArgument
  /-- an option without its value, an empty path, or a shell that is not known -/
  | invalidValue
  /-- a value that is no number of its kind -/
  | valueValidation
  /-- an option that may stand once stands twice -/
  | argumentConflict
  /-- a flag with a value -/
  | tooManyValues
  /-- an argument that must be given is not -/
  | missingArgument
  deriving DecidableEq, Repr

end DashIndex.CommandLine
