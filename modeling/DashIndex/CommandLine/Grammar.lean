import DashIndex.CommandLine.Invocation
import DashIndex.Text.Integer

/-!
# The options of each command

A grammar lists the options that a command knows and the one argument without a
name that it may take. The places of the configuration and of the store are
options of every command and may also stand before it.
-/

namespace DashIndex.CommandLine

/-- What a value must be. -/
inductive ValueKind where
  | text
  /-- a path, which is not empty -/
  | path
  /-- an unsigned 64-bit integer -/
  | natural
  /-- a signed 64-bit integer -/
  | integer
  | shell
  deriving DecidableEq, Repr

/-- Whether a value is of a kind, and the error if it is not. -/
def ValueKind.check : ValueKind → String → Except UsageError Unit
  | .text, _ => .ok ()
  | .path, s => if s = "" then .error .invalidValue else .ok ()
  | .natural, s =>
    match Text.readUInt64 s with
    | .ok _ => .ok ()
    | .error _ => .error .valueValidation
  | .integer, s =>
    match Text.readInt64 s with
    | .ok _ => .ok ()
    | .error _ => .error .valueValidation
  | .shell, s =>
    match Shell.ofName? s with
    | some _ => .ok ()
    | none => .error .invalidValue

/-- How many values an option takes. -/
inductive Takes where
  /-- none: it is a flag -/
  | nothing
  /-- one, and the option stands once -/
  | one (kind : ValueKind)
  /-- one each time, and the option stands any number of times -/
  | many (kind : ValueKind)
  deriving DecidableEq, Repr

/-- An option. -/
structure OptionSpec where
  name : String
  takes : Takes
  deriving DecidableEq, Repr

/-- What a command understands. -/
structure Grammar where
  options : List OptionSpec
  /-- the argument without a name -/
  positional : Option ValueKind := none
  /-- whether the version can be asked for -/
  hasVersion : Bool := false
  deriving DecidableEq, Repr

/-- The option of a name. -/
def Grammar.find? (g : Grammar) (name : String) : Option OptionSpec :=
  g.options.find? (·.name == name)

/-- The options that every command knows. -/
def placeOptions : List OptionSpec :=
  [⟨"config", .one .path⟩, ⟨"db", .one .path⟩]

/-- What may stand before the command. -/
def topGrammar : Grammar where
  options := placeOptions
  hasVersion := true

/-- The commands, by name only. -/
inductive Subcommand where
  | sortOptions
  | search
  | add
  | completions
  | help
  deriving DecidableEq, Repr

namespace Subcommand

/-- The names of the commands. -/
def names : List (String × Subcommand) :=
  [("sort-options", .sortOptions), ("search", .search), ("add", .add), ("completions", .completions),
    ("help", .help)]

/-- The command of a name. -/
def ofName? (name : String) : Option Subcommand :=
  (names.find? (·.1 == name)).map (·.2)

/-- What a command understands. -/
def grammar : Subcommand → Grammar
  | .sortOptions => { options := ⟨"json", .nothing⟩ :: placeOptions }
  | .search =>
    { options :=
        [⟨"sort", .one .text⟩, ⟨"tag", .many .text⟩, ⟨"folder", .one .text⟩,
          ⟨"limit", .one .natural⟩, ⟨"page", .one .natural⟩, ⟨"json", .nothing⟩] ++ placeOptions
      positional := some .text }
  | .add =>
    { options :=
        [⟨"uid", .one .text⟩, ⟨"title", .one .text⟩, ⟨"folder", .one .text⟩, ⟨"tag", .many .text⟩,
          ⟨"views", .one .integer⟩] ++ placeOptions }
  | .completions => { options := placeOptions, positional := some .shell }
  | .help => { options := [] }

end Subcommand

end DashIndex.CommandLine
