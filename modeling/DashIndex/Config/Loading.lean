import DashIndex.Config.Decoding
import DashIndex.Files.Tree

/-!
# Loading the configuration

The configuration is read from a path. If the path leads nowhere, the defaults
hold; if it leads to something that is no text or no configuration, loading
fails. A store is no text.
-/

namespace DashIndex

/-- Why something cannot be read as a text. -/
inductive ReadError where
  | isADirectory
  | notUtf8
  deriving DecidableEq, Repr

/-- The wording of a reading failure. -/
def ReadError.message : ReadError → String
  | .isADirectory => "Is a directory (os error 21)"
  | .notUtf8 => "stream did not contain valid UTF-8"

/-- Why a configuration cannot be loaded. -/
inductive ConfigError where
  | unreadable (path : String) (cause : ReadError)
  | malformed (path document : String) (cause : Toml.Fault)
  deriving DecidableEq, Repr

namespace ConfigError

/-- The wording of what is the cause of a failure. -/
def cause (report : Toml.Reporter) : ConfigError → String
  | .unreadable _ cause => cause.message
  | .malformed _ document cause => report document cause

/-- The wording of a failure, which names its cause. -/
def message (report : Toml.Reporter) : ConfigError → String
  | .unreadable path cause => "failed to read config at " ++ path ++ ": " ++ cause.message
  | .malformed path document cause =>
    "failed to parse config at " ++ path ++ ": " ++ report document cause

end ConfigError

namespace Files

/-- The text that a path leads to; none if it leads nowhere. -/
def readText? (fs : Files) (path : String) : Except ReadError (Option String) :=
  match fs.locate path with
  | .found _ .directory => .error .isADirectory
  | .found _ (.file content) =>
    match String.fromUTF8? ⟨content.toArray⟩ with
    | some s => .ok (some s)
    | none => .error .notUtf8
  | .found _ (.database _ _) => .error .notUtf8
  | _ => .ok none

end Files

/-- The configuration at a path, or the defaults if the path leads nowhere. -/
def Config.load (fs : Files) (path : String) : Except ConfigError Config :=
  match fs.readText? path with
  | .error e => .error (.unreadable path e)
  | .ok none => .ok {}
  | .ok (some document) =>
    match Config.parse document with
    | .ok c => .ok c
    | .error e => .error (.malformed path document e)

end DashIndex
