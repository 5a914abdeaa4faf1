import DashIndex.CommandLine.Run
import DashIndex.Store.Snapshot
import Std.Time.DateTime.Timestamp

/-!
# The program

The thin layer around `CommandLine.run`: it looks at the places on disk that the
command line leads to, runs the command on them, takes away the files that are
gone and writes back what is new or changed. It keeps stores as snapshots, so there
is no database engine behind it, and it has wordings of its own.
-/

namespace DashIndex.Program

/-- A place as an absolute path. -/
def onDisk (place : List String) : String :=
  "/" ++ "/".intercalate place

/-- What the content of a file is: the text of a store is the store. -/
def entryOf (content : ByteArray) : Entry :=
  match (String.fromUTF8? content).bind Store.ofSnapshot? with
  | some (safeguard, store) => .database safeguard store
  | none => .file content.data.toList

/-- What lies at a place on disk, in a directory or where nothing is. -/
def probe (place : List String) : IO (Option Entry) := do
  try
    return some (entryOf (← IO.FS.readBinFile (onDisk place)))
  catch
    | .inappropriateType .. => return some .directory
    | _ => return none

/-- The files with what lies at each place that segments lead through, up to the first file. -/
def lookAlong (files : Files) (place : List String) : List String → IO Files
  | [] => return files
  | segment :: rest =>
    if Path.isIdle segment then lookAlong files place rest
    else if segment = ".." then lookAlong files place.dropLast rest
    else do
      let next := place ++ [segment]
      match ← probe next with
      | none => lookAlong files next rest
      | some .directory => lookAlong (files.put next .directory) next rest
      | some e => return files.put next e

/-- The files with what lies along a path. -/
def lookAt (files : Files) (path : String) : IO Files :=
  lookAlong files (files.startOf path) (Path.segments path)

/-- The files with what lies at the place of a store and beside it. -/
def lookAtStore (files : Files) (address : String) : IO Files := do
  let files ← lookAt files address
  match (StoreAddress.ofText address).toOption.bind fun a => files.storePlace? a.path with
  | none => return files
  | some place =>
    [place, Files.journalOf place, Files.logOf place, Files.indexOf place].foldlM
      (fun files place => lookAlong files [] place) files

/-- The files that a command line leads to. -/
def lookFor (env : Environment) (i : CommandLine.Invocation) (files : Files) : IO Files := do
  let files ← lookAt files (i.config.getD env.configPath)
  match Config.load files (i.config.getD env.configPath) with
  | .error _ => return files
  | .ok config => lookAtStore files (config.storePath env i.db)

/-- Write an entry to disk. -/
def write (place : List String) : Entry → IO Unit
  | .directory => IO.FS.createDirAll (onDisk place)
  | .file content => IO.FS.writeBinFile (onDisk place) ⟨content.toArray⟩
  | .database safeguard store => IO.FS.writeFile (onDisk place) (store.snapshot safeguard)

/-- Take away what is gone and write what has changed, a directory before what lies in it. -/
def writeChanges (before after : Files) : IO Unit := do
  for (place, _) in before.entries do
    if after.entry? place = none then IO.FS.removeFile (onDisk place)
  let changed := after.entries.filter fun (place, e) => before.entry? place != some e
  for (place, e) in changed.mergeSort fun a b => a.1.length ≤ b.1.length do
    write place e

/-- What the environment says about places. -/
def environment : IO Environment := do
  let home := (← IO.getEnv "HOME").getD ""
  return ⟨home, ← IO.getEnv "XDG_DATA_HOME", ← IO.getEnv "XDG_CONFIG_HOME"⟩

/-- The working directory and nothing else. -/
def startFiles : IO Files := do
  let here := (Path.segments (toString (← IO.currentDir))).filter (!Path.isIdle ·)
  lookAlong { workingDirectory := here } [] here

/-! ## The host -/

/-- What the program can do. -/
def helpText : String :=
  "Dashboard search with pluggable sort options\n\n"
    ++ "Usage: dsearch [--config PATH] [--db PATH] COMMAND\n\n"
    ++ "Commands:\n"
    ++ "  sort-options [--json]\n"
    ++ "  search [QUERY] [--sort NAME] [--tag TAG]... [--folder FOLDER] [--limit N] [--page N]\n"
    ++ "    [--json]\n"
    ++ "  add --uid UID --title TITLE [--folder FOLDER] [--tag TAG]... [--views N]\n"
    ++ "  completions bash|elvish|fish|powershell|zsh\n"
    ++ "  help [COMMAND]\n"

/-- The words that a shell completes after the name of the program. -/
def completionWords : String := "sort-options search add completions help"

/-- A script that completes the commands in a shell. -/
def completionScript : CommandLine.Shell → String
  | .bash => "complete -W \"" ++ completionWords ++ "\" dsearch\n"
  | .zsh => "compctl -k \"(" ++ completionWords ++ ")\" dsearch\n"
  | .fish => "complete -c dsearch -f -a \"" ++ completionWords ++ "\"\n"
  | .elvish =>
    "set edit:completion:arg-completer[dsearch] = \x7b|@words| put " ++ completionWords ++ " \x7d\n"
  | .powershell =>
    "Register-ArgumentCompleter -Native -CommandName dsearch -ScriptBlock \x7b \""
      ++ completionWords ++ "\".Split() \x7d\n"

/-- Why the arguments were not understood. -/
def usageText : CommandLine.UsageError → String
  | .displayHelp | .displayVersion | .nothingGiven => helpText
  | .missingSubcommand => "error: a command is missing\n"
  | .invalidSubcommand => "error: there is no such command\n"
  | .unknownArgument => "error: an argument is not known\n"
  | .invalidValue => "error: a value is missing or not allowed\n"
  | .valueValidation => "error: a value is not a number of its kind\n"
  | .argumentConflict => "error: an option is given twice\n"
  | .tooManyValues => "error: a flag takes no value\n"
  | .missingArgument => "error: a required argument is missing\n"

/-- How a configuration document is found wanting. -/
def documentReport : Toml.Reporter
  | _, .malformed => "TOML parse error"
  | _, .keyTooLong => "recursion limit\n"

/-- What a run relies on. -/
def host : CommandLine.Host where
  evaluate := .absent
  recovery := .absent
  wording :=
    { help := fun _ => helpText
      usage := fun _ => usageText
      completions := completionScript
      document := documentReport }

/-! ## The run -/

/-- Run a command line and return the exit code. -/
def run (args : List String) : IO UInt32 := do
  let env ← environment
  let start ← startFiles
  let before ←
    match CommandLine.parse args with
    | .ok i => lookFor env i start
    | .error _ => pure start
  let now := Int64.ofInt (← Std.Time.Timestamp.now).toMillisecondsSinceUnixEpoch.val
  let (outcome, after) := CommandLine.run host env args now before
  writeChanges before after
  IO.print outcome.output
  IO.eprint (outcome.errorOutput host.wording)
  return outcome.code.toUInt32

end DashIndex.Program

/-- The entry point. -/
def main (args : List String) : IO UInt32 :=
  DashIndex.Program.run args
