import DashIndex.CommandLine.Parser
import DashIndex.CommandLine.Report
import DashIndex.Config.Loading
import DashIndex.Files.Environment
import DashIndex.Files.Opening
import DashIndex.Service.Basic

/-!
# Running a command

A run takes the arguments, the environment, the time and the files, and comes to
an outcome and the files as they are then. The configuration is loaded first,
whatever the command; a command that works on the store opens it before
anything else is checked; and nothing is printed until nothing can fail any more.

A host is what a run relies on and does not do itself: the database behind the
stores, and the wording of what others report.
-/

namespace DashIndex.CommandLine

/-- What a run relies on. -/
structure Host where
  /-- what the database makes of statements -/
  evaluate : Evaluator
  /-- what the database makes of files in its own formats -/
  recovery : Recovery
  wording : Wording

/-- Why a run fails. -/
inductive Failure where
  | config (cause : ConfigError)
  | service (cause : ServiceError)
  | store (cause : StoreError)
  /-- a dashboard cannot be added -/
  | add (uid : String) (cause : StoreError)
  deriving DecidableEq, Repr

/-- A failure and its causes, as it is reported. -/
def Failure.report (w : Wording) : Failure → String
  | .config cause =>
    "error: " ++ cause.message w.document ++ ": " ++ cause.cause w.document ++ "\n"
  | .service cause => "error: " ++ cause.message ++ "\n"
  | .store cause => "error: " ++ cause.message ++ "\n"
  | .add uid cause => "error: storing dashboard " ++ uid ++ ": " ++ cause.message ++ "\n"

/-- What a run comes to. -/
inductive Outcome where
  /-- it printed this -/
  | printed (text : String)
  /-- it failed -/
  | failed (failure : Failure)
  /-- the arguments were not understood -/
  | misused (args : List String) (error : UsageError)
  deriving DecidableEq, Repr

namespace Outcome

/-- The exit code. -/
def code : Outcome → Nat
  | .printed _ => 0
  | .failed _ => 1
  | .misused _ _ => 2

/-- What goes to the standard output. -/
def output : Outcome → String
  | .printed text => text
  | _ => ""

/-- What goes to the standard error. -/
def errorOutput (w : Wording) : Outcome → String
  | .printed _ => ""
  | .failed failure => failure.report w
  | .misused args error => w.usage args error

/-- The outcome of arguments that are no invocation; help and version are answers. -/
def ofUsageError (w : Wording) (args : List String) : UsageError → Outcome
  | .displayHelp => .printed (w.help args)
  | .displayVersion => .printed versionText
  | e => .misused args e

end Outcome

/-- The query of a search; the limit is the configured one if none is given. -/
def SearchArguments.toQuery (a : SearchArguments) (config : Config) : Query where
  text := a.query
  tags := a.tags
  folder := a.folder
  sort := a.sort
  limit := a.limit.getD config.defaultLimit
  page := a.page

/-- The dashboard of an addition at a time. -/
def AddArguments.toDashboard (a : AddArguments) (now : Int64) : Dashboard :=
  { Dashboard.create a.uid a.title now with folder := a.folder, tags := a.tags, views := a.views }

variable (host : Host)

/-- Search the store at a path. -/
def runSearch (config : Config) (path : String) (a : SearchArguments) (files : Files) :
    Outcome × Files :=
  match files.openStore host.recovery path with
  | (.error e, files) => (.failed (.store e), files)
  | (.ok (_, store), files) =>
    match (Service.ofConfig config).search host.evaluate store (a.toQuery config) with
    | .error e => (.failed (.service e), files)
    | .ok hits => (.printed (reportHits a.json hits), files)

/-- Add a dashboard to the store at a path. -/
def runAdd (path : String) (a : AddArguments) (now : Int64) (files : Files) : Outcome × Files :=
  match files.openStore host.recovery path with
  | (.error e, files) => (.failed (.store e), files)
  | (.ok (place, store), files) =>
    match store.add (a.toDashboard now) with
    | .error e => (.failed (.add a.uid e), files)
    | .ok (id, store) => (.printed (toString id ++ "\n"), files.keep store place)

/-- Run a command under a configuration. -/
def runCommand (env : Environment) (config : Config) (i : Invocation) (now : Int64)
    (files : Files) : Outcome × Files :=
  let path := config.storePath env i.db
  match i.command with
  | .sortOptions json =>
    (.printed (reportOptions json (Service.ofConfig config).registry.toList), files)
  | .search a => runSearch host config path a files
  | .add a => runAdd host path a now files
  | .completions shell => (.printed (host.wording.completions shell), files)

/-- Run an invocation. -/
def runInvocation (env : Environment) (i : Invocation) (now : Int64) (files : Files) :
    Outcome × Files :=
  match Config.load files (i.config.getD env.configPath) with
  | .error e => (.failed (.config e), files)
  | .ok config => runCommand host env config i now files

/-- Run a command line. -/
def run (env : Environment) (args : List String) (now : Int64) (files : Files) : Outcome × Files :=
  match parse args with
  | .error e => (.ofUsageError host.wording args e, files)
  | .ok i => runInvocation host env i now files

end DashIndex.CommandLine
