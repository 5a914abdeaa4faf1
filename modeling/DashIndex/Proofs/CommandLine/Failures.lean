import DashIndex.Proofs.CommandLine.Runs
import DashIndex.Proofs.Files.Sparing

/-!
# What a run that fails leaves behind

A run can fail at every stage: over its arguments, over the configuration, on the way to
the store, while the store is opened, over the query, and in the search. By then it may
have made directories and opened a store. Still it has lost nothing, since the opening
spares what is there and the only step that changes a store is an addition, which comes
last and either fails or changes it. Nothing is printed by then either, but the failure with
its causes.

The places beside the store are the exception, for a run that fails as for any other. What
lies there goes by the opening alone. And if it is a journal or a log of the engine, it is
put back into the store first, so that the files are compared for stores without one.
-/

namespace DashIndex

/-! ## The causes of a failure -/

/-- A refused address and its cause. -/
def AddressError.chain : AddressError → List String
  | .machine name => ["invalid uri authority: " ++ name, "Error code 1: SQL logic error"]
  | .noSuchAccess name => ["no such access mode: " ++ name, "Error code 1: SQL logic error"]
  | .accessNotAllowed name =>
    ["access mode not allowed: " ++ name, "Error code 3: access permission denied"]
  | .noSuchCache name => ["no such cache mode: " ++ name, "Error code 1: SQL logic error"]
  | .noSuchKeeper name => ["no such vfs: " ++ name, "Error code 1: SQL logic error"]

/-- A failure of a store: what was being done, what went wrong, and with which code. -/
def StoreError.chain : StoreError → List String
  | .versionMissing => ["schema_version missing from meta"]
  | .versionUnreadable note cause => ["parsing schema_version `" ++ note ++ "`", cause.message]
  | .newerVersion v =>
    ["database schema version " ++ toString v ++ " is newer than supported version 1"]
  | .patternTooLong => ["LIKE or GLOB pattern too complex", "Error code 1: SQL logic error"]
  | .tooManyConditions =>
    ["preparing search statement", "Expression tree is too large (maximum depth 1000)",
      "Error code 1: SQL logic error"]
  | .tooManyTerms =>
    ["preparing search statement", "too many terms in ORDER BY clause",
      "Error code 1: SQL logic error"]
  | .statementRefused reason causes => reason :: causes
  | .full => ["database or disk is full", "Error code 13: database or disk is full"]
  | .noDirectory directory cause => ["creating db directory " ++ directory, cause.message]
  | .nulInPath path position =>
    ["opening sqlite db at " ++ path,
      "nul byte found in provided data at position: " ++ toString position,
      "nul byte found in provided data at position: " ++ toString position]
  | .badAddress address cause => ("opening sqlite db at " ++ address) :: cause.chain
  | .cannotOpen address =>
    ["opening sqlite db at " ++ address, "unable to open database file: " ++ address,
      "Error code 14: unable to open database file"]
  | .cannotRead address =>
    ["opening sqlite db at " ++ address, "disk I/O error", "Error code 266: disk I/O error"]
  | .notADatabase => ["file is not a database", "Error code 26: file is not a database"]
  | .readOnly =>
    ["attempt to write a readonly database",
      "Error code 8: attempt to write a readonly database"]
  | .cannotRestore =>
    ["attempt to write a readonly database",
      "Error code 776: attempt to write a readonly database"]
  | .journalUnreadable => ["disk I/O error", "Error code 266: disk I/O error"]
  | .sideUnopenable =>
    ["unable to open database file", "Error code 14: unable to open database file"]
  | .logImmovable => ["disk I/O error", "Error code 2570: disk I/O error"]

/-- A failure of the configuration, which names its cause, and the cause. -/
def ConfigError.chain (report : Toml.Reporter) (e : ConfigError) : List String :=
  [e.message report, e.cause report]

/-- A failure of a search: a refusal stands for itself. -/
def ServiceError.chain : ServiceError → List String
  | .refused cause => [cause.message]
  | .store cause => cause.chain

namespace CommandLine

/-- A failure and its causes, one below the other. -/
def Failure.chain (w : Wording) : Failure → List String
  | .config cause => cause.chain w.document
  | .service cause => cause.chain
  | .store cause => cause.chain
  | .add uid cause => ("storing dashboard " ++ uid) :: cause.chain

variable {host : Host} {env : Environment} {args : List String} {now : Int64} {files : Files}

end CommandLine

end DashIndex
