import DashIndex.Store.Address
import DashIndex.Store.Basic
import DashIndex.Text.Integer

/-!
# What can go wrong with a store

Each failure is a cause with its data; `message` words it together with the
causes below it, separated by colons. An addition is here as the step that can
fail: there are only so many numbers.
-/

namespace DashIndex

/-- Why a directory for a store cannot be made. -/
inductive DirectoryError where
  /-- the name is taken by a file -/
  | fileExists
  /-- a part of the path leads through a file -/
  | notADirectory
  /-- a directory above it is missing -/
  | missing
  /-- the path or a name in it is too long -/
  | nameTooLong
  /-- the path holds a NUL -/
  | containsNul
  deriving DecidableEq, Repr

/-- The wording of a directory failure. -/
def DirectoryError.message : DirectoryError → String
  | .fileExists => "File exists (os error 17)"
  | .notADirectory => "Not a directory (os error 20)"
  | .missing => "No such file or directory (os error 2)"
  | .nameTooLong => "File name too long (os error 36)"
  | .containsNul => "file name contained an unexpected NUL byte"

/-- A failure of a store. -/
inductive StoreError where
  /-- there is no note of the schema version -/
  | versionMissing
  /-- the note of the schema version is no integer -/
  | versionUnreadable (note : String) (cause : Text.IntegerError)
  /-- the store was written with a later version -/
  | newerVersion (version : Int)
  /-- a title pattern is longer than what is held against titles -/
  | patternTooLong
  /-- a statement has too many conditions -/
  | tooManyConditions
  /-- a statement has too many order terms -/
  | tooManyTerms
  /-- a statement with terms from outside is refused, for a reason and its causes -/
  | statementRefused (reason : String) (causes : List String)
  /-- all row numbers are taken -/
  | full
  /-- the directory of the store cannot be made -/
  | noDirectory (directory : String) (cause : DirectoryError)
  /-- the path of the store holds a NUL at this byte -/
  | nulInPath (path : String) (position : Nat)
  /-- the address of the store is refused -/
  | badAddress (address : String) (cause : AddressError)
  /-- there is no file at the place of the store, and none can be made -/
  | cannotOpen (address : String)
  /-- there is a directory at the place of the store, which is only to be read -/
  | cannotRead (address : String)
  /-- the file at the place of the store is something else -/
  | notADatabase
  /-- the store may not be changed -/
  | readOnly
  /-- what a journal keeps cannot be put back, as the store may not be changed -/
  | cannotRestore
  /-- the journal is a directory -/
  | journalUnreadable
  /-- the journal or the log cannot be opened -/
  | sideUnopenable
  /-- the log is a directory and cannot be taken away -/
  | logImmovable
  deriving DecidableEq, Repr

/-- The wording of a failure and its causes. -/
def StoreError.message : StoreError → String
  | .versionMissing => "schema_version missing from meta"
  | .versionUnreadable note cause => "parsing schema_version `" ++ note ++ "`: " ++ cause.message
  | .newerVersion v =>
    "database schema version " ++ toString v ++ " is newer than supported version 1"
  | .patternTooLong => "LIKE or GLOB pattern too complex: Error code 1: SQL logic error"
  | .tooManyConditions =>
    "preparing search statement: Expression tree is too large (maximum depth 1000): "
      ++ "Error code 1: SQL logic error"
  | .tooManyTerms =>
    "preparing search statement: too many terms in ORDER BY clause: Error code 1: SQL logic error"
  | .statementRefused reason causes => ": ".intercalate (reason :: causes)
  | .full => "database or disk is full: Error code 13: database or disk is full"
  | .noDirectory directory cause => "creating db directory " ++ directory ++ ": " ++ cause.message
  | .nulInPath path position =>
    let cause := "nul byte found in provided data at position: " ++ toString position
    "opening sqlite db at " ++ path ++ ": " ++ cause ++ ": " ++ cause
  | .badAddress address cause => "opening sqlite db at " ++ address ++ ": " ++ cause.message
  | .cannotOpen address =>
    "opening sqlite db at " ++ address ++ ": unable to open database file: " ++ address
      ++ ": Error code 14: unable to open database file"
  | .cannotRead address =>
    "opening sqlite db at " ++ address ++ ": disk I/O error: Error code 266: disk I/O error"
  | .notADatabase => "file is not a database: Error code 26: file is not a database"
  | .readOnly =>
    "attempt to write a readonly database: Error code 8: attempt to write a readonly database"
  | .cannotRestore =>
    "attempt to write a readonly database: Error code 776: attempt to write a readonly database"
  | .journalUnreadable => "disk I/O error: Error code 266: disk I/O error"
  | .sideUnopenable => "unable to open database file: Error code 14: unable to open database file"
  | .logImmovable => "disk I/O error: Error code 2570: disk I/O error"

/--
Add a dashboard if there is a number left for it. An update takes a number of the
sequence too, so it is refused like a new row once the greatest one is taken.
-/
def Store.add (s : Store) (d : Dashboard) : Except StoreError (Int × Store) :=
  if s.lastId < Text.maxInt64 then .ok (s.insert d) else .error .full

end DashIndex
