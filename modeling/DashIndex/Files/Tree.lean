import DashIndex.Files.Path
import DashIndex.Store.Error

/-!
# The files that a run sees

A tree of files is kept flat: a list of places, each the segments from the root,
with what lies there. A place that is not listed is empty; the root is always a
directory.

A path is followed segment by segment, so every segment but the last must lead
to a directory. Paths and segments have a greatest length.
-/

namespace DashIndex

/-- What lies at a place. -/
inductive Entry where
  | directory
  | file (content : List UInt8)
  | database (safeguard : Safeguard) (store : Store)
  deriving DecidableEq

/-- Whether an entry is a directory. -/
def Entry.isDirectory : Entry → Bool
  | .directory => true
  | _ => false

/-- A tree of files and the working directory in it. -/
structure Files where
  workingDirectory : List String := []
  entries : List (List String × Entry) := []
  deriving DecidableEq

/-- Where following a path ends. -/
inductive Located where
  /-- at something -/
  | found (place : List String) (entry : Entry)
  /-- at an empty place in a directory -/
  | vacant (place : List String)
  /-- before its last segment, as a directory is missing -/
  | missing
  /-- at a file that is taken for a directory -/
  | blocked
  /-- nowhere, as the path or a segment is too long -/
  | tooLong
  deriving DecidableEq

namespace Files

/-- What lies at a place. -/
def entry? (fs : Files) (place : List String) : Option Entry :=
  if place = [] then some .directory
  else (fs.entries.find? (·.1 == place)).map (·.2)

/-- The tree with something at a place. -/
def put (fs : Files) (place : List String) (e : Entry) : Files :=
  { fs with entries := (place, e) :: fs.entries.filter (·.1 != place) }

/-- The tree with nothing at a place. -/
def remove (fs : Files) (place : List String) : Files :=
  { fs with entries := fs.entries.filter (·.1 != place) }

/-- Follow segments from a place on. -/
def follow (fs : Files) (place : List String) : List String → Located
  | [] =>
    match fs.entry? place with
    | some e => .found place e
    | none => .vacant place
  | segment :: rest =>
    match fs.entry? place with
    | some .directory =>
      if Path.isIdle segment then follow fs place rest
      else if segment = ".." then follow fs place.dropLast rest
      else if Path.maxSegment < segment.utf8ByteSize then .tooLong
      else follow fs (place ++ [segment]) rest
    | some _ => .blocked
    | none => .missing

/-- The place where a path starts. -/
def startOf (fs : Files) (path : String) : List String :=
  if Path.isAbsolute path then [] else fs.workingDirectory

/-- Follow a path; the empty one leads nowhere. -/
def locate (fs : Files) (path : String) : Located :=
  if path = "" then .missing
  else if Path.maxPath < path.utf8ByteSize then .tooLong
  else fs.follow (fs.startOf path) (Path.segments path)

/-! ## Directories -/

/-- What making one directory comes to. -/
inductive Made where
  | done (fs : Files)
  | taken (e : Entry)
  | missing
  | blocked
  | tooLong

/-- Make one directory. -/
def makeDirectory (fs : Files) (path : String) : Made :=
  match fs.locate path with
  | .vacant place => .done (fs.put place .directory)
  | .found _ e => .taken e
  | .missing => .missing
  | .blocked => .blocked
  | .tooLong => .tooLong

/--
Go up from a path until a directory can be made or is there. Returns the paths
above which that happened, the shortest first, and the tree.
-/
def climb (fs : Files) (waiting : List String) :
    List String → Except DirectoryError (List String × Files)
  | [] => .ok (waiting, fs)
  | path :: above =>
    match fs.makeDirectory path with
    | .done fs => .ok (waiting, fs)
    | .taken e => if e.isDirectory then .ok (waiting, fs) else .error .fileExists
    | .missing => climb fs (path :: waiting) above
    | .blocked => .error .notADirectory
    | .tooLong => .error .nameTooLong

/-- Make directories one after the other; those made before a failure stay. -/
def makeEach (fs : Files) : List String → Except DirectoryError Unit × Files
  | [] => (.ok (), fs)
  | path :: rest =>
    match fs.makeDirectory path with
    | .done fs => makeEach fs rest
    | .taken e => if e.isDirectory then makeEach fs rest else (.error .fileExists, fs)
    | .missing => (.error .missing, fs)
    | .blocked => (.error .notADirectory, fs)
    | .tooLong => (.error .nameTooLong, fs)

/-- Make a directory and those above it that are missing. -/
def makeDirectories (fs : Files) (path : String) : Except DirectoryError Unit × Files :=
  if path.toList.contains '\x00' then (.error .containsNul, fs)
  else
    match fs.climb [] (Path.ancestors path) with
    | .error e => (.error e, fs)
    | .ok (waiting, fs) => makeEach fs waiting

end Files

end DashIndex
