import DashIndex.Files.Recovery
import DashIndex.Store.Version

/-!
# Opening stores

What an earlier run has left beside a store is put back and cleared away when the
store is opened, and what this run leaves is gone when it ends; so a store that
lies there is lost. A directory that lies there stops the run.

The steps of opening come in a fixed order, and each can fail: the directory of
the store is made, its address is read, its place is found and its file is made;
then the journal and the log of an earlier run are settled, the content is read,
and the store is brought to the supported version. What was done before a failure
stays.
-/

namespace DashIndex

/-- Where an open store is kept. -/
inductive StorePlace where
  /-- nowhere: it ends with the run -/
  | transient
  /-- at a place in the tree -/
  | kept (place : List String) (safeguard : Safeguard)
  deriving DecidableEq, Repr

namespace Files

/-! ## The place of a store -/

/-- The number of bytes of a place written as a path. -/
def placeSize : List String → Nat
  | [] => 0
  | segment :: rest => segment.utf8ByteSize + 1 + placeSize rest

/-- The greatest size of a place on the way to a store. -/
def maxPassed : Nat := 511

/-- The greatest size of the place of a store; the endings need the rest. -/
def maxStorePlace : Nat := 504

/--
Shorten segments from a place on: `..` takes away the segment before it, whether
there is a directory or nothing. The way may not lead through a file, and a
segment below a directory may not be too long.
-/
def shorten (fs : Files) (place : List String) : List String → Option (List String)
  | [] => some place
  | segment :: rest =>
    if Path.isIdle segment then shorten fs place rest
    else if segment = ".." then shorten fs place.dropLast rest
    else if maxPassed < placeSize (place ++ [segment]) then none
    else
      match fs.entry? place with
      | none => shorten fs (place ++ [segment]) rest
      | some .directory =>
        if Path.maxSegment < segment.utf8ByteSize then none
        else shorten fs (place ++ [segment]) rest
      | some _ => none

/-- The place that the path of a store stands for. -/
def storePlace? (fs : Files) (path : String) : Option (List String) :=
  (fs.shorten (fs.startOf path) (Path.segments path)).filter fun place =>
    placeSize place ≤ maxStorePlace

/-! ## What an earlier run has left -/

/-- Whether a journal can be made: its name fits, and no directory is there. -/
def canKeepJournal (fs : Files) (place : List String) : Bool :=
  ((journalOf place).getLastD "").utf8ByteSize ≤ Path.maxSegment
    && !fs.isDirectory (journalOf place)

/--
Settle the journal that an earlier run has left: beside a filled store it is played
back, which needs a store that may be changed, and beside an empty one there is
nothing to put back. Then it is taken away. One that starts with the byte zero is
finished, and stays beside a filled store.
-/
def settleJournal (fs : Files) (recovery : Recovery) (readOnly : Bool) (place : List String) :
    Except StoreError Files :=
  if !fs.isUsed (journalOf place) then .ok fs
  else if fs.isDirectory (journalOf place) then
    if fs.isFilled place then .error .journalUnreadable else .ok fs
  else if !fs.isFilled place then
    if readOnly then .ok fs else .ok (fs.remove (journalOf place))
  else
    match fs.entry? (journalOf place) with
    | some (.file (0 :: _)) => .ok fs
    | _ =>
      if readOnly then .error .cannotRestore
      else .ok ((fs.playBack recovery place).remove (journalOf place))

/--
Settle the log that an earlier run has left: beside a filled store it is read,
which needs a keeper that logs, and beside an empty one it is taken away.
-/
def settleLog (fs : Files) (logging : Bool) (place : List String) : Except StoreError Files :=
  if !fs.isUsed (logOf place) then .ok fs
  else if fs.isFilled place then
    if fs.isDirectory (logOf place) || !logging then .error .sideUnopenable else .ok fs
  else if fs.isDirectory (logOf place) then .error .logImmovable
  else .ok (fs.remove (logOf place))

/-- The tree without the log and its index. -/
def dropLog (fs : Files) (place : List String) : Files :=
  (fs.remove (logOf place)).remove (indexOf place)

/-! ## The steps of opening -/

/--
The store in the file at a place; none if there is nothing in the file. A database
of another program may do for a store.
-/
def contentAt (fs : Files) (recovery : Recovery) (place : List String) :
    Except StoreError (Option (Safeguard × Store)) :=
  match fs.entry? place with
  | some (.database safeguard store) => .ok (some (safeguard, store))
  | some (.file content) =>
    if !fs.isFilled place then .ok none
    else if isDatabase content then recovery.adopt content
    else .error .notADatabase
  | _ => .ok none

/--
Make a store ready for changes: a log takes the place of a journal, a new store
is put into the file, and an old one is brought to the supported version. The
first write of a new store, and the step to a log, need a journal.
-/
def prepare (fs : Files) (logging : Bool) (place : List String)
    (content : Option (Safeguard × Store)) : Except StoreError (StorePlace × Store) × Files :=
  let safeguard := if logging then Safeguard.log else .journal
  let store := (content.map (·.2)).getD Store.fresh
  let changes := content.map (·.1) != some safeguard
  if changes && !fs.canKeepJournal place then (.error .sideUnopenable, fs)
  else
    let fs := fs.put place (.database safeguard store)
    let fs := if changes then fs.remove (journalOf place) else fs
    if logging && fs.isDirectory (indexOf place) then
      let left := if fs.isUsed (logOf place) then fs else fs.put (logOf place) (.file [])
      (.error .readOnly, left)
    else
      let fs := if logging then fs.dropLog place else fs
      let (outcome, store) := store.opened
      (outcome.map fun () => (.kept place safeguard, store),
        fs.put place (.database safeguard store))

/-- Open the store whose file is at a place. -/
def openFile (fs : Files) (recovery : Recovery) (a : StoreAddress) (place : List String) :
    Except StoreError (StorePlace × Store) × Files :=
  let logging := a.keeper = .logging && !a.frozen
  let readOnly := a.access = .read || a.frozen
  let settled :=
    if a.frozen then .ok fs else fs.settleJournal recovery (a.access = .read) place
  match settled with
  | .error e => (.error e, fs)
  | .ok fs =>
    match if a.frozen then .ok fs else fs.settleLog logging place with
    | .error e => (.error e, fs)
    | .ok fs =>
      let read := if a.frozen then fs else fs.replay recovery place
      match read.contentAt recovery place with
      | .error e =>
        let left := if readOnly then fs else read.attempt recovery place
        let reading := fs.isUsed (logOf place) && !readOnly && !fs.isDirectory (indexOf place)
        (.error e, if reading then left.dropLog place else left)
      | .ok content =>
        if content.map (·.1) = some .log && !a.frozen && !logging then (.error .sideUnopenable, fs)
        else if readOnly then (.error .readOnly, fs)
        else read.prepare logging place content

/-- Open the store at a place, making its file if the address allows that. -/
def openPlace (fs : Files) (recovery : Recovery) (address : String) (a : StoreAddress)
    (place : List String) : Except StoreError (StorePlace × Store) × Files :=
  if !fs.isDirectory place.dropLast then (.error (.cannotOpen address), fs)
  else
    match fs.entry? place with
    | none =>
      if a.access = .create then (fs.put place (.file [])).openFile recovery a place
      else (.error (.cannotOpen address), fs)
    | some .directory =>
      (.error (if a.access = .read then .cannotRead address else .cannotOpen address), fs)
    | some _ => fs.openFile recovery a place

/-- Open the store at an address that has been read. -/
def openAddress (fs : Files) (recovery : Recovery) (address : String) (a : StoreAddress) :
    Except StoreError (StorePlace × Store) × Files :=
  if a.isTransient then
    (if a.access = .read then .error .readOnly else .ok (.transient, Store.fresh), fs)
  else
    match fs.storePlace? a.path with
    | none => (.error (.cannotOpen address), fs)
    | some place => fs.openPlace recovery address a place

/-- The number of UTF-8 bytes before the first NUL, if there is a NUL. -/
def nulPosition? (path : String) : Option Nat :=
  if path.toList.contains '\x00' then
    some (String.ofList (path.toList.takeWhile (· != '\x00'))).utf8ByteSize
  else none

/-- Make the directory that a store needs; an address counts as a path here. -/
def makeStoreDirectory (fs : Files) (address : String) : Except StoreError Unit × Files :=
  match Path.parent? address with
  | none => (.ok (), fs)
  | some directory =>
    match fs.makeDirectories directory with
    | (.ok (), fs) => (.ok (), fs)
    | (.error e, fs) => (.error (.noDirectory directory e), fs)

/-- Open the store at an address, or make a new one there. -/
def openStore (fs : Files) (recovery : Recovery) (address : String) :
    Except StoreError (StorePlace × Store) × Files :=
  match fs.makeStoreDirectory address with
  | (.error e, fs) => (.error e, fs)
  | (.ok (), fs) =>
    match nulPosition? address with
    | some position => (.error (.nulInPath address position), fs)
    | none =>
      match StoreAddress.ofText address with
      | .error e => (.error (.badAddress address e), fs)
      | .ok a => fs.openAddress recovery address a

/-- Keep a store at its place. -/
def keep (fs : Files) (store : Store) : StorePlace → Files
  | .transient => fs
  | .kept place safeguard => fs.put place (.database safeguard store)

end Files

end DashIndex
