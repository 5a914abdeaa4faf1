import DashIndex.Files.Tree

/-!
# What a run that broke off has left

A store that is kept has a file, and beside it, while it is used, a journal, or a
log and an index of the log. They carry the name of the file with an ending. A run
that breaks off leaves them behind: the journal holds what has to be put back into
the file, and the log what has still to be written into it.

The formats of these files, and that of the database itself, are those of the engine
that keeps the stores. Here only the marks by which the engine knows its own are
read. What it makes of such a file is a parameter, and files without the mark have
nothing to say to it.
-/

namespace DashIndex

/-- How a file of a database starts. -/
def databaseMark : List UInt8 :=
  [0x53, 0x51, 0x4c, 0x69, 0x74, 0x65, 0x20, 0x66, 0x6f, 0x72, 0x6d, 0x61, 0x74, 0x20, 0x33, 0]

/-- How a journal starts; it also ends so if it names other journals. -/
def journalMark : List UInt8 := [0xd9, 0xd5, 0x05, 0xf9, 0x20, 0xa1, 0x63, 0xd7]

/-- How a log starts; the byte after that is one of two. -/
def logMark : List UInt8 := [0x37, 0x7f, 0x06]

/-- Whether this is the content of a database. -/
def isDatabase (content : List UInt8) : Bool := databaseMark.isPrefixOf content

/-- Whether this is the content of a journal. -/
def isJournal (content : List UInt8) : Bool :=
  journalMark.isPrefixOf content || journalMark.isSuffixOf content

/-- Whether this is the content of a log. -/
def isLog (content : List UInt8) : Bool := logMark.isPrefixOf content

/-- What the engine makes of files in its own formats. -/
structure Recovery where
  /-- the file of a store once a journal is played back into it -/
  playBack : (journal : List UInt8) → Entry → Entry
  /-- the file of a store once a log is written into it -/
  replay : (log : List UInt8) → Entry → Entry
  /-- the store that a database of another program does for; none if there is nothing in it -/
  adopt : (content : List UInt8) → Except StoreError (Option (Safeguard × Store))
  /-- what is left of a database that does for no store -/
  attempt : (content : List UInt8) → List UInt8
  playBack_ne_directory : ∀ journal e, e ≠ .directory → playBack journal e ≠ .directory
  replay_ne_directory : ∀ log e, e ≠ .directory → replay log e ≠ .directory

/-- There is no engine: nothing is put back, and no other program's database is read. -/
def Recovery.absent : Recovery where
  playBack _ e := e
  replay _ e := e
  adopt _ := .error .notADatabase
  attempt content := content
  playBack_ne_directory _ _ h := h
  replay_ne_directory _ _ h := h

namespace Files

/-! ## The files beside a store -/

/-- The place beside another one whose name has an ending more. -/
def beside (place : List String) (ending : String) : List String :=
  place.dropLast ++ [place.getLastD "" ++ ending]

/-- The place of the journal. -/
def journalOf (place : List String) : List String := beside place "-journal"

/-- The place of the log. -/
def logOf (place : List String) : List String := beside place "-wal"

/-- The place of the index of the log. -/
def indexOf (place : List String) : List String := beside place "-shm"

/-- Whether there is a directory at a place. -/
def isDirectory (fs : Files) (place : List String) : Bool :=
  (fs.entry? place).any Entry.isDirectory

/-- Whether there is something at a place; a file without content counts as nothing. -/
def isUsed (fs : Files) (place : List String) : Bool :=
  match fs.entry? place with
  | none => false
  | some (.file content) => !content.isEmpty
  | some _ => true

/-- Whether the file of a store holds anything; one byte counts as nothing. -/
def isFilled (fs : Files) (place : List String) : Bool :=
  match fs.entry? place with
  | some (.file content) => 1 < content.length
  | some (.database _ _) => true
  | _ => false

/-! ## Putting back -/

/-- The tree once the journal of a store is played back. -/
def playBack (fs : Files) (recovery : Recovery) (place : List String) : Files :=
  match fs.entry? (journalOf place), fs.entry? place with
  | some (.file journal), some e =>
    if isJournal journal then fs.put place (recovery.playBack journal e) else fs
  | _, _ => fs

/-- The tree once the log of a filled store is written; that needs the index of the log. -/
def replay (fs : Files) (recovery : Recovery) (place : List String) : Files :=
  match fs.entry? (logOf place), fs.entry? place with
  | some (.file log), some e =>
    if isLog log && fs.isFilled place && !fs.isDirectory (indexOf place) then
      fs.put place (recovery.replay log e)
    else fs
  | _, _ => fs

/-- The tree once an opening has stopped at the database of another program. -/
def attempt (fs : Files) (recovery : Recovery) (place : List String) : Files :=
  match fs.entry? place with
  | some (.file content) =>
    if isDatabase content then fs.put place (.file (recovery.attempt content)) else fs
  | _ => fs

end Files

end DashIndex
