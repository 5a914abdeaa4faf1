import DashIndex.Dashboard.Basic

/-!
# The store of dashboards

A store keeps one row per `uid`, numbered in the order in which the uids were
first added, and apart from the rows one entry for each tag of a dashboard.

Adding a dashboard whose uid is there already updates its row: the number and
the time of creation stay, and everything else, the tags included, is replaced.
Every addition takes a number of the sequence, an update too, so the numbers of
new rows may leave gaps. A number is never given out twice.
-/

namespace DashIndex

/-- The state of one dashboard, less its tags. -/
structure Row where
  id : Int
  uid : String
  title : String
  folder : Option String
  views : Int64
  createdAt : Int64
  updatedAt : Int64
  deriving DecidableEq, Repr

/-- One tag of one dashboard. -/
structure TagEntry where
  dashboard : Int
  term : String
  deriving DecidableEq, Repr

/-- All that is kept. -/
structure Store where
  /-- the rows, by ascending number -/
  rows : List Row := []
  tags : List TagEntry := []
  /-- the last number taken from the sequence -/
  lastId : Int := 0
  /-- the note of the schema version, if there is one -/
  schemaVersion : Option String := none
  deriving DecidableEq, Repr

/-- How the writes to a store that is kept in a file are protected. -/
inductive Safeguard where
  /-- they go to a log first -/
  | log
  /-- a journal holds what they replace -/
  | journal
  deriving DecidableEq, Repr

namespace Store

/-- The row of a uid. -/
def row? (s : Store) (uid : String) : Option Row :=
  s.rows.find? (·.uid == uid)

/-- Put a row for a dashboard: an update if its uid is there, else a new row with a number. -/
def putRow (rows : List Row) (id : Int) (d : Dashboard) : List Row :=
  if rows.any (·.uid == d.uid) then
    rows.map fun r =>
      if r.uid == d.uid then
        { r with title := d.title, folder := d.folder, views := d.views, updatedAt := d.updatedAt }
      else r
  else rows ++ [⟨id, d.uid, d.title, d.folder, d.views, d.createdAt, d.updatedAt⟩]

/-- Add a tag to a dashboard unless it is there. -/
def addTag (id : Int) (tags : List TagEntry) (term : String) : List TagEntry :=
  if ⟨id, term⟩ ∈ tags then tags else tags ++ [⟨id, term⟩]

/-- Give a dashboard these tags and no others. -/
def replaceTags (tags : List TagEntry) (id : Int) (terms : List String) : List TagEntry :=
  terms.foldl (addTag id) (tags.filter (·.dashboard != id))

/-- Add a dashboard, or update the one with its uid. Returns the number of its row. -/
def insert (s : Store) (d : Dashboard) : Int × Store :=
  let next := s.lastId + 1
  let rows := putRow s.rows next d
  let id := ((rows.find? (·.uid == d.uid)).map (·.id)).getD next
  (id, { s with rows := rows, tags := replaceTags s.tags id d.tags, lastId := next })

/-- How many dashboards there are. -/
def count (s : Store) : Nat :=
  s.rows.length

/-- The tags of a dashboard, in the order of code points. -/
def tagsFor (s : Store) (id : Int) : List String :=
  ((s.tags.filter (·.dashboard == id)).map (·.term)).mergeSort (· ≤ ·)

/-- Whether a dashboard carries a tag. -/
def hasTag (s : Store) (id : Int) (term : String) : Bool :=
  ⟨id, term⟩ ∈ s.tags

end Store

end DashIndex
