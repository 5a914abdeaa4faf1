import DashIndex.Json.Printer
import DashIndex.Json.Reader
import DashIndex.Store.Basic

/-!
# Stores as texts

Between two runs a store is kept as a text: a JSON object with a mark, the note
of the schema version, the last number of the sequence, the rows and the tags.
The mark says how its writes are protected. A text without a mark, or with
anything ill-formed in it, is no store.
-/

namespace DashIndex

/-- A row as an array. -/
def Row.toJson (r : Row) : Json :=
  .array
    [.integer r.id, .string r.uid, .string r.title, Json.ofText? r.folder, .integer r.views.toInt,
      .integer r.createdAt.toInt, .integer r.updatedAt.toInt]

/-- The row that an array describes. -/
def Row.ofJson? : Json → Option Row
  | .array [.integer id, .string uid, .string title, folder, .integer views, .integer created,
      .integer updated] =>
    let row (folder : Option String) : Row :=
      ⟨id, uid, title, folder, Int64.ofInt views, Int64.ofInt created, Int64.ofInt updated⟩
    match folder with
    | .null => some (row none)
    | .string f => some (row (some f))
    | _ => none
  | _ => none

/-- A tag as an array. -/
def TagEntry.toJson (t : TagEntry) : Json :=
  .array [.integer t.dashboard, .string t.term]

/-- The tag that an array describes. -/
def TagEntry.ofJson? : Json → Option TagEntry
  | .array [.integer dashboard, .string term] => some ⟨dashboard, term⟩
  | _ => none

namespace Store

/-- The mark of a store. -/
def mark : Safeguard → String
  | .log => "dashboards"
  | .journal => "dashboards with journal"

/-- The safeguard of a mark. -/
def ofMark? (found : String) : Option Safeguard :=
  if found = mark .log then some .log
  else if found = mark .journal then some .journal
  else none

/-- A store as an object. -/
def toJson (s : Store) (g : Safeguard) : Json :=
  .object
    [("format", .string (mark g)), ("schemaVersion", Json.ofText? s.schemaVersion),
      ("lastId", .integer s.lastId), ("rows", .array (s.rows.map Row.toJson)),
      ("tags", .array (s.tags.map TagEntry.toJson))]

/-- The store that an object describes. -/
def ofJson? : Json → Option (Safeguard × Store)
  | .object
      [("format", .string found), ("schemaVersion", note), ("lastId", .integer lastId),
        ("rows", .array rows), ("tags", .array tags)] => do
    let g ← ofMark? found
    let rows ← rows.mapM Row.ofJson?
    let tags ← tags.mapM TagEntry.ofJson?
    match note with
    | .null => some (g, ⟨rows, tags, lastId, none⟩)
    | .string v => some (g, ⟨rows, tags, lastId, some v⟩)
    | _ => none
  | _ => none

/-- A store as a text. -/
def snapshot (s : Store) (g : Safeguard) : String := (s.toJson g).pretty

/-- The store that a text keeps. -/
def ofSnapshot? (text : String) : Option (Safeguard × Store) :=
  (Json.parse? text).bind ofJson?

end Store

end DashIndex
