import DashIndex.Store.Error
import DashIndex.Text.Integer

/-!
# The schema version of a store

A store carries a note of the schema version that it was written with. Opening a
store gives it a note, if it has none, and brings it to the supported version; a
store that says it is newer is refused. A note that cannot be read counts as
version zero when the store is opened, but is an error when one asks for it.
-/

namespace DashIndex.Store

/-- The version that is supported. -/
def currentVersion : Int := 1

/-- The version that a note states. -/
def version (s : Store) : Except StoreError Int :=
  match s.schemaVersion with
  | none => .error .versionMissing
  | some note =>
    match Text.readInt64 note with
    | .ok v => .ok v
    | .error cause => .error (.versionUnreadable note cause)

/-- The version that opening goes by: a note that is missing or unreadable counts as zero. -/
def assumedVersion (note : Option String) : Int :=
  match note.map Text.readInt64 with
  | some (.ok v) => v
  | _ => 0

/-- Bring a store to the supported version; all that it holds stays. -/
def migrate (s : Store) : Except StoreError Store :=
  let v := assumedVersion s.schemaVersion
  if v = currentVersion then .ok s
  else if currentVersion < v then .error (.newerVersion v)
  else .ok { s with schemaVersion := some (toString currentVersion) }

/-- The store with a note: of version zero, if it has none. -/
def noted (s : Store) : Store :=
  { s with schemaVersion := some (s.schemaVersion.getD "0") }

/--
Open a store that is there: give it a note and bring it to the supported version.
What was done before a refusal stays.
-/
def opened (s : Store) : Except StoreError Unit × Store :=
  match s.noted.migrate with
  | .error e => (.error e, s.noted)
  | .ok s' => (.ok (), s')

/-- A new store at the supported version. -/
def fresh : Store := { schemaVersion := some (toString currentVersion) }

example : opened {} = (.ok (), fresh) := rfl

end DashIndex.Store
