import DashIndex.Dashboard.Decoding
import DashIndex.Service.Basic
import DashIndex.Store.Version

/-!
# Sessions

A session is a service over one store, taken through a sequence of steps. Each
step has an answer; a step that fails answers with the failure, and the session
goes on with the store as the step left it.

A search comes with what the database makes of statements while it is answered.
That may change from one search to the next, as a term from outside may draw
numbers or look at the clock.
-/

namespace DashIndex

/-- Where the store of a session lives: a file outlives its being opened again. -/
inductive StoreKind where
  | memory
  | file
  deriving DecidableEq, Repr

/-- One request to a session. -/
inductive Step where
  | add (dashboard : Json)
  /-- answer a query, with what the database makes of statements at that moment -/
  | search (query : Query) (evaluate : Evaluator)
  | register (option : SortOption)
  | sortOptions
  | sortOption (name : String)
  | names
  | config
  | count
  | tagsFor (id : Int)
  | schemaVersion
  | dump
  /-- write the note of the schema version, or take it away -/
  | setSchemaVersion (note : Option String)
  | reopen

/-- The answer to a request. -/
inductive Answer where
  | rowId (id : Int)
  | hits (hits : List Hit)
  | size (n : Nat)
  | options (os : List SortOption)
  | option? (o : Option SortOption)
  | texts (ts : List String)
  | settings (c : Config)
  | version (v : Int)
  | rows (rs : List Row)
  | done
  | invalidDashboard (cause : DecodeError)
  | searchFailed (cause : ServiceError)
  | storeFailed (cause : StoreError)

/-- Whether an answer reports a failure. -/
def Answer.isFailure : Answer → Bool
  | .invalidDashboard _ | .searchFailed _ | .storeFailed _ => true
  | _ => false

/-- A service over one store. -/
structure Session where
  service : Service
  kind : StoreKind
  store : Store

namespace Session

/-- A session over a new store. -/
def start (service : Service) (kind : StoreKind) : Session :=
  ⟨service, kind, Store.fresh⟩

/-- Open the store again; one in memory is a new one then. -/
def reopen (s : Session) : Except StoreError Unit × Store :=
  match s.kind with
  | .memory => (.ok (), Store.fresh)
  | .file => s.store.opened

/-- Take one step. -/
def step (s : Session) : Step → Answer × Session
  | .add dashboard =>
    match Dashboard.ofJson dashboard with
    | .error e => (.invalidDashboard e, s)
    | .ok d =>
      match s.store.add d with
      | .error e => (.storeFailed e, s)
      | .ok (id, store) => (.rowId id, { s with store := store })
  | .search query evaluate =>
    match s.service.search evaluate s.store query with
    | .error e => (.searchFailed e, s)
    | .ok hits => (.hits hits, s)
  | .register option =>
    let service := s.service.register option
    (.size service.registry.size, { s with service := service })
  | .sortOptions => (.options s.service.registry.toList, s)
  | .sortOption name => (.option? (s.service.registry.get? name), s)
  | .names => (.texts s.service.registry.names, s)
  | .config => (.settings s.service.config, s)
  | .count => (.size s.store.count, s)
  | .tagsFor id => (.texts (s.store.tagsFor id), s)
  | .schemaVersion =>
    match s.store.version with
    | .error e => (.storeFailed e, s)
    | .ok v => (.version v, s)
  | .dump => (.rows s.store.rows, s)
  | .setSchemaVersion note => (.done, { s with store := { s.store with schemaVersion := note } })
  | .reopen =>
    match s.reopen with
    | (.error e, store) => (.storeFailed e, { s with store := store })
    | (.ok (), store) => (.done, { s with store := store })

/-- Take steps one after the other and collect the answers. -/
def run (s : Session) : List Step → List Answer
  | [] => []
  | x :: xs => (s.step x).1 :: run (s.step x).2 xs

end Session

end DashIndex
