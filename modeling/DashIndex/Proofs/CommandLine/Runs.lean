import DashIndex.CommandLine.Run
import DashIndex.Proofs.Files.Opening

/-!
# Many runs over one store

Every run opens the store, and every addition puts it back. Between two runs there is
nothing but files. Still the runs answer as one service would that opens the store
once and keeps it: the first opening leaves a store that stands, a run over a standing
store finds it as it is, and what it leaves stands again, with the store that the
service has by then.

The service answers an addition with its number until the greatest one is given out, so
that is how far the runs print numbers too.

Two kinds of address are different, by design of what keeps the stores. A store in
memory ends with its run. And an address may lead to its file by a way over places
where nothing lies yet; once the file is there, its own way may lead through it, and
then it leads nowhere.
-/

namespace DashIndex.CommandLine

/-! ## A service that stays -/

/-- What is asked of a service. -/
inductive Request where
  | add (dashboard : Dashboard)
  | search (query : Query) (json : Bool)
  deriving DecidableEq, Repr

/-- Whether a request is an addition. -/
def Request.isAddition : Request → Bool
  | .add _ => true
  | .search _ _ => false

/-- The answer of a service over an open store, as it is printed, and the store after it. -/
def answer (evaluate : Evaluator) (service : Service) (store : Store) : Request → Outcome × Store
  | .add d =>
    match store.add d with
    | .ok (id, store) => (.printed (toString id ++ "\n"), store)
    | .error e => (.failed (.add d.uid e), store)
  | .search q json =>
    match service.search evaluate store q with
    | .ok hits => (.printed (reportHits json hits), store)
    | .error e => (.failed (.service e), store)

/-- The answers to requests one after the other. The store stays open. -/
def answers (evaluate : Evaluator) (service : Service) (store : Store) :
    List Request → List Outcome
  | [] => []
  | r :: rs =>
    (answer evaluate service store r).1
      :: answers evaluate service (answer evaluate service store r).2 rs

/-- The query of a search; the configuration stands in for a limit or an order that is not given. -/
def SearchArguments.asked (a : SearchArguments) (config : Config) : Query where
  text := a.query
  tags := a.tags
  folder := a.folder
  sort := some (a.sort.getD config.defaultSort)
  limit := a.limit.getD config.defaultLimit
  page := a.page

/-- What a command asks of the store, if it is one that works on the store. -/
def Command.request? (config : Config) (now : Int64) : Command → Option Request
  | .add a =>
    some (.add
      { uid := a.uid, title := a.title, folder := a.folder, tags := a.tags, views := a.views,
        createdAt := now, updatedAt := now })
  | .search a => some (.search (a.asked config) a.json)
  | .sortOptions _ | .completions _ => none

/-! ## Runs one after the other -/

/-- The arguments and the time of a run. -/
structure Launch where
  args : List String
  now : Int64
  deriving DecidableEq, Repr

/-- What runs one after the other come to, and the files after the last. -/
def runAll (host : Host) (env : Environment) (files : Files) : List Launch → List Outcome × Files
  | [] => ([], files)
  | l :: ls =>
    ((run host env l.args l.now files).1
        :: (runAll host env (run host env l.args l.now files).2 ls).1,
      (runAll host env (run host env l.args l.now files).2 ls).2)

/-- The arguments are accepted and ask this, under this configuration and of the store there. -/
def Launch.Asks (env : Environment) (config : Config) (path : String) (files : Files) (l : Launch)
    (r : Request) : Prop :=
  ∃ i, parse l.args = .ok i ∧ Config.load files (i.config.getD env.configPath) = .ok config
    ∧ config.storePath env i.db = path ∧ i.command.request? config l.now = some r

/-- Each run asks under the same configuration and of the store at the same path. -/
inductive Steady (host : Host) (env : Environment) (config : Config) (path : String) :
    Files → List Launch → List Request → Prop where
  | nil {files : Files} : Steady host env config path files [] []
  | cons {files : Files} {l : Launch} {ls : List Launch} {r : Request} {rs : List Request} :
      l.Asks env config path files r →
      Steady host env config path (run host env l.args l.now files).2 ls rs →
      Steady host env config path files (l :: ls) (r :: rs)

/-! ## One run -/

variable {host : Host} {env : Environment} {config : Config} {path : String}
  {files files' : Files} {store : Store} {l : Launch} {r : Request}

/-- The order that holds if none is given may as well be given. -/
theorem search_asked (evaluate : Evaluator) (a : SearchArguments) (config : Config)
    (store : Store) :
    (Service.ofConfig config).search evaluate store (a.asked config)
      = (Service.ofConfig config).search evaluate store (a.toQuery config) := rfl

/-- **A run answers as a service over the store that it opens.** -/
theorem run_of_asks {kept : StorePlace} (h : l.Asks env config path files r)
    (hopen : files.openStore host.recovery path = (.ok (kept, store), files')) :
    (run host env l.args l.now files).1
        = (answer host.evaluate (Service.ofConfig config) store r).1
      ∧ ((run host env l.args l.now files).2 = files'
            ∧ (answer host.evaluate (Service.ofConfig config) store r).2 = store
          ∨ (run host env l.args l.now files).2
            = files'.keep (answer host.evaluate (Service.ofConfig config) store r).2 kept) := by
  obtain ⟨i, hparse, hconfig, hpath, hrequest⟩ := h
  have hrun : run host env l.args l.now files = runCommand host env config i l.now files := by
    rw [run, hparse]
    dsimp only
    rw [runInvocation, hconfig]
  cases hcommand : i.command with
  | add a =>
      rw [hcommand] at hrequest
      obtain rfl := Option.some.inj hrequest
      have hadd : run host env l.args l.now files = runAdd host path a l.now files := by
        rw [hrun, runCommand, hcommand, hpath]
      have hdashboard : a.toDashboard l.now
          = { uid := a.uid, title := a.title, folder := a.folder, tags := a.tags,
              views := a.views, createdAt := l.now, updatedAt := l.now } := rfl
      rw [hadd, runAdd, hopen, answer, hdashboard]
      dsimp only
      generalize store.add _ = added
      cases added with
      | error e => exact ⟨rfl, Or.inl ⟨rfl, rfl⟩⟩
      | ok kept => exact ⟨rfl, Or.inr rfl⟩
  | search a =>
      rw [hcommand] at hrequest
      obtain rfl := Option.some.inj hrequest
      have hsearch : run host env l.args l.now files = runSearch host config path a files := by
        rw [hrun, runCommand, hcommand, hpath]
      rw [hsearch, runSearch, hopen, answer, search_asked]
      dsimp only
      cases (Service.ofConfig config).search host.evaluate store (a.toQuery config) with
      | error e => exact ⟨rfl, Or.inl ⟨rfl, rfl⟩⟩
      | ok hits => exact ⟨rfl, Or.inl ⟨rfl, rfl⟩⟩
  | sortOptions json =>
      rw [hcommand] at hrequest
      exact absurd hrequest (by simp [Command.request?])
  | completions shell =>
      rw [hcommand] at hrequest
      exact absurd hrequest (by simp [Command.request?])

/-- What an answer makes of the store, and that an addition succeeds while numbers are left. -/
theorem answer_cases (evaluate : Evaluator) (service : Service) (store : Store) (r : Request) :
    ((answer evaluate service store r).2 = store
        ∧ (r.isAddition = true → Text.maxInt64 ≤ store.lastId))
      ∨ ∃ d, (answer evaluate service store r).2 = (store.insert d).2
        ∧ (answer evaluate service store r).1.code = 0 := by
  cases r with
  | add d =>
      rw [answer, Store.add]
      by_cases hleft : store.lastId < Text.maxInt64
      · rw [if_pos hleft]
        exact Or.inr ⟨d, rfl, rfl⟩
      · rw [if_neg hleft]
        exact Or.inl ⟨rfl, fun _ => Int.not_lt.mp hleft⟩
  | search q json =>
      refine Or.inl ⟨?_, fun hadds => absurd hadds (by simp [Request.isAddition])⟩
      rw [answer]
      split
      · rfl
      · rfl

theorem assumedVersion_answer (evaluate : Evaluator) (service : Service) (store : Store)
    (r : Request) :
    Store.assumedVersion (answer evaluate service store r).2.schemaVersion
      = Store.assumedVersion store.schemaVersion := by
  rcases answer_cases evaluate service store r with ⟨hsame, _⟩ | ⟨d, hadded, _⟩
  · rw [hsame]
  · rw [hadded]
    rfl

/-- **A run over a standing store leaves the store of the service standing.** -/
theorem standing_run {a : StoreAddress} {place : List String}
    (h : l.Asks env config path files r)
    (hopen : files.openStore host.recovery path
      = (.ok (.kept place (Files.safeguardOf a), store), files'))
    (hstands : Files.Standing files' path a place store) :
    Files.Standing (run host env l.args l.now files).2 path a place
      (answer host.evaluate (Service.ofConfig config) store r).2 := by
  rcases (run_of_asks h hopen).2 with ⟨hfiles, hstore⟩ | hfiles
  · rw [hfiles, hstore]
    exact hstands
  · rw [hfiles]
    refine hstands.keep ?_
    rw [assumedVersion_answer]
    exact hstands.settled.supported

/-! ## All runs -/

/-- Runs over a store that stands once it is opened answer as the service that keeps it open. -/
theorem runAll_of_standing {a : StoreAddress} {place : List String} {launches : List Launch}
    {requests : List Request} (h : Steady host env config path files launches requests)
    (hopen : files.openStore host.recovery path
      = (.ok (.kept place (Files.safeguardOf a), store), files'))
    (hstands : Files.Standing files' path a place store) :
    (runAll host env files launches).1
      = answers host.evaluate (Service.ofConfig config) store requests := by
  induction h generalizing store files' with
  | nil => rfl
  | cons hasks _ ih =>
      have hnext := standing_run hasks hopen hstands
      rw [runAll, answers, (run_of_asks hasks hopen).1, ih hnext.openStore hnext]

/-- **Additions succeed as long as there are numbers for all requests.** -/
theorem code_answers_of_addition (evaluate : Evaluator) (service : Service)
    {requests : List Request} (hleft : store.lastId + requests.length ≤ Text.maxInt64) :
    ∀ p ∈ requests.zip (answers evaluate service store requests),
      p.1.isAddition = true → p.2.code = 0 := by
  induction requests generalizing store with
  | nil =>
      intro p hp
      rw [List.zip_nil_left] at hp
      exact absurd hp List.not_mem_nil
  | cons r rs ih =>
      rw [List.length_cons, Int.natCast_succ] at hleft
      rw [answers, List.zip_cons_cons, List.forall_mem_cons]
      -- an answer gives out at most one number, so one is left for each request after it
      rcases answer_cases evaluate service store r with ⟨hsame, htaken⟩ | ⟨d, hadded, hcode⟩
      · refine ⟨fun hadds => absurd (htaken hadds) (by omega), ih ?_⟩
        rw [hsame]
        omega
      · refine ⟨fun _ => hcode, ih ?_⟩
        rw [hadded, Store.insert_lastId]
        omega

/--
**The command line is one service that stays.**

Open the store at a path, creating it if need be. If it is kept in a file, and the
path still leads there now that the file is there (which is in question for a `file:`
address only), then any additions and searches, each in a run of its own that is
accepted and finds the same configuration and the same path, print what one service
over the store that was opened answers, without its being opened again. All additions
among them succeed if there are numbers left for so many.
-/
theorem runAll_eq_answers {place : List String} {safeguard : Safeguard}
    {launches : List Launch} {requests : List Request}
    (hopen : files.openStore host.recovery path = (.ok (.kept place safeguard, store), files'))
    (hway : Files.IsAddress path → ∀ a, StoreAddress.ofText path = .ok a →
      files'.storePlace? a.path = some place)
    (h : Steady host env config path files launches requests) :
    (runAll host env files launches).1
        = answers host.evaluate (Service.ofConfig config) store requests
      ∧ (store.lastId + requests.length ≤ Text.maxInt64 →
        ∀ p ∈ requests.zip (runAll host env files launches).1,
          p.1.isAddition = true → p.2.code = 0) := by
  obtain ⟨a, rfl, hstands⟩ := Files.standing_of_openStore hopen hway
  have hall := runAll_of_standing h hopen hstands
  refine ⟨hall, fun hleft => ?_⟩
  rw [hall]
  exact code_answers_of_addition _ _ hleft

/-! ## Addresses of both kinds -/

/-- A working directory that holds nothing. -/
def emptyWork : Files := { workingDirectory := ["work"], entries := [(["work"], .directory)] }

/-- A user whose own places do not matter. -/
def anyUser : Environment := { home := "/" }

/-- A host whose part does not matter. -/
def anyHost : Host where
  evaluate := .absent
  recovery := .absent
  wording :=
    { help := fun _ => "", usage := fun _ _ => "", completions := fun _ => "",
      document := fun _ _ => "" }

/-- The addition of a dashboard to the store at an address, at time 7. -/
def adding (address uid : String) : Launch :=
  ⟨["--config", "c", "--db", address, "add", "--uid", uid, "--title", "T"], 7⟩

/-- What such an addition asks for. -/
def addition (uid : String) : Request := .add (.create uid "T" 7)

/-- Two additions at one address. -/
def twoAdditions (address : String) : List Launch := [adding address "a", adding address "b"]

/-- The search for the second of two dashboards, which gives a limit and no order. -/
def lastPage (address : String) : Launch :=
  ⟨["--config", "c", "--db", address, "search", "--limit", "1", "--page", "2"], 9⟩

/-- What that search asks for. -/
def lastPageRequest : Request :=
  .search { sort := some "alpha-asc", limit := 1, page := 2 } false

theorem steady_adding {address uid : String} {launches : List Launch} {requests : List Request}
    (hparse : parse (adding address uid).args
      = .ok ⟨some "c", some address, .add { uid := uid, title := "T" }⟩)
    (hconfig : Config.load files "c" = .ok {})
    (h : Steady anyHost anyUser {} address (run anyHost anyUser (adding address uid).args 7 files).2
      launches requests) :
    Steady anyHost anyUser {} address files (adding address uid :: launches)
      (addition uid :: requests) :=
  .cons ⟨_, hparse, hconfig, rfl, rfl⟩ h

theorem steady_lastPage {address : String}
    (hparse : parse (lastPage address).args
      = .ok ⟨some "c", some address, .search { limit := some 1, page := 2 }⟩)
    (hconfig : Config.load files "c" = .ok {}) :
    Steady anyHost anyUser {} address files [lastPage address] [lastPageRequest] :=
  .cons ⟨_, hparse, hconfig, rfl, rfl⟩ .nil

/-- A path below a directory that has to be made, and an address, are served alike. -/
theorem runAll_eq_answers_of_files :
    (runAll anyHost anyUser emptyWork (twoAdditions "new/d.db" ++ [lastPage "new/d.db"])).1
        = [.printed "1\n", .printed "2\n", .printed "b\t-\tT\n"]
      ∧ (runAll anyHost anyUser emptyWork (twoAdditions "file:d.db?mode=rwc")).1
        = [.printed "1\n", .printed "2\n"] := by
  have hfirst : answer anyHost.evaluate (Service.ofConfig {}) Store.fresh (addition "a")
      = (.printed "1\n", Store.fresh.insertAll [.create "a" "T" 7]) := by decide +kernel
  have hsecond : answer anyHost.evaluate (Service.ofConfig {})
        (Store.fresh.insertAll [.create "a" "T" 7]) (addition "b")
      = (.printed "2\n", Store.fresh.insertAll [.create "a" "T" 7, .create "b" "T" 7]) := by
    decide +kernel
  constructor
  · have hopen : (emptyWork.openStore anyHost.recovery "new/d.db").1
        = .ok (.kept ["work", "new", "d.db"] .log, Store.fresh) := by decide +kernel
    have hsteady : Steady anyHost anyUser {} "new/d.db" emptyWork
        (twoAdditions "new/d.db" ++ [lastPage "new/d.db"])
        [addition "a", addition "b", lastPageRequest] :=
      steady_adding (by decide) (by decide +kernel)
        (steady_adding (by decide) (by decide +kernel)
          (steady_lastPage (by decide) (by decide +kernel)))
    have hpath : ¬ Files.IsAddress "new/d.db" := by
      rw [Files.IsAddress]
      decide
    obtain ⟨hits, hsearch, hreport⟩ : ∃ hits,
        (Service.ofConfig {}).search anyHost.evaluate
            (Store.fresh.insertAll [.create "a" "T" 7, .create "b" "T" 7])
            { sort := some "alpha-asc", limit := 1, page := 2 } = .ok hits
          ∧ reportHits false hits = "b\t-\tT\n" := by
      refine ⟨_, rfl, ?_⟩
      -- the rows stand in this order already, so that they need not be sorted
      rw [List.mergeSort_of_pairwise (by decide)]
      decide
    rw [(runAll_eq_answers (Prod.ext hopen rfl) (fun haddress => absurd haddress hpath) hsteady).1,
      lastPageRequest, answers, hfirst, answers, hsecond, answers, answer, hsearch]
    dsimp only
    rw [hreport, answers]
  · have hopen : (emptyWork.openStore anyHost.recovery "file:d.db?mode=rwc").1
        = .ok (.kept ["work", "d.db"] .log, Store.fresh) := by decide +kernel
    have hsteady : Steady anyHost anyUser {} "file:d.db?mode=rwc" emptyWork
        (twoAdditions "file:d.db?mode=rwc") [addition "a", addition "b"] :=
      steady_adding (by decide) (by decide +kernel)
        (steady_adding (by decide) (by decide +kernel) .nil)
    have hspelled : StoreAddress.ofText "file:d.db?mode=rwc" = .ok { path := "d.db" } := by
      decide +kernel
    have hway : (emptyWork.openStore anyHost.recovery "file:d.db?mode=rwc").2.storePlace? "d.db"
        = some ["work", "d.db"] := by decide +kernel
    rw [(runAll_eq_answers (Prod.ext hopen rfl) (fun _ a ha => ?_) hsteady).1, answers, hfirst,
      answers, hsecond, answers]
    rw [← Except.ok.inj (hspelled.symm.trans ha)]
    exact hway

/--
**Two addresses that lose the store between runs.**

At both, the first opening succeeds, and every run finds the same configuration and
path, and yet the second addition is not answered as by a service that stays. A store
in memory is a new one in each run, so its first number is given out twice. And the
way of the second address leads over the place of its own file, so it can be followed
only until the file is there.
-/
theorem runAll_ne_answers :
    ((emptyWork.openStore Recovery.absent ":memory:").1 = .ok (.transient, Store.fresh)
        ∧ Steady anyHost anyUser {} ":memory:" emptyWork (twoAdditions ":memory:")
          [addition "a", addition "b"]
        ∧ (runAll anyHost anyUser emptyWork (twoAdditions ":memory:")).1
          = [.printed "1\n", .printed "1\n"])
      ∧ ((emptyWork.openStore Recovery.absent "file:d/x/../../d").1
          = .ok (.kept ["work", "d"] .log, Store.fresh)
        ∧ Steady anyHost anyUser {} "file:d/x/../../d" emptyWork (twoAdditions "file:d/x/../../d")
          [addition "a", addition "b"]
        ∧ (runAll anyHost anyUser emptyWork (twoAdditions "file:d/x/../../d")).1
          = [.printed "1\n", .failed (.store (.cannotOpen "file:d/x/../../d"))])
      ∧ answers anyHost.evaluate (Service.ofConfig {}) Store.fresh [addition "a", addition "b"]
        = [.printed "1\n", .printed "2\n"] := by
  refine ⟨⟨by decide +kernel, ?_, by decide +kernel⟩, ⟨by decide +kernel, ?_, by decide +kernel⟩,
    by decide +kernel⟩
  · exact steady_adding (by decide) (by decide +kernel)
      (steady_adding (by decide) (by decide +kernel) .nil)
  · exact steady_adding (by decide) (by decide +kernel)
      (steady_adding (by decide) (by decide +kernel) .nil)

end DashIndex.CommandLine
