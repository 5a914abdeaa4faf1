import DashIndex.Config.Basic
import DashIndex.Store.Search

/-!
# The search service

A service is a configuration and a registry of sort options. The registry holds
the default options, those of the providers in their order, and whatever is
registered later.
-/

namespace DashIndex

/-- A configuration and the sort options on offer. -/
structure Service where
  config : Config
  registry : Registry
  deriving DecidableEq, Repr

/-- Why a search of a service fails. -/
inductive ServiceError where
  | refused (cause : SearchError)
  | store (cause : StoreError)
  deriving DecidableEq, Repr

/-- The wording of a failed search. -/
def ServiceError.message : ServiceError → String
  | .refused cause => cause.message
  | .store cause => cause.message

namespace Service

/-- A service with the options of these providers. -/
def ofProviders (config : Config) (providers : List Provider) : Service :=
  ⟨config, Registry.ofProviders providers⟩

/-- A service with the built-in providers that the configuration switches on. -/
def ofConfig (config : Config) : Service :=
  ofProviders config (builtinProviders config.usageInsights)

/-- The service with one more sort option. -/
def register (s : Service) (o : SortOption) : Service :=
  { s with registry := s.registry.register o }

/-- Answer a query from a store. -/
def search (s : Service) (evaluate : Evaluator) (store : Store) (q : Query) :
    Except ServiceError (List Hit) :=
  match q.plan s.registry s.config.defaultSort with
  | .error e => .error (.refused e)
  | .ok p =>
    match store.search evaluate p with
    | .error e => .error (.store e)
    | .ok hits => .ok hits

end Service

end DashIndex
