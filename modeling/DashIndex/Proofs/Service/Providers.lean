import DashIndex.Proofs.Sort.Registry
import DashIndex.Service.Basic

/-!
# The options of a service

A service is built up from the default options, those of one provider after the
other, and those that are registered later. All of them make one history, and what a
service offers is the last option of every name in it. So it does not matter to whom
an option belongs, only what comes after it.

Two changes to the list of providers leave the last option of every name alone:
exchanging two neighbours that have no name in common, and putting in a provider
each of whose names comes again further on. Services that agree on the last option
of every name cannot be told apart, because listing, look-up and search know the
registry by its names only.
-/

namespace DashIndex

namespace Registry

/-! ## The last option of a name in a longer history -/

theorem lastNamed_append (as bs : List SortOption) (n : String) :
    lastNamed (as ++ bs) n = (lastNamed bs n).or (lastNamed as n) := by
  rw [lastNamed, List.filter_append, List.getLast?_append, lastNamed, lastNamed]

theorem mem_of_lastNamed {os : List SortOption} {n : String} {o : SortOption}
    (h : lastNamed os n = some o) : o ∈ os ∧ o.name = n := by
  have ho := List.mem_filter.mp (List.mem_of_getLast? h)
  exact ⟨ho.1, by simpa using ho.2⟩

/-- Stretches without a common name may change places. -/
theorem lastNamed_append_comm {as bs : List SortOption}
    (h : ∀ a ∈ as, ∀ b ∈ bs, a.name ≠ b.name) (n : String) :
    lastNamed (as ++ bs) n = lastNamed (bs ++ as) n := by
  rw [lastNamed_append, lastNamed_append]
  cases ha : lastNamed as n with
  | none => rw [Option.or_none, Option.none_or]
  | some a =>
      cases hb : lastNamed bs n with
      | none => rfl
      | some b =>
          obtain ⟨hmema, hna⟩ := mem_of_lastNamed ha
          obtain ⟨hmemb, hnb⟩ := mem_of_lastNamed hb
          exact absurd (hna.trans hnb.symm) (h a hmema b hmemb)

/-- A stretch whose names all come again later may be left out. -/
theorem lastNamed_append_of_later {as bs : List SortOption}
    (h : ∀ a ∈ as, a.name ∈ bs.map (·.name)) (n : String) :
    lastNamed (as ++ bs) n = lastNamed bs n := by
  rw [lastNamed_append]
  cases hb : lastNamed bs n with
  | some b => rfl
  | none =>
      have hn : n ∉ as.map (·.name) := by
        intro hmem
        obtain ⟨a, ha, rfl⟩ := List.mem_map.mp hmem
        exact lastNamed_eq_none.mp hb (h a ha)
      rw [Option.none_or, lastNamed_eq_none.mpr hn]

theorem lastNamed_append_congr {as as' bs bs' : List SortOption} {n : String}
    (ha : lastNamed as n = lastNamed as' n) (hb : lastNamed bs n = lastNamed bs' n) :
    lastNamed (as ++ bs) n = lastNamed (as' ++ bs') n := by
  rw [lastNamed_append, lastNamed_append, ha, hb]

/-! ## The registry of a service -/

theorem registerAll_append (r : Registry) (as bs : List SortOption) :
    r.registerAll (as ++ bs) = (r.registerAll as).registerAll bs := List.foldl_append

/-- The providers' options are registered as one list. -/
theorem registerAll_flatMap (r : Registry) (ps : List Provider) :
    ps.foldl (fun r p => r.registerAll p.options) r = r.registerAll (ps.flatMap (·.options)) := by
  induction ps generalizing r with
  | nil => rfl
  | cons p ps ih => rw [List.foldl_cons, ih, List.flatMap_cons, registerAll_append]

end Registry

namespace Service

/-- The service with more sort options, one after the other. -/
def registerAll (v : Service) (os : List SortOption) : Service := os.foldl register v

/-- All options that were ever registered with a service, in their order. -/
def history (ps : List Provider) (os : List SortOption) : List SortOption :=
  defaultOptions ++ ps.flatMap (·.options) ++ os

theorem registerAll_eq (v : Service) (os : List SortOption) :
    v.registerAll os = ⟨v.config, v.registry.registerAll os⟩ := by
  induction os generalizing v with
  | nil => rfl
  | cons o os ih => exact ih (v.register o)

/-- **A service has registered its history.** -/
theorem registerAll_ofProviders (config : Config) (ps : List Provider) (os : List SortOption) :
    (ofProviders config ps).registerAll os
      = ⟨config, Registry.empty.registerAll (history ps os)⟩ := by
  have hdefaults : Registry.defaults = Registry.empty.registerAll defaultOptions := rfl
  rw [registerAll_eq, ofProviders, Registry.ofProviders, Registry.registerAll_flatMap, history,
    Registry.registerAll_append, Registry.registerAll_append, hdefaults]

/-! ## Services that cannot be told apart -/

/-- Nothing that a service is asked tells one service from the other. -/
structure Alike (v v' : Service) : Prop where
  config : v.config = v'.config
  options : v.registry.toList = v'.registry.toList
  names : v.registry.names = v'.registry.names
  option : ∀ n, v.registry.get? n = v'.registry.get? n
  search : ∀ (evaluate : Evaluator) (s : Store) (q : Query),
    v.search evaluate s q = v'.search evaluate s q

/-- A search knows the registry by look-up only. -/
theorem search_of_get? {config : Config} {r r' : Registry} (h : ∀ n, r.get? n = r'.get? n)
    (evaluate : Evaluator) (s : Store) (q : Query) :
    search ⟨config, r⟩ evaluate s q = search ⟨config, r'⟩ evaluate s q := by
  have hresolve : r.resolve q config.defaultSort = r'.resolve q config.defaultSort := by
    rw [Registry.resolve, Registry.resolve, h]
  have hplan : q.plan r config.defaultSort = q.plan r' config.defaultSort := by
    rw [Query.plan, Query.plan, hresolve]
  rw [search, search, hplan]

/-- **The last options of the names are all that counts.** -/
theorem alike_of_lastNamed (config : Config) {ps ps' : List Provider} {os os' : List SortOption}
    (h : ∀ n, Registry.lastNamed (history ps os) n = Registry.lastNamed (history ps' os') n) :
    ((ofProviders config ps).registerAll os).Alike
      ((ofProviders config ps').registerAll os') := by
  rw [registerAll_ofProviders, registerAll_ofProviders]
  have hget : ∀ n, (Registry.empty.registerAll (history ps os)).get? n
      = (Registry.empty.registerAll (history ps' os')).get? n := by
    intro n
    rw [Registry.get?_history, Registry.get?_history, h n]
  have hlist := (Registry.distinctNames_history (history ps' os')).toList_eq_of_perm
    (Registry.entries_perm_of_lastNamed h)
  have hnames : (Registry.empty.registerAll (history ps os)).names
      = (Registry.empty.registerAll (history ps' os')).names := by
    rw [Registry.names, Registry.names, hlist]
  exact ⟨rfl, hlist, hnames, hget, search_of_get? hget⟩

theorem alike_of_swap (config : Config) (pre post : List Provider) {p p' : Provider}
    (os : List SortOption) (h : ∀ o ∈ p.options, ∀ o' ∈ p'.options, o.name ≠ o'.name) :
    ((ofProviders config (pre ++ p :: p' :: post)).registerAll os).Alike
      ((ofProviders config (pre ++ p' :: p :: post)).registerAll os) := by
  refine alike_of_lastNamed config fun n => ?_
  -- bring the two stretches side by side
  have hsplit : ∀ a b : Provider, history (pre ++ a :: b :: post) os
      = (defaultOptions ++ pre.flatMap (·.options)) ++ (a.options ++ b.options)
        ++ (post.flatMap (·.options) ++ os) := by
    intro a b
    simp only [history, List.flatMap_append, List.flatMap_cons, List.append_assoc]
  rw [hsplit, hsplit]
  refine Registry.lastNamed_append_congr (Registry.lastNamed_append_congr rfl ?_) rfl
  exact Registry.lastNamed_append_comm h n

theorem alike_of_overridden (config : Config) (pre post : List Provider) {p : Provider}
    (os : List SortOption)
    (h : ∀ o ∈ p.options, o.name ∈ (post.flatMap (·.options) ++ os).map (·.name)) :
    ((ofProviders config (pre ++ p :: post)).registerAll os).Alike
      ((ofProviders config (pre ++ post)).registerAll os) := by
  refine alike_of_lastNamed config fun n => ?_
  have hwith : history (pre ++ p :: post) os = (defaultOptions ++ pre.flatMap (·.options))
      ++ (p.options ++ (post.flatMap (·.options) ++ os)) := by
    simp only [history, List.flatMap_append, List.flatMap_cons, List.append_assoc]
  have hwithout : history (pre ++ post) os = (defaultOptions ++ pre.flatMap (·.options))
      ++ (post.flatMap (·.options) ++ os) := by
    simp only [history, List.flatMap_append, List.append_assoc]
  rw [hwith, hwithout]
  exact Registry.lastNamed_append_congr rfl (Registry.lastNamed_append_of_later h n)

/--
**A service offers the last option of every name.**

The history of a service is the default options, those of its providers in their
order, and the later registrations. A name leads to the last option of the history
that carries it. So neighbouring providers without a common name may change places,
and a provider all of whose names come again later, in another provider or in a
registration, may be put in anywhere before them: no answer of the service changes.
-/
theorem ofProviders_last_of_each_name (config : Config) (os : List SortOption) :
    (∀ (ps : List Provider) (n : String),
        ((ofProviders config ps).registerAll os).registry.get? n
          = Registry.lastNamed ([alphaAsc, alphaDesc] ++ ps.flatMap (·.options) ++ os) n)
      ∧ (∀ (pre post : List Provider) (p p' : Provider),
          (∀ o ∈ p.options, ∀ o' ∈ p'.options, o.name ≠ o'.name) →
          ((ofProviders config (pre ++ p :: p' :: post)).registerAll os).Alike
            ((ofProviders config (pre ++ p' :: p :: post)).registerAll os))
      ∧ (∀ (pre post : List Provider) (p : Provider),
          (∀ o ∈ p.options, o.name ∈ (post.flatMap (·.options) ++ os).map (·.name)) →
          ((ofProviders config (pre ++ p :: post)).registerAll os).Alike
            ((ofProviders config (pre ++ post)).registerAll os)) := by
  refine ⟨fun ps n => ?_, fun pre post p p' h => alike_of_swap config pre post os h,
    fun pre post p h => alike_of_overridden config pre post os h⟩
  rw [registerAll_ofProviders]
  exact Registry.get?_history (history ps os) n

/-- A provider that replaces a default option, and later its own one. -/
def replacing : Provider where
  name := "usage-insights"
  options := [{ alphaAsc with index := 9 }, { name := "" }, { alphaAsc with metaName := "title" }]

/-- A provider of which nothing is left in the end. -/
def replaced : Provider where
  name := "replaced"
  options := [{ name := "views-desc", index := -1 }, { name := "" }, { name := "late" }]

/-- The last option of a name stands, whoever else has had the name. -/
theorem ofProviders_last_of_replaced :
    let late : List SortOption := [{ name := "late", displayName := "Late" }]
    let v := (ofProviders {} [usageInsights, replacing]).registerAll late
    v.registry.get? "alpha-asc" = some { alphaAsc with metaName := "title" }
      ∧ v.Alike ((ofProviders {} [replacing, usageInsights]).registerAll late)
      ∧ ((ofProviders {} [replaced, usageInsights, replacing]).registerAll late).Alike v := by
  intro late v
  obtain ⟨hget, hswap, hleave⟩ := ofProviders_last_of_each_name {} late
  refine ⟨?_, ?_, ?_⟩
  · rw [hget]
    decide
  · exact hswap [] [] usageInsights replacing (by decide)
  · exact hleave [] [usageInsights, replacing] replaced (by decide)

end Service

end DashIndex
