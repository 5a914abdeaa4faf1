import DashIndex.Sort.Registry

/-!
# Where sort options come from

Every registry starts from the two alphabetical options. Providers add theirs in
the order in which the providers stand, so a later one replaces an option of an
earlier one by using its name.
-/

namespace DashIndex

/-- By title, from A to Z. -/
def alphaAsc : SortOption where
  name := "alpha-asc"
  displayName := "Alphabetically (A–Z)"
  description := "Sort results in an alphabetically ascending order"
  terms := [.column .title .ascending]

/-- By title, from Z to A. -/
def alphaDesc : SortOption where
  name := "alpha-desc"
  displayName := "Alphabetically (Z–A)"
  description := "Sort results in an alphabetically descending order"
  terms := [.column .title .descending]

/-- The options that every registry starts from. -/
def defaultOptions : List SortOption := [alphaAsc, alphaDesc]

/-- The registry of the default options. -/
def Registry.defaults : Registry := Registry.empty.registerAll defaultOptions

/-- A named source of sort options. -/
structure Provider where
  name : String
  options : List SortOption
  deriving DecidableEq, Repr

/-- The options that order by how much and how recently a dashboard was used. -/
def usageInsights : Provider where
  name := "usage-insights"
  options :=
    [{ name := "views-desc", displayName := "Views (most)"
       description := "Most viewed dashboards first"
       index := 1, metaName := "total views", terms := [.column .views .descending] },
     { name := "views-asc", displayName := "Views (least)"
       description := "Least viewed dashboards first"
       index := 1, metaName := "total views", terms := [.column .views .ascending] },
     { name := "updated-desc", displayName := "Recently updated"
       description := "Most recently updated dashboards first"
       index := 2, metaName := "last updated", terms := [.column .updated .descending] },
     { name := "updated-asc", displayName := "Least recently updated"
       description := "Least recently updated dashboards first"
       index := 2, metaName := "last updated", terms := [.column .updated .ascending] }]

/-- The providers that are built in, as far as they are switched on. -/
def builtinProviders (withUsageInsights : Bool) : List Provider :=
  if withUsageInsights then [usageInsights] else []

/-- The default options and those of the providers. -/
def Registry.ofProviders (providers : List Provider) : Registry :=
  providers.foldl (fun r p => r.registerAll p.options) Registry.defaults

end DashIndex
