import DashIndex.Sort.Provider

/-!
# Configuration

Four settings, each with a default of its own.
-/

namespace DashIndex

/-- The settings. -/
structure Config where
  /-- the sort option of a search that names none -/
  defaultSort : String := alphaAsc.name
  /-- the limit of a search that names none -/
  defaultLimit : UInt64 := 50
  /-- whether the options by usage are offered -/
  usageInsights : Bool := true
  /-- the place of the store, if not the default one -/
  dbPath : Option String := none
  deriving DecidableEq, Repr

end DashIndex
