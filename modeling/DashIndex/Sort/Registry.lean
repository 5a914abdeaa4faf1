import DashIndex.Sort.Option

/-!
# The registry of sort options

A registry holds at most one option per name; registering under a name that is
taken replaces what was there. The list of a registry is ordered by index and,
where two indices agree, by name in the order of code points, so it does not
depend on the order of the registrations.
-/

namespace DashIndex

/-- The options that are registered, one per name. -/
structure Registry where
  entries : List SortOption
  deriving DecidableEq, Repr

/-- Whether an option is listed before another or is level with it. -/
def SortOption.listedBefore (a b : SortOption) : Bool :=
  a.index.toInt < b.index.toInt || (a.index.toInt == b.index.toInt && a.name ≤ b.name)

namespace Registry

/-- No option at all. -/
def empty : Registry := ⟨[]⟩

/-- Register an option, in place of one with its name. -/
def register (r : Registry) (o : SortOption) : Registry :=
  ⟨o :: r.entries.filter (·.name != o.name)⟩

/-- Register options one after the other. -/
def registerAll (r : Registry) (os : List SortOption) : Registry :=
  os.foldl register r

/-- The option registered under a name. -/
def get? (r : Registry) (name : String) : Option SortOption :=
  r.entries.find? (·.name == name)

/-- All options, by index and then by name. -/
def toList (r : Registry) : List SortOption :=
  r.entries.mergeSort SortOption.listedBefore

/-- The names, in the order of the list. -/
def names (r : Registry) : List String :=
  r.toList.map (·.name)

/-- How many options there are. -/
def size (r : Registry) : Nat :=
  r.entries.length

/-- Whether there is no option. -/
def isEmpty (r : Registry) : Bool :=
  r.entries.isEmpty

end Registry

end DashIndex
