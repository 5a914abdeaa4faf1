/-!
# Dashboards

What the index keeps of a dashboard. Two dashboards with one `uid` are two
states of the same dashboard; the row number under which a store keeps it is not
part of it.
-/

namespace DashIndex

/-- A dashboard. The two times are in milliseconds since 1970. -/
structure Dashboard where
  uid : String
  title : String
  folder : Option String := none
  tags : List String := []
  views : Int64 := 0
  createdAt : Int64
  updatedAt : Int64
  deriving DecidableEq, Repr

/-- A dashboard that was made at a time and not changed since. -/
def Dashboard.create (uid title : String) (now : Int64) : Dashboard :=
  { uid, title, createdAt := now, updatedAt := now }

end DashIndex
