/-!
# Sort options

A sort option is one named way to order what a search finds: a list of order
terms, each either one of the three built-in columns in a direction or a term
given as text from outside. A term may expose the column that it orders by; an
option with a label shows the value of the first exposed column with each hit.
-/

namespace DashIndex

/-- The columns that the built-in terms order by. -/
inductive SortColumn where
  | title
  | views
  | updated
  deriving DecidableEq, Repr

inductive Direction where
  | ascending
  | descending
  deriving DecidableEq, Repr

/-- How a direction is written in a statement. -/
def Direction.keyword : Direction → String
  | .ascending => "ASC"
  | .descending => "DESC"

/-- One term of an order. -/
inductive OrderTerm where
  /-- a built-in column in a direction -/
  | column (column : SortColumn) (direction : Direction)
  /-- a term from outside, with the column that it exposes -/
  | custom (orderBy : String) (metaColumn : Option String)
  deriving DecidableEq, Repr

namespace OrderTerm

/-- The term as it is written in a statement. Titles are ordered without regard to case. -/
def orderBy : OrderTerm → String
  | .column .title direction => "title COLLATE NOCASE " ++ direction.keyword
  | .column .views direction => "views " ++ direction.keyword
  | .column .updated direction => "updated_at " ++ direction.keyword
  | .custom orderBy _ => orderBy

/-- The column that the term exposes. -/
def metaColumn : OrderTerm → Option String
  | .column .title _ => none
  | .column .views _ => some "views"
  | .column .updated _ => some "updated_at"
  | .custom _ metaColumn => metaColumn

end OrderTerm

/-- A named way to order search results. -/
structure SortOption where
  /-- the key under which it is registered -/
  name : String
  displayName : String := ""
  description : String := ""
  /-- a lower index is listed first -/
  index : Int32 := 0
  /-- the label of the value shown with each hit; empty if none is shown -/
  metaName : String := ""
  terms : List OrderTerm := []
  deriving DecidableEq, Repr

/-- The column whose value is shown: none without a label, else the first exposed one. -/
def SortOption.metaColumn (o : SortOption) : Option String :=
  if o.metaName = "" then none else o.terms.findSome? OrderTerm.metaColumn

end DashIndex
