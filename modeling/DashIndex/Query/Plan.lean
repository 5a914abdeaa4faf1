import DashIndex.Query.Basic
import DashIndex.Text.Blank
import DashIndex.Text.Like

/-!
# Plans

A plan is a query made definite: its sort option is resolved, its text is a
pattern, and its page is a window. A store evaluates a plan; a statement is a
plan written out.
-/

namespace DashIndex

/-- One condition on a dashboard. -/
inductive Condition where
  /-- the title matches a pattern -/
  | titleLike (pattern : String)
  /-- the dashboard lies in exactly this folder -/
  | inFolder (folder : String)
  /-- the dashboard carries this tag -/
  | hasTag (tag : String)
  deriving DecidableEq, Repr

/-- A query made definite. -/
structure Plan where
  /-- the name of the sort option -/
  sort : String
  /-- the column whose value is shown with each hit -/
  metaColumn : Option String
  /-- the label of that value -/
  metaName : Option String
  conditions : List Condition
  terms : List OrderTerm
  window : Window
  deriving DecidableEq, Repr

namespace Query

/-- The text of a query without the blanks around it. -/
def needle (q : Query) : List Char :=
  Text.trim q.text.toList

/-- The pattern that the title must match; none if the text is blank. -/
def pattern? (q : Query) : Option String :=
  if q.needle.isEmpty then none else some (String.ofList (Text.Like.containing q.needle))

/-- The conditions of a query: title, folder, then the tags in their order. -/
def conditions (q : Query) : List Condition :=
  q.pattern?.toList.map .titleLike ++ q.folder.toList.map .inFolder ++ q.tags.map .hasTag

/-- The plan of a query whose sort option and window are known. -/
def planWith (q : Query) (o : SortOption) (w : Window) : Plan where
  sort := o.name
  metaColumn := o.metaColumn
  metaName := o.metaColumn.map fun _ => o.metaName
  conditions := q.conditions
  terms := o.terms
  window := w

/-- The plan of a query. -/
def plan (q : Query) (r : Registry) (defaultSort : String) : Except SearchError Plan :=
  match q.window with
  | .error e => .error e
  | .ok w =>
    match r.resolve q defaultSort with
    | .error e => .error e
    | .ok o => .ok (q.planWith o w)

end Query

end DashIndex
