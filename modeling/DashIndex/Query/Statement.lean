import DashIndex.Query.Plan

/-!
# Plans as statements

A plan is written out as the text of a statement with a placeholder `?` for each
value, and the list of the values in the order of their placeholders. Nothing
that a query holds goes into the text: only the order terms and the shown column
of the sort option do.
-/

namespace DashIndex

/-- A value bound to a placeholder. -/
inductive Param where
  | text (s : String)
  | integer (n : Nat)
  deriving DecidableEq, Repr

namespace Condition

/-- The clause of a condition; each has one placeholder. -/
def clause : Condition → String
  | .titleLike _ => " AND d.title LIKE ? ESCAPE '\\'"
  | .inFolder _ => " AND d.folder = ?"
  | .hasTag _ =>
    " AND EXISTS (SELECT 1 FROM dashboard_tags t WHERE t.dashboard_id = d.id AND t.term = ?)"

/-- The value of the placeholder. -/
def param : Condition → Param
  | .titleLike pattern => .text pattern
  | .inFolder folder => .text folder
  | .hasTag tag => .text tag

end Condition

namespace Plan

/-- The column shown with each hit, as it is selected. -/
def selected (p : Plan) : String :=
  match p.metaColumn with
  | none => "NULL"
  | some column => "d." ++ column

/-- The clauses of conditions, one after the other. -/
def clauses : List Condition → String
  | [] => ""
  | c :: cs => c.clause ++ clauses cs

/-- The order terms, with the row number as the last one. -/
def ordering : List OrderTerm → String
  | [] => "d.id ASC"
  | t :: ts => t.orderBy ++ ", " ++ ordering ts

/-- The text of the statement. -/
def sql (p : Plan) : String :=
  "SELECT d.id, d.uid, d.title, d.folder, " ++ p.selected
    ++ " AS sort_meta FROM dashboards d WHERE 1 = 1"
    ++ clauses p.conditions ++ " ORDER BY " ++ ordering p.terms ++ " LIMIT ? OFFSET ?"

/-- The values of the placeholders. -/
def params (p : Plan) : List Param :=
  p.conditions.map Condition.param ++ [.integer p.window.limit, .integer p.window.offset]

end Plan

end DashIndex
