import DashIndex.Json.Basic
import DashIndex.Query.Statement
import DashIndex.Store.Error
import DashIndex.Text.NoCase

/-!
# Searching a store

A store evaluates a plan in three steps: it keeps the rows on which all
conditions hold, orders them by the order terms with the row number as the last
word, and takes the window. Each row is then shown as a hit, with its tags and
the value of the column that the plan selects.

Three plans are refused: one with too many tags, one with too many order terms,
and, if there is a row to hold it against, one with too long a pattern.

A term from outside may be any text, and what it means is for the database to say.
A plan with such a term is therefore answered by the database as a statement, and
what the database makes of statements is a parameter here.
-/

namespace DashIndex

/-- One dashboard as a search shows it. -/
structure Hit where
  id : Int
  uid : String
  title : String
  folder : Option String
  tags : List String
  /-- the value of the column that the sort option exposes -/
  sortMeta : Option Int64
  /-- the label of that value -/
  sortMetaName : Option String
  deriving DecidableEq, Repr

/-- A hit as an object; the two sort fields are left out when there is none. -/
def Hit.toJson (h : Hit) : Json :=
  .object
    ([("id", .integer h.id), ("uid", .string h.uid), ("title", .string h.title),
        ("folder", Json.ofText? h.folder), ("tags", .array (h.tags.map .string))]
      ++ (h.sortMeta.map fun v => ("sortMeta", Json.integer v.toInt)).toList
      ++ (h.sortMetaName.map fun n => ("sortMetaName", Json.string n)).toList)

/-! ## Statements -/

/-- One row of the answer to a statement. -/
structure Found where
  id : Int
  uid : String
  title : String
  folder : Option String
  /-- the value of the column that the statement selects -/
  sortMeta : Option Int64

/--
What the database makes of the text of a statement and its values, over what a
store holds: the rows in their order, or the reason why there are none, and its causes.
-/
abbrev Evaluator :=
  Store → String → List Param → Except (String × List String) (List Found)

/-- There is no database. -/
def Evaluator.absent : Evaluator := fun _ _ _ =>
  .error ("preparing search statement", ["there is no database for it"])

/-! ## Order -/

/-- Two rows by one column. -/
def SortColumn.order : SortColumn → Row → Row → Ordering
  | .title, a, b => Text.NoCase.order a.title b.title
  | .views, a, b => compare a.views.toInt b.views.toInt
  | .updated, a, b => compare a.updatedAt.toInt b.updatedAt.toInt

/-- An order taken in a direction. -/
def Direction.apply : Direction → Ordering → Ordering
  | .ascending, o => o
  | .descending, o => o.swap

/-- A column and the direction in which it counts. -/
abbrev SortKey := SortColumn × Direction

/-- The columns of order terms, if all of them are built in. -/
def OrderTerm.keys? : List OrderTerm → Option (List SortKey)
  | [] => some []
  | .column c d :: ts => (keys? ts).map ((c, d) :: ·)
  | .custom _ _ :: _ => none

/-- Two rows by the first column that tells them apart, and by their numbers if none does. -/
def Row.order : List SortKey → Row → Row → Ordering
  | [], a, b => compare a.id b.id
  | (c, d) :: ks, a, b => (d.apply (c.order a b)).then (order ks a b)

/-- The value of a column that counts something; built-in terms expose no others. -/
def Row.value? (r : Row) (column : String) : Option Int64 :=
  if column = "views" then some r.views
  else if column = "updated_at" then some r.updatedAt
  else none

/-! ## Conditions -/

/-- Whether a condition holds on a row of a store. -/
def Condition.holds (s : Store) (r : Row) : Condition → Bool
  | .titleLike pattern => Text.Like.accepts pattern.toList r.title.toList
  | .inFolder folder => r.folder == some folder
  | .hasTag tag => s.hasTag r.id tag

/-- Whether a condition is a pattern that is too long to be held against a title. -/
def Condition.isTooLong : Condition → Bool
  | .titleLike pattern => Text.Like.maxPatternBytes < pattern.utf8ByteSize
  | _ => false

/-- Whether a condition asks for a tag. -/
def Condition.isTag : Condition → Bool
  | .hasTag _ => true
  | _ => false

namespace Plan

/-- How deep the condition of a statement nests: a level for each tag, over nine of its own. -/
def depth (p : Plan) : Nat :=
  p.conditions.countP Condition.isTag + 9

/-- The deepest condition that a statement may have. -/
def maxDepth : Nat := 1000

/-- The most order terms that a statement may have, the row number among them. -/
def maxTerms : Nat := 2000

end Plan

namespace Store

/-- The rows on which all conditions hold. -/
def matching (s : Store) (conditions : List Condition) : List Row :=
  s.rows.filter fun r => conditions.all (·.holds s r)

/-- The rows that a plan finds, in the order of the columns of its terms. -/
def select (s : Store) (p : Plan) (keys : List SortKey) : Except StoreError (List Row) :=
  if Plan.maxDepth < p.depth then .error .tooManyConditions
  else if Plan.maxTerms < p.terms.length + 1 then .error .tooManyTerms
  else if s.rows != [] && p.conditions.any Condition.isTooLong then .error .patternTooLong
  else .ok (p.window.slice
    ((s.matching p.conditions).mergeSort fun a b => (Row.order keys a b).isLE))

/-- A row as a plan shows it. -/
def hit (s : Store) (p : Plan) (r : Row) : Hit where
  id := r.id
  uid := r.uid
  title := r.title
  folder := r.folder
  tags := s.tagsFor r.id
  sortMeta := p.metaColumn.bind r.value?
  sortMetaName := p.metaName

/-- A row that the database has found, as a plan shows it. -/
def foundHit (s : Store) (p : Plan) (f : Found) : Hit where
  id := f.id
  uid := f.uid
  title := f.title
  folder := f.folder
  tags := s.tagsFor f.id
  sortMeta := f.sortMeta
  sortMetaName := p.metaName

/-- The hits of a plan; the database answers its statement if a term is from outside. -/
def search (s : Store) (evaluate : Evaluator) (p : Plan) : Except StoreError (List Hit) :=
  match OrderTerm.keys? p.terms with
  | some keys => (s.select p keys).map (·.map (s.hit p))
  | none =>
    match evaluate s p.sql p.params with
    | .ok found => .ok (found.map (s.foundHit p))
    | .error (reason, causes) => .error (.statementRefused reason causes)

end Store

end DashIndex
