import DashIndex.Proofs.Query.Statement
import Mathlib.Data.List.Basic

/-!
# Reading statements back

A search takes its answer from the plan, and a database takes it from the statement.
Here a statement and its values are taken apart again, with texts that stand in this
module and not in the one that writes statements. What comes out is all that the plan
asks: the column shown, the conditions with their values, the keys of the order and the
window.

So the two answers are one. `Store.answerTo` reads a statement and answers what it asks,
and nothing but that, and its rows are those of the search.

The reader knows the built-in order terms. A statement with a term from outside is not
for it to read.
-/

namespace DashIndex

/-- What a statement asks for. -/
structure Reading where
  /-- the column shown with each hit -/
  column : Option String
  conditions : List Condition
  keys : List SortKey
  window : Window
  deriving DecidableEq, Repr

namespace Reading

/-! ## The reader -/

/-- What follows a text. -/
def after? (text : String) (cs : List Char) : Option (List Char) :=
  cs.dropPrefix? text.toList

/-- The column that is selected last, and what follows it. -/
def column? (cs : List Char) : Option (Option String × List Char) :=
  match after? "NULL" cs with
  | some rest => some (none, rest)
  | none =>
    (after? "d." cs).map fun rest =>
      (some (String.ofList (rest.takeWhile (· != ' '))), rest.dropWhile (· != ' '))

/-- The clauses and the conditions that they make of a value. -/
def clauses : List (String × (String → Condition)) :=
  [(" AND d.title LIKE ? ESCAPE '\\'", .titleLike), (" AND d.folder = ?", .inFolder),
    (" AND EXISTS (SELECT 1 FROM dashboard_tags t WHERE t.dashboard_id = d.id AND t.term = ?)",
      .hasTag)]

/-- The condition that a clause makes of a value, and what follows the clause. -/
def condition? (value : String) (cs : List Char) : Option (Condition × List Char) :=
  clauses.findSome? fun clause =>
    (after? clause.1 cs).map fun rest => (clause.2 value, rest)

/-- The conditions at the start of a text, and the values and the text that are left. -/
def conditionsOf : List Param → List Char → List Condition × List Param × List Char
  | .text value :: params, cs =>
    match condition? value cs with
    | none => ([], .text value :: params, cs)
    | some (c, rest) => (c :: (conditionsOf params rest).1, (conditionsOf params rest).2)
  | params, cs => ([], params, cs)

/-- The order terms and their keys; a blank is before each. -/
def terms : List (String × SortKey) :=
  [(" title COLLATE NOCASE ASC", .title, .ascending),
    (" title COLLATE NOCASE DESC", .title, .descending), (" views ASC", .views, .ascending),
    (" views DESC", .views, .descending), (" updated_at ASC", .updated, .ascending),
    (" updated_at DESC", .updated, .descending)]

/-- The keys of order terms, of which the last is the row number. -/
def keys? : List (List Char) → Option (List SortKey)
  | [] => none
  | t :: ts =>
    if t = " d.id ASC".toList then if ts = [] then some [] else none
    else
      match terms.find? fun term => term.1.toList = t with
      | none => none
      | some term => (keys? ts).map (term.2 :: ·)

/-- The window that two values give. -/
def window? : List Param → Option Window
  | [.integer limit, .integer offset] => some ⟨limit, offset⟩
  | _ => none

/-- Read a statement and its values. -/
def ofStatement? (text : String) (params : List Param) : Option Reading := do
  let cs ← after? "SELECT d.id, d.uid, d.title, d.folder, " text.toList
  let (column, cs) ← column? cs
  let cs ← after? " AS sort_meta FROM dashboards d WHERE 1 = 1" cs
  let (conditions, params, cs) := conditionsOf params cs
  let cs ← after? " ORDER BY" cs
  let cs ← cs.dropSuffix? " LIMIT ? OFFSET ?".toList
  let keys ← keys? (cs.splitOn ',')
  let window ← window? params
  return ⟨column, conditions, keys, window⟩

/-! ## What is written is read -/

theorem after?_append (text : String) (rest : List Char) :
    after? text (text.toList ++ rest) = some rest :=
  List.dropPrefix?_append_of_beq rest (beq_self_eq_true text.toList)

/-- Nothing follows a text in another one if neither starts with the other. -/
theorem after?_eq_none {text other : String} (h : ¬ text.toList <+: other.toList)
    (h' : ¬ other.toList <+: text.toList) (rest : List Char) :
    after? text (other.toList ++ rest) = none := by
  rw [Option.eq_none_iff_forall_ne_some]
  intro s hs
  obtain ⟨lead, hcs, hlead⟩ := List.dropPrefix?_eq_some_iff.mp hs
  rw [eq_of_beq hlead] at hcs
  exact (List.prefix_or_prefix_of_prefix (List.prefix_append _ s)
    (hcs ▸ List.prefix_append _ rest)).elim h h'

/-- A column is read back if there is no blank in its name. -/
theorem column?_selected {p : Plan} (hcolumn : ∀ c, p.metaColumn = some c → ' ' ∉ c.toList)
    (rest : List Char) :
    column? (p.selected.toList ++ ' ' :: rest) = some (p.metaColumn, ' ' :: rest) := by
  rw [Plan.selected]
  cases hc : p.metaColumn with
  | none => rfl
  | some c =>
      have hname : ∀ x ∈ c.toList, (x != ' ') = true := by
        intro x hx
        rw [bne_iff_ne]
        exact fun heq => hcolumn c hc (heq ▸ hx)
      dsimp only
      rw [column?, String.toList_append, List.append_assoc,
        after?_eq_none (by decide) (by decide)]
      dsimp only
      rw [after?_append, Option.map_some,
        List.takeWhile_append_of_pos hname, List.dropWhile_append_of_pos hname]
      simp

/-- A clause is read back as its condition, as no clause starts with another one. -/
theorem condition?_clause (c : Condition) :
    ∃ value, c.param = .text value
      ∧ ∀ rest, condition? value (c.clause.toList ++ rest) = some (c, rest) := by
  cases c with
  | titleLike pattern =>
      refine ⟨pattern, rfl, fun rest => ?_⟩
      rw [condition?, clauses, List.findSome?_cons, Condition.clause, after?_append,
        Option.map_some]
  | inFolder folder =>
      refine ⟨folder, rfl, fun rest => ?_⟩
      rw [condition?, clauses, List.findSome?_cons, Condition.clause,
        after?_eq_none (by decide) (by decide), Option.map_none]
      dsimp only
      rw [List.findSome?_cons, after?_append, Option.map_some]
  | hasTag tag =>
      refine ⟨tag, rfl, fun rest => ?_⟩
      rw [condition?, clauses, List.findSome?_cons, Condition.clause,
        after?_eq_none (by decide) (by decide), Option.map_none]
      dsimp only
      rw [List.findSome?_cons, after?_eq_none (by decide) (by decide), Option.map_none]
      dsimp only
      rw [List.findSome?_cons, after?_append, Option.map_some]

theorem conditionsOf_clauses (cs : List Condition) (limit offset : Nat) (rest : List Char) :
    conditionsOf (cs.map Condition.param ++ [.integer limit, .integer offset])
        ((Plan.clauses cs).toList ++ rest)
      = (cs, [.integer limit, .integer offset], rest) := by
  induction cs with
  | nil => rfl
  | cons c cs ih =>
      -- the clause takes the first value, and the others are left for the other clauses
      obtain ⟨value, hvalue, hclause⟩ := condition?_clause c
      rw [List.map_cons, List.cons_append, hvalue, Plan.clauses, String.toList_append,
        List.append_assoc, conditionsOf, hclause]
      dsimp only
      rw [ih]

/-- Each built-in term has its own text, which is not the one of the row number. -/
theorem terms_find? (k : SortKey) :
    ' ' :: (OrderTerm.ofKey k).orderBy.toList ≠ " d.id ASC".toList
      ∧ ∃ text, (terms.find? fun term =>
          term.1.toList = ' ' :: (OrderTerm.ofKey k).orderBy.toList) = some (text, k) := by
  obtain ⟨c, d⟩ := k
  cases c <;> cases d <;> exact ⟨by decide, _, rfl⟩

theorem not_mem_orderBy (k : SortKey) : ',' ∉ ' ' :: (OrderTerm.ofKey k).orderBy.toList := by
  obtain ⟨c, d⟩ := k
  cases c <;> cases d <;> decide

/-- The order is read back by cutting it at its commas. -/
theorem keys?_ordering (ks : List SortKey) :
    keys? ((' ' :: (Plan.ordering (ks.map OrderTerm.ofKey)).toList).splitOn ',') = some ks := by
  induction ks with
  | nil => decide
  | cons k ks ih =>
      have hcut : (' ' :: (Plan.ordering ((k :: ks).map OrderTerm.ofKey)).toList)
          = (' ' :: (OrderTerm.ofKey k).orderBy.toList)
            ++ ',' :: ' ' :: (Plan.ordering (ks.map OrderTerm.ofKey)).toList := by
        rw [List.map_cons, Plan.ordering, String.toList_append, String.toList_append,
          List.append_assoc]
        rfl
      -- the first comma is the one after the first term, as there is none in a term
      have hcomma : ∀ x ∈ ' ' :: (OrderTerm.ofKey k).orderBy.toList, (x == ',') = false := by
        intro x hx
        rw [beq_eq_false_iff_ne]
        exact fun heq => not_mem_orderBy k (heq ▸ hx)
      obtain ⟨hne, text, hfind⟩ := terms_find? k
      rw [hcut, List.splitOn,
        List.splitOnP_append_cons_of_forall_mem hcomma ',' (beq_self_eq_true ','), keys?,
        if_neg hne, hfind]
      dsimp only
      rw [← List.splitOn, ih, Option.map_some]

/-- The end of a statement is cut off again. -/
theorem dropSuffix?_ordering (ordering : List Char) :
    (ordering ++ " LIMIT ? OFFSET ?".toList).dropSuffix? " LIMIT ? OFFSET ?".toList
      = some ordering :=
  List.dropSuffix?_eq_some_iff.mpr ⟨_, rfl, beq_self_eq_true _⟩

/-- The pieces of a statement, where the blank before the order goes with the order. -/
theorem toList_sql (p : Plan) :
    p.sql.toList
      = "SELECT d.id, d.uid, d.title, d.folder, ".toList
        ++ (p.selected.toList ++ (" AS sort_meta FROM dashboards d WHERE 1 = 1".toList
          ++ ((Plan.clauses p.conditions).toList
            ++ (" ORDER BY".toList
              ++ (' ' :: (Plan.ordering p.terms).toList ++ " LIMIT ? OFFSET ?".toList))))) := by
  have hblank : " ORDER BY ".toList = " ORDER BY".toList ++ [' '] := by decide
  unfold Plan.sql
  simp only [String.toList_append, hblank, List.append_assoc, List.cons_append, List.nil_append]

/--
**A statement is read back as all that its plan asks.** This is about plans whose order
terms are built in and whose column has a name without a blank.
-/
theorem ofStatement?_sql {p : Plan} {ks : List SortKey} (hk : p.terms = ks.map OrderTerm.ofKey)
    (hcolumn : ∀ c, p.metaColumn = some c → ' ' ∉ c.toList) :
    ofStatement? p.sql p.params = some ⟨p.metaColumn, p.conditions, ks, p.window⟩ := by
  have hfrom : " AS sort_meta FROM dashboards d WHERE 1 = 1".toList
      = ' ' :: "AS sort_meta FROM dashboards d WHERE 1 = 1".toList := rfl
  rw [ofStatement?, toList_sql, hk, after?_append, Option.bind_eq_bind, Option.bind_some]
  -- the column ends where the blank after it stands
  rw [hfrom, List.cons_append, column?_selected hcolumn, Option.bind_eq_bind, Option.bind_some]
  dsimp only
  rw [← List.cons_append, ← hfrom, after?_append, Option.bind_eq_bind, Option.bind_some,
    Plan.params, conditionsOf_clauses]
  dsimp only
  rw [after?_append, Option.bind_some, dropSuffix?_ordering, Option.bind_some, keys?_ordering]
  rfl

/-- The plan of a statement, with no name and no label, as these are not in it. -/
def plan (r : Reading) : Plan where
  sort := ""
  metaColumn := r.column
  metaName := none
  conditions := r.conditions
  terms := r.keys.map OrderTerm.ofKey
  window := r.window

end Reading

/-! ## Answering statements -/

namespace Store

/-- A row as a statement finds it. -/
def found (column : Option String) (r : Row) : Found where
  id := r.id
  uid := r.uid
  title := r.title
  folder := r.folder
  sortMeta := column.bind r.value?

/-- A database that reads statements and answers what they ask. -/
def answerTo : Evaluator := fun s text params =>
  match Reading.ofStatement? text params with
  | none => .error ("preparing search statement", [])
  | some reading =>
    match s.select reading.plan reading.keys with
    | .error e => .error (e.message, [])
    | .ok rows => .ok (rows.map (found reading.column))

/-- A row that is found is shown as the row itself. -/
theorem foundHit_found (s : Store) (p : Plan) :
    s.foundHit p ∘ found p.metaColumn = s.hit p := rfl

/-- **A plan and its statement have one answer, or are refused for one reason.** -/
theorem answerTo_sql (s : Store) (evaluate : Evaluator) {p : Plan} {ks : List SortKey}
    (hk : p.terms = ks.map OrderTerm.ofKey)
    (hcolumn : ∀ c, p.metaColumn = some c → ' ' ∉ c.toList) :
    (s.answerTo p.sql p.params).map (·.map (s.foundHit p))
      = (s.search evaluate p).mapError fun e => (e.message, []) := by
  have hselect : s.select (Reading.plan ⟨p.metaColumn, p.conditions, ks, p.window⟩) ks
      = s.select p ks := by
    unfold select Reading.plan Plan.depth
    rw [hk]
  rw [answerTo, Reading.ofStatement?_sql hk hcolumn, search_of_keys s evaluate hk]
  dsimp only
  rw [hselect]
  cases s.select p ks with
  | error e => rfl
  | ok rows =>
      simp only [Except.map, Except.mapError, List.map_map, foundHit_found]

end Store

/-- The columns of built-in terms have names without a blank. -/
theorem SortOption.blankless_metaColumn {o : SortOption} {ks : List SortKey}
    (hk : o.terms = ks.map OrderTerm.ofKey) {c : String} (hc : o.metaColumn = some c) :
    ' ' ∉ c.toList := by
  unfold SortOption.metaColumn at hc
  split at hc
  · exact absurd hc (by simp)
  · rw [hk, List.findSome?_map] at hc
    obtain ⟨⟨column, direction⟩, _, hcolumn⟩ := List.exists_of_findSome?_eq_some hc
    cases column with
    | title => exact absurd hcolumn (by simp [OrderTerm.ofKey, OrderTerm.metaColumn])
    | views =>
        obtain rfl := Option.some.inj hcolumn
        decide
    | updated =>
        obtain rfl := Option.some.inj hcolumn
        decide

/--
**The statement of a query says all that the query asks.**

Take a query that is answered with an option of built-in terms. Its statement, with its
values, is read back as the column that the option exposes, the conditions of the query,
the keys of the option and the page; and who answers the statement as it is read gives
the hits of the search, or refuses it with the same words.
-/
theorem Query.statement_says_plan {r : Registry} {dflt : String} {q : Query} {p : Plan}
    {o : SortOption} {ks : List SortKey} (hp : q.plan r dflt = .ok p)
    (ho : r.resolve q dflt = .ok o) (hk : o.terms = ks.map OrderTerm.ofKey) :
    Reading.ofStatement? p.sql p.params
        = some ⟨o.metaColumn, q.conditions, ks, ⟨q.limit.toNat, q.offset⟩⟩
      ∧ ∀ (s : Store) (evaluate : Evaluator),
        (s.answerTo p.sql p.params).map (·.map (s.foundHit p))
          = (s.search evaluate p).mapError fun e => (e.message, []) := by
  obtain ⟨w, o', hw, ho', rfl⟩ := Query.plan_eq_ok.mp hp
  obtain rfl : o' = o := Except.ok.inj (ho'.symm.trans ho)
  obtain ⟨_, _, _, rfl⟩ := Query.window_eq_ok.mp hw
  have hcolumn : ∀ c, o'.metaColumn = some c → ' ' ∉ c.toList :=
    fun _ => SortOption.blankless_metaColumn hk
  exact ⟨Reading.ofStatement?_sql hk hcolumn, fun s evaluate => s.answerTo_sql evaluate hk hcolumn⟩

end DashIndex
