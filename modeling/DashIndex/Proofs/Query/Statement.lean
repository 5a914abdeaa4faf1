import DashIndex.Proofs.Search.Answer
import DashIndex.Query.Statement

/-!
# What the text of a statement depends on

A statement is put together from clauses, and whether a clause stands there is all
that a request decides: whether it has a text, whether it has a folder, how many
tags it has. The values themselves become parameters. `Shape` is what is left of a
request when its values are dropped, and `Shape.statement` writes a statement from
nothing else, so that two requests of one shape cannot have different statements.

The order terms and the shown column come from the sort option, as texts. They are
part of the shape; the name of the option and its labels are not.
-/

namespace DashIndex

/-- What of a request shows in the text of its statement. -/
structure Shape where
  /-- the column shown with each hit -/
  column : Option String
  /-- the order terms, as they are written -/
  terms : List String
  hasText : Bool
  hasFolder : Bool
  tagCount : Nat
  deriving DecidableEq, Repr

/-- The shape of a query that is answered with a sort option. -/
def Query.shape (q : Query) (o : SortOption) : Shape where
  column := o.metaColumn
  terms := o.terms.map OrderTerm.orderBy
  hasText := !q.needle.isEmpty
  hasFolder := q.folder.isSome
  tagCount := q.tags.length

/-- The statement of the requests of a shape. -/
def Shape.statement (s : Shape) : String :=
  "SELECT d.id, d.uid, d.title, d.folder, " ++ s.column.elim "NULL" ("d." ++ ·)
    ++ " AS sort_meta FROM dashboards d WHERE 1 = 1"
    ++ (if s.hasText then " AND d.title LIKE ? ESCAPE '\\'" else "")
    ++ (if s.hasFolder then " AND d.folder = ?" else "")
    ++ String.join (List.replicate s.tagCount
      " AND EXISTS (SELECT 1 FROM dashboard_tags t WHERE t.dashboard_id = d.id AND t.term = ?)")
    ++ " ORDER BY " ++ ", ".intercalate (s.terms ++ ["d.id ASC"]) ++ " LIMIT ? OFFSET ?"

namespace Plan

theorem clauses_append (cs cs' : List Condition) :
    clauses (cs ++ cs') = clauses cs ++ clauses cs' := by
  induction cs with
  | nil => rw [clauses, List.nil_append, String.empty_append]
  | cons c cs ih => rw [List.cons_append, clauses, clauses, ih, String.append_assoc]

theorem clauses_hasTag (tags : List String) :
    clauses (tags.map Condition.hasTag)
      = String.join (List.replicate tags.length (Condition.hasTag "").clause) := by
  induction tags with
  | nil => rfl
  | cons t ts ih =>
      rw [List.map_cons, clauses, ih, List.length_cons, List.replicate_succ, String.join_cons]
      rfl

theorem ordering_eq_intercalate (ts : List OrderTerm) :
    ordering ts = ", ".intercalate (ts.map OrderTerm.orderBy ++ ["d.id ASC"]) := by
  induction ts with
  | nil => rfl
  | cons t ts ih =>
      rw [ordering, ih]
      cases ts with
      | nil => rfl
      | cons t' ts =>
          simp only [List.map_cons, List.cons_append, String.intercalate_cons_cons]

end Plan

/-- The clauses of a query tell only which values it has, not what they are. -/
theorem Query.clauses_conditions (q : Query) :
    Plan.clauses q.conditions
      = (if q.needle.isEmpty then "" else (Condition.titleLike "").clause)
        ++ (if q.folder.isSome then (Condition.inFolder "").clause else "")
        ++ String.join (List.replicate q.tags.length (Condition.hasTag "").clause) := by
  have htext : Plan.clauses (q.pattern?.toList.map Condition.titleLike)
      = if q.needle.isEmpty then "" else (Condition.titleLike "").clause := by
    unfold Query.pattern?
    split
    · simp only [Option.toList_none, List.map_nil, Plan.clauses]
    · simp only [Option.toList_some, List.map_cons, List.map_nil, Plan.clauses, Condition.clause,
        String.append_empty]
  have hfolder : Plan.clauses (q.folder.toList.map Condition.inFolder)
      = if q.folder.isSome then (Condition.inFolder "").clause else "" := by
    cases q.folder with
    | none => simp [Plan.clauses]
    | some f => simp [Plan.clauses, Condition.clause]
  rw [Query.conditions, Plan.clauses_append, Plan.clauses_append, htext, hfolder,
    Plan.clauses_hasTag]

/-- **The statement of a plan is the one of its shape.** -/
theorem Query.sql_planWith (q : Query) (o : SortOption) (w : Window) :
    (q.planWith o w).sql = (q.shape o).statement := by
  have hcolumn : (q.planWith o w).selected = o.metaColumn.elim "NULL" ("d." ++ ·) := by
    rw [Plan.selected, Query.planWith]
    cases o.metaColumn <;> simp only [Option.elim]
  have hconditions : Plan.clauses (q.planWith o w).conditions
      = (if q.needle.isEmpty then "" else (Condition.titleLike "").clause)
        ++ (if q.folder.isSome then (Condition.inFolder "").clause else "")
        ++ String.join (List.replicate q.tags.length (Condition.hasTag "").clause) :=
    q.clauses_conditions
  have htext : (if (!q.needle.isEmpty) = true then " AND d.title LIKE ? ESCAPE '\\'" else "")
      = if q.needle.isEmpty then "" else (Condition.titleLike "").clause := by
    cases q.needle.isEmpty <;> simp [Condition.clause]
  have hterms : Plan.ordering (q.planWith o w).terms
      = ", ".intercalate (o.terms.map OrderTerm.orderBy ++ ["d.id ASC"]) :=
    Plan.ordering_eq_intercalate o.terms
  unfold Plan.sql Shape.statement Query.shape
  dsimp only
  rw [hcolumn, hconditions, hterms, htext]
  simp only [String.append_assoc, Condition.clause]

/--
**Nothing that a user writes reaches the text of a statement.**

Take two requests, each over its own registry and default. If their sort options
write the same order terms and show the same column, and the requests agree on
whether there is a text, whether there is a folder and how many tags there are, then
their statements are one and the same text: the one of their common shape.
-/
theorem Query.statement_of_same_shape {r r' : Registry} {dflt dflt' : String} {q q' : Query}
    {p p' : Plan} {o o' : SortOption}
    (hp : q.plan r dflt = .ok p) (hp' : q'.plan r' dflt' = .ok p')
    (ho : r.resolve q dflt = .ok o) (ho' : r'.resolve q' dflt' = .ok o')
    (hterms : o.terms.map OrderTerm.orderBy = o'.terms.map OrderTerm.orderBy)
    (hcolumn : o.metaColumn = o'.metaColumn)
    (htext : q.needle = [] ↔ q'.needle = [])
    (hfolder : q.folder.isSome = q'.folder.isSome)
    (htags : q.tags.length = q'.tags.length) :
    p.sql = p'.sql ∧ p.sql = (q.shape o).statement := by
  obtain ⟨w, o₁, _, ho₁, rfl⟩ := Query.plan_eq_ok.mp hp
  obtain ⟨w', o₂, _, ho₂, rfl⟩ := Query.plan_eq_ok.mp hp'
  have h₁ : o₁ = o := Except.ok.inj (ho₁.symm.trans ho)
  have h₂ : o₂ = o' := Except.ok.inj (ho₂.symm.trans ho')
  subst h₁
  subst h₂
  have hempty : q.needle.isEmpty = q'.needle.isEmpty := by
    rw [Bool.eq_iff_iff, List.isEmpty_iff, List.isEmpty_iff]
    exact htext
  have hshape : q.shape o₁ = q'.shape o₂ := by
    unfold Query.shape
    rw [hcolumn, hterms, hempty, hfolder, htags]
  constructor
  · rw [Query.sql_planWith, Query.sql_planWith, hshape]
  · exact Query.sql_planWith q o₁ w

/-- An option with labels that look like the end of a statement. -/
def quotedOption : SortOption :=
  { alphaDesc with name := "'; --", displayName := "?", metaName := "\x00", index := -7 }

/-- A request full of marks that mean something in a statement. -/
def quotedQuery : Query where
  text := " ' OR 1=1; -- \x00 "
  tags := ["?", "') --"]
  folder := some "\"; DROP TABLE dashboards; --"
  sort := some "'; --"
  limit := 7
  page := 3

/-- A plain request of the same shape. -/
def plainQuery : Query where
  text := "cpu"
  tags := ["prod", "prod"]
  folder := some "ops"

/-- Marks that mean something in a statement do not change it. -/
theorem Query.statement_of_quoted :
    (quotedQuery.plan (Registry.empty.register quotedOption) "none").toOption.map Plan.sql
        = (plainQuery.plan Registry.defaults "alpha-desc").toOption.map Plan.sql
      ∧ (plainQuery.plan Registry.defaults "alpha-desc").toOption.map Plan.sql
        = some (plainQuery.shape alphaDesc).statement := by
  have hp : plainQuery.plan Registry.defaults "alpha-desc"
      = .ok (plainQuery.planWith alphaDesc ⟨50, 0⟩) := rfl
  have hp' : quotedQuery.plan (Registry.empty.register quotedOption) "none"
      = .ok (quotedQuery.planWith quotedOption ⟨7, 14⟩) := rfl
  have ho : Registry.defaults.resolve plainQuery "alpha-desc" = .ok alphaDesc := rfl
  have ho' : (Registry.empty.register quotedOption).resolve quotedQuery "none"
      = .ok quotedOption := rfl
  obtain ⟨hsame, hstatement⟩ :=
    Query.statement_of_same_shape hp hp' ho ho' rfl rfl (by decide) rfl rfl
  rw [hp, hp']
  exact ⟨congrArg some hsame.symm, congrArg some hstatement⟩

end DashIndex
