import DashIndex.Proofs.Search.TwoRuns
import DashIndex.Proofs.Text.Case

/-!
# Searching does not see case

Two runs that differ in the case of ASCII letters are both compared with a third,
in which all titles and the text of the query are in lower case. Adding dashboards
and lowering their titles commute, so the third store is the lowered one of either
history. A lowered row stands in every order where the row stands, and the lowered
query keeps it if and only if the query keeps the row; so the answer on the third
store is the lowered answer on either.
-/

namespace DashIndex

/-- The dashboard with its title in lower case. -/
def Dashboard.lowered (d : Dashboard) : Dashboard := { d with title := Text.lower d.title }

/-- The query with its text in lower case. -/
def Query.lowered (q : Query) : Query := { q with text := Text.lower q.text }

/-- The hit with its title in lower case. -/
def Hit.lowered (h : Hit) : Hit := { h with title := Text.lower h.title }

/-- The row with its title in lower case. -/
def Row.lowered (r : Row) : Row := { r with title := Text.lower r.title }

/-- The store with all titles in lower case. -/
def Store.lowered (s : Store) : Store := { s with rows := s.rows.map Row.lowered }

/-- The condition with its pattern in lower case. -/
def Condition.lowered : Condition → Condition
  | .titleLike pattern => .titleLike (Text.lower pattern)
  | .inFolder folder => .inFolder folder
  | .hasTag tag => .hasTag tag

theorem Text.lower_lower (s : String) : lower (lower s) = lower s := by
  have hfold : Like.fold ∘ Like.fold = Like.fold := funext Like.fold_fold
  rw [lower, toList_lower, List.map_map, hfold, lower]

/-! ## Adding dashboards -/

namespace Store

theorem row?_lowered (s : Store) (u : String) :
    s.lowered.row? u = (s.row? u).map Row.lowered := by
  rw [row?, row?, lowered, List.find?_map]
  rfl

theorem refreshed_lowered (d : Dashboard) (r : Row) :
    refreshed d.lowered r.lowered = (refreshed d r).lowered := by
  by_cases h : r.uid = d.uid
  · rw [refreshed_of_eq h, refreshed_of_eq (show r.lowered.uid = d.lowered.uid from h)]
    rfl
  · rw [refreshed_of_ne h, refreshed_of_ne (show r.lowered.uid ≠ d.lowered.uid from h)]

/-- **Lowering titles and adding dashboards commute.** -/
theorem insert_lowered (s : Store) (d : Dashboard) :
    s.lowered.insert d.lowered = ((s.insert d).1, (s.insert d).2.lowered) := by
  have hrow : s.lowered.row? d.lowered.uid = (s.row? d.uid).map Row.lowered :=
    row?_lowered s d.uid
  cases hr : s.row? d.uid with
  | some r =>
      rw [hr] at hrow
      have hrows : (s.rows.map Row.lowered).map (refreshed d.lowered)
          = (s.rows.map (refreshed d)).map Row.lowered := by
        rw [List.map_map, List.map_map]
        exact List.map_congr_left fun q _ => refreshed_lowered d q
      rw [insert_of_some hrow, insert_of_some hr, updated, updated, lowered, hrows]
      rfl
  | none =>
      rw [hr] at hrow
      rw [insert_of_none hrow, insert_of_none hr, extended, extended, lowered, lowered,
        List.map_append]
      rfl

theorem insertAll_lowered (s : Store) (ds : List Dashboard) :
    s.lowered.insertAll (ds.map Dashboard.lowered) = (s.insertAll ds).lowered := by
  induction ds generalizing s with
  | nil => rfl
  | cons d ds ih =>
      rw [List.map_cons]
      show insertAll (s.lowered.insert d.lowered).2 _ = ((s.insert d).2.insertAll ds).lowered
      rw [insert_lowered, ih]

end Store

/-! ## Conditions -/

theorem Condition.holds_lowered (s : Store) (r : Row) (c : Condition) :
    c.lowered.holds s.lowered r.lowered = c.holds s r := by
  cases c with
  | titleLike pattern =>
      show Text.Like.accepts (Text.lower pattern).toList (Text.lower r.title).toList
        = Text.Like.accepts pattern.toList r.title.toList
      rw [Text.toList_lower, Text.toList_lower, Text.Like.accepts_map_fold]
  | inFolder folder => rfl
  | hasTag tag => rfl

theorem Query.needle_lowered (q : Query) : q.lowered.needle = q.needle.map Text.Like.fold := by
  rw [needle, needle, ← Text.trim_map_fold, ← Text.toList_lower]
  rfl

theorem Query.pattern?_lowered (q : Query) : q.lowered.pattern? = q.pattern?.map Text.lower := by
  rw [pattern?, pattern?, needle_lowered, List.isEmpty_map]
  split
  · rfl
  · rw [Option.map_some, Text.lower_ofList, Text.Like.containing_map_fold]

theorem Query.conditions_lowered (q : Query) :
    q.lowered.conditions = q.conditions.map Condition.lowered := by
  have htitle : q.lowered.pattern?.toList.map Condition.titleLike
      = (q.pattern?.toList.map Condition.titleLike).map Condition.lowered := by
    rw [pattern?_lowered]
    cases q.pattern? <;> rfl
  have hfolder : q.folder.toList.map Condition.inFolder
      = (q.folder.toList.map Condition.inFolder).map Condition.lowered := by
    cases q.folder <;> rfl
  have htags : q.tags.map Condition.hasTag
      = (q.tags.map Condition.hasTag).map Condition.lowered := by
    rw [List.map_map]
    rfl
  rw [conditions, conditions, List.map_append, List.map_append, htitle, ← hfolder, ← htags]
  rfl

theorem Query.withinLimits_lowered {q : Query} : q.lowered.WithinLimits ↔ q.WithinLimits := by
  have hpattern : (∀ pat, q.lowered.pattern? = some pat →
        pat.utf8ByteSize ≤ Text.Like.maxPatternBytes)
      ↔ ∀ pat, q.pattern? = some pat → pat.utf8ByteSize ≤ Text.Like.maxPatternBytes := by
    rw [pattern?_lowered]
    cases q.pattern? with
    | none => simp
    | some pat => simp [Text.utf8ByteSize_lower]
  exact ⟨fun h => ⟨h.tags, hpattern.mp h.pattern⟩, fun h => ⟨h.tags, hpattern.mpr h.pattern⟩⟩

theorem Store.matching_lowered (s : Store) (cs : List Condition) :
    s.lowered.matching (cs.map Condition.lowered) = (s.matching cs).map Row.lowered := by
  have hkept : (fun r => (cs.map Condition.lowered).all (·.holds s.lowered r)) ∘ Row.lowered
      = fun r => cs.all (·.holds s r) := by
    funext r
    rw [Function.comp_apply, List.all_map]
    exact congrArg cs.all (funext fun c => Condition.holds_lowered s r c)
  rw [matching, matching, lowered, List.filter_map, ← hkept]
  rfl

/-! ## Searches -/

theorem Row.standsAs_lowered (r : Row) : r.StandsAs r.lowered where
  id := rfl
  titleKey := (Text.NoCase.titleKey_lower r.title).symm
  titleLength := (Text.NoCase.byteLength_lower r.title).symm
  views := rfl
  updatedAt := rfl

/-- **In lower case, everything is found where it was.** -/
theorem Service.search_lowered {v : Service} (evaluate : Evaluator) (s : Store) {q : Query}
    (hq : q.WithinLimits) (hcolumns : v.OrdersByColumns q) :
    (v.search evaluate s q).map (List.map Hit.lowered)
      = (v.search evaluate s.lowered q.lowered).map (List.map Hit.lowered) := by
  have hrows : List.Forall₂ (fun r r' => r' = r.lowered) (s.matching q.conditions)
      (s.lowered.matching q.lowered.conditions) := by
    rw [Query.conditions_lowered, Store.matching_lowered, List.forall₂_map_right_iff,
      List.forall₂_same]
    exact fun _ _ => rfl
  refine Service.search_congr evaluate hq (Query.withinLimits_lowered.mpr hq) hcolumns rfl rfl
    hrows ?_ ?_
  · rintro r _ rfl
    exact r.standsAs_lowered
  · rintro o w r _ rfl
    show Hit.lowered _ = Hit.mk _ _ (Text.lower (Text.lower r.title)) _ _ _ _
    rw [Text.lower_lower]
    rfl

/--
**The case of ASCII letters never matters.**

Two histories are the same but for the case of letters in titles, and two queries
but for the case of letters in their texts. Then the same numbers are answered in
the same order, on every page of every length, or the same refusal; and the hits
are the same but for the case of letters in titles.
-/
theorem Service.search_of_case {v : Service} (evaluate : Evaluator) {ds ds' : List Dashboard}
    {q q' : Query}
    (hds : ds.map Dashboard.lowered = ds'.map Dashboard.lowered) (hqq' : q.lowered = q'.lowered)
    (hq : q.WithinLimits) (hcolumns : v.OrdersByColumns q) :
    let answer := v.search evaluate (Store.fresh.insertAll ds) q
    let answer' := v.search evaluate (Store.fresh.insertAll ds') q'
    answer.map (List.map Hit.id) = answer'.map (List.map Hit.id)
      ∧ answer.map (List.map Hit.lowered) = answer'.map (List.map Hit.lowered) := by
  intro answer answer'
  have hq' : q'.WithinLimits := by
    rw [← Query.withinLimits_lowered, ← hqq', Query.withinLimits_lowered]
    exact hq
  have hcolumns' : v.OrdersByColumns q' := by
    have hsort : q.sort = q'.sort := by
      show q.lowered.sort = q'.lowered.sort
      rw [hqq']
    intro o ho
    refine hcolumns o ?_
    rw [Registry.resolve, Query.sortName, hsort]
    exact ho
  -- both histories lead to one store once their titles are lowered
  have hstore : (Store.fresh.insertAll ds).lowered = (Store.fresh.insertAll ds').lowered := by
    rw [← Store.insertAll_lowered, hds, Store.insertAll_lowered]
  have hlowered : answer.map (List.map Hit.lowered) = answer'.map (List.map Hit.lowered) := by
    rw [Service.search_lowered evaluate _ hq hcolumns,
      Service.search_lowered evaluate _ hq' hcolumns', hstore, hqq']
  have hids : ∀ x : Except ServiceError (List Hit),
      x.map (List.map Hit.id) = (x.map (List.map Hit.lowered)).map (List.map Hit.id) := by
    intro x
    cases x with
    | error e => rfl
    | ok hits =>
        refine congrArg Except.ok ?_
        rw [List.map_map]
        rfl
  exact ⟨by rw [hids answer, hlowered, ← hids answer'], hlowered⟩

/-- An underscore comes before the letters in either case, and what follows a NUL is not searched. -/
theorem Service.search_of_case_underscore :
    let v := Service.ofProviders {} []
    let ds : List Dashboard :=
      [.create "x" "a_\x00z" 1, .create "y" "ABÉ" 2, .create "z" "É\x00a" 3]
    let ds' : List Dashboard :=
      [.create "x" "A_\x00Z" 1, .create "y" "abÉ" 2, .create "z" "É\x00A" 3]
    let q : Query := { text := "\u0085A", limit := 1, page := 2 }
    let q' : Query := { text := "\u0085a", limit := 1, page := 2 }
    (v.search .absent (Store.fresh.insertAll ds) q).map (List.map Hit.id) = .ok [2]
      ∧ (v.search .absent (Store.fresh.insertAll ds') q').map (List.map Hit.id) = .ok [2] := by
  intro v ds ds' q q'
  have hds : ds.map Dashboard.lowered = ds'.map Dashboard.lowered := by decide
  have hqq' : q.lowered = q'.lowered := by decide
  have hpattern : q.pattern? = some "%A%" := by decide
  have hlimits : q.WithinLimits :=
    Query.withinLimits_of_pattern (by decide) hpattern (by decide)
  have hopt : v.registry.resolve q v.config.defaultSort = .ok alphaAsc := by decide
  have hkeys : alphaAsc.terms = [(.title, .ascending)].map OrderTerm.ofKey := rfl
  have hcolumns : v.OrdersByColumns q := Service.ordersByColumns_of_resolve hopt hkeys
  have hids : (v.search .absent (Store.fresh.insertAll ds) q).map (List.map Hit.id) = .ok [2] := by
    have hwindow : q.window = .ok ⟨1, 1⟩ := by decide
    rw [Service.search_of_columns _ _ hlimits hwindow hopt hkeys, if_pos (by decide)]
    -- the rows stand in this order already, so that they need not be sorted
    rw [Store.listing, List.mergeSort_of_pairwise (by decide)]
    decide
  exact ⟨hids, (Service.search_of_case .absent hds hqq' hlimits hcolumns).1 ▸ hids⟩

end DashIndex
