import DashIndex.Proofs.Search.Membership

/-!
# What a hit shows

The parts of a hit come by different ways. Most of them are copied from a row, the
tags are looked up by its number, the value of the sort column goes by the name of
a column that a scan of the order terms chose, and the label of that value comes
from the sort option. `Hit.Shows` and `Hit.Counts` say what they come to, in terms
of the row and of the sort keys alone.

That the tags are those of the last dashboard with the uid is a fact about how the
store was filled, so a store is looked at together with its history:
`Store.FilledBy` holds of every store that comes about and some history.
-/

namespace DashIndex

/-! ## Stores with their histories -/

namespace Store

/--
A store that comes about from a new one by these additions. The note of the
schema version is written, and the store is opened, at any point in between.
-/
inductive FilledBy : Store → List Dashboard → Prop where
  | fresh : FilledBy fresh []
  | insert {s : Store} {ds : List Dashboard} (d : Dashboard) :
      FilledBy s ds → s.lastId < Text.maxInt64 → FilledBy (s.insert d).2 (ds ++ [d])
  | note {s : Store} {ds : List Dashboard} (v : Option String) :
      FilledBy s ds → FilledBy { s with schemaVersion := v } ds
  | migrate {s s' : Store} {ds : List Dashboard} :
      FilledBy s ds → s.migrate = .ok s' → FilledBy s' ds

/-- Every store that comes about has a history, and has come about by it. -/
theorem reachable_iff_filledBy {s : Store} : Reachable s ↔ ∃ ds, FilledBy s ds := by
  constructor
  · intro h
    induction h with
    | fresh => exact ⟨[], .fresh⟩
    | insert d _ hlt ih =>
        obtain ⟨ds, hds⟩ := ih
        exact ⟨ds ++ [d], hds.insert d hlt⟩
    | note v _ ih =>
        obtain ⟨ds, hds⟩ := ih
        exact ⟨ds, hds.note v⟩
    | migrate _ hm ih =>
        obtain ⟨ds, hds⟩ := ih
        exact ⟨ds, hds.migrate hm⟩
  · rintro ⟨ds, h⟩
    induction h with
    | fresh => exact .fresh
    | insert d _ hlt ih => exact ih.insert d hlt
    | note v _ ih => exact ih.note v
    | migrate _ hm ih => exact ih.migrate hm

/-- What a store says of its history does not depend on its note. -/
theorem Reflects.note {s : Store} {ds : List Dashboard} (h : Reflects s ds) (v : Option String) :
    Reflects { s with schemaVersion := v } ds where
  absent := h.absent
  present := by
    intro u r hr
    obtain ⟨f, l, hf, hl, hrow⟩ := h.present u r hr
    exact ⟨f, l, hf, hl, ⟨hrow.row, hrow.tags⟩⟩

theorem FilledBy.wellFormed {s : Store} {ds : List Dashboard} (h : FilledBy s ds) :
    WellFormed s :=
  wellFormed_reachable (reachable_iff_filledBy.mpr ⟨ds, h⟩)

/-- **A store reflects the history that it was filled by.** -/
theorem FilledBy.reflects {s : Store} {ds : List Dashboard} (h : FilledBy s ds) :
    Reflects s ds := by
  induction h with
  | fresh => exact reflects_fresh
  | insert d hds _ ih => exact reflects_insert hds.wellFormed ih d
  | note v _ ih => exact ih.note v
  | migrate _ hm ih =>
      obtain ⟨v, rfl⟩ := migrate_cases hm
      exact ih.note v

theorem FilledBy.insertAll {s : Store} {before ds : List Dashboard} (h : FilledBy s before)
    (hn : s.lastId + ds.length ≤ Text.maxInt64) : FilledBy (s.insertAll ds) (before ++ ds) := by
  induction ds generalizing s before with
  | nil => rwa [List.append_nil]
  | cons d ds ih =>
      rw [List.length_cons] at hn
      have hnext := ih (h.insert d (by omega)) (by rw [insert_lastId]; omega)
      rwa [List.append_assoc, List.singleton_append] at hnext

end Store

/-! ## The value that is shown -/

/-- What a column counts; titles are ordered by, but count nothing. -/
def SortColumn.counted? : SortColumn → Option (Row → Int64)
  | .title => none
  | .views => some Row.views
  | .updated => some Row.updatedAt

/-- A hit shows a row of a store. -/
structure Hit.Shows (x : Hit) (s : Store) (r : Row) : Prop where
  id : x.id = r.id
  uid : x.uid = r.uid
  title : x.title = r.title
  folder : x.folder = r.folder
  tags : x.tags = s.tagsFor r.id

/--
A hit shows what an option with a label and with these sort keys counts: under the
label the row's value in the column of the first key that counts anything, or
neither value nor label if there is no label or no such key.
-/
structure Hit.Counts (x : Hit) (r : Row) (label : String) (ks : List SortKey) : Prop where
  shown : ∀ (pre : List SortKey) (k : SortKey) (post : List SortKey) (count : Row → Int64),
    label ≠ "" → ks = pre ++ k :: post → (∀ j ∈ pre, j.1.counted? = none) →
      k.1.counted? = some count → x.sortMeta = some (count r) ∧ x.sortMetaName = some label
  otherwise : label = "" ∨ (∀ k ∈ ks, k.1.counted? = none) →
    x.sortMeta = none ∧ x.sortMetaName = none

/-- The column that a built-in term exposes holds what the column of its key counts. -/
theorem OrderTerm.value_ofKey (k : SortKey) (r : Row) :
    (OrderTerm.ofKey k).metaColumn.bind r.value? = k.1.counted?.map fun count => count r := by
  obtain ⟨c, d⟩ := k
  cases c <;> rfl

theorem OrderTerm.metaColumn_ofKey_eq_none {k : SortKey} :
    (OrderTerm.ofKey k).metaColumn = none ↔ k.1.counted? = none := by
  obtain ⟨c, d⟩ := k
  cases c <;> simp [ofKey, metaColumn, SortColumn.counted?]

namespace SortOption

variable {o : SortOption} {ks : List SortKey}

/-- Nothing is exposed without a label or without a key that counts anything. -/
theorem metaColumn_eq_none (hk : o.terms = ks.map OrderTerm.ofKey)
    (h : o.metaName = "" ∨ ∀ k ∈ ks, k.1.counted? = none) : o.metaColumn = none := by
  unfold metaColumn
  split
  · rfl
  · rename_i hlabel
    rw [hk, List.findSome?_map, List.findSome?_eq_none_iff]
    exact fun k hmem => OrderTerm.metaColumn_ofKey_eq_none.mpr (h.resolve_left hlabel k hmem)

/-- With a label, the first key that counts anything decides what is exposed. -/
theorem metaColumn_eq_first (hk : o.terms = ks.map OrderTerm.ofKey) (hlabel : o.metaName ≠ "")
    {pre post : List SortKey} {k : SortKey} {count : Row → Int64} (hks : ks = pre ++ k :: post)
    (hpre : ∀ j ∈ pre, j.1.counted? = none) (hcount : k.1.counted? = some count) :
    o.metaColumn = (OrderTerm.ofKey k).metaColumn ∧ (OrderTerm.ofKey k).metaColumn ≠ none := by
  have hne : (OrderTerm.ofKey k).metaColumn ≠ none := by
    rw [ne_eq, OrderTerm.metaColumn_ofKey_eq_none, hcount]
    simp
  obtain ⟨column, hcolumn⟩ := Option.ne_none_iff_exists'.mp hne
  refine ⟨?_, hne⟩
  rw [metaColumn, if_neg hlabel, hk, List.findSome?_map, hcolumn, List.findSome?_eq_some_iff]
  exact ⟨pre, k, post, hks, hcolumn, fun j hj => OrderTerm.metaColumn_ofKey_eq_none.mpr (hpre j hj)⟩

end SortOption

/-- **A hit shows what its sort option counts.** -/
theorem Store.hit_counts (s : Store) (r : Row) {q : Query} {o : SortOption} {w : Window}
    {ks : List SortKey} (hk : o.terms = ks.map OrderTerm.ofKey) :
    (s.hit (q.planWith o w) r).Counts r o.metaName ks where
  shown := by
    intro pre k post count hlabel hks hpre hcount
    obtain ⟨hcolumn, hne⟩ := SortOption.metaColumn_eq_first hk hlabel hks hpre hcount
    obtain ⟨column, hk'⟩ := Option.ne_none_iff_exists'.mp hne
    have hvalue := OrderTerm.value_ofKey k r
    rw [hcount, hk'] at hvalue
    have hshown : o.metaColumn = some column := hcolumn.trans hk'
    show o.metaColumn.bind r.value? = some (count r)
      ∧ (o.metaColumn.map fun _ => o.metaName) = some o.metaName
    rw [hshown]
    exact ⟨hvalue, rfl⟩
  otherwise := by
    intro h
    have hnone := SortOption.metaColumn_eq_none hk h
    show o.metaColumn.bind r.value? = none
      ∧ (o.metaColumn.map fun _ => o.metaName) = none
    rw [hnone]
    exact ⟨rfl, rfl⟩

/-- Keys count nothing, or there is a first one that counts something. -/
theorem SortKey.counted_cases (ks : List SortKey) :
    (∀ k ∈ ks, k.1.counted? = none)
      ∨ ∃ pre k post count, ks = pre ++ k :: post ∧ (∀ j ∈ pre, j.1.counted? = none)
        ∧ k.1.counted? = some count := by
  cases hfind : ks.findSome? fun k => k.1.counted? with
  | none => exact Or.inl (List.findSome?_eq_none_iff.mp hfind)
  | some count =>
      obtain ⟨pre, k, post, hks, hcount, hpre⟩ := List.findSome?_eq_some_iff.mp hfind
      exact Or.inr ⟨pre, k, post, count, hks, hpre, hcount⟩

/-- A hit has a value to show if and only if it has a label for it. -/
theorem Hit.Counts.together {x : Hit} {r : Row} {label : String} {ks : List SortKey}
    (h : x.Counts r label ks) : x.sortMeta.isSome = x.sortMetaName.isSome := by
  by_cases hlabel : label = ""
  · obtain ⟨hvalue, hname⟩ := h.otherwise (Or.inl hlabel)
    rw [hvalue, hname]
    rfl
  · rcases SortKey.counted_cases ks with hnone | ⟨pre, k, post, count, hks, hpre, hcount⟩
    · obtain ⟨hvalue, hname⟩ := h.otherwise (Or.inr hnone)
      rw [hvalue, hname]
      rfl
    · obtain ⟨hvalue, hname⟩ := h.shown pre k post count hlabel hks hpre hcount
      rw [hvalue, hname]
      rfl

/-! ## Every hit -/

/-- A hit of an answer is a row of the store, as the plan of the query shows it. -/
theorem Service.row_of_hit {v : Service} {evaluate : Evaluator} {s : Store} {q : Query}
    {o : SortOption} {ks : List SortKey} (ho : v.registry.resolve q v.config.defaultSort = .ok o)
    (hk : o.terms = ks.map OrderTerm.ofKey) {hits : List Hit}
    (h : v.search evaluate s q = .ok hits) {x : Hit} (hx : x ∈ hits) :
    ∃ w, ∃ r ∈ s.rows, x = s.hit (q.planWith o w) r := by
  have hcolumns := Service.ordersByColumns_of_resolve ho hk
  obtain ⟨w, o', _, _, ho', _, rfl⟩ := (Service.search_eq_ok hcolumns).mp h
  obtain rfl := Except.ok.inj (ho.symm.trans ho')
  obtain ⟨r, hr, rfl⟩ := List.mem_map.mp hx
  exact ⟨w, r, (Store.mem_listing.mp (List.mem_of_mem_drop (List.mem_of_mem_take hr))).1, rfl⟩

/--
**What every hit shows.**

A store has come about by some history. Whichever that is, every hit of every
answer shows the one row with its number; its tags stand by ascending bytes and are
those of the last dashboard of the history with its uid; and it shows what the sort
option counts, the value and its label always together.
-/
theorem Service.search_shows {v : Service} {evaluate : Evaluator} {s : Store}
    (hs : s.Reachable) {q : Query} {o : SortOption} {ks : List SortKey}
    (ho : v.registry.resolve q v.config.defaultSort = .ok o)
    (hk : o.terms = ks.map OrderTerm.ofKey) {hits : List Hit}
    (h : v.search evaluate s q = .ok hits) :
    (∃ ds, s.FilledBy ds)
      ∧ ∀ x ∈ hits,
        (∃ r ∈ s.rows, (∀ r' ∈ s.rows, r'.id = x.id → r' = r) ∧ x.Shows s r
            ∧ x.Counts r o.metaName ks)
          ∧ x.tags.Pairwise (fun a b => Text.NoCase.bytes a < Text.NoCase.bytes b)
          ∧ (∀ ds, s.FilledBy ds →
              ∃ d, Store.lastOf ds x.uid = some d ∧ ∀ t, t ∈ x.tags ↔ t ∈ d.tags)
          ∧ x.sortMeta.isSome = x.sortMetaName.isSome := by
  have hwf := Store.wellFormed_reachable hs
  refine ⟨Store.reachable_iff_filledBy.mp hs, fun x hx => ?_⟩
  obtain ⟨w, r, hr, rfl⟩ := Service.row_of_hit ho hk h hx
  have hcounts : (s.hit (q.planWith o w) r).Counts r o.metaName ks := s.hit_counts r hk
  refine ⟨⟨r, hr, ?_, ⟨rfl, rfl, rfl, rfl, rfl⟩, hcounts⟩, hwf.tagsFor_ascending r.id, ?_,
    hcounts.together⟩
  · exact fun r' hr' hid => hwf.eq_of_id hr' hr hid
  · intro ds hds
    obtain ⟨_, last, _, hlast, hrow⟩ := hds.reflects.present r.uid r (hwf.row?_of_mem hr)
    exact ⟨last, hlast, hrow.tags⟩

/-- An option that orders by three columns and shows the first one that counts something. -/
def lastSeenOption : SortOption where
  name := "last-seen"
  metaName := "last updated"
  terms := [.column .title .ascending, .column .updated .descending, .column .views .ascending]

/-- After an update and a writing of the note, the hits show the times of the last additions. -/
theorem Service.search_shows_of_moved :
    let v := (Service.ofProviders {} []).register lastSeenOption
    let s : Store := { Store.fresh.insertAll movedHistory with schemaVersion := some "7" }
    let q : Query := { sort := some "last-seen" }
    ∃ hits, v.search .absent s q = .ok hits ∧ hits.map Hit.uid = ["a", "b"]
      ∧ hits.map Hit.sortMeta = [some 3, some 2]
      ∧ ∀ x ∈ hits, (∃ r ∈ s.rows, x.Shows s r ∧ x.sortMeta = some r.updatedAt
          ∧ x.sortMetaName = some "last updated")
        ∧ ∃ d, Store.lastOf movedHistory x.uid = some d ∧ ∀ t, t ∈ x.tags ↔ t ∈ d.tags := by
  intro v s q
  have hfilled : s.FilledBy movedHistory := (Store.FilledBy.fresh.insertAll (by decide)).note _
  have hs : s.Reachable := Store.reachable_iff_filledBy.mpr ⟨_, hfilled⟩
  have hopt : v.registry.resolve q v.config.defaultSort = .ok lastSeenOption := by decide
  have hkeys : lastSeenOption.terms = [(.title, .ascending), (.updated, .descending),
      (.views, .ascending)].map OrderTerm.ofKey := rfl
  have hwindow : q.window = .ok ⟨50, 0⟩ := by decide
  obtain ⟨hits, h, huids, hvalues⟩ : ∃ hits, v.search .absent s q = .ok hits
      ∧ hits.map Hit.uid = ["a", "b"] ∧ hits.map Hit.sortMeta = [some 3, some 2] := by
    refine ⟨_, Service.search_of_evaluates _ hwindow hopt
      ⟨by decide, by decide, hkeys, Or.inr (by decide)⟩, ?_⟩
    -- the rows stand in this order already, so that they need not be sorted
    rw [Store.listing, List.mergeSort_of_pairwise (by decide)]
    decide
  refine ⟨hits, h, huids, hvalues, fun x hx => ?_⟩
  obtain ⟨⟨r, hr, _, hshows, hcounts⟩, _, htags, _⟩ :=
    (Service.search_shows hs hopt hkeys h).2 x hx
  have hvalue := hcounts.shown [(.title, .ascending)] (.updated, .descending)
    [(.views, .ascending)] Row.updatedAt (by decide) rfl (by decide) rfl
  exact ⟨⟨r, hr, hshows, hvalue⟩, htags _ hfilled⟩

end DashIndex
