import DashIndex.Proofs.Search.TwoRuns

/-!
# A folder is searched by itself

A query that names a folder keeps the rows of that folder before it does anything
else, so what other rows there are cannot show: not in the hits, not in their order
and not in where a page begins. Said of two stores: if they agree in a folder, a
search of that folder cannot tell them apart.

Agreeing is about what a search may show or compare, which is all of a row but its
time of creation. It does not ask that the rows are kept in the same places; both
stores keep rows by ascending number, and that puts equal numbers side by side.
-/

namespace DashIndex

namespace Store

/-- A row of one store shows what a row of another does. -/
structure ShowsAs (s s' : Store) (r r' : Row) : Prop where
  id : r.id = r'.id
  uid : r.uid = r'.uid
  title : r.title = r'.title
  folder : r.folder = r'.folder
  views : r.views = r'.views
  updatedAt : r.updatedAt = r'.updatedAt
  tags : ∀ t, t ∈ s.tagsFor r.id ↔ t ∈ s'.tagsFor r'.id

/-- Two stores have rows that show the same in a folder. -/
structure AgreesIn (folder : String) (s s' : Store) : Prop where
  left : ∀ r ∈ s.rows, r.folder = some folder → ∃ r' ∈ s'.rows, ShowsAs s s' r r'
  right : ∀ r' ∈ s'.rows, r'.folder = some folder → ∃ r ∈ s.rows, ShowsAs s s' r r'

theorem ShowsAs.refl (s : Store) (r : Row) : ShowsAs s s r r :=
  ⟨rfl, rfl, rfl, rfl, rfl, rfl, fun _ => Iff.rfl⟩

theorem ShowsAs.symm {s s' : Store} {r r' : Row} (h : ShowsAs s s' r r') : ShowsAs s' s r' r :=
  ⟨h.id.symm, h.uid.symm, h.title.symm, h.folder.symm, h.views.symm, h.updatedAt.symm,
    fun t => (h.tags t).symm⟩

theorem ShowsAs.trans {s s' s'' : Store} {r r' r'' : Row} (h : ShowsAs s s' r r')
    (h' : ShowsAs s' s'' r' r'') : ShowsAs s s'' r r'' :=
  ⟨h.id.trans h'.id, h.uid.trans h'.uid, h.title.trans h'.title, h.folder.trans h'.folder,
    h.views.trans h'.views, h.updatedAt.trans h'.updatedAt, fun t => (h.tags t).trans (h'.tags t)⟩

theorem AgreesIn.refl (folder : String) (s : Store) : AgreesIn folder s s :=
  ⟨fun r hr _ => ⟨r, hr, ShowsAs.refl s r⟩, fun r hr _ => ⟨r, hr, ShowsAs.refl s r⟩⟩

theorem AgreesIn.symm {folder : String} {s s' : Store} (h : AgreesIn folder s s') :
    AgreesIn folder s' s where
  left := by
    intro r' hr' hf
    obtain ⟨r, hr, hrr'⟩ := h.right r' hr' hf
    exact ⟨r, hr, hrr'.symm⟩
  right := by
    intro r hr hf
    obtain ⟨r', hr', hrr'⟩ := h.left r hr hf
    exact ⟨r', hr', hrr'.symm⟩

theorem AgreesIn.trans {folder : String} {s s' s'' : Store} (h : AgreesIn folder s s')
    (h' : AgreesIn folder s' s'') : AgreesIn folder s s'' where
  left := by
    intro r hr hf
    obtain ⟨r', hr', hrr'⟩ := h.left r hr hf
    obtain ⟨r'', hr'', hrr''⟩ := h'.left r' hr' (hrr'.folder.symm.trans hf)
    exact ⟨r'', hr'', hrr'.trans hrr''⟩
  right := by
    intro r'' hr'' hf
    obtain ⟨r', hr', hrr''⟩ := h'.right r'' hr'' hf
    obtain ⟨r, hr, hrr'⟩ := h.right r' hr' (hrr''.folder.trans hf)
    exact ⟨r, hr, hrr'.trans hrr''⟩

/-! ## Rows that show the same are treated the same -/

/-- Tags come sorted and once each, so their set decides the list. -/
theorem tagsFor_eq_of_mem_iff {s s' : Store} (hs : WellFormed s) (hs' : WellFormed s')
    {id id' : Int} (h : ∀ t, t ∈ s.tagsFor id ↔ t ∈ s'.tagsFor id') :
    s.tagsFor id = s'.tagsFor id' :=
  tagsFor_eq_of_perm
    ((List.perm_ext_iff_of_nodup (hs.nodup_tagsFor id) (hs'.nodup_tagsFor id')).mpr h)

theorem ShowsAs.hit {s s' : Store} (hs : WellFormed s) (hs' : WellFormed s') {r r' : Row}
    (h : ShowsAs s s' r r') {p p' : Plan} (hcolumn : p.metaColumn = p'.metaColumn)
    (hname : p.metaName = p'.metaName) : s.hit p r = s'.hit p' r' := by
  have hvalue : r.value? = r'.value? := by
    funext column
    rw [Row.value?, Row.value?, h.views, h.updatedAt]
  rw [Store.hit, Store.hit, h.id, h.uid, h.title, h.folder, ← h.id,
    tagsFor_eq_of_mem_iff hs hs' h.tags, hvalue, hcolumn, hname, h.id]

theorem ShowsAs.holds {s s' : Store} {r r' : Row} (h : ShowsAs s s' r r') (c : Condition) :
    c.holds s r = c.holds s' r' := by
  cases c with
  | titleLike pattern => rw [Condition.holds, Condition.holds, h.title]
  | inFolder folder => rw [Condition.holds, Condition.holds, h.folder]
  | hasTag tag =>
      have htag := h.tags tag
      rw [mem_tagsFor, mem_tagsFor] at htag
      exact decide_eq_decide.mpr htag

theorem ShowsAs.standsAs {s s' : Store} {r r' : Row} (h : ShowsAs s s' r r') : r.StandsAs r' :=
  ⟨h.id, by rw [h.title], by rw [h.title], h.views, h.updatedAt⟩

/-! ## The rows that match -/

/-- Rows by ascending number that correspond by number stand side by side. -/
theorem forall₂_of_ascending {R : Row → Row → Prop} (hid : ∀ a b, R a b → a.id = b.id)
    {xs ys : List Row} (hx : xs.Pairwise fun a b => a.id < b.id)
    (hy : ys.Pairwise fun a b => a.id < b.id) (hxy : ∀ a ∈ xs, ∃ b ∈ ys, R a b)
    (hyx : ∀ b ∈ ys, ∃ a ∈ xs, R a b) : List.Forall₂ R xs ys := by
  have hxids : (xs.map Row.id).Pairwise (· < ·) := List.pairwise_map.mpr hx
  have hyids : (ys.map Row.id).Pairwise (· < ·) := List.pairwise_map.mpr hy
  have hxnodup : (xs.map Row.id).Nodup := hxids.imp Int.ne_of_lt
  have hynodup : (ys.map Row.id).Nodup := hyids.imp Int.ne_of_lt
  have hmem : ∀ n, n ∈ xs.map Row.id ↔ n ∈ ys.map Row.id := by
    intro n
    rw [List.mem_map, List.mem_map]
    constructor
    · rintro ⟨a, ha, rfl⟩
      obtain ⟨b, hb, hab⟩ := hxy a ha
      exact ⟨b, hb, (hid a b hab).symm⟩
    · rintro ⟨b, hb, rfl⟩
      obtain ⟨a, ha, hab⟩ := hyx b hb
      exact ⟨a, ha, hid a b hab⟩
  -- the same numbers in the same order, so rows side by side have one number
  have hids : xs.map Row.id = ys.map Row.id :=
    ((List.perm_ext_iff_of_nodup hxnodup hynodup).mpr hmem).eq_of_pairwise
      (fun a b _ _ hab hba => absurd hba (Int.lt_asymm hab)) hxids hyids
  have hlevel : List.Forall₂ (fun a b : Row => a.id = b.id) xs ys := by
    rw [← List.forall₂_eq_eq_eq, List.forall₂_map_left_iff, List.forall₂_map_right_iff] at hids
    exact hids
  obtain ⟨hlength, hzip⟩ := List.forall₂_iff_zip.mp hlevel
  refine List.forall₂_iff_zip.mpr ⟨hlength, fun {a b} hab => ?_⟩
  obtain ⟨ha, hb⟩ := List.of_mem_zip hab
  -- the partner of `a` has the number of `b`, and there is one row with that number
  obtain ⟨b', hb', hab'⟩ := hxy a ha
  have hnumber : b'.id = b.id := (hid a b' hab').symm.trans (hzip hab)
  have hbb' : b' = b := List.inj_on_of_nodup_map hynodup hb' hb hnumber
  exact hbb' ▸ hab'

theorem AgreesIn.exists_matching {folder : String} {s s' : Store} (h : AgreesIn folder s s')
    {cs : List Condition} (hcs : .inFolder folder ∈ cs) {r : Row} (hr : r ∈ s.matching cs) :
    ∃ r' ∈ s'.matching cs, ShowsAs s s' r r' := by
  rw [Store.matching, List.mem_filter, List.all_eq_true] at hr
  have hfolder : r.folder = some folder := by
    simpa [Condition.holds] using hr.2 _ hcs
  obtain ⟨r', hr', hrr'⟩ := h.left r hr.1 hfolder
  refine ⟨r', ?_, hrr'⟩
  rw [Store.matching, List.mem_filter, List.all_eq_true]
  exact ⟨hr', fun c hc => (hrr'.holds c).symm.trans (hr.2 c hc)⟩

/-- **In a folder in which two stores agree, the same rows match.** -/
theorem AgreesIn.matching {folder : String} {s s' : Store} (hs : WellFormed s)
    (hs' : WellFormed s') (h : AgreesIn folder s s') {cs : List Condition}
    (hcs : .inFolder folder ∈ cs) :
    List.Forall₂ (ShowsAs s s') (s.matching cs) (s'.matching cs) := by
  refine forall₂_of_ascending (fun _ _ hr => hr.id) (hs.ascending.sublist List.filter_sublist)
    (hs'.ascending.sublist List.filter_sublist) (fun r hr => h.exists_matching hcs hr) ?_
  intro r' hr'
  obtain ⟨r, hr, hrr'⟩ := h.symm.exists_matching hcs hr'
  exact ⟨r, hr, hrr'.symm⟩

/-! ## Additions elsewhere -/

/-- A dashboard lies outside a folder, and so does the row it would update. -/
structure Outside (folder : String) (s : Store) (d : Dashboard) : Prop where
  after : d.folder ≠ some folder
  before : ∀ r, s.row? d.uid = some r → r.folder ≠ some folder

/-- The row of an added dashboard lies where the dashboard does. -/
theorem folder_of_row?_insert {s : Store} {d : Dashboard} {r : Row}
    (h : (s.insert d).2.row? d.uid = some r) : r.folder = d.folder := by
  cases hold : s.row? d.uid with
  | some q =>
      rw [row?_insert_of_some hold] at h
      obtain rfl := Option.some.inj h
      rfl
  | none =>
      rw [row?_insert_of_none hold] at h
      obtain rfl := Option.some.inj h
      rfl

theorem agreesIn_insert {folder : String} {s : Store} (hs : WellFormed s) {d : Dashboard}
    (h : Outside folder s d) : AgreesIn folder s (s.insert d).2 := by
  have hs' := wellFormed_insert hs d
  -- a row of another uid is in both stores, with the same tags
  have kept : ∀ {r : Row}, r.uid ≠ d.uid → s.row? r.uid = some r → ShowsAs s (s.insert d).2 r r :=
    fun hne hr => ⟨rfl, rfl, rfl, rfl, rfl, rfl, fun t => by rw [tagsFor_insert_of_ne hs hne hr]⟩
  constructor
  · intro r hr hf
    have hne : r.uid ≠ d.uid := fun he => h.before r (he ▸ hs.row?_of_mem hr) hf
    have hr' : (s.insert d).2.row? r.uid = some r := by
      rw [row?_insert_of_ne s hne, hs.row?_of_mem hr]
    exact ⟨r, mem_of_row? hr', kept hne (hs.row?_of_mem hr)⟩
  · intro r hr hf
    have hne : r.uid ≠ d.uid := by
      intro he
      have hfolder := folder_of_row?_insert (he ▸ hs'.row?_of_mem hr)
      exact h.after (hfolder.symm.trans hf)
    have hr' : s.row? r.uid = some r := by
      rw [← row?_insert_of_ne s hne, hs'.row?_of_mem hr]
    exact ⟨r, mem_of_row? hr', kept hne hr'⟩

/-- What is added outside a folder leaves what is outside it there. -/
theorem Outside.insert {folder : String} {s : Store} {d d' : Dashboard} (h : Outside folder s d)
    (h' : Outside folder s d') : Outside folder (s.insert d).2 d' where
  after := h'.after
  before := by
    intro r hr
    by_cases hu : d'.uid = d.uid
    · rw [folder_of_row?_insert (hu ▸ hr)]
      exact h.after
    · rw [row?_insert_of_ne s hu] at hr
      exact h'.before r hr

/-- **Any number of additions outside a folder leave a store that agrees in it.** -/
theorem agreesIn_insertAll {folder : String} {s : Store} (hs : WellFormed s)
    {ds : List Dashboard} (h : ∀ d ∈ ds, Outside folder s d) :
    AgreesIn folder s (s.insertAll ds) := by
  induction ds generalizing s with
  | nil => exact AgreesIn.refl folder s
  | cons d ds ih =>
      have hd := h d List.mem_cons_self
      refine (agreesIn_insert hs hd).trans (ih (wellFormed_insert hs d) ?_)
      exact fun d' hd' => hd.insert (h d' (List.mem_cons_of_mem _ hd'))

end Store

/-! ## Searching a folder -/

theorem Service.search_of_agreesIn {v : Service} (evaluate : Evaluator) {s s' : Store}
    (hs : Store.WellFormed s) (hs' : Store.WellFormed s') {folder : String} {q : Query}
    (hfolder : q.folder = some folder)
    (hq : q.WithinLimits) (hcolumns : v.OrdersByColumns q) (h : Store.AgreesIn folder s s') :
    v.search evaluate s q = v.search evaluate s' q := by
  have hcs : .inFolder folder ∈ q.conditions := by
    rw [Query.conditions, hfolder]
    simp
  exact Service.search_eq_of_forall₂ evaluate hq hq hcolumns rfl rfl (h.matching hs hs' hcs)
    (fun _ _ hr => hr.standsAs) fun o w _ _ hr => hr.hit hs hs' rfl rfl

/--
**A search of a folder sees nothing but the folder.**

Two stores that agree in a folder give the same answer to every query that names
it: the same hits in the same order on the same page, or the same refusal. Adding
and updating dashboards that lie outside the folder, before and after, is one way
to come by such a pair of stores.
-/
theorem Service.search_of_folder {v : Service} (evaluate : Evaluator) {s : Store}
    (hs : s.Reachable) {folder : String} {q : Query} (hfolder : q.folder = some folder)
    (hq : q.WithinLimits)
    (hcolumns : v.OrdersByColumns q) :
    (∀ s' : Store, s'.Reachable → Store.AgreesIn folder s s' →
        v.search evaluate s q = v.search evaluate s' q)
      ∧ (∀ ds : List Dashboard, (∀ d ∈ ds, Store.Outside folder s d) →
          v.search evaluate (s.insertAll ds) q = v.search evaluate s q) := by
  have hwf := Store.wellFormed_reachable hs
  constructor
  · intro s' hs' h
    exact Service.search_of_agreesIn evaluate hwf (Store.wellFormed_reachable hs') hfolder hq
      hcolumns h
  · intro ds hds
    exact (Service.search_of_agreesIn evaluate hwf (Store.wellFormed_insertAll hwf ds) hfolder hq
      hcolumns (Store.agreesIn_insertAll hwf hds)).symm

/-- Two dashboards of one folder, made at a time, and between them one that lies elsewhere. -/
def besideHistory (made : Int64) (elsewhere : Dashboard) : List Dashboard :=
  [{ uid := "a", title := "Disk", folder := some "ops", tags := ["prod"], createdAt := made,
     updatedAt := 1 }, elsewhere,
   { uid := "c", title := "disk", folder := some "ops", tags := ["prod"], createdAt := made,
     updatedAt := 3 }]

/-- The second page of a folder is the same whatever lies between its dashboards. -/
theorem Service.search_of_folder_beside :
    let v := Service.ofProviders {} []
    let elsewhere : Dashboard :=
      { Dashboard.create "d" "disk" 9 with folder := some "Ops", tags := ["prod"] }
    let s := Store.fresh.insertAll (besideHistory 1 (.create "b" "DISK" 2))
    let s' := Store.fresh.insertAll (besideHistory 8 elsewhere)
    let q : Query := { text := " dISK", tags := ["prod"], folder := some "ops", limit := 1, page := 2 }
    ∃ hits, v.search .absent s q = .ok hits ∧ hits.map Hit.id = [3]
      ∧ v.search .absent s' q = .ok hits
      ∧ v.search .absent (s.insertAll [{ elsewhere with uid := "b" }, elsewhere]) q = .ok hits := by
  intro v elsewhere s s' q
  have hs : s.Reachable := Store.reachable_insertAll .fresh (by decide)
  have hs' : s'.Reachable := Store.reachable_insertAll .fresh (by decide)
  have hpattern : q.pattern? = some "%dISK%" := by decide
  have hlimits : q.WithinLimits :=
    Query.withinLimits_of_pattern (by decide) hpattern (by decide)
  have hopt : v.registry.resolve q v.config.defaultSort = .ok alphaAsc := by decide
  have hkeys : alphaAsc.terms = [(.title, .ascending)].map OrderTerm.ofKey := rfl
  have hcolumns : v.OrdersByColumns q := Service.ordersByColumns_of_resolve hopt hkeys
  have hagrees : Store.AgreesIn "ops" s s' := by
    have htags : s.tags = [⟨1, "prod"⟩, ⟨3, "prod"⟩] := rfl
    have htags' : s'.tags = [⟨1, "prod"⟩, ⟨2, "prod"⟩, ⟨3, "prod"⟩] := rfl
    have hfirst : Store.ShowsAs s s' ⟨1, "a", "Disk", some "ops", 0, 1, 1⟩
        ⟨1, "a", "Disk", some "ops", 0, 8, 1⟩ :=
      ⟨rfl, rfl, rfl, rfl, rfl, rfl, fun t => by simp [Store.mem_tagsFor, htags, htags']⟩
    have hlast : Store.ShowsAs s s' ⟨3, "c", "disk", some "ops", 0, 1, 3⟩
        ⟨3, "c", "disk", some "ops", 0, 8, 3⟩ :=
      ⟨rfl, rfl, rfl, rfl, rfl, rfl, fun t => by simp [Store.mem_tagsFor, htags, htags']⟩
    constructor
    · rintro r (_ | ⟨_, _ | ⟨_, _ | ⟨_, ⟨⟩⟩⟩⟩) hf
      · exact ⟨_, List.mem_cons_self, hfirst⟩
      · exact absurd hf (by decide)
      · exact ⟨_, List.mem_cons_of_mem _ (List.mem_cons_of_mem _ List.mem_cons_self), hlast⟩
    · rintro r (_ | ⟨_, _ | ⟨_, _ | ⟨_, ⟨⟩⟩⟩⟩) hf
      · exact ⟨_, List.mem_cons_self, hfirst⟩
      · exact absurd hf (by decide)
      · exact ⟨_, List.mem_cons_of_mem _ (List.mem_cons_of_mem _ List.mem_cons_self), hlast⟩
  have houtside : ∀ d ∈ [{ elsewhere with uid := "b" }, elsewhere], Store.Outside "ops" s d := by
    rintro d (_ | ⟨_, _ | ⟨_, ⟨⟩⟩⟩)
    · exact ⟨by decide, by decide⟩
    · exact ⟨by decide, by decide⟩
  obtain ⟨hits, h, hids⟩ : ∃ hits, v.search .absent s q = .ok hits ∧ hits.map Hit.id = [3] := by
    have hwindow : q.window = .ok ⟨1, 1⟩ := by decide
    refine ⟨_, Service.search_of_columns _ s hlimits hwindow hopt hkeys, ?_⟩
    -- the rows stand in this order already, so that they need not be sorted
    rw [Store.listing, List.mergeSort_of_pairwise (by decide)]
    decide
  obtain ⟨htwo, hmore⟩ := Service.search_of_folder .absent hs rfl hlimits hcolumns
  refine ⟨hits, h, hids, ?_, ?_⟩
  · rw [← htwo s' hs' hagrees, h]
  · rw [hmore _ houtside, h]

end DashIndex
