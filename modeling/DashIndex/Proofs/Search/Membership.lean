import DashIndex.Proofs.Search.Answer
import DashIndex.Proofs.Store.History
import DashIndex.Proofs.Text.Like

/-!
# Which dashboards are found

`Query.Finds` says what a query asks of a dashboard, and it knows nothing of
rows, patterns or statements: the title contains the text, the folder is the
queried one, the tags are all there. Each condition of a plan decides one part of
this on a row. A row stands for the last dashboard with its uid, so conditions
that hold on it say that the query finds that dashboard; and a first page that is
long enough shows every such row, once.
-/

namespace DashIndex

/-- What a query asks of a dashboard. -/
structure Query.Finds (q : Query) (d : Dashboard) : Prop where
  /-- Before its first NUL, the title contains the text of the query, up to case. -/
  title : q.needle.map Text.Like.fold <:+: (Text.Like.untilNul d.title.toList).map Text.Like.fold
  /-- It lies in the queried folder, if one is queried. -/
  folder : ∀ f, q.folder = some f → d.folder = some f
  /-- It carries every queried tag. -/
  tags : ∀ t ∈ q.tags, t ∈ d.tags

/-! ## The pattern of a query -/

theorem mem_of_mem_trim {c : Char} {cs : List Char} (h : c ∈ Text.trim cs) : c ∈ cs := by
  rw [Text.trim, Text.trimEnd, List.mem_reverse] at h
  have h' := List.mem_reverse.mp ((List.dropWhile_sublist _).mem h)
  exact (List.dropWhile_sublist _).mem h'

theorem Query.pattern?_of_blank {q : Query} (h : q.needle = []) : q.pattern? = none := by
  rw [pattern?, h]; rfl

theorem Query.pattern?_of_not_blank {q : Query} (h : q.needle ≠ []) :
    q.pattern? = some (String.ofList (Text.Like.containing q.needle)) := by
  rw [pattern?, if_neg (by simpa using h)]

/-- **The pattern of a query, if it has one, accepts the titles that contain its text.** -/
theorem Query.pattern?_accepts_iff {q : Query} (hnul : '\x00' ∉ q.text.toList) (title : List Char) :
    (∀ pat, q.pattern? = some pat → Text.Like.accepts pat.toList title = true)
      ↔ q.needle.map Text.Like.fold <:+: (Text.Like.untilNul title).map Text.Like.fold := by
  by_cases hblank : q.needle = []
  · -- a blank text makes no pattern, and every title contains it
    rw [Query.pattern?_of_blank hblank, hblank]
    constructor
    · exact fun _ => List.nil_infix
    · exact fun _ pat h => absurd h (by simp)
  · have hneedle : '\x00' ∉ q.needle := fun h => hnul (mem_of_mem_trim h)
    rw [Query.pattern?_of_not_blank hblank, ← Text.Like.accepts_containing_of_nul_free hneedle]
    constructor
    · intro h
      have h' := h _ rfl
      rwa [String.toList_ofList] at h'
    · rintro h pat hpat
      obtain rfl := Option.some.inj hpat
      rwa [String.toList_ofList]

/-! ## The conditions of a query -/

theorem Query.forall_mem_conditions {q : Query} {P : Condition → Prop} :
    (∀ c ∈ q.conditions, P c)
      ↔ (∀ pat, q.pattern? = some pat → P (.titleLike pat))
        ∧ (∀ f, q.folder = some f → P (.inFolder f)) ∧ ∀ t ∈ q.tags, P (.hasTag t) := by
  simp only [conditions, List.forall_mem_append, List.forall_mem_map, Option.mem_toList, and_assoc]

/-- **On a row, the conditions of a query say that it finds the dashboard the row stands for.** -/
theorem Query.conditions_hold_iff {q : Query} (hnul : '\x00' ∉ q.text.toList) {s : Store} {r : Row}
    {first last : Dashboard} (hr : s.HoldsAs r first last) :
    (∀ c ∈ q.conditions, c.holds s r = true) ↔ q.Finds last := by
  have htitle : r.title = last.title := by rw [hr.row]; rfl
  have hfolder : r.folder = last.folder := by rw [hr.row]; rfl
  have htag : ∀ t, s.hasTag r.id t = true ↔ t ∈ last.tags := by
    intro t
    rw [← hr.tags, Store.mem_tagsFor, Store.hasTag, decide_eq_true_iff]
  rw [Query.forall_mem_conditions]
  simp only [Condition.holds, beq_iff_eq, htitle, hfolder, htag]
  rw [Query.pattern?_accepts_iff hnul]
  constructor
  · rintro ⟨h1, h2, h3⟩
    exact ⟨h1, h2, h3⟩
  · exact fun h => ⟨h.title, h.folder, h.tags⟩

/-! ## Queries within the limits, and beyond them -/

theorem Query.depth_planWith (q : Query) (o : SortOption) (w : Window) :
    (q.planWith o w).depth = q.tags.length + 9 := by
  have htitle : ∀ l : List String, (l.map Condition.titleLike).countP Condition.isTag = 0 :=
    fun l => List.countP_eq_zero.mpr (by simp [Condition.isTag])
  have hfolder : ∀ l : List String, (l.map Condition.inFolder).countP Condition.isTag = 0 :=
    fun l => List.countP_eq_zero.mpr (by simp [Condition.isTag])
  have htag : (q.tags.map Condition.hasTag).countP Condition.isTag = q.tags.length := by
    rw [List.countP_eq_length.mpr (by simp [Condition.isTag]), List.length_map]
  rw [Plan.depth, planWith, conditions, List.countP_append, List.countP_append, htitle, hfolder,
    htag]
  omega

theorem Query.not_isTooLong {q : Query}
    (h : ∀ pat, q.pattern? = some pat → pat.utf8ByteSize ≤ Text.Like.maxPatternBytes) :
    ∀ c ∈ q.conditions, c.isTooLong = false :=
  Query.forall_mem_conditions.mpr
    ⟨fun pat hpat => decide_eq_false (Nat.not_lt.mpr (h pat hpat)), fun _ _ => rfl, fun _ _ => rfl⟩

/-- A plan within the limits is evaluated, whatever the store holds. -/
theorem Query.evaluates_planWith (s : Store) {q : Query} {o : SortOption} (w : Window)
    {ks : List SortKey} (hk : o.terms = ks.map OrderTerm.ofKey) (hterms : ks.length ≤ 1999)
    (htags : q.tags.length ≤ 900)
    (hpat : ∀ pat, q.pattern? = some pat → pat.utf8ByteSize ≤ Text.Like.maxPatternBytes) :
    s.Evaluates (q.planWith o w) ks where
  depth := by rw [Query.depth_planWith, Plan.maxDepth]; omega
  terms := by
    show o.terms.length + 1 ≤ Plan.maxTerms
    rw [hk, List.length_map, Plan.maxTerms]; omega
  keys := hk
  patterns := Or.inr (Query.not_isTooLong hpat)

/-- **A first page that is long enough shows the whole listing.** -/
theorem Service.search_of_long_page {v : Service} (evaluate : Evaluator) {s : Store} {q : Query}
    {w : Window} {o : SortOption} {ks : List SortKey} (hw : q.window = .ok w)
    (ho : v.registry.resolve q v.config.defaultSort = .ok o) (hev : s.Evaluates (q.planWith o w) ks)
    (hpage : q.page.toNat ≤ 1) (hlimit : s.count ≤ q.limit.toNat) :
    v.search evaluate s q = .ok ((s.listing q.conditions ks).map (s.hit (q.planWith o w))) := by
  obtain ⟨_, _, _, rfl⟩ := Query.window_eq_ok.mp hw
  rw [Service.search_of_evaluates evaluate hw ho hev]
  have hoffset : q.offset = 0 := by
    rw [Query.offset, Nat.max_eq_right hpage, Nat.sub_self, Nat.zero_mul]
  have hall : (s.listing q.conditions ks).length ≤ q.limit.toNat :=
    Nat.le_trans (s.length_listing_le q.conditions ks) hlimit
  rw [Window.slice, hoffset, List.drop_zero, List.take_of_length_le hall]

/-- A plan with one order term more is refused, whatever the store holds. -/
theorem Service.search_eq_tooManyTerms (evaluate : Evaluator) (s : Store) {v : Service} {q : Query}
    {p : Plan} {ks : List SortKey} (hp : q.plan v.registry v.config.defaultSort = .ok p)
    (htags : q.tags.length ≤ 900) (hk : p.terms = ks.map OrderTerm.ofKey)
    (hterms : 2000 ≤ ks.length) : v.search evaluate s q = .error (.store .tooManyTerms) := by
  obtain ⟨w, o, _, _, rfl⟩ := Query.plan_eq_ok.mp hp
  have hdepth : ¬ Plan.maxDepth < (q.planWith o w).depth := by
    rw [Query.depth_planWith, Plan.maxDepth]; omega
  have hmany : Plan.maxTerms < (q.planWith o w).terms.length + 1 := by
    rw [hk, List.length_map]
    exact Nat.lt_succ_of_le hterms
  rw [Service.search, hp]
  dsimp only
  rw [Store.search_of_keys s evaluate hk, Store.select, if_neg hdepth, if_pos hmany]
  rfl

/-! ## The answer -/

namespace Store

/-- The uids of a listing are those whose last dashboard the query finds. -/
theorem mem_listing_uids {s : Store} {ds : List Dashboard} (hwf : WellFormed s)
    (href : Reflects s ds) {q : Query} (hnul : '\x00' ∉ q.text.toList) {ks : List SortKey}
    {u : String} :
    u ∈ (s.listing q.conditions ks).map Row.uid ↔ ∃ d, lastOf ds u = some d ∧ q.Finds d := by
  rw [List.mem_map]
  constructor
  · rintro ⟨r, hr, rfl⟩
    obtain ⟨hmem, hold⟩ := mem_listing.mp hr
    obtain ⟨f, l, _, hl, hrow⟩ := href.present r.uid r (hwf.row?_of_mem hmem)
    exact ⟨l, hl, (Query.conditions_hold_iff hnul hrow).mp hold⟩
  · rintro ⟨d, hd, hfind⟩
    cases hrow : s.row? u with
    | none => rw [(href.absent u).mp hrow] at hd; exact absurd hd (by simp)
    | some r =>
        -- the row of the uid stands for its last dashboard, which is the one that is found
        obtain ⟨f, l, _, hl, hr⟩ := href.present u r hrow
        obtain rfl : l = d := Option.some.inj (hl.symm.trans hd)
        exact ⟨r, mem_listing.mpr ⟨mem_of_row? hrow, (Query.conditions_hold_iff hnul hr).mpr hfind⟩,
          uid_of_row? hrow⟩

theorem nodup_listing_uids {s : Store} (hwf : WellFormed s) (cs : List Condition)
    (ks : List SortKey) : ((s.listing cs ks).map Row.uid).Nodup := by
  rw [listing, ((List.mergeSort_perm _ _).map Row.uid).nodup_iff]
  exact hwf.uids.sublist (List.filter_sublist.map Row.uid)

end Store

/--
**A search finds what it asks for.**

Take any history, and a query whose plan is accepted, with at most 1999 built-in
order terms, at most 900 tags, a pattern that is not too long and a first page
that is long enough for all dashboards. The search is answered; its hits are the
uids whose last dashboard the query finds; and each of them is shown once. No
character of the text is special, and a blank text is contained in every title.
-/
theorem Service.search_members (evaluate : Evaluator) (ds : List Dashboard) {v : Service}
    {q : Query} {p : Plan} {ks : List SortKey} (hp : q.plan v.registry v.config.defaultSort = .ok p)
    (hk : p.terms = ks.map OrderTerm.ofKey) (hterms : ks.length ≤ 1999)
    (hpage : q.page.toNat ≤ 1) (hlimit : (Store.fresh.insertAll ds).count ≤ q.limit.toNat)
    (htags : q.tags.length ≤ 900) (hpat : ∀ pat, q.pattern? = some pat → pat.utf8ByteSize ≤ 50000)
    (hnul : '\x00' ∉ q.text.toList) :
    ∃ hits, v.search evaluate (Store.fresh.insertAll ds) q = .ok hits
      ∧ (∀ u, u ∈ hits.map Hit.uid ↔ ∃ d, Store.lastOf ds u = some d ∧ q.Finds d)
      ∧ (hits.map Hit.uid).Nodup := by
  have hwf := Store.wellFormed_insertAll Store.wellFormed_fresh ds
  obtain ⟨w, o, hw, ho, rfl⟩ := Query.plan_eq_ok.mp hp
  have hev := Query.evaluates_planWith (Store.fresh.insertAll ds) w hk hterms htags hpat
  refine ⟨_, Service.search_of_long_page evaluate hw ho hev hpage hlimit, ?_⟩
  have huids : ∀ (s : Store) (rs : List Row),
      (rs.map (s.hit (q.planWith o w))).map Hit.uid = rs.map Row.uid :=
    fun s rs => by rw [List.map_map]; rfl
  rw [huids]
  exact ⟨fun u => Store.mem_listing_uids hwf (Store.reflects_insertAll ds) hnul,
    Store.nodup_listing_uids hwf q.conditions ks⟩

/-- Two dashboards are added, then the first one anew: moved, renamed and tagged otherwise. -/
def movedHistory : List Dashboard :=
  [{ uid := "a", title := "Save 500 NOW", tags := ["cost"], createdAt := 1, updatedAt := 1 },
   { uid := "b", title := "Save 500 now", folder := some "ops", tags := ["disk"],
     createdAt := 2, updatedAt := 2 },
   { uid := "a", title := "save 50% today", folder := some "ops", tags := ["disk", "disk"],
     createdAt := 3, updatedAt := 3 }]

/-- A query whose text has blanks around it, a special character in it and other letters. -/
def percentQuery : Query :=
  { text := " SAVE 50% ", tags := ["disk"], folder := some "ops" }

theorem Service.search_members_of_percent :
    ∃ hits, (Service.ofProviders {} []).search .absent (Store.fresh.insertAll movedHistory)
          percentQuery = .ok hits
      ∧ (∀ u, u ∈ hits.map Hit.uid
          ↔ ∃ d, Store.lastOf movedHistory u = some d ∧ percentQuery.Finds d)
      ∧ (hits.map Hit.uid).Nodup := by
  have hplan : percentQuery.plan (Registry.ofProviders []) alphaAsc.name
      = .ok (percentQuery.planWith alphaAsc ⟨50, 0⟩) := by decide
  have hkeys : alphaAsc.terms = [(.title, .ascending)].map OrderTerm.ofKey := rfl
  have hpattern : percentQuery.pattern? = some "%SAVE 50\\%%" := by decide
  refine Service.search_members .absent movedHistory hplan hkeys (by decide) (by decide) (by decide)
    (by decide) ?_ (by decide)
  intro pat hpat
  rw [← Option.some.inj (hpattern.symm.trans hpat)]
  decide

/-- An option with so many order terms that there is no room for the row number. -/
def crowdedOption : SortOption :=
  { name := "crowded", terms := List.replicate 2000 (.column .views .ascending) }

/-- A service that offers it. -/
def crowdedService : Service := (Service.ofProviders {} []).register crowdedOption

/-- A query that asks for everything in that order. -/
def crowdedQuery : Query := { sort := some "crowded" }

/-- With 2000 order terms, a search is refused that keeps to all the other limits. -/
theorem Service.search_crowded :
    ∃ p, crowdedQuery.plan crowdedService.registry crowdedService.config.defaultSort = .ok p
      ∧ p.terms = (List.replicate 2000 (.views, .ascending)).map OrderTerm.ofKey
      ∧ crowdedQuery.page.toNat ≤ 1
      ∧ (Store.fresh.insertAll movedHistory).count ≤ crowdedQuery.limit.toNat
      ∧ crowdedQuery.tags.length ≤ 900 ∧ crowdedQuery.pattern? = none
      ∧ '\x00' ∉ crowdedQuery.text.toList
      ∧ crowdedService.search .absent (Store.fresh.insertAll movedHistory) crowdedQuery
          = .error (.store .tooManyTerms) := by
  have hplan : crowdedQuery.plan crowdedService.registry crowdedService.config.defaultSort
      = .ok (crowdedQuery.planWith crowdedOption ⟨50, 0⟩) := rfl
  have hk : (crowdedQuery.planWith crowdedOption ⟨50, 0⟩).terms
      = (List.replicate 2000 (.views, .ascending)).map OrderTerm.ofKey := by
    rw [List.map_replicate]; rfl
  refine ⟨_, hplan, hk, by decide, by decide, by decide, by decide, by decide,
    Service.search_eq_tooManyTerms _ _ hplan (by decide) hk ?_⟩
  rw [List.length_replicate]

end DashIndex
