import DashIndex.Service.Basic

/-!
# When a search is answered, and with what

A search passes a row of checks: the page, the sort option, the size of the
statement, the length of the pattern. Each can refuse it, and what comes out when
none does is a window of one list, the listing: the rows on which all conditions
hold, in the order of the sort keys. `Service.search_eq_ok` says both at once. What is
proved about answers is proved about windows of listings, and the checks are not
looked at again.

All this is about options that order by built-in columns. An option with a term from
outside has no keys, and its searches are answered by the database.
-/

namespace DashIndex

/-- The order term of a column in a direction. -/
def OrderTerm.ofKey (k : SortKey) : OrderTerm := .column k.1 k.2

theorem OrderTerm.keys?_map_ofKey (ks : List SortKey) :
    OrderTerm.keys? (ks.map OrderTerm.ofKey) = some ks := by
  induction ks with
  | nil => rfl
  | cons k ks ih =>
      rw [List.map_cons, OrderTerm.ofKey, OrderTerm.keys?, ih]; rfl

theorem OrderTerm.map_ofKey_inj {ks ks' : List SortKey}
    (h : ks.map OrderTerm.ofKey = ks'.map OrderTerm.ofKey) : ks = ks' := by
  have hk := congrArg OrderTerm.keys? h
  rw [OrderTerm.keys?_map_ofKey, OrderTerm.keys?_map_ofKey] at hk
  exact Option.some.inj hk

/-- The option that answers a query orders by built-in columns only. -/
def Service.OrdersByColumns (v : Service) (q : Query) : Prop :=
  ∀ o, v.registry.resolve q v.config.defaultSort = .ok o →
    ∃ ks : List SortKey, o.terms = ks.map OrderTerm.ofKey

theorem Service.ordersByColumns_of_resolve {v : Service} {q : Query} {o : SortOption}
    {ks : List SortKey} (ho : v.registry.resolve q v.config.defaultSort = .ok o)
    (hk : o.terms = ks.map OrderTerm.ofKey) : v.OrdersByColumns q := by
  intro o' ho'
  obtain rfl := Except.ok.inj (ho.symm.trans ho')
  exact ⟨ks, hk⟩

namespace Store

/-- The rows on which all conditions hold, in the order of the keys. -/
def listing (s : Store) (cs : List Condition) (ks : List SortKey) : List Row :=
  (s.matching cs).mergeSort fun a b => (Row.order ks a b).isLE

theorem mem_listing {s : Store} {cs : List Condition} {ks : List SortKey} {r : Row} :
    r ∈ s.listing cs ks ↔ r ∈ s.rows ∧ ∀ c ∈ cs, c.holds s r = true := by
  rw [listing, List.mem_mergeSort, matching, List.mem_filter, List.all_eq_true]

theorem length_listing_le (s : Store) (cs : List Condition) (ks : List SortKey) :
    (s.listing cs ks).length ≤ s.count := by
  rw [listing, List.length_mergeSort]
  exact List.length_filter_le _ _

/-- What a plan must be for a store to evaluate it. -/
structure Evaluates (s : Store) (p : Plan) (ks : List SortKey) : Prop where
  /-- Its condition does not nest too deep. -/
  depth : p.depth ≤ Plan.maxDepth
  /-- There are not too many order terms. -/
  terms : p.terms.length + 1 ≤ Plan.maxTerms
  /-- All order terms are built in. -/
  keys : p.terms = ks.map OrderTerm.ofKey
  /-- No pattern is too long for the rows that are there. -/
  patterns : s.rows = [] ∨ ∀ c ∈ p.conditions, c.isTooLong = false

theorem patterns_iff {s : Store} {p : Plan} :
    (s.rows != [] && p.conditions.any Condition.isTooLong) = false
      ↔ s.rows = [] ∨ ∀ c ∈ p.conditions, c.isTooLong = false := by
  rw [Bool.and_eq_false_iff, bne_eq_false_iff_eq, List.any_eq_false]
  simp only [Bool.not_eq_true]

/-- **A plan that passes all checks is answered by a window of the listing.** -/
theorem select_eq_ok {s : Store} {p : Plan} {ks : List SortKey} {rs : List Row}
    (hk : p.terms = ks.map OrderTerm.ofKey) :
    s.select p ks = .ok rs
      ↔ Evaluates s p ks ∧ rs = p.window.slice (s.listing p.conditions ks) := by
  unfold select
  constructor
  · intro h
    split at h
    · exact absurd h (by simp)
    · rename_i hdepth
      split at h
      · exact absurd h (by simp)
      · rename_i hterms
        split at h
        · exact absurd h (by simp)
        · rename_i hpat
          exact ⟨⟨Nat.not_lt.mp hdepth, Nat.not_lt.mp hterms, hk,
            patterns_iff.mp (Bool.not_eq_true _ ▸ hpat)⟩, (Except.ok.inj h).symm⟩
  · rintro ⟨hev, rfl⟩
    rw [if_neg (Nat.not_lt.mpr hev.depth), if_neg (Nat.not_lt.mpr hev.terms),
      patterns_iff.mpr hev.patterns]
    rfl

/-- A plan of built-in terms is answered without the database. -/
theorem search_of_keys (s : Store) (evaluate : Evaluator) {p : Plan} {ks : List SortKey}
    (hk : p.terms = ks.map OrderTerm.ofKey) :
    s.search evaluate p = (s.select p ks).map (·.map (s.hit p)) := by
  rw [search, hk, OrderTerm.keys?_map_ofKey]

theorem search_eq_ok {s : Store} {evaluate : Evaluator} {p : Plan} {ks : List SortKey}
    {hits : List Hit} (hk : p.terms = ks.map OrderTerm.ofKey) :
    s.search evaluate p = .ok hits
      ↔ Evaluates s p ks
          ∧ hits = (p.window.slice (s.listing p.conditions ks)).map (s.hit p) := by
  rw [search_of_keys s evaluate hk]
  constructor
  · intro h
    cases hsel : s.select p ks with
    | error e => rw [hsel] at h; exact absurd h (by simp [Except.map])
    | ok rs =>
        rw [hsel] at h
        obtain ⟨hev, rfl⟩ := (select_eq_ok hk).mp hsel
        exact ⟨hev, (Except.ok.inj h).symm⟩
  · rintro ⟨hev, rfl⟩
    rw [(select_eq_ok hk).mpr ⟨hev, rfl⟩]; rfl

end Store

/-! ## Queries -/

/-- How many hits come before the page of a query. -/
def Query.offset (q : Query) : Nat := (max q.page.toNat 1 - 1) * q.limit.toNat

/-- The page of a query is a window if it can be counted. -/
theorem Query.window_eq_ok {q : Query} {w : Window} :
    q.window = .ok w
      ↔ 1 ≤ q.limit.toNat ∧ (q.limit.toNat : Int) ≤ Text.maxInt64
          ∧ (q.offset : Int) ≤ Text.maxInt64 ∧ w = ⟨q.limit.toNat, q.offset⟩ := by
  rw [Query.window_eq]
  unfold Query.offset
  constructor
  · intro h
    split at h
    · exact absurd h (by simp)
    · rename_i hlim
      split at h
      · exact absurd h (by simp)
      · exact ⟨by omega, by omega, by omega, (Except.ok.inj h).symm⟩
  · rintro ⟨h1, h2, h3, rfl⟩
    rw [if_neg (by omega), if_neg (by omega)]

theorem Query.plan_eq_ok {q : Query} {r : Registry} {dflt : String} {p : Plan} :
    q.plan r dflt = .ok p
      ↔ ∃ w o, q.window = .ok w ∧ r.resolve q dflt = .ok o ∧ p = q.planWith o w := by
  unfold Query.plan
  cases hw : q.window with
  | error e => simp
  | ok w =>
      cases ho : r.resolve q dflt with
      | error e => simp
      | ok o =>
          constructor
          · exact fun h => ⟨w, o, rfl, rfl, (Except.ok.inj h).symm⟩
          · rintro ⟨w', o', hw', ho', rfl⟩
            rw [Except.ok.inj hw', Except.ok.inj ho']

/-- A query that passes all checks is answered by a window of a listing. -/
theorem Service.search_of_evaluates {v : Service} (evaluate : Evaluator) {s : Store} {q : Query}
    {w : Window} {o : SortOption} {ks : List SortKey} (hw : q.window = .ok w)
    (ho : v.registry.resolve q v.config.defaultSort = .ok o)
    (hev : s.Evaluates (q.planWith o w) ks) :
    v.search evaluate s q
      = .ok ((w.slice (s.listing q.conditions ks)).map (s.hit (q.planWith o w))) := by
  unfold Service.search
  rw [Query.plan_eq_ok.mpr ⟨w, o, hw, ho, rfl⟩]
  dsimp only
  rw [(Store.search_eq_ok hev.keys).mpr ⟨hev, rfl⟩]
  rfl

/-- **A query is answered by a window of a listing, if by anything.** -/
theorem Service.search_eq_ok {v : Service} {evaluate : Evaluator} {s : Store} {q : Query}
    {hits : List Hit} (hcolumns : v.OrdersByColumns q) :
    v.search evaluate s q = .ok hits
      ↔ ∃ w o ks, q.window = .ok w ∧ v.registry.resolve q v.config.defaultSort = .ok o
          ∧ s.Evaluates (q.planWith o w) ks
          ∧ hits = (w.slice (s.listing q.conditions ks)).map (s.hit (q.planWith o w)) := by
  constructor
  · intro h
    unfold Service.search at h
    cases hp : q.plan v.registry v.config.defaultSort with
    | error e => rw [hp] at h; exact absurd h (by simp)
    | ok p =>
        rw [hp] at h
        dsimp only at h
        obtain ⟨w, o, hw, ho, rfl⟩ := Query.plan_eq_ok.mp hp
        obtain ⟨ks, hk⟩ := hcolumns o ho
        cases hs : s.search evaluate (q.planWith o w) with
        | error e => rw [hs] at h; exact absurd h (by simp)
        | ok hs' =>
            rw [hs] at h
            obtain ⟨hev, heq⟩ := (Store.search_eq_ok hk).mp hs
            exact ⟨w, o, ks, hw, ho, hev, by rw [← Except.ok.inj h, heq]; rfl⟩
  · rintro ⟨w, o, ks, hw, ho, hev, rfl⟩
    exact Service.search_of_evaluates evaluate hw ho hev

end DashIndex
