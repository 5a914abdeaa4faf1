import DashIndex.Proofs.Search.Answer
import DashIndex.Proofs.Store.Reachable

/-!
# Pages make up the whole

Every page of a query is a window of one and the same listing, because nothing
but the window depends on the page. The longest page there is starts at the first
hit and is as long as a number can be, and there are no more rows than numbers,
so it is the whole listing. Any other page is then a stretch of that one answer,
and stretches of one length, put one after the other, give it back.
-/

namespace DashIndex

/-! ## Stretches of a list -/

/-- How many pages of a length hold so many hits. -/
def pageCount (n length : Nat) : Nat := (n + length - 1) / length

/-- A page is needed if and only if a hit is left for it. -/
theorem lt_pageCount {k n length : Nat} (h : 1 ≤ length) :
    k < pageCount n length ↔ k * length < n := by
  have hsucc : (k + 1) * length = k * length + length := Nat.succ_mul k length
  have hdiv : k + 1 ≤ pageCount n length ↔ (k + 1) * length ≤ n + length - 1 :=
    Nat.le_div_iff_mul_le h
  omega

/-- The first stretches, put one after the other, are the first elements. -/
theorem flatten_stretches {α : Type} (xs : List α) (length n : Nat) :
    ((List.range n).map fun k => (xs.drop (k * length)).take length).flatten
      = xs.take (n * length) := by
  induction n with
  | zero => simp
  | succ n ih =>
      rw [List.range_succ, List.map_append, List.flatten_append, ih, List.map_singleton,
        List.flatten_singleton, Nat.succ_mul, List.take_add]

/-- A list whose every element is answered is answered as a whole. -/
theorem mapM_eq_ok {α β ε : Type} {f : α → Except ε β} {g : α → β} {xs : List α}
    (h : ∀ x ∈ xs, f x = .ok (g x)) : xs.mapM f = .ok (xs.map g) := by
  induction xs with
  | nil => rfl
  | cons x xs ih =>
      rw [List.mapM_cons, h x List.mem_cons_self, ih fun y hy => h y (List.mem_cons_of_mem _ hy)]
      rfl

/-! ## One page -/

/-- The query, asking for the page of this number among pages of this length. -/
def Query.paged (q : Query) (length page : UInt64) : Query :=
  { q with limit := length, page := page }

/-- How many hits come before a page. -/
def Query.skipped (length page : UInt64) : Nat := (max page.toNat 1 - 1) * length.toNat

/-- No listing is longer than the longest page. -/
theorem Store.length_listing_le_of_reachable {s : Store} (hs : s.Reachable)
    (cs : List Condition) (ks : List SortKey) :
    (s.listing cs ks).length ≤ UInt64.toNat 9223372036854775807 := by
  have hmax := Store.count_le_of_reachable hs
  rw [Text.maxInt64] at hmax
  have hcount : s.count ≤ 9223372036854775807 := by omega
  exact Nat.le_trans (s.length_listing_le cs ks) hcount

theorem Service.OrdersByColumns.paged {v : Service} {q : Query} (h : v.OrdersByColumns q)
    (length page : UInt64) : v.OrdersByColumns (q.paged length page) := h

/-- A page depends on its number and length through the window alone. -/
theorem Service.search_paged {v : Service} {evaluate : Evaluator} {s : Store} {q : Query}
    (hcolumns : v.OrdersByColumns q) {length page : UInt64} {hits : List Hit} :
    v.search evaluate s (q.paged length page) = .ok hits
      ↔ ∃ o ks, 1 ≤ length.toNat ∧ (length.toNat : Int) ≤ Text.maxInt64
          ∧ (Query.skipped length page : Int) ≤ Text.maxInt64
          ∧ v.registry.resolve q v.config.defaultSort = .ok o
          ∧ s.Evaluates (q.planWith o ⟨1, 0⟩) ks
          ∧ hits = (((s.listing q.conditions ks).map (s.hit (q.planWith o ⟨1, 0⟩))).drop
              (Query.skipped length page)).take length.toNat := by
  rw [Service.search_eq_ok (hcolumns.paged length page)]
  constructor
  · rintro ⟨w, o, ks, hwin, hopt, hev, rfl⟩
    obtain ⟨h1, h2, h3, rfl⟩ := Query.window_eq_ok.mp hwin
    refine ⟨o, ks, h1, h2, h3, hopt, ⟨hev.depth, hev.terms, hev.keys, hev.patterns⟩, ?_⟩
    rw [← List.map_drop, ← List.map_take]
    rfl
  · rintro ⟨o, ks, h1, h2, h3, hopt, hev, rfl⟩
    refine ⟨_, o, ks, Query.window_eq_ok.mpr ⟨h1, h2, h3, rfl⟩, hopt,
      ⟨hev.depth, hev.terms, hev.keys, hev.patterns⟩, ?_⟩
    rw [← List.map_drop, ← List.map_take]
    rfl

/-- The longest page is the whole listing, so every page is a stretch of it. -/
theorem Service.search_page {v : Service} {evaluate : Evaluator} {s : Store}
    (hs : s.Reachable) {q : Query} (hcolumns : v.OrdersByColumns q) {whole : List Hit}
    (hw : v.search evaluate s (q.paged 9223372036854775807 1) = .ok whole)
    {length page : UInt64} (h1 : 1 ≤ length.toNat) (h2 : (length.toNat : Int) ≤ Text.maxInt64)
    (h3 : (Query.skipped length page : Int) ≤ Text.maxInt64) :
    v.search evaluate s (q.paged length page)
      = .ok ((whole.drop (Query.skipped length page)).take length.toNat) := by
  obtain ⟨o, ks, _, _, _, hopt, hev, rfl⟩ := (Service.search_paged hcolumns).mp hw
  refine (Service.search_paged hcolumns).mpr ⟨o, ks, h1, h2, h3, hopt, hev, ?_⟩
  have hlen : ((s.listing q.conditions ks).map (s.hit (q.planWith o ⟨1, 0⟩))).length
      ≤ UInt64.toNat 9223372036854775807 := by
    rw [List.length_map]
    exact Store.length_listing_le_of_reachable hs q.conditions ks
  rw [show Query.skipped 9223372036854775807 1 = 0 from rfl, List.drop_zero,
    List.take_of_length_le hlen]

/-! ## All pages -/

theorem Service.length_le_of_search {v : Service} {evaluate : Evaluator} {s : Store} {q : Query}
    (hcolumns : v.OrdersByColumns q) {hits : List Hit} (h : v.search evaluate s q = .ok hits) :
    (hits.length : Int) ≤ Text.maxInt64 := by
  obtain ⟨w, o, ks, hwin, _, _, rfl⟩ := (Service.search_eq_ok hcolumns).mp h
  obtain ⟨_, hlim, _, rfl⟩ := Query.window_eq_ok.mp hwin
  rw [List.length_map, Window.slice]
  exact Int.le_trans (Int.ofNat_le.mpr (List.length_take_le _ _)) hlim

/-- The offset of a page that is needed is the number of a hit. -/
theorem Query.skipped_of_needed {length : UInt64} {k n : Nat} (h1 : 1 ≤ length.toNat)
    (hn : (n : Int) ≤ Text.maxInt64) (hk : k * length.toNat < n) :
    Query.skipped length (UInt64.ofNat (k + 1)) = k * length.toNat := by
  have hle : k ≤ k * length.toNat := Nat.le_mul_of_pos_right k h1
  have hpage : (UInt64.ofNat (k + 1)).toNat = k + 1 := by
    rw [UInt64.toNat_ofNat']
    refine Nat.mod_eq_of_lt ?_
    rw [Text.maxInt64] at hn
    omega
  rw [Query.skipped, hpage, Nat.max_eq_left (Nat.le_add_left 1 k), Nat.add_sub_cancel]

/--
**Pages partition the listing.**

This is about options of built-in columns, as a term from outside may order the rows
anew for each page. Each page whose offset can be counted is the stretch of the whole
answer that starts there. So the pages up to the last one that is needed are all answered and
give the whole answer when put one after the other, and every later page is
empty.
-/
theorem Service.search_pages {v : Service} {evaluate : Evaluator} {s : Store}
    (hs : s.Reachable) {q : Query} (hcolumns : v.OrdersByColumns q) {whole : List Hit}
    (hw : v.search evaluate s (q.paged 9223372036854775807 1) = .ok whole)
    {length : UInt64} (h1 : 1 ≤ length.toNat) (h2 : (length.toNat : Int) ≤ Text.maxInt64) :
    (∀ page : UInt64, (Query.skipped length page : Int) ≤ Text.maxInt64 →
        v.search evaluate s (q.paged length page)
          = .ok ((whole.drop (Query.skipped length page)).take length.toNat))
      ∧ (∃ pages, (List.range (pageCount whole.length length.toNat)).mapM
            (fun k => v.search evaluate s (q.paged length (UInt64.ofNat (k + 1)))) = .ok pages
          ∧ pages.flatten = whole)
      ∧ (∀ page : UInt64, pageCount whole.length length.toNat < page.toNat →
          (Query.skipped length page : Int) ≤ Text.maxInt64 →
          v.search evaluate s (q.paged length page) = .ok []) := by
  have hlen := Service.length_le_of_search (hcolumns.paged _ _) hw
  refine ⟨fun page h3 => Service.search_page hs hcolumns hw h1 h2 h3, ?_, ?_⟩
  · refine ⟨_, mapM_eq_ok (g := fun k => (whole.drop (k * length.toNat)).take length.toNat)
      fun k hk => ?_, ?_⟩
    · have hlt : k * length.toNat < whole.length := (lt_pageCount h1).mp (List.mem_range.mp hk)
      have hskip := Query.skipped_of_needed h1 hlen hlt
      -- there are no more hits than numbers, so the offset can be counted
      have h3 : (Query.skipped length (UInt64.ofNat (k + 1)) : Int) ≤ Text.maxInt64 := by
        rw [hskip]; omega
      rw [Service.search_page hs hcolumns hw h1 h2 h3, hskip]
    · rw [flatten_stretches]
      have hall : ¬ pageCount whole.length length.toNat * length.toNat < whole.length :=
        fun hlt => Nat.lt_irrefl _ ((lt_pageCount h1).mpr hlt)
      exact List.take_of_length_le (Nat.not_lt.mp hall)
  · intro page hpage h3
    rw [Service.search_page hs hcolumns hw h1 h2 h3]
    have hpast : whole.length ≤ Query.skipped length page := by
      refine Nat.not_lt.mp fun hlt => ?_
      have := (lt_pageCount h1).mpr hlt
      omega
    rw [List.drop_of_length_le hpast, List.take_nil]

/-- Three hits fill two pages of two, the second of them in part. -/
theorem Service.search_pages_of_three :
    let v := Service.ofProviders {} []
    let s := Store.fresh.insertAll [.create "a" "b" 1, .create "b" "A" 2, .create "c" "a" 3]
    let q : Query := { sort := some "alpha-desc" }
    ∃ whole, v.search .absent s (q.paged 9223372036854775807 1) = .ok whole
      ∧ whole.map Hit.id = [1, 2, 3]
      ∧ (∃ pages, (List.range 2).mapM
            (fun k => v.search .absent s (q.paged 2 (UInt64.ofNat (k + 1)))) = .ok pages
          ∧ pages.flatten = whole)
      ∧ v.search .absent s (q.paged 2 3) = .ok [] := by
  intro v s q
  have hopt : v.registry.resolve q v.config.defaultSort = .ok alphaDesc := by decide
  have hkeys : alphaDesc.terms = [(.title, .descending)].map OrderTerm.ofKey := rfl
  have hcolumns : v.OrdersByColumns q := Service.ordersByColumns_of_resolve hopt hkeys
  have hs : s.Reachable := Store.reachable_insertAll .fresh (by decide)
  obtain ⟨whole, hw, hids⟩ : ∃ whole, v.search .absent s (q.paged 9223372036854775807 1) = .ok whole
      ∧ whole.map Hit.id = [1, 2, 3] := by
    refine ⟨_, (Service.search_paged hcolumns).mpr ⟨alphaDesc, [(.title, .descending)], by decide,
      by decide, by decide, hopt, ⟨by decide, by decide, hkeys, Or.inr (by decide)⟩, rfl⟩, ?_⟩
    -- the rows stand in this order already, so that they need not be sorted
    rw [Store.listing, List.mergeSort_of_pairwise (by decide)]
    decide
  have h1 : 1 ≤ UInt64.toNat 2 := by decide
  have h2 : (UInt64.toNat 2 : Int) ≤ Text.maxInt64 := by decide
  have hlength : whole.length = 3 := by rw [← List.length_map (f := Hit.id), hids]; rfl
  have hcount : pageCount 3 (UInt64.toNat 2) = 2 := by decide
  obtain ⟨_, hpages, hlater⟩ := Service.search_pages hs hcolumns hw h1 h2
  rw [hlength, hcount] at hpages hlater
  exact ⟨whole, hw, hids, hpages, hlater 3 (by decide) (by decide)⟩

end DashIndex
