import DashIndex.Proofs.Search.Answer
import DashIndex.Proofs.Store.Reachable
import DashIndex.Proofs.Text.NoCase

/-!
# The order of the hits

Rows are compared by one sort key after the other, each in its direction, and by
their numbers when no key tells them apart. Every single comparison is a total
preorder: numbers obviously, titles because they are compared by keys. Reversing
one and putting one after the other keeps that, so the whole chain is a total
preorder as well, whatever the keys are; and as the numbers of two rows differ,
no two rows of a store are level. A listing is therefore sorted in one way only.
-/

namespace DashIndex

/-! ## Comparing rows -/

/-- A row comes before another in a column. -/
def SortColumn.Less : SortColumn → Row → Row → Prop
  | .title, a, b => Text.NoCase.order a.title b.title = .lt
  | .views, a, b => a.views.toInt < b.views.toInt
  | .updated, a, b => a.updatedAt.toInt < b.updatedAt.toInt

/-- A row comes before another by a key: descending keys count the other way round. -/
def SortKey.Less : SortKey → Row → Row → Prop
  | (c, .ascending), a, b => c.Less a b
  | (c, .descending), a, b => c.Less b a

/-- A key does not tell two rows apart. -/
def SortKey.Ties (k : SortKey) (a b : Row) : Prop := ¬ SortKey.Less k a b ∧ ¬ SortKey.Less k b a

/--
A row comes before another: the first key that tells them apart puts it first,
or none does and it has the lesser number.
-/
def Row.Before (ks : List SortKey) (a b : Row) : Prop :=
  (∃ pre k post, ks = pre ++ k :: post ∧ (∀ j ∈ pre, SortKey.Ties j a b) ∧ SortKey.Less k a b)
    ∨ ((∀ k ∈ ks, SortKey.Ties k a b) ∧ a.id < b.id)

/-! ## Every comparison is a total preorder -/

/-- Comparing by what a function makes of two values. -/
theorem transCmp_comap {α β : Type} {cmp : β → β → Ordering} (h : Std.TransCmp cmp) (f : α → β) :
    Std.TransCmp fun a b => cmp (f a) (f b) where
  eq_swap := h.eq_swap
  isLE_trans := h.isLE_trans

instance (c : SortColumn) : Std.TransCmp c.order := by
  cases c with
  | title =>
      exact transCmp_comap (show Std.TransCmp Text.NoCase.order from inferInstance) Row.title
  | views => exact inferInstanceAs (Std.TransCmp (compareOn fun r : Row => r.views.toInt))
  | updated => exact inferInstanceAs (Std.TransCmp (compareOn fun r : Row => r.updatedAt.toInt))

theorem SortColumn.order_swap (c : SortColumn) (a b : Row) :
    (c.order a b).swap = c.order b a :=
  Std.OrientedCmp.eq_swap.symm

instance (c : SortColumn) (d : Direction) : Std.TransCmp fun a b => d.apply (c.order a b) := by
  cases d with
  | ascending => exact inferInstanceAs (Std.TransCmp c.order)
  | descending =>
      have hswap : (fun a b => Direction.descending.apply (c.order a b))
          = fun a b => c.order b a := by
        funext a b
        exact c.order_swap a b
      rw [hswap]; infer_instance

theorem Direction.apply_swap (d : Direction) (c : SortColumn) (a b : Row) :
    (d.apply (c.order a b)).swap = d.apply (c.order b a) := by
  cases d with
  | ascending => exact c.order_swap a b
  | descending => exact congrArg Ordering.swap (c.order_swap a b)

instance (ks : List SortKey) : Std.TransCmp (Row.order ks) := by
  induction ks with
  | nil => exact inferInstanceAs (Std.TransCmp (compareOn Row.id))
  | cons k ks ih =>
      obtain ⟨c, d⟩ := k
      exact inferInstanceAs
        (Std.TransCmp (compareLex (fun a b => d.apply (c.order a b)) (Row.order ks)))

theorem Row.order_self (ks : List SortKey) (a : Row) : Row.order ks a a = .eq :=
  Std.ReflCmp.compare_self

theorem Row.order_swap (ks : List SortKey) (a b : Row) :
    (Row.order ks a b).swap = Row.order ks b a :=
  Std.OrientedCmp.eq_swap.symm

/-- Two rows that are level by a chain of keys have one number. -/
theorem Row.id_eq_of_order_eq {ks : List SortKey} {a b : Row} (h : Row.order ks a b = .eq) :
    a.id = b.id := by
  induction ks with
  | nil => exact Int.compare_eq_eq.mp h
  | cons k ks ih =>
      obtain ⟨c, d⟩ := k
      rw [Row.order, Ordering.then_eq_eq] at h
      exact ih h.2

/-! ## What the chain says -/

theorem SortColumn.order_eq_lt {c : SortColumn} {a b : Row} : c.order a b = .lt ↔ c.Less a b := by
  cases c with
  | title => exact Iff.rfl
  | views => exact Int.compare_eq_lt
  | updated => exact Int.compare_eq_lt

theorem SortKey.apply_eq_lt {c : SortColumn} {d : Direction} {a b : Row} :
    d.apply (c.order a b) = .lt ↔ SortKey.Less (c, d) a b := by
  cases d with
  | ascending => exact SortColumn.order_eq_lt
  | descending =>
      show (c.order a b).swap = .lt ↔ c.Less b a
      rw [← SortColumn.order_eq_lt, c.order_swap]

theorem SortKey.apply_eq_eq {c : SortColumn} {d : Direction} {a b : Row} :
    d.apply (c.order a b) = .eq ↔ SortKey.Ties (c, d) a b := by
  unfold SortKey.Ties
  rw [← SortKey.apply_eq_lt, ← SortKey.apply_eq_lt, ← d.apply_swap c a b]
  cases d.apply (c.order a b) <;> simp

/-- **The chain of keys compares by the first key that tells two rows apart.** -/
theorem Row.order_eq_lt {ks : List SortKey} {a b : Row} :
    Row.order ks a b = .lt ↔ Row.Before ks a b := by
  induction ks with
  | nil =>
      rw [Row.order, Int.compare_eq_lt]
      constructor
      · exact fun h => Or.inr ⟨fun k hk => absurd hk List.not_mem_nil, h⟩
      · rintro (⟨pre, k, post, h, _⟩ | ⟨_, h⟩)
        · exact absurd h.symm (by simp)
        · exact h
  | cons k ks ih =>
      obtain ⟨c, d⟩ := k
      -- the first key decides, or it ties and the rest of the chain does
      rw [Row.order, Ordering.then_eq_lt, SortKey.apply_eq_lt, SortKey.apply_eq_eq, ih]
      constructor
      · rintro (h | ⟨htie, ⟨pre, k, post, rfl, hpre, hk⟩ | ⟨hall, hid⟩⟩)
        · exact Or.inl ⟨[], (c, d), ks, rfl, fun j hj => absurd hj List.not_mem_nil, h⟩
        · refine Or.inl ⟨(c, d) :: pre, k, post, rfl, fun j hj => ?_, hk⟩
          rcases List.mem_cons.mp hj with rfl | hj
          · exact htie
          · exact hpre j hj
        · refine Or.inr ⟨fun j hj => ?_, hid⟩
          rcases List.mem_cons.mp hj with rfl | hj
          · exact htie
          · exact hall j hj
      · rintro (⟨pre, k, post, heq, hpre, hk⟩ | ⟨hall, hid⟩)
        · cases pre with
          | nil =>
              obtain ⟨rfl, _⟩ := List.cons.inj heq
              exact Or.inl hk
          | cons j pre =>
              obtain ⟨rfl, rfl⟩ := List.cons.inj heq
              exact Or.inr ⟨hpre _ List.mem_cons_self,
                Or.inl ⟨pre, k, post, rfl, fun i hi => hpre i (List.mem_cons_of_mem _ hi), hk⟩⟩
        · exact Or.inr ⟨hall _ List.mem_cons_self,
            Or.inr ⟨fun i hi => hall i (List.mem_cons_of_mem _ hi), hid⟩⟩

/-! ## The rows of a store are strictly ordered -/

theorem Row.before_irrefl (ks : List SortKey) (a : Row) : ¬ Row.Before ks a a := by
  rw [← Row.order_eq_lt, Row.order_self]; simp

theorem Row.before_trans {ks : List SortKey} {a b c : Row}
    (hab : Row.Before ks a b) (hbc : Row.Before ks b c) : Row.Before ks a c := by
  rw [← Row.order_eq_lt] at *
  exact Std.TransCmp.lt_trans hab hbc

theorem Row.before_asymm {ks : List SortKey} {a b : Row}
    (hab : Row.Before ks a b) : ¬ Row.Before ks b a :=
  fun hba => Row.before_irrefl ks a (Row.before_trans hab hba)

/-- Rows with different numbers are never level. -/
theorem Row.before_or_before (ks : List SortKey) {a b : Row} (h : a.id ≠ b.id) :
    Row.Before ks a b ∨ Row.Before ks b a := by
  rw [← Row.order_eq_lt, ← Row.order_eq_lt, ← Row.order_swap ks a b]
  cases hab : Row.order ks a b with
  | lt => exact Or.inl rfl
  | eq => exact absurd (Row.id_eq_of_order_eq hab) h
  | gt => exact Or.inr rfl

/-- A strictly ordered list of rows is the only such arrangement of its rows. -/
theorem Row.eq_of_perm_of_sorted {ks : List SortKey} {l m : List Row} (h : l.Perm m)
    (hl : l.Pairwise (Row.Before ks)) (hm : m.Pairwise (Row.Before ks)) : l = m :=
  h.eq_of_pairwise (fun _ _ _ _ hab hba => absurd hba (Row.before_asymm hab)) hl hm

/-- Sorting rows with different numbers puts them in strict order. -/
theorem Row.mergeSort_sorted (ks : List SortKey) {rows : List Row}
    (h : (rows.map Row.id).Nodup) :
    (rows.mergeSort fun a b => (Row.order ks a b).isLE).Pairwise (Row.Before ks) := by
  have hle : (rows.mergeSort fun a b => (Row.order ks a b).isLE).Pairwise
      (fun a b => (Row.order ks a b).isLE = true) := by
    refine List.pairwise_mergeSort (fun a b c => Std.TransCmp.isLE_trans) (fun a b => ?_) rows
    rw [← Row.order_swap ks a b]
    cases Row.order ks a b <;> rfl
  have hne : (rows.mergeSort fun a b => (Row.order ks a b).isLE).Pairwise
      (fun a b => a.id ≠ b.id) := by
    rw [← List.pairwise_map (f := Row.id)]
    exact ((List.mergeSort_perm rows _).map Row.id).nodup_iff.mpr h
  -- level rows would have one number, so nothing is left but "before"
  refine (hle.and hne).imp fun {a b} hab => ?_
  rw [← Row.order_eq_lt]
  cases ho : Row.order ks a b with
  | lt => rfl
  | eq => exact absurd (Row.id_eq_of_order_eq ho) hab.2
  | gt => rw [ho] at hab; exact absurd hab.1 (by simp)

namespace Store

theorem nodup_ids_matching {s : Store} (h : WellFormed s) (cs : List Condition) :
    ((s.matching cs).map Row.id).Nodup :=
  h.nodup_ids.sublist (List.filter_sublist.map Row.id)

/-- **A listing is in strict order.** -/
theorem listing_sorted {s : Store} (h : WellFormed s) (cs : List Condition) (ks : List SortKey) :
    (s.listing cs ks).Pairwise (Row.Before ks) :=
  Row.mergeSort_sorted ks (nodup_ids_matching h cs)

/-! ## Another arrangement of the same rows and tags -/

variable {s s' : Store}

theorem tagsFor_of_perm (h : s'.tags.Perm s.tags) (id : Int) : s'.tagsFor id = s.tagsFor id := by
  refine tagsFor_eq_of_perm ?_
  have hterms := (h.filter (·.dashboard == id)).map (·.term)
  exact (List.mergeSort_perm _ _).trans (hterms.trans (List.mergeSort_perm _ _).symm)

theorem hit_of_perm (h : s'.tags.Perm s.tags) (p : Plan) (r : Row) : s'.hit p r = s.hit p r := by
  rw [hit, hit, tagsFor_of_perm h]

theorem holds_of_perm (h : s'.tags.Perm s.tags) (r : Row) (c : Condition) :
    c.holds s' r = c.holds s r := by
  cases c with
  | titleLike pattern => rfl
  | inFolder folder => rfl
  | hasTag tag => exact decide_eq_decide.mpr (h.mem_iff)

theorem listing_of_perm (hwf : WellFormed s) (hrows : s'.rows.Perm s.rows)
    (htags : s'.tags.Perm s.tags) (cs : List Condition) (ks : List SortKey) :
    s'.listing cs ks = s.listing cs ks := by
  have hmatch : (s'.matching cs).Perm (s.matching cs) := by
    have hp : (fun r => cs.all (·.holds s' r)) = fun r => cs.all (·.holds s r) := by
      funext r
      exact congrArg cs.all (funext fun c => holds_of_perm htags r c)
    rw [matching, matching, hp]
    exact hrows.filter _
  have hids : ((s'.matching cs).map Row.id).Nodup :=
    (hmatch.map Row.id).nodup_iff.mpr (nodup_ids_matching hwf cs)
  exact Row.eq_of_perm_of_sorted
    ((List.mergeSort_perm _ _).trans (hmatch.trans (List.mergeSort_perm _ _).symm))
    (Row.mergeSort_sorted ks hids) (listing_sorted hwf cs ks)

theorem evaluates_of_perm {p : Plan} {ks : List SortKey} (hrows : s'.rows.Perm s.rows)
    (h : s.Evaluates p ks) : s'.Evaluates p ks :=
  ⟨h.depth, h.terms, h.keys, h.patterns.imp_left fun hnil => (hnil ▸ hrows).eq_nil⟩

end Store

/--
**The order of an answer.**

The hits of an answered search are a stretch of the rows that match, each row
before the next by the keys of the sort option and, where these tie, by number.
That comparison is a strict total order on the rows of the store, so the matching
rows stand in the only order possible, and the answer is the same however rows
and tags are arranged.
-/
theorem Service.search_sorted {v : Service} {evaluate : Evaluator} {s : Store}
    (hs : s.Reachable) {q : Query} {o : SortOption} {ks : List SortKey}
    (ho : v.registry.resolve q v.config.defaultSort = .ok o)
    (hk : o.terms = ks.map OrderTerm.ofKey) {hits : List Hit}
    (h : v.search evaluate s q = .ok hits) :
    (∃ w rows, q.window = .ok w ∧ rows.Perm (s.matching q.conditions)
        ∧ rows.Pairwise (Row.Before ks)
        ∧ (∀ rows', rows'.Perm rows → rows'.Pairwise (Row.Before ks) → rows' = rows)
        ∧ (w.slice rows).Pairwise (Row.Before ks)
        ∧ hits = (w.slice rows).map (s.hit (q.planWith o w)))
      ∧ (∀ a, ¬ Row.Before ks a a)
      ∧ (∀ a b c, Row.Before ks a b → Row.Before ks b c → Row.Before ks a c)
      ∧ (∀ a ∈ s.rows, ∀ b ∈ s.rows, a ≠ b → Row.Before ks a b ∨ Row.Before ks b a)
      ∧ (∀ s' : Store, s'.rows.Perm s.rows → s'.tags.Perm s.tags →
          v.search evaluate s' q = .ok hits) := by
  have hwf := Store.wellFormed_reachable hs
  obtain ⟨w, o', ks', hw, ho', hev, rfl⟩ :=
    (Service.search_eq_ok (Service.ordersByColumns_of_resolve ho hk)).mp h
  rw [ho] at ho'
  obtain rfl := Except.ok.inj ho'
  obtain rfl : ks = ks' := OrderTerm.map_ofKey_inj (hk.symm.trans hev.keys)
  have hsorted := Store.listing_sorted hwf q.conditions ks
  refine ⟨⟨w, s.listing q.conditions ks, hw, List.mergeSort_perm _ _, hsorted, ?_, ?_, rfl⟩,
    Row.before_irrefl ks, fun a b c => Row.before_trans, ?_, ?_⟩
  · exact fun rows' hperm hrows' => Row.eq_of_perm_of_sorted hperm hrows' hsorted
  · exact hsorted.sublist ((List.take_sublist _ _).trans (List.drop_sublist _ _))
  · exact fun a ha b hb hab => Row.before_or_before ks fun hid => hab (hwf.eq_of_id ha hb hid)
  · intro s' hrows htags
    rw [Service.search_of_evaluates evaluate hw ho (Store.evaluates_of_perm hrows hev),
      Store.listing_of_perm hwf hrows htags]
    exact congrArg Except.ok (List.map_congr_left fun r _ => Store.hit_of_perm htags _ r)

/-- Three dashboards, two of which have one title up to case. -/
def tiedHistory : List Dashboard :=
  [.create "a" "b" 1, .create "b" "A" 2, .create "c" "a" 3]

/-- Descending titles leave level rows by ascending number. -/
theorem Service.search_sorted_of_ties :
    let v := Service.ofProviders {} []
    let s := Store.fresh.insertAll tiedHistory
    let q : Query := { sort := some "alpha-desc" }
    ∃ hits, v.search .absent s q = .ok hits ∧ hits.map Hit.id = [1, 2, 3]
      ∧ (∃ w rows, q.window = .ok w ∧ rows.Perm (s.matching q.conditions)
        ∧ rows.Pairwise (Row.Before [(.title, .descending)])
        ∧ hits = (w.slice rows).map (s.hit (q.planWith alphaDesc w)))
      ∧ ∀ s' : Store, s'.rows.Perm s.rows → s'.tags.Perm s.tags →
        v.search .absent s' q = .ok hits := by
  intro v s q
  have hs : s.Reachable := Store.reachable_insertAll .fresh (by decide)
  have hopt : v.registry.resolve q v.config.defaultSort = .ok alphaDesc := by decide
  have hkeys : alphaDesc.terms = [(.title, .descending)].map OrderTerm.ofKey := rfl
  obtain ⟨hits, h, hids⟩ : ∃ hits, v.search .absent s q = .ok hits
      ∧ hits.map Hit.id = [1, 2, 3] := by
    show ∃ hits, (Service.ofProviders {} []).search .absent (Store.fresh.insertAll tiedHistory)
      { sort := some "alpha-desc" } = .ok hits ∧ hits.map Hit.id = [1, 2, 3]
    refine ⟨_, rfl, ?_⟩
    -- the rows stand in this order already, so that they need not be sorted
    rw [List.mergeSort_of_pairwise (by decide)]
    decide
  obtain ⟨⟨w, rows, hw, hrows, hsorted, _, _, hhits⟩, _, _, _, hperm⟩ :=
    Service.search_sorted hs hopt hkeys h
  exact ⟨hits, h, hids, ⟨w, rows, hw, hrows, hsorted, hhits⟩, hperm⟩

end DashIndex
