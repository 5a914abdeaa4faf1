import DashIndex.Proofs.Search.Membership
import DashIndex.Proofs.Text.NoCase
import Mathlib.Data.List.Forall2

/-!
# Two searches side by side

Two searches over two stores are compared row by row. If the rows that match in
one store correspond to those that match in the other, in the order in which the
stores keep them, and corresponding rows stand alike in every order, then sorting
puts corresponding rows into the same places, and so does cutting out a page. What
is left to show of two particular searches is the correspondence of the rows.

The refusals need no such argument: as long as the limits on tags and pattern are
kept, a search is refused for its page, its sort option or the number of order
terms, and none of these depends on what a store holds.
-/

namespace DashIndex

/-! ## Lists that correspond -/

/-- Sorting keeps lists in correspondence if it cannot tell corresponding elements apart. -/
theorem forall₂_mergeSort {α β : Type} {R : α → β → Prop} {le : α → α → Bool}
    {le' : β → β → Bool} {xs : List α} {ys : List β} (h : List.Forall₂ R xs ys)
    (hle : ∀ a a' b b', R a a' → R b b' → le a b = le' a' b') :
    List.Forall₂ R (xs.mergeSort le) (ys.mergeSort le') := by
  obtain ⟨hlength, hpair⟩ := List.forall₂_iff_zip.mp h
  -- either list is sorted the way the list of pairs is, so one sorting serves for both
  have hfst : ((xs.zip ys).mergeSort fun p q => le p.1 q.1).map Prod.fst = xs.mergeSort le := by
    rw [List.map_mergeSort (f := Prod.fst) (s := le) fun _ _ _ _ => rfl,
      List.map_fst_zip (Nat.le_of_eq hlength)]
  have hsnd : ((xs.zip ys).mergeSort fun p q => le p.1 q.1).map Prod.snd = ys.mergeSort le' := by
    rw [List.map_mergeSort (f := Prod.snd) (s := le')
        fun p hp q hq => hle _ _ _ _ (hpair hp) (hpair hq),
      List.map_snd_zip (Nat.le_of_eq hlength.symm)]
  rw [← hfst, ← hsnd, List.forall₂_map_left_iff, List.forall₂_map_right_iff, List.forall₂_same]
  intro p hp
  exact hpair (List.mem_mergeSort.mp hp)

theorem map_eq_of_forall₂ {α β γ : Type} {R : α → β → Prop} {f : α → γ} {g : β → γ}
    {xs : List α} {ys : List β} (h : List.Forall₂ R xs ys) (hfg : ∀ a b, R a b → f a = g b) :
    xs.map f = ys.map g := by
  induction h with
  | nil => rfl
  | cons hab _ ih => rw [List.map_cons, List.map_cons, hfg _ _ hab, ih]

theorem Window.forall₂_slice {α β : Type} {R : α → β → Prop} (w : Window) {xs : List α}
    {ys : List β} (h : List.Forall₂ R xs ys) : List.Forall₂ R (w.slice xs) (w.slice ys) :=
  List.forall₂_take _ (List.forall₂_drop _ h)

/-! ## Rows that stand alike -/

/-- No column and no number tells one row from the other. -/
structure Row.StandsAs (a a' : Row) : Prop where
  id : a.id = a'.id
  titleKey : Text.NoCase.titleKey a.title = Text.NoCase.titleKey a'.title
  titleLength : Text.NoCase.byteLength a.title = Text.NoCase.byteLength a'.title
  views : a.views = a'.views
  updatedAt : a.updatedAt = a'.updatedAt

theorem SortColumn.order_congr (c : SortColumn) {a a' b b' : Row} (ha : a.StandsAs a')
    (hb : b.StandsAs b') : c.order a b = c.order a' b' := by
  cases c with
  | title =>
      show Text.NoCase.order a.title b.title = Text.NoCase.order a'.title b'.title
      rw [Text.NoCase.order_eq_compareLex]
      simp only [compareLex, compareOn, ha.titleKey, hb.titleKey, ha.titleLength, hb.titleLength]
  | views => rw [order, order, ha.views, hb.views]
  | updated => rw [order, order, ha.updatedAt, hb.updatedAt]

/-- A chain of keys compares two rows as it compares those that stand like them. -/
theorem Row.order_congr (ks : List SortKey) {a a' b b' : Row} (ha : a.StandsAs a')
    (hb : b.StandsAs b') : Row.order ks a b = Row.order ks a' b' := by
  induction ks with
  | nil => rw [order, order, ha.id, hb.id]
  | cons k ks ih => rw [order, order, k.1.order_congr ha hb, ih]

/-! ## Searches within the limits -/

/-- The tags and the pattern of a query are within what a store evaluates. -/
structure Query.WithinLimits (q : Query) : Prop where
  tags : q.tags.length ≤ 900
  pattern : ∀ pat, q.pattern? = some pat → pat.utf8ByteSize ≤ Text.Like.maxPatternBytes

theorem Query.withinLimits_of_pattern {q : Query} {pattern : String} (htags : q.tags.length ≤ 900)
    (hpattern : q.pattern? = some pattern)
    (hbytes : pattern.utf8ByteSize ≤ Text.Like.maxPatternBytes) : q.WithinLimits := by
  refine ⟨htags, fun pat hpat => ?_⟩
  rwa [← Option.some.inj (hpattern.symm.trans hpat)]

/-- Within the limits, only the number of order terms decides whether a plan is evaluated. -/
theorem Service.search_of_columns {v : Service} (evaluate : Evaluator) (s : Store) {q : Query}
    {w : Window} {o : SortOption} {ks : List SortKey} (hq : q.WithinLimits)
    (hw : q.window = .ok w) (ho : v.registry.resolve q v.config.defaultSort = .ok o)
    (hk : o.terms = ks.map OrderTerm.ofKey) :
    v.search evaluate s q
      = if ks.length ≤ 1999 then
          .ok ((w.slice (s.listing q.conditions ks)).map (s.hit (q.planWith o w)))
        else .error (.store .tooManyTerms) := by
  split
  · rename_i hterms
    exact Service.search_of_evaluates evaluate hw ho
      (Query.evaluates_planWith s w hk hterms hq.tags hq.pattern)
  · rename_i hterms
    exact Service.search_eq_tooManyTerms evaluate s (Query.plan_eq_ok.mpr ⟨w, o, hw, ho, rfl⟩)
      hq.tags hk (Nat.lt_of_not_le hterms)

/-- A query without a plan is refused for its page or for its sort option. -/
theorem Query.plan_eq_error {q : Query} {r : Registry} {dflt : String} {e : SearchError} :
    q.plan r dflt = .error e
      ↔ q.window = .error e ∨ ∃ w, q.window = .ok w ∧ r.resolve q dflt = .error e := by
  unfold Query.plan
  cases hw : q.window with
  | error e' => simp
  | ok w =>
      cases ho : r.resolve q dflt with
      | error e' => simp
      | ok o => simp

theorem Service.search_of_refused {v : Service} (evaluate : Evaluator) (s : Store) {q : Query}
    {e : SearchError} (h : q.plan v.registry v.config.defaultSort = .error e) :
    v.search evaluate s q = .error (.refused e) := by
  rw [search, h]

/--
**Searches whose matching rows correspond give corresponding answers.**

The two queries have one window and one sort option. `R` relates the rows that
match in one store to those that match in the other, and `f` is what of a hit is
compared.
-/
theorem Service.search_congr {α : Type} {v : Service} (evaluate : Evaluator) {s s' : Store}
    {q q' : Query}
    {R : Row → Row → Prop} {f : Hit → α} (hq : q.WithinLimits) (hq' : q'.WithinLimits)
    (hcolumns : v.OrdersByColumns q) (hwindow : q'.window = q.window)
    (hsort : v.registry.resolve q' v.config.defaultSort
      = v.registry.resolve q v.config.defaultSort)
    (hrows : List.Forall₂ R (s.matching q.conditions) (s'.matching q'.conditions))
    (hstand : ∀ a a', R a a' → a.StandsAs a')
    (hshow : ∀ o w a a', R a a' → f (s.hit (q.planWith o w) a) = f (s'.hit (q'.planWith o w) a')) :
    (v.search evaluate s q).map (List.map f) = (v.search evaluate s' q').map (List.map f) := by
  cases hp : q.plan v.registry v.config.defaultSort with
  | error e =>
      have hp' : q'.plan v.registry v.config.defaultSort = .error e := by
        rw [Query.plan_eq_error, hwindow, hsort]
        exact Query.plan_eq_error.mp hp
      rw [search_of_refused evaluate s hp, search_of_refused evaluate s' hp']
  | ok p =>
      obtain ⟨w, o, hw, ho, rfl⟩ := Query.plan_eq_ok.mp hp
      obtain ⟨ks, hk⟩ := hcolumns o ho
      rw [search_of_columns evaluate s hq hw ho hk,
        search_of_columns evaluate s' hq' (hwindow.trans hw) (hsort.trans ho) hk]
      split
      · -- sorting and cutting out the page keep the rows in correspondence
        have hlisting : List.Forall₂ R (s.listing q.conditions ks) (s'.listing q'.conditions ks) :=
          forall₂_mergeSort hrows fun a a' b b' ha hb =>
            congrArg Ordering.isLE (Row.order_congr ks (hstand a a' ha) (hstand b b' hb))
        have hpage := w.forall₂_slice hlisting
        simp only [Except.map, List.map_map]
        exact congrArg Except.ok (map_eq_of_forall₂ hpage (hshow o w))
      · rfl

/-- Searches whose matching rows correspond, and are shown alike, give one answer. -/
theorem Service.search_eq_of_forall₂ {v : Service} (evaluate : Evaluator) {s s' : Store}
    {q q' : Query} {R : Row → Row → Prop} (hq : q.WithinLimits) (hq' : q'.WithinLimits)
    (hcolumns : v.OrdersByColumns q) (hwindow : q'.window = q.window)
    (hsort : v.registry.resolve q' v.config.defaultSort
      = v.registry.resolve q v.config.defaultSort)
    (hrows : List.Forall₂ R (s.matching q.conditions) (s'.matching q'.conditions))
    (hstand : ∀ a a', R a a' → a.StandsAs a')
    (hshow : ∀ o w a a', R a a' → s.hit (q.planWith o w) a = s'.hit (q'.planWith o w) a') :
    v.search evaluate s q = v.search evaluate s' q' := by
  have hall := Service.search_congr (f := id) evaluate hq hq' hcolumns hwindow hsort hrows hstand
    hshow
  have hid : ∀ x : Except ServiceError (List Hit), x.map (List.map id) = x := by
    intro x
    cases x with
    | error e => rfl
    | ok hits => exact congrArg Except.ok (List.map_id hits)
  rwa [hid, hid] at hall

end DashIndex
