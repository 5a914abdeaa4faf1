import DashIndex.Proofs.Search.TwoRuns
import DashIndex.Proofs.Text.Blank

/-!
# Queries that ask for the same

A query can be put in many ways: with blanks around its text, with its tags in any
order and any number of times, with page zero for page one, with the default sort
option named or left out. None of this may show in the answer, and as each of the
four is undone in another place, each is followed there: the text to the pattern,
the tags to the rows that match, the page to the window, and the sort option to the
registry. A refusal names a page or a sort option, and those come out the same too.
-/

namespace DashIndex

/-- Two queries ask for the same, if the sort option of this name is the default one. -/
structure Query.AsksAs (defaultSort : String) (q q' : Query) : Prop where
  text : Text.DifferByBlanks q.text.toList q'.text.toList
  tags : ∀ t, t ∈ q.tags ↔ t ∈ q'.tags
  folder : q.folder = q'.folder
  limit : q.limit = q'.limit
  page : q.page = q'.page ∨ q.page.toNat ≤ 1 ∧ q'.page.toNat ≤ 1
  sort : q.sort = q'.sort ∨ q.sort = none ∧ q'.sort = some defaultSort
    ∨ q.sort = some defaultSort ∧ q'.sort = none

namespace Query.AsksAs

variable {defaultSort : String} {q q' : Query}

theorem needle (h : AsksAs defaultSort q q') : q.needle = q'.needle :=
  Text.trim_eq_iff.mpr h.text

theorem pattern? (h : AsksAs defaultSort q q') : q.pattern? = q'.pattern? := by
  rw [Query.pattern?, Query.pattern?, h.needle]

/-- Pages zero and one start where the result does, and neither is out of range. -/
theorem window (h : AsksAs defaultSort q q') : q.window = q'.window := by
  rw [window_eq, window_eq, h.limit]
  rcases h.page with hpage | ⟨hpage, hpage'⟩
  · rw [hpage]
  · have hfirst : ∀ n : Nat, n ≤ 1 → (max n 1 - 1) * q'.limit.toNat = 0 := by
      intro n hn
      rw [Nat.max_eq_right hn, Nat.sub_self, Nat.zero_mul]
    have hzero : ¬ Text.maxInt64 < ((0 : Nat) : Int) := by decide
    rw [hfirst _ hpage, hfirst _ hpage', if_neg hzero, if_neg hzero]

theorem sortName (h : AsksAs defaultSort q q') :
    q.sortName defaultSort = q'.sortName defaultSort := by
  rw [Query.sortName, Query.sortName]
  rcases h.sort with hsort | ⟨hsort, hsort'⟩ | ⟨hsort, hsort'⟩
  · rw [hsort]
  · rw [hsort, hsort']
    rfl
  · rw [hsort, hsort']
    rfl

theorem resolve (h : AsksAs defaultSort q q') (r : Registry) :
    r.resolve q defaultSort = r.resolve q' defaultSort := by
  rw [Registry.resolve, Registry.resolve, h.sortName]

/-- **Queries that ask for the same hold the same conditions against a row.** -/
theorem forall_mem_conditions (h : AsksAs defaultSort q q') {P : Condition → Prop} :
    (∀ c ∈ q.conditions, P c) ↔ ∀ c ∈ q'.conditions, P c := by
  rw [Query.forall_mem_conditions, Query.forall_mem_conditions, h.pattern?, h.folder]
  simp only [h.tags]

theorem matching (h : AsksAs defaultSort q q') (s : Store) :
    s.matching q.conditions = s.matching q'.conditions := by
  refine List.filter_congr fun r _ => ?_
  rw [Bool.eq_iff_iff, List.all_eq_true, List.all_eq_true]
  exact h.forall_mem_conditions

theorem withinLimits (h : AsksAs defaultSort q q') (hq : q.WithinLimits)
    (htags : q'.tags.length ≤ 900) : q'.WithinLimits :=
  ⟨htags, fun pat hpat => hq.pattern pat (h.pattern?.trans hpat)⟩

end Query.AsksAs

theorem Row.standsAs_self (r : Row) : r.StandsAs r := ⟨rfl, rfl, rfl, rfl, rfl⟩

/-- A text of blanks only is as good as none. -/
theorem Query.asksAs_blank (defaultSort : String) (q : Query) {text : String}
    (h : ∀ c ∈ text.toList, Text.isBlank c = true) :
    AsksAs defaultSort { q with text := text } { q with text := "" } where
  text := ⟨[], text.toList, [], [], [], by simpa using h, by simp, by simp, by simp⟩
  tags := fun _ => Iff.rfl
  folder := rfl
  limit := rfl
  page := Or.inl rfl
  sort := Or.inl rfl

theorem Service.search_of_asksAs {v : Service} (evaluate : Evaluator) (s : Store) {q q' : Query}
    (h : q.AsksAs v.config.defaultSort q') (hq : q.WithinLimits) (htags : q'.tags.length ≤ 900)
    (hcolumns : v.OrdersByColumns q) : v.search evaluate s q = v.search evaluate s q' := by
  have hrows : List.Forall₂ Eq (s.matching q.conditions) (s.matching q'.conditions) := by
    rw [List.forall₂_eq_eq_eq]
    exact h.matching s
  refine Service.search_eq_of_forall₂ evaluate hq (h.withinLimits hq htags) hcolumns
    h.window.symm (h.resolve v.registry).symm hrows ?_ ?_
  · rintro r _ rfl
    exact r.standsAs_self
  · rintro o w r _ rfl
    rfl

/--
**Queries that ask for the same are answered the same.**

Whatever a store holds, two such queries give the same hits in the same order, or
the same refusal. A text of blanks only counts as an empty one. A near blank is part
of the text: wherever it stands, it stays, together with all that stands between it
and the first and the last character that is not blank.
-/
theorem Service.search_of_equivalent {v : Service} (evaluate : Evaluator) (s : Store)
    {q q' : Query}
    (h : q.AsksAs v.config.defaultSort q') (htags : q.tags.length ≤ 900)
    (htags' : q'.tags.length ≤ 900)
    (hpattern : ∀ pat, q.pattern? = some pat → pat.utf8ByteSize ≤ 50000)
    (hcolumns : v.OrdersByColumns q) :
    v.search evaluate s q = v.search evaluate s q'
      ∧ (∀ text : String, (∀ c ∈ text.toList, Text.isBlank c = true) →
          v.search evaluate s { q with text := text } = v.search evaluate s { q with text := "" })
      ∧ (∀ (p : Query) (c : Char) (a b : List Char), c ∈ Text.nearBlanks →
          p.text.toList = a ++ c :: b →
          p.needle = a.dropWhile Text.isBlank ++ c :: Text.trimEnd b) := by
  refine ⟨Service.search_of_asksAs evaluate s h ⟨htags, hpattern⟩ htags' hcolumns, ?_, ?_⟩
  · intro text hblank
    have hneedle : ({ q with text := text } : Query).needle = [] := Text.trim_eq_nil.mpr hblank
    have hlimits : ({ q with text := text } : Query).WithinLimits := by
      refine ⟨htags, fun pat hpat => ?_⟩
      rw [Query.pattern?_of_blank hneedle] at hpat
      exact absurd hpat (by simp)
    exact Service.search_of_asksAs evaluate s (q.asksAs_blank v.config.defaultSort hblank) hlimits
      htags hcolumns
  · intro p c a b hc htext
    rw [Query.needle, htext]
    exact Text.trim_append_cons (Text.isBlank_of_mem_nearBlanks hc) a b

/-- A query in a roundabout way: blanks, a tag twice, page zero, and no sort option. -/
def roundaboutQuery : Query where
  text := "\u3000sAVE 50\t"
  tags := ["disk", "disk"]
  limit := 1
  page := 0

/-- The same in plain words. -/
def straightQuery : Query where
  text := "sAVE 50"
  tags := ["disk"]
  sort := some "alpha-asc"
  limit := 1
  page := 1

theorem Service.search_of_equivalent_roundabout :
    let v := Service.ofProviders {} []
    let s := Store.fresh.insertAll movedHistory
    roundaboutQuery.AsksAs v.config.defaultSort straightQuery
      ∧ v.search .absent s roundaboutQuery = v.search .absent s straightQuery
      ∧ (v.search .absent s straightQuery).map (List.map Hit.id) = .ok [1]
      ∧ v.search .absent s { roundaboutQuery with text := "\u3000\t" }
        = v.search .absent s { roundaboutQuery with text := "" }
      ∧ ({ text := " \uFEFF disk " } : Query).needle = "\uFEFF disk".toList := by
  intro v s
  have hasks : roundaboutQuery.AsksAs v.config.defaultSort straightQuery :=
    { text := ⟨"sAVE 50".toList, ['\u3000'], ['\t'], [], [],
        List.all_eq_true.mp rfl, List.all_eq_true.mp rfl, rfl, rfl⟩
      tags := by intro t; simp [roundaboutQuery, straightQuery]
      folder := rfl
      limit := rfl
      page := Or.inr ⟨by decide, by decide⟩
      sort := Or.inr (Or.inl ⟨rfl, rfl⟩) }
  have hpattern : roundaboutQuery.pattern? = some "%sAVE 50%" := by decide
  have hlimits : roundaboutQuery.WithinLimits :=
    Query.withinLimits_of_pattern (by decide) hpattern (by decide)
  have hopt : v.registry.resolve straightQuery v.config.defaultSort = .ok alphaAsc := by decide
  have hkeys : alphaAsc.terms = [(.title, .ascending)].map OrderTerm.ofKey := rfl
  have hcolumns : v.OrdersByColumns roundaboutQuery :=
    Service.ordersByColumns_of_resolve ((hasks.resolve v.registry).trans hopt) hkeys
  obtain ⟨hsame, hblank, hnear⟩ := Service.search_of_equivalent .absent s hasks (by decide)
    (by decide) hlimits.pattern hcolumns
  have hids : (v.search .absent s straightQuery).map (List.map Hit.id) = .ok [1] := by
    have hwindow : straightQuery.window = .ok ⟨1, 0⟩ := by decide
    rw [Service.search_of_columns _ _ (hasks.withinLimits hlimits (by decide)) hwindow hopt
      hkeys, if_pos (by decide)]
    -- the rows stand in this order already, so that they need not be sorted
    rw [Store.listing, List.mergeSort_of_pairwise (by decide)]
    decide
  exact ⟨hasks, hsame, hids, hblank "\u3000\t" (List.all_eq_true.mp rfl),
    hnear { text := " \uFEFF disk " } '\uFEFF' [' '] " disk ".toList (by decide) rfl⟩

end DashIndex
