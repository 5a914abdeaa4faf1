import DashIndex.Proofs.Search.TwoRuns
import DashIndex.Proofs.Sort.Registry
import DashIndex.Query.Statement

/-!
# What becomes of a query

A query has one of four outcomes: its limit is refused, its page is refused, its sort
option is unknown, or it has a plan. Which one it is depends on three numbers and a
look-up, and they are looked at in this order: nothing about the page or the sort
option matters while the limit is bad, and nothing about the sort option while the
page is out of range.

The page is counted in words of 64 bits, where a product may wrap and a difference may
run below zero. Neither happens: the words stand for the numbers that the product and
the difference have, and these decide.
-/

namespace DashIndex

namespace Query

/-- The page of a query is neither empty nor longer than a signed word can say. -/
def LimitFits (q : Query) : Prop :=
  1 ≤ q.limit.toNat ∧ (q.limit.toNat : Int) ≤ Text.maxInt64

theorem limitFits_iff {q : Query} :
    q.LimitFits ↔ ¬ (q.limit.toNat = 0 ∨ Text.maxInt64 < q.limit.toNat) := by
  unfold LimitFits
  omega

/-- A page is refused for its length first, and else for the number of hits before it. -/
theorem window_eq_error {q : Query} {e : SearchError} :
    q.window = .error e
      ↔ (¬ q.LimitFits ∧ e = .invalidLimit)
        ∨ (q.LimitFits ∧ Text.maxInt64 < q.offset ∧ e = .invalidPage q.page) := by
  rw [limitFits_iff, Query.window_eq, ← Query.offset]
  by_cases hlimit : q.limit.toNat = 0 ∨ Text.maxInt64 < q.limit.toNat
  · rw [if_pos hlimit, Except.error.injEq]
    constructor
    · rintro rfl
      exact Or.inl ⟨fun h => h hlimit, rfl⟩
    · rintro (⟨_, rfl⟩ | ⟨hfits, _⟩)
      · rfl
      · exact absurd hlimit hfits
  · rw [if_neg hlimit]
    by_cases hpage : Text.maxInt64 < q.offset
    · rw [if_pos hpage, Except.error.injEq]
      constructor
      · rintro rfl
        exact Or.inr ⟨hlimit, hpage, rfl⟩
      · rintro (⟨hbad, _⟩ | ⟨_, _, rfl⟩)
        · exact absurd hlimit hbad
        · rfl
    · rw [if_neg hpage]
      constructor
      · exact fun h => absurd h (by simp)
      · rintro (⟨hbad, _⟩ | ⟨_, hfar, _⟩)
        · exact absurd hlimit hbad
        · exact absurd hfar hpage

end Query

namespace Registry

theorem resolve_eq_ok {r : Registry} {q : Query} {dflt : String} {o : SortOption} :
    r.resolve q dflt = .ok o ↔ r.get? (q.sortName dflt) = some o := by
  unfold resolve
  cases r.get? (q.sortName dflt) with
  | none => simp
  | some o' => simp

theorem resolve_eq_error {r : Registry} {q : Query} {dflt : String} {e : SearchError} :
    r.resolve q dflt = .error e
      ↔ r.get? (q.sortName dflt) = none ∧ e = .unknownSort (q.sortName dflt) := by
  unfold resolve
  cases r.get? (q.sortName dflt) with
  | none => simp [eq_comm]
  | some o => simp

end Registry

namespace Query

/-- **A query without a plan is refused for its limit, else its page, else its sort option.** -/
theorem plan_refused {q : Query} {r : Registry} {dflt : String} {e : SearchError} :
    q.plan r dflt = .error e
      ↔ (¬ q.LimitFits ∧ e = .invalidLimit)
        ∨ (q.LimitFits ∧ Text.maxInt64 < q.offset ∧ e = .invalidPage q.page)
        ∨ (q.LimitFits ∧ q.offset ≤ Text.maxInt64 ∧ r.get? (q.sortName dflt) = none
          ∧ e = .unknownSort (q.sortName dflt)) := by
  rw [plan_eq_error, window_eq_error, or_assoc]
  refine or_congr_right (or_congr_right ?_)
  constructor
  · rintro ⟨w, hw, hsort⟩
    obtain ⟨hpos, hlimit, hoffset, _⟩ := window_eq_ok.mp hw
    exact ⟨⟨hpos, hlimit⟩, hoffset, Registry.resolve_eq_error.mp hsort⟩
  · rintro ⟨⟨hpos, hlimit⟩, hoffset, hsort⟩
    exact ⟨_, window_eq_ok.mpr ⟨hpos, hlimit, hoffset, rfl⟩, Registry.resolve_eq_error.mpr hsort⟩

/-- A query has a plan if neither its limit nor its page nor its sort option is refused. -/
theorem plan_accepted {q : Query} {r : Registry} {dflt : String} {p : Plan} :
    q.plan r dflt = .ok p
      ↔ q.LimitFits ∧ q.offset ≤ Text.maxInt64
        ∧ ∃ o, r.get? (q.sortName dflt) = some o ∧ p = q.planWith o ⟨q.limit.toNat, q.offset⟩ := by
  rw [plan_eq_ok]
  constructor
  · rintro ⟨w, o, hw, ho, rfl⟩
    obtain ⟨hpos, hlimit, hoffset, rfl⟩ := window_eq_ok.mp hw
    exact ⟨⟨hpos, hlimit⟩, hoffset, o, Registry.resolve_eq_ok.mp ho, rfl⟩
  · rintro ⟨⟨hpos, hlimit⟩, hoffset, o, ho, rfl⟩
    exact ⟨_, o, window_eq_ok.mpr ⟨hpos, hlimit, hoffset, rfl⟩, Registry.resolve_eq_ok.mpr ho, rfl⟩

/--
**The outcome of a query, whatever limit and page it asks for.**

The limit is refused if and only if it is zero or beyond the signed words, whatever
else is wrong. Then the page is, by the number that was asked for, if and only if the
hits before it are too many to count; page zero has none, as page one. Then the sort
option is, by its name, if and only if no option has that name. In every other case
the query has a plan: it goes by the option of that name, and its last two parameters
are the limit and the number of hits before the page, both signed words.
-/
theorem plan_outcome (q : Query) (r : Registry) (dflt : String) :
    (q.plan r dflt = .error .invalidLimit
        ↔ q.limit.toNat = 0 ∨ Text.maxInt64 < q.limit.toNat)
      ∧ (∀ page, q.plan r dflt = .error (.invalidPage page)
          ↔ q.LimitFits ∧ Text.maxInt64 < ((max q.page.toNat 1 - 1) * q.limit.toNat : Nat)
            ∧ page = q.page)
      ∧ (∀ name, q.plan r dflt = .error (.unknownSort name)
          ↔ q.LimitFits ∧ ((max q.page.toNat 1 - 1) * q.limit.toNat : Nat) ≤ Text.maxInt64
            ∧ r.get? name = none ∧ name = q.sort.getD dflt)
      ∧ ((∃ p, q.plan r dflt = .ok p)
          ↔ q.LimitFits ∧ ((max q.page.toNat 1 - 1) * q.limit.toNat : Nat) ≤ Text.maxInt64
            ∧ (r.get? (q.sort.getD dflt)).isSome)
      ∧ (∀ p, q.plan r dflt = .ok p →
          p.sort = q.sort.getD dflt
            ∧ ∃ before limit offset, p.params = before ++ [.integer limit, .integer offset]
              ∧ limit = q.limit.toNat ∧ offset = (max q.page.toNat 1 - 1) * q.limit.toNat
              ∧ 1 ≤ limit ∧ (limit : Int) ≤ Text.maxInt64 ∧ (offset : Int) ≤ Text.maxInt64) := by
  refine ⟨?_, fun page => ?_, fun name => ?_, ?_, fun p hp => ?_⟩
  · rw [plan_refused, limitFits_iff, not_not]
    simp
  · rw [plan_refused, ← Query.offset]
    simp
  · rw [plan_refused, ← Query.offset, ← Query.sortName]
    constructor
    · rintro (⟨_, he⟩ | ⟨_, _, he⟩ | ⟨hlimit, hoffset, hnone, he⟩)
      · exact absurd he (by simp)
      · exact absurd he (by simp)
      · obtain rfl := SearchError.unknownSort.inj he
        exact ⟨hlimit, hoffset, hnone, rfl⟩
    · rintro ⟨hlimit, hoffset, hnone, rfl⟩
      exact Or.inr (Or.inr ⟨hlimit, hoffset, hnone, rfl⟩)
  · rw [← Query.offset, ← Query.sortName, Option.isSome_iff_exists]
    constructor
    · rintro ⟨p, hp⟩
      obtain ⟨hlimit, hoffset, o, ho, _⟩ := plan_accepted.mp hp
      exact ⟨hlimit, hoffset, o, ho⟩
    · rintro ⟨hlimit, hoffset, o, ho⟩
      exact ⟨_, plan_accepted.mpr ⟨hlimit, hoffset, o, ho, rfl⟩⟩
  · obtain ⟨⟨hpos, hlimit⟩, hoffset, o, ho, rfl⟩ := plan_accepted.mp hp
    refine ⟨Registry.name_of_get? ho, q.conditions.map Condition.param, q.limit.toNat, q.offset,
      rfl, rfl, rfl, hpos, hlimit, hoffset⟩

/-- A page so far off that the word for the hits before it has wrapped round to two. -/
def wrappedQuery : Query where
  limit := 3
  page := 6148914691236517207

/-- The last page of one hit. -/
def farthestQuery : Query where
  limit := 1
  page := 9223372036854775808

example : (max wrappedQuery.page 1 - 1) * wrappedQuery.limit = 2 := by decide

/-- A wrapped page is refused, before its unknown sort option; the last page is not. -/
theorem plan_outcome_of_far_pages :
    wrappedQuery.plan Registry.defaults "none" = .error (.invalidPage 6148914691236517207)
      ∧ ∃ p, farthestQuery.plan Registry.defaults "alpha-desc" = .ok p ∧ p.sort = "alpha-desc"
        ∧ ∃ before, p.params = before ++ [.integer 1, .integer 9223372036854775807] := by
  obtain ⟨_, hpage, _⟩ := plan_outcome wrappedQuery Registry.defaults "none"
  obtain ⟨_, _, _, hplan, hparams⟩ := plan_outcome farthestQuery Registry.defaults "alpha-desc"
  refine ⟨(hpage _).mpr ⟨⟨by decide, by decide⟩, by decide, rfl⟩, ?_⟩
  obtain ⟨p, hp⟩ := hplan.mpr ⟨⟨by decide, by decide⟩, by decide, by decide⟩
  obtain ⟨hsort, before, limit, offset, hlast, rfl, rfl, _⟩ := hparams p hp
  exact ⟨p, hp, hsort, before, hlast⟩

end Query

end DashIndex
