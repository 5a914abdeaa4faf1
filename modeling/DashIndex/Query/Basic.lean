import DashIndex.Sort.Registry
import DashIndex.Text.Integer

/-!
# Queries

A query asks for the dashboards whose title contains a text, that carry all of
some tags and, if it names a folder, that lie in it. It names the order and one
page of the result. Pages are counted from one, and page zero is the first page.

A query is answered only if its page can be counted in signed 64-bit integers;
limit, page and sort option are checked in this order.
-/

namespace DashIndex

/-- A request for one page of dashboards. -/
structure Query where
  text : String := ""
  tags : List String := []
  folder : Option String := none
  /-- the sort option, if not the default one -/
  sort : Option String := none
  limit : UInt64 := 50
  page : UInt64 := 1
  deriving DecidableEq, Repr

/-- Why a query is not answered. -/
inductive SearchError where
  | unknownSort (name : String)
  | invalidLimit
  | invalidPage (page : UInt64)
  deriving DecidableEq, Repr

/-- The wording of a refusal. -/
def SearchError.message : SearchError → String
  | .unknownSort name => "unknown sort option `" ++ name ++ "`"
  | .invalidLimit => "limit must be between 1 and 9223372036854775807"
  | .invalidPage page =>
    "page " ++ toString page.toNat ++ " is out of range for the requested limit"

/-- A stretch of the result: at most `limit` hits, after the first `offset`. -/
structure Window where
  limit : Nat
  offset : Nat
  deriving DecidableEq, Repr

/-- The part of a list that lies in a window. -/
def Window.slice {α : Type} (w : Window) (xs : List α) : List α :=
  (xs.drop w.offset).take w.limit

/-- The product of two words of 64 bits; none if it needs more bits. -/
def Window.product? (a b : UInt64) : Option UInt64 :=
  if a.toNat * b.toNat < UInt64.size then some (a * b) else none

/-- Whether a word is within the signed ones too. -/
def Window.isSigned (n : UInt64) : Bool :=
  (n.toNat : Int) ≤ Text.maxInt64

namespace Window

/-- A product that is a word has not wrapped. -/
theorem product?_eq_some {a b n : UInt64} :
    product? a b = some n ↔ n.toNat = a.toNat * b.toNat := by
  have hmul := UInt64.toNat_mul a b
  unfold product?
  constructor
  · intro h
    split at h
    · rename_i hlt
      rw [← Option.some.inj h, hmul, Nat.mod_eq_of_lt hlt]
    · exact absurd h (by simp)
  · intro h
    have hlt : a.toNat * b.toNat < UInt64.size := h ▸ n.toNat_lt
    rw [if_pos hlt, Option.some_inj, ← UInt64.toNat_inj, hmul, Nat.mod_eq_of_lt hlt, h]

theorem isSigned_iff {n : UInt64} : isSigned n = true ↔ (n.toNat : Int) ≤ Text.maxInt64 := by
  rw [isSigned, decide_eq_true_iff]

/-- A product is a signed word if and only if it is small enough as a number. -/
theorem product?_filter_eq_some {a b n : UInt64} :
    (product? a b).filter isSigned = some n
      ↔ n.toNat = a.toNat * b.toNat ∧ ((a.toNat * b.toNat : Nat) : Int) ≤ Text.maxInt64 := by
  rw [Option.filter_eq_some_iff, product?_eq_some, isSigned_iff]
  constructor
  · rintro ⟨hn, hsmall⟩
    exact ⟨hn, hn ▸ hsmall⟩
  · rintro ⟨hn, hsmall⟩
    exact ⟨hn, hn ▸ hsmall⟩

theorem product?_filter_eq_none {a b : UInt64} :
    (product? a b).filter isSigned = none
      ↔ Text.maxInt64 < ((a.toNat * b.toNat : Nat) : Int) := by
  rw [← Int.not_le]
  constructor
  · intro h hsmall
    have hlt : a.toNat * b.toNat < 2 ^ 64 := by
      unfold Text.maxInt64 at hsmall
      omega
    have hsome : (product? a b).filter isSigned = some (a * b) :=
      product?_filter_eq_some.mpr ⟨by rw [UInt64.toNat_mul, Nat.mod_eq_of_lt hlt], hsmall⟩
    rw [h] at hsome
    exact absurd hsome (by simp)
  · intro h
    rw [Option.eq_none_iff_forall_ne_some]
    intro n hn
    exact h (product?_filter_eq_some.mp hn).2

end Window

namespace Query

/-- The stretch of the result that the page of a query covers. -/
def window (q : Query) : Except SearchError Window :=
  if q.limit = 0 ∨ Window.isSigned q.limit = false then .error .invalidLimit
  else
    match (Window.product? (max q.page 1 - 1) q.limit).filter Window.isSigned with
    | none => .error (.invalidPage q.page)
    | some offset => .ok ⟨q.limit.toNat, offset.toNat⟩

/-- How many pages come before the page of a query: none before page one, nor before page zero. -/
theorem toNat_pagesBefore (q : Query) :
    (max q.page 1 - 1).toNat = max q.page.toNat 1 - 1 := by
  have hone : (1 : UInt64).toNat = 1 := rfl
  have hmax : max q.page 1 = if q.page ≤ 1 then 1 else q.page := rfl
  have hle : q.page ≤ 1 ↔ q.page.toNat ≤ 1 := UInt64.le_iff_toNat_le
  have hge : 1 ≤ q.page ↔ 1 ≤ q.page.toNat := UInt64.le_iff_toNat_le
  rw [hmax]
  split
  · rename_i hfirst
    have hpage := hle.mp hfirst
    rw [UInt64.toNat_sub_of_le _ _ (UInt64.le_refl 1)]
    omega
  · rename_i hlater
    have hpage : ¬ q.page.toNat ≤ 1 := fun h => hlater (hle.mpr h)
    rw [UInt64.toNat_sub_of_le _ _ (hge.mpr (by omega))]
    omega

/-- **Words count the page of a query as numbers do.** -/
theorem window_eq (q : Query) :
    q.window =
      if q.limit.toNat = 0 ∨ Text.maxInt64 < q.limit.toNat then .error .invalidLimit
      else if Text.maxInt64 < ((max q.page.toNat 1 - 1) * q.limit.toNat : Nat) then
        .error (.invalidPage q.page)
      else .ok ⟨q.limit.toNat, (max q.page.toNat 1 - 1) * q.limit.toNat⟩ := by
  have hlimit : (q.limit = 0 ∨ Window.isSigned q.limit = false)
      ↔ (q.limit.toNat = 0 ∨ Text.maxInt64 < q.limit.toNat) := by
    rw [← UInt64.toNat_inj, Window.isSigned, decide_eq_false_iff_not, Int.not_le]
    rfl
  have hpages := q.toNat_pagesBefore
  unfold window
  by_cases hbad : q.limit.toNat = 0 ∨ Text.maxInt64 < q.limit.toNat
  · rw [if_pos hbad, if_pos (hlimit.mpr hbad)]
  · rw [if_neg hbad, if_neg (fun h => hbad (hlimit.mp h)), ← hpages]
    cases hoffset : (Window.product? (max q.page 1 - 1) q.limit).filter Window.isSigned with
    | none => rw [if_pos (Window.product?_filter_eq_none.mp hoffset)]
    | some offset =>
        obtain ⟨hproduct, hsmall⟩ := Window.product?_filter_eq_some.mp hoffset
        rw [if_neg (Int.not_lt.mpr hsmall), ← hproduct]

/-- The name of the sort option of a query. -/
def sortName (q : Query) (defaultSort : String) : String :=
  q.sort.getD defaultSort

end Query

/-- The sort option that a query is answered with. -/
def Registry.resolve (r : Registry) (q : Query) (defaultSort : String) :
    Except SearchError SortOption :=
  match r.get? (q.sortName defaultSort) with
  | some o => .ok o
  | none => .error (.unknownSort (q.sortName defaultSort))

end DashIndex
