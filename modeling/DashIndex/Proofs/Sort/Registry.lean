import DashIndex.Proofs.Text.ByteOrder
import DashIndex.Sort.Provider
import Mathlib.Data.List.Dedup

/-!
# A registry is a map from names to options

A history is a list of options registered one after the other. Under every name
the registry holds the last option of the history that carries the name, and
nothing else. The invariant is that names are distinct: it makes look-up and
membership the same thing, and it makes the listing strict, since only two
options of one name can be level. A strict arrangement of given options is unique,
so a registry is listed the same whatever order its entries are kept in and
whatever order they came in.
-/

namespace DashIndex

/-- One option is listed before another: by index, then by the bytes of the name. -/
def SortOption.Before (a b : SortOption) : Prop :=
  a.index.toInt < b.index.toInt
    ∨ (a.index.toInt = b.index.toInt ∧ Text.NoCase.bytes a.name < Text.NoCase.bytes b.name)

theorem SortOption.before_asymm {a b : SortOption} (h : a.Before b) : ¬ b.Before a := by
  intro h'
  rcases h with hab | ⟨hab, hname⟩
  · rcases h' with hba | ⟨hba, _⟩
    · omega
    · omega
  · rcases h' with hba | ⟨_, hname'⟩
    · omega
    · exact List.lt_asymm hname hname'

theorem SortOption.listedBefore_iff {a b : SortOption} :
    a.listedBefore b = true
      ↔ a.index.toInt < b.index.toInt ∨ (a.index.toInt = b.index.toInt ∧ a.name ≤ b.name) := by
  simp [listedBefore]

theorem SortOption.listedBefore_trans {a b c : SortOption} (hab : a.listedBefore b = true)
    (hbc : b.listedBefore c = true) : a.listedBefore c = true := by
  rw [listedBefore_iff] at hab hbc ⊢
  rcases hab with hab | ⟨hab, hname⟩
  · left
    rcases hbc with hbc | ⟨hbc, _⟩ <;> omega
  · rcases hbc with hbc | ⟨hbc, hname'⟩
    · left; omega
    · exact Or.inr ⟨hab.trans hbc, String.le_trans hname hname'⟩

theorem SortOption.listedBefore_total (a b : SortOption) :
    (a.listedBefore b || b.listedBefore a) = true := by
  rw [Bool.or_eq_true, listedBefore_iff, listedBefore_iff]
  rcases Int.lt_trichotomy a.index.toInt b.index.toInt with h | h | h
  · exact Or.inl (Or.inl h)
  · rcases String.le_total a.name b.name with hname | hname
    · exact Or.inl (Or.inr ⟨h, hname⟩)
    · exact Or.inr (Or.inr ⟨h.symm, hname⟩)
  · exact Or.inr (Or.inl h)

/-- Options of different names are never level. -/
theorem SortOption.before_of_listedBefore {a b : SortOption} (h : a.listedBefore b = true)
    (hne : a.name ≠ b.name) : a.Before b := by
  rcases listedBefore_iff.mp h with hindex | ⟨hindex, hname⟩
  · exact Or.inl hindex
  · have hlt : a.name < b.name := by
      rw [← String.not_le]
      exact fun hba => hne (String.le_antisymm hname hba)
    exact Or.inr ⟨hindex, Text.lt_iff_bytes_lt.mp hlt⟩

namespace Registry

/-! ## The last option of a name -/

/-- The last option of a history that carries a name. -/
def lastNamed (os : List SortOption) (n : String) : Option SortOption :=
  (os.filter (·.name == n)).getLast?

theorem lastNamed_cons (o : SortOption) (os : List SortOption) (n : String) :
    lastNamed (o :: os) n = (lastNamed os n).or (if o.name = n then some o else none) := by
  unfold lastNamed
  by_cases h : o.name = n
  · rw [List.filter_cons_of_pos (by simpa using h), List.getLast?_cons, if_pos h]
    cases (os.filter (·.name == n)).getLast? <;> rfl
  · rw [List.filter_cons_of_neg (by simpa using h), if_neg h, Option.or_none]

theorem lastNamed_eq_none {os : List SortOption} {n : String} :
    lastNamed os n = none ↔ n ∉ os.map (·.name) := by
  simp [lastNamed]

/-! ## Looking up a name -/

theorem name_of_get? {r : Registry} {n : String} {o : SortOption} (h : r.get? n = some o) :
    o.name = n := by
  simpa using List.find?_some h

/-- **A registration shows under its own name and nowhere else.** -/
theorem get?_register (r : Registry) (o : SortOption) (n : String) :
    (r.register o).get? n = if o.name = n then some o else r.get? n := by
  unfold get? register
  by_cases h : o.name = n
  · rw [if_pos h, List.find?_cons_of_pos (by simpa using h)]
  · rw [if_neg h, List.find?_cons_of_neg (by simpa using h), List.find?_filter]
    -- what the registration takes away has another name
    congr 1
    funext p
    by_cases hp : p.name = n
    · have hno : ¬ n = o.name := fun he => h he.symm
      simp [hp, hno]
    · simp [hp]

theorem get?_registerAll (r : Registry) (os : List SortOption) (n : String) :
    (r.registerAll os).get? n = (lastNamed os n).or (r.get? n) := by
  induction os generalizing r with
  | nil => rfl
  | cons o os ih =>
      have hstep : r.registerAll (o :: os) = (r.register o).registerAll os := rfl
      rw [hstep, ih, get?_register, lastNamed_cons, Option.or_assoc]
      congr 1
      split <;> simp

/-! ## Names are distinct -/

/-- No name is there twice. -/
def DistinctNames (r : Registry) : Prop := (r.entries.map (·.name)).Nodup

theorem distinctNames_empty : empty.DistinctNames := List.nodup_nil

theorem distinctNames_register {r : Registry} (h : r.DistinctNames) (o : SortOption) :
    (r.register o).DistinctNames := by
  unfold DistinctNames register
  rw [List.map_cons, List.nodup_cons]
  constructor
  · intro hmem
    obtain ⟨p, hp, hname⟩ := List.mem_map.mp hmem
    have hne := (List.mem_filter.mp hp).2
    simp [hname] at hne
  · exact h.sublist (List.filter_sublist.map _)

/-- **Preserved by every registration.** -/
theorem distinctNames_registerAll {r : Registry} (h : r.DistinctNames) (os : List SortOption) :
    (r.registerAll os).DistinctNames := by
  induction os generalizing r with
  | nil => exact h
  | cons o os ih => exact ih (distinctNames_register h o)

/-- With distinct names, what is found under a name is what carries it. -/
theorem DistinctNames.get?_eq_some {r : Registry} (h : r.DistinctNames) {n : String}
    {o : SortOption} : r.get? n = some o ↔ o ∈ r.entries ∧ o.name = n := by
  constructor
  · exact fun ho => ⟨List.mem_of_find?_eq_some ho, name_of_get? ho⟩
  · rintro ⟨ho, hn⟩
    cases hq : r.get? n with
    | none =>
        have hne := List.find?_eq_none.mp hq o ho
        simp [hn] at hne
    | some q =>
        have hqo : q = o := List.inj_on_of_nodup_map h (List.mem_of_find?_eq_some hq) ho
          ((name_of_get? hq).trans hn.symm)
        rw [hqo]

/-! ## The list -/

theorem toList_perm (r : Registry) : r.toList.Perm r.entries := List.mergeSort_perm _ _

theorem DistinctNames.mem_toList {r : Registry} (h : r.DistinctNames) {n : String}
    {o : SortOption} : r.get? n = some o ↔ o ∈ r.toList ∧ o.name = n := by
  rw [h.get?_eq_some, r.toList_perm.mem_iff]

theorem DistinctNames.nodup_names {r : Registry} (h : r.DistinctNames) : r.names.Nodup :=
  (r.toList_perm.map _).nodup_iff.mpr h

theorem DistinctNames.mem_names {r : Registry} (h : r.DistinctNames) {n : String} :
    n ∈ r.names ↔ r.get? n ≠ none := by
  rw [Option.ne_none_iff_exists']
  constructor
  · intro hn
    obtain ⟨o, ho, hname⟩ := List.mem_map.mp hn
    exact ⟨o, h.mem_toList.mpr ⟨ho, hname⟩⟩
  · rintro ⟨o, ho⟩
    obtain ⟨hmem, hname⟩ := h.mem_toList.mp ho
    exact List.mem_map.mpr ⟨o, hmem, hname⟩

/-- **The list ascends strictly.** -/
theorem DistinctNames.toList_ascending {r : Registry} (h : r.DistinctNames) :
    r.toList.Pairwise SortOption.Before := by
  have hsorted : r.toList.Pairwise (fun a b => a.listedBefore b = true) :=
    @List.pairwise_mergeSort _ SortOption.listedBefore
      (fun _ _ _ hab hbc => SortOption.listedBefore_trans hab hbc)
      SortOption.listedBefore_total r.entries
  have hnames : r.toList.Pairwise (fun a b => a.name ≠ b.name) :=
    List.pairwise_map.mp h.nodup_names
  exact (hsorted.and hnames).imp fun hab => SortOption.before_of_listedBefore hab.1 hab.2

/-- The same entries, however they are kept, are listed the same. -/
theorem DistinctNames.toList_eq_of_perm {r r' : Registry} (h : r.DistinctNames)
    (hperm : r'.entries.Perm r.entries) : r'.toList = r.toList := by
  have h' : r'.DistinctNames := (hperm.map _).nodup_iff.mpr h
  have hlists : r'.toList.Perm r.toList :=
    r'.toList_perm.trans (hperm.trans r.toList_perm.symm)
  exact hlists.eq_of_pairwise
    (fun _ _ _ _ hab hba => absurd hba (SortOption.before_asymm hab))
    h'.toList_ascending h.toList_ascending

/-- Registries that hold the same under every name have the same entries. -/
theorem DistinctNames.entries_perm {r r' : Registry} (h : r.DistinctNames)
    (h' : r'.DistinctNames) (hget : ∀ n, r'.get? n = r.get? n) : r'.entries.Perm r.entries := by
  refine (List.perm_ext_iff_of_nodup (List.Nodup.of_map _ h') (List.Nodup.of_map _ h)).mpr ?_
  intro o
  have hmem : ∀ {q : Registry}, q.DistinctNames → (o ∈ q.entries ↔ q.get? o.name = some o) := by
    intro q hq
    rw [hq.get?_eq_some]
    simp
  rw [hmem h', hmem h, hget]

/-! ## Histories -/

/-- How a registry starts. -/
inductive Start where
  /-- with nothing -/
  | empty
  /-- with the default options -/
  | defaults

/-- The registry at the start. -/
def Start.registry : Start → Registry
  | .empty => Registry.empty
  | .defaults => Registry.defaults

/-- What counts as registered at the start. -/
def Start.options : Start → List SortOption
  | .empty => []
  | .defaults => defaultOptions

/-- The registry after a history that began at a start. -/
theorem Start.registerAll_eq (start : Start) (os : List SortOption) :
    start.registry.registerAll os = Registry.empty.registerAll (start.options ++ os) := by
  cases start with
  | empty => rfl
  | defaults => exact List.foldl_append.symm

theorem get?_history (os : List SortOption) (n : String) :
    (empty.registerAll os).get? n = lastNamed os n := by
  have hempty : empty.get? n = none := rfl
  rw [get?_registerAll, hempty, Option.or_none]

theorem distinctNames_history (os : List SortOption) : (empty.registerAll os).DistinctNames :=
  distinctNames_registerAll distinctNames_empty os

theorem mem_names_history {os : List SortOption} {n : String} :
    n ∈ (empty.registerAll os).names ↔ n ∈ os.map (·.name) := by
  rw [(distinctNames_history os).mem_names, get?_history, ne_eq, lastNamed_eq_none, not_not]

/-- There are as many options as names. -/
theorem size_history (os : List SortOption) :
    (empty.registerAll os).size = (os.map (·.name)).dedup.length := by
  have hperm : (empty.registerAll os).names.Perm (os.map (·.name)).dedup := by
    refine (List.perm_ext_iff_of_nodup (distinctNames_history os).nodup_names
      (List.nodup_dedup _)).mpr fun n => ?_
    rw [mem_names_history, List.mem_dedup]
  rw [← hperm.length_eq, names, List.length_map, (toList_perm _).length_eq, size]

/-- Two histories with the same last option of every name leave the same entries. -/
theorem entries_perm_of_lastNamed {os os' : List SortOption}
    (h : ∀ n, lastNamed os' n = lastNamed os n) :
    (empty.registerAll os').entries.Perm (empty.registerAll os).entries := by
  refine (distinctNames_history os).entries_perm (distinctNames_history os') fun n => ?_
  rw [get?_history, get?_history, h n]

/--
**A registry is the last option of every name.**

After any history, from either start, a name leads to the last option that was
registered under it. The list holds each of these options once, strictly
ascending by index and, where indices agree, by the bytes of the name; names and
size are those of the list. Nothing else about the history shows: neither where
the entries are kept, nor what was replaced, nor the order of registrations.
-/
theorem registerAll_last_of_each_name (start : Start) (os : List SortOption) :
    let history := start.options ++ os
    let r := start.registry.registerAll os
    (∀ n, r.get? n = lastNamed history n)
      ∧ (∀ n o, r.get? n = some o ↔ o ∈ r.toList ∧ o.name = n)
      ∧ (∀ n, n ∈ r.toList.map (·.name) ↔ n ∈ history.map (·.name))
      ∧ (r.toList.map (·.name)).Nodup
      ∧ r.toList.Pairwise SortOption.Before
      ∧ r.names = r.toList.map (·.name)
      ∧ r.size = (history.map (·.name)).dedup.length
      ∧ (r.isEmpty = true ↔ r.size = 0)
      ∧ (∀ r' : Registry, r'.entries.Perm r.entries → r'.toList = r.toList)
      ∧ (∀ (start' : Start) (os' : List SortOption),
          let r' := start'.registry.registerAll os'
          (∀ n, lastNamed (start'.options ++ os') n = lastNamed history n) →
          r'.toList = r.toList ∧ (∀ n, r'.get? n = r.get? n) ∧ r'.names = r.names
            ∧ r'.size = r.size) := by
  intro history r
  have hr : r = empty.registerAll history := start.registerAll_eq os
  clear_value r
  subst hr
  have h := distinctNames_history history
  refine ⟨get?_history history, fun n o => h.mem_toList, fun n => mem_names_history,
    h.nodup_names, h.toList_ascending, rfl, size_history history, ?_,
    fun r' => h.toList_eq_of_perm, ?_⟩
  · rw [isEmpty, size, List.isEmpty_iff, List.length_eq_zero_iff]
  · intro start' os' r' hlast
    have hr' : r' = empty.registerAll (start'.options ++ os') := start'.registerAll_eq os'
    clear_value r'
    subst hr'
    have hperm := entries_perm_of_lastNamed hlast
    have hlist := h.toList_eq_of_perm hperm
    refine ⟨hlist, fun n => ?_, by rw [names, names, hlist], hperm.length_eq⟩
    rw [get?_history, get?_history, hlast n]

/-- An option that moves to another place as it is replaced. -/
def movedHistory : List SortOption :=
  [{ name := "a", index := 1 }, { name := "b" }, { name := "a", index := -1 }]

/-- The option is listed where it was registered last, as if it had never been elsewhere. -/
theorem registerAll_last_of_moved :
    let r := Start.empty.registry.registerAll movedHistory
    let r' := Start.empty.registry.registerAll [{ name := "a", index := -1 }, { name := "b" }]
    r.get? "a" = some { name := "a", index := -1 } ∧ r.size = 2
      ∧ r.names = ["a", "b"] ∧ r'.toList = r.toList := by
  intro r r'
  obtain ⟨hget, _, _, _, _, _, hsize, _, _, hsame⟩ :=
    registerAll_last_of_each_name Start.empty movedHistory
  have hlast : ∀ n, lastNamed [{ name := "a", index := -1 }, { name := "b" }] n
      = lastNamed movedHistory n := by
    intro n
    rw [movedHistory, lastNamed_cons, lastNamed_cons, lastNamed_cons, lastNamed_cons,
      lastNamed_cons]
    by_cases ha : "a" = n
    · subst ha; decide
    · simp [ha]
  refine ⟨hget "a", hsize, ?_, (hsame Start.empty _ hlast).1⟩
  -- the entries stand in this order already, so that they need not be sorted
  have hlist : r.toList = [{ name := "a", index := -1 }, { name := "b" }] :=
    List.mergeSort_of_pairwise (by decide)
  rw [names, hlist]; rfl

end Registry

end DashIndex
