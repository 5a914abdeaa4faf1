import DashIndex.Proofs.Store.Reachable
import Mathlib.Data.List.Dedup
import Mathlib.Data.List.Induction

/-!
# The store is a map keyed by uid

A history is a list of dashboards added one after the other. What a store holds
after a history depends on two dashboards for each uid only, the first and the
last that carry it: the time of creation is the first one's, everything else,
the tags included, the last one's. `Reflects` says so; an addition carries it
from a history to the history with one more dashboard, so it holds of all.
-/

namespace DashIndex.Store

/-- The first dashboard of a history that carries a uid. -/
def firstOf (ds : List Dashboard) (u : String) : Option Dashboard :=
  ds.find? (·.uid == u)

/-- The last dashboard of a history that carries a uid. -/
def lastOf (ds : List Dashboard) (u : String) : Option Dashboard :=
  ds.reverse.find? (·.uid == u)

/-! ## First and last of a longer history -/

theorem lastOf_concat_self (ds : List Dashboard) (d : Dashboard) :
    lastOf (ds ++ [d]) d.uid = some d := by
  rw [lastOf, List.reverse_append]; simp

theorem lastOf_concat_of_ne (ds : List Dashboard) {d : Dashboard} {u : String} (h : u ≠ d.uid) :
    lastOf (ds ++ [d]) u = lastOf ds u := by
  rw [lastOf, List.reverse_append, List.reverse_singleton, List.singleton_append,
    List.find?_cons_of_neg (by simpa using h.symm), lastOf]

theorem firstOf_concat_of_some {ds : List Dashboard} {u : String} {f : Dashboard}
    (h : firstOf ds u = some f) (d : Dashboard) : firstOf (ds ++ [d]) u = some f := by
  unfold firstOf at h ⊢
  rw [List.find?_append, h, Option.some_or]

theorem firstOf_concat_of_none {ds : List Dashboard} {d : Dashboard}
    (h : firstOf ds d.uid = none) : firstOf (ds ++ [d]) d.uid = some d := by
  unfold firstOf at h ⊢
  rw [List.find?_append, h]; simp

theorem lastOf_eq_none {ds : List Dashboard} {u : String} :
    lastOf ds u = none ↔ ∀ d ∈ ds, d.uid ≠ u := by
  simp [lastOf, List.find?_eq_none]

theorem firstOf_eq_none {ds : List Dashboard} {u : String} :
    firstOf ds u = none ↔ ∀ d ∈ ds, d.uid ≠ u := by
  simp [firstOf, List.find?_eq_none]

/-! ## Other dashboards' tags -/

/-- The number that an addition takes is not that of another uid's row. -/
theorem id_ne_insert_id {s : Store} (h : WellFormed s) {d : Dashboard} {u : String} {r : Row}
    (hu : u ≠ d.uid) (hr : s.row? u = some r) : r.id ≠ (s.insert d).1 := by
  intro hid
  obtain ⟨q, hq, hqid⟩ := row?_insert_id s d
  have hr' : (s.insert d).2.row? u = some r := by rw [row?_insert_of_ne s hu]; exact hr
  have heq : r = q := (wellFormed_insert h d).eq_of_id (mem_of_row? hr') (mem_of_row? hq)
    (by rw [hid, hqid])
  exact hu (by rw [← uid_of_row? hr', heq, uid_of_row? hq])

/-- **An addition leaves the tags of all other uids alone.** -/
theorem tagsFor_insert_of_ne {s : Store} (h : WellFormed s) {d : Dashboard} {u : String} {r : Row}
    (hu : u ≠ d.uid) (hr : s.row? u = some r) : (s.insert d).2.tagsFor r.id = s.tagsFor r.id := by
  rw [tagsFor, insert_tags, filter_replaceTags_of_ne _ (id_ne_insert_id h hu hr), tagsFor]

/-- The tags of the dashboard that was added are its own. -/
theorem mem_tagsFor_insert_self {s : Store} {d : Dashboard} {t : String} :
    t ∈ (s.insert d).2.tagsFor (s.insert d).1 ↔ t ∈ d.tags := by
  rw [mem_tagsFor, insert_tags, mem_replaceTags]
  constructor
  · rintro (⟨_, hne⟩ | ⟨_, ht⟩)
    · exact absurd rfl hne
    · exact ht
  · exact fun ht => Or.inr ⟨rfl, ht⟩

/-! ## A store and its history -/

/--
A row holds what two dashboards say: the last one's state, and the time at which
the first one was created. Its tags are the last one's.
-/
structure HoldsAs (s : Store) (r : Row) (first last : Dashboard) : Prop where
  row : r = { Row.ofDashboard r.id last with createdAt := first.createdAt }
  tags : ∀ t, t ∈ s.tagsFor r.id ↔ t ∈ last.tags

/-- A store holds what its history says of every uid, and nothing else. -/
structure Reflects (s : Store) (ds : List Dashboard) : Prop where
  /-- A uid has no row as long as it was not added. -/
  absent : ∀ u, s.row? u = none ↔ lastOf ds u = none
  /-- The row of a uid holds what the first and the last dashboard with it say. -/
  present : ∀ u r, s.row? u = some r →
    ∃ f l, firstOf ds u = some f ∧ lastOf ds u = some l ∧ HoldsAs s r f l

theorem reflects_fresh : Reflects fresh [] where
  absent := fun _ => ⟨fun _ => rfl, fun _ => rfl⟩
  present := by intro u r h; exact absurd h (by simp [row?, fresh])

/-- The row that an addition leaves for its uid holds what the longer history says. -/
theorem holdsAs_insert_self {s : Store} {ds : List Dashboard} (h : Reflects s ds) {d : Dashboard}
    {r : Row} (hr : (s.insert d).2.row? d.uid = some r) :
    ∃ f, firstOf (ds ++ [d]) d.uid = some f ∧ HoldsAs (s.insert d).2 r f d := by
  have htags : ∀ t, t ∈ (s.insert d).2.tagsFor r.id ↔ t ∈ d.tags := by
    obtain ⟨q, hq, hqid⟩ := row?_insert_id s d
    rw [hr] at hq
    obtain rfl := Option.some.inj hq
    rw [hqid]
    exact fun t => mem_tagsFor_insert_self
  cases hold : s.row? d.uid with
  | some q =>
      -- an update: the time of creation is that of the row, hence of the first dashboard
      obtain ⟨f, l, hf, _, hq⟩ := h.present _ _ hold
      have hrq : r = q.update d :=
        (Option.some.inj ((row?_insert_of_some hold).symm.trans hr)).symm
      refine ⟨f, firstOf_concat_of_some hf d, ⟨?_, htags⟩⟩
      have hc : q.createdAt = f.createdAt := by rw [hq.row]
      rw [hrq, Row.update, Row.ofDashboard, ← hc, uid_of_row? hold]
  | none =>
      -- a new row: the uid was not added before, so this dashboard is also its first one
      have hnone : firstOf ds d.uid = none :=
        firstOf_eq_none.mpr (lastOf_eq_none.mp ((h.absent _).mp hold))
      have hrd : r = Row.ofDashboard (s.lastId + 1) d :=
        (Option.some.inj ((row?_insert_of_none hold).symm.trans hr)).symm
      refine ⟨d, firstOf_concat_of_none hnone, ⟨?_, htags⟩⟩
      rw [hrd]; rfl

/-- **An addition carries a store along with its history.** -/
theorem reflects_insert {s : Store} {ds : List Dashboard} (hwf : WellFormed s)
    (h : Reflects s ds) (d : Dashboard) : Reflects (s.insert d).2 (ds ++ [d]) where
  absent := by
    intro u
    by_cases hu : u = d.uid
    · subst hu
      obtain ⟨r, hr, _⟩ := row?_insert_id s d
      rw [hr, lastOf_concat_self]
      simp
    · rw [row?_insert_of_ne s hu, lastOf_concat_of_ne ds hu]
      exact h.absent u
  present := by
    intro u r hr
    by_cases hu : u = d.uid
    · subst hu
      obtain ⟨f, hf, hrow⟩ := holdsAs_insert_self h hr
      exact ⟨f, d, hf, lastOf_concat_self ds d, hrow⟩
    · -- neither the row of another uid nor its part of the history has changed
      rw [row?_insert_of_ne s hu] at hr
      obtain ⟨f, l, hf, hl, hrow⟩ := h.present u r hr
      refine ⟨f, l, firstOf_concat_of_some hf d, ?_, ⟨hrow.row, ?_⟩⟩
      · rw [lastOf_concat_of_ne ds hu]; exact hl
      · rw [tagsFor_insert_of_ne hwf hu hr]; exact hrow.tags

/-- A store that was filled from nothing reflects what it was filled with. -/
theorem reflects_insertAll (ds : List Dashboard) : Reflects (fresh.insertAll ds) ds := by
  induction ds using List.reverseRecOn with
  | nil => exact reflects_fresh
  | append_singleton ds d ih =>
      rw [insertAll_concat]
      exact reflects_insert (wellFormed_insertAll wellFormed_fresh ds) ih d

/-! ## The map -/

theorem mem_uids_iff {s : Store} {ds : List Dashboard} (h : Reflects s ds) (u : String) :
    u ∈ s.rows.map Row.uid ↔ u ∈ ds.map Dashboard.uid := by
  have hrow : (∃ r ∈ s.rows, r.uid = u) ↔ s.row? u ≠ none := by
    rw [ne_eq, row?_eq_none]; simp
  have hdash : (∃ d ∈ ds, d.uid = u) ↔ lastOf ds u ≠ none := by
    rw [ne_eq, lastOf_eq_none]; simp
  rw [List.mem_map, List.mem_map, hrow, hdash, ne_eq, ne_eq, h.absent u]

/--
**The store is a map keyed by uid.**

After any history there is one row for each uid of the history, and no other.
The row holds the last dashboard with its uid, but for the time of creation,
which is the first one's. Its tags are the last one's, by ascending bytes. No tag
is without its dashboard. And one more addition changes nothing about any other
uid.
-/
theorem insertAll_keyed_map (ds : List Dashboard) :
    let s := fresh.insertAll ds
    (s.rows.map Row.uid).Nodup
      ∧ (∀ u, u ∈ s.rows.map Row.uid ↔ u ∈ ds.map Dashboard.uid)
      ∧ s.count = (ds.map Dashboard.uid).dedup.length
      ∧ (∀ r ∈ s.rows, ∃ f l, firstOf ds r.uid = some f ∧ lastOf ds r.uid = some l
          ∧ r = { Row.ofDashboard r.id l with createdAt := f.createdAt }
          ∧ (∀ t, t ∈ s.tagsFor r.id ↔ t ∈ l.tags)
          ∧ (s.tagsFor r.id).Pairwise (fun a b => Text.NoCase.bytes a < Text.NoCase.bytes b))
      ∧ (∀ e ∈ s.tags, ∃ r ∈ s.rows, r.id = e.dashboard)
      ∧ (∀ id, (∀ r ∈ s.rows, r.id ≠ id) → s.tagsFor id = [])
      ∧ (∀ (d : Dashboard) (u : String), u ≠ d.uid →
          (s.insert d).2.row? u = s.row? u
            ∧ ∀ r, s.row? u = some r → (s.insert d).2.tagsFor r.id = s.tagsFor r.id) := by
  intro s
  have hwf : WellFormed s := wellFormed_insertAll wellFormed_fresh ds
  have href : Reflects s ds := reflects_insertAll ds
  refine ⟨hwf.uids, mem_uids_iff href, ?_, ?_, hwf.owned, ?_, ?_⟩
  · have hperm : (s.rows.map Row.uid).Perm (ds.map Dashboard.uid).dedup :=
      (List.perm_ext_iff_of_nodup hwf.uids (List.nodup_dedup _)).mpr fun u => by
        rw [List.mem_dedup]; exact mem_uids_iff href u
    rw [← hperm.length_eq, List.length_map, count]
  · intro r hr
    obtain ⟨f, l, hf, hl, hrow⟩ := href.present r.uid r (hwf.row?_of_mem hr)
    exact ⟨f, l, hf, hl, hrow.row, hrow.tags, hwf.tagsFor_ascending r.id⟩
  · intro id hid
    rw [List.eq_nil_iff_forall_not_mem]
    intro t ht
    obtain ⟨r, hr, hrid⟩ := hwf.owned _ (mem_tagsFor.mp ht)
    exact hid r hr hrid
  · intro d u hu
    exact ⟨row?_insert_of_ne s hu, fun r hr => tagsFor_insert_of_ne hwf hu hr⟩

end DashIndex.Store
