import DashIndex.Proofs.Store.Insert
import DashIndex.Proofs.Text.ByteOrder

/-!
# The stores that come about

A store starts new and is changed in three ways only: a dashboard is added, the
note of the schema version is written or taken away, and the store is brought to
the supported version when it is opened. Numbers are signed 64-bit integers, so
nothing is added once the last of them is taken.

`WellFormed` is what every one of these stores has: rows by ascending number,
each uid once, each tag once, and no tag without its dashboard. It does not need
the bound on the numbers, so it also holds along histories of any length.
-/

namespace DashIndex.Store

/-- The stores that come about from a new one. -/
inductive Reachable : Store → Prop where
  | fresh : Reachable fresh
  | insert {s : Store} (d : Dashboard) :
      Reachable s → s.lastId < Text.maxInt64 → Reachable (s.insert d).2
  | note {s : Store} (v : Option String) :
      Reachable s → Reachable { s with schemaVersion := v }
  | migrate {s s' : Store} : Reachable s → s.migrate = .ok s' → Reachable s'

/-- What every store has. -/
structure WellFormed (s : Store) : Prop where
  /-- Rows stand by ascending number. -/
  ascending : s.rows.Pairwise (fun a b => a.id < b.id)
  /-- Every number in use was taken from the sequence. -/
  taken : ∀ r ∈ s.rows, 0 < r.id ∧ r.id ≤ s.lastId
  /-- The sequence is at least as far as there are rows. -/
  counted : (s.rows.length : Int) ≤ s.lastId
  /-- A uid has one row. -/
  uids : (s.rows.map Row.uid).Nodup
  /-- A tag is entered once. -/
  tags : s.tags.Nodup
  /-- Every tag belongs to a dashboard that is there. -/
  owned : ∀ e ∈ s.tags, ∃ r ∈ s.rows, r.id = e.dashboard

theorem wellFormed_fresh : WellFormed fresh where
  ascending := List.Pairwise.nil
  taken := by intro r hr; exact absurd hr List.not_mem_nil
  counted := Int.le_refl 0
  uids := List.nodup_nil
  tags := List.nodup_nil
  owned := by intro e he; exact absurd he List.not_mem_nil

/-! ## One addition -/

theorem mem_updated {s : Store} {id : Int} {d : Dashboard} {r : Row}
    (h : r ∈ (s.updated id d).rows) : ∃ q ∈ s.rows, q.id = r.id ∧ q.uid = r.uid := by
  obtain ⟨q, hq, rfl⟩ := List.mem_map.mp h
  exact ⟨q, hq, (refreshed_id d q).symm, (refreshed_uid d q).symm⟩

theorem wellFormed_updated {s : Store} (h : WellFormed s) {d : Dashboard} {r : Row}
    (hr : s.row? d.uid = some r) : WellFormed (s.updated r.id d) where
  ascending := by
    refine List.pairwise_map.mpr (h.ascending.imp fun {a b} hab => ?_)
    rw [refreshed_id, refreshed_id]; exact hab
  taken := by
    intro x hx
    obtain ⟨q, hq, hid, _⟩ := mem_updated hx
    have hq' := h.taken q hq
    -- an update takes a number from the sequence as well
    rw [← hid]
    exact ⟨hq'.1, Int.le_trans hq'.2 (Int.le_of_lt (Int.lt_add_one_iff.mpr (Int.le_refl _)))⟩
  counted := by
    have hc := h.counted
    show ((s.rows.map (refreshed d)).length : Int) ≤ s.lastId + 1
    rw [List.length_map]; omega
  uids := by
    have hu : (s.rows.map (refreshed d)).map Row.uid = s.rows.map Row.uid := by
      rw [List.map_map]
      exact List.map_congr_left fun q _ => refreshed_uid d q
    exact hu ▸ h.uids
  tags := nodup_replaceTags h.tags
  owned := by
    intro e he
    have hrow : ∀ q ∈ s.rows, ∃ x ∈ (s.updated r.id d).rows, x.id = q.id := fun q hq =>
      ⟨refreshed d q, List.mem_map_of_mem hq, refreshed_id d q⟩
    rcases mem_replaceTags.mp he with ⟨hold, _⟩ | ⟨hnew, _⟩
    · obtain ⟨q, hq, hqe⟩ := h.owned e hold
      obtain ⟨x, hx, hxq⟩ := hrow q hq
      exact ⟨x, hx, by rw [hxq, hqe]⟩
    · obtain ⟨x, hx, hxr⟩ := hrow r (mem_of_row? hr)
      exact ⟨x, hx, by rw [hxr, hnew]⟩

theorem wellFormed_extended {s : Store} (h : WellFormed s) {d : Dashboard}
    (hd : s.row? d.uid = none) : WellFormed (s.extended d) where
  ascending := by
    refine List.pairwise_append.mpr ⟨h.ascending, List.pairwise_singleton _ _, ?_⟩
    intro a ha b hb
    rw [List.mem_singleton] at hb
    -- the new number is above all that were taken before
    have ha' := (h.taken a ha).2
    rw [hb, Row.ofDashboard_id]; omega
  taken := by
    intro x hx
    have hc := h.counted
    show 0 < x.id ∧ x.id ≤ s.lastId + 1
    rcases List.mem_append.mp hx with hx | hx
    · have hx' := h.taken x hx
      omega
    · rw [List.mem_singleton] at hx
      rw [hx, Row.ofDashboard_id]; omega
  counted := by
    have hc := h.counted
    show ((s.rows ++ [_]).length : Int) ≤ s.lastId + 1
    rw [List.length_append, List.length_singleton]; omega
  uids := by
    show ((s.rows ++ [_]).map Row.uid).Nodup
    rw [List.map_append, List.map_singleton, List.nodup_append]
    refine ⟨h.uids, by simp, ?_⟩
    intro a ha b hb he
    rw [List.mem_singleton] at hb
    obtain ⟨r, hr, hru⟩ := List.mem_map.mp ha
    refine row?_eq_none.mp hd r hr ?_
    rw [hru, he, hb, Row.ofDashboard_uid]
  tags := nodup_replaceTags h.tags
  owned := by
    intro e he
    rcases mem_replaceTags.mp he with ⟨hold, _⟩ | ⟨hnew, _⟩
    · obtain ⟨q, hq, hqe⟩ := h.owned e hold
      exact ⟨q, List.mem_append_left _ hq, hqe⟩
    · exact ⟨_, List.mem_append_right _ (List.mem_singleton_self _), hnew.symm⟩

/-- **Preserved by every addition.** -/
theorem wellFormed_insert {s : Store} (h : WellFormed s) (d : Dashboard) :
    WellFormed (s.insert d).2 := by
  rcases insert_cases s d with ⟨r, hr, hins⟩ | ⟨hn, hins⟩
  · rw [hins]; exact wellFormed_updated h hr
  · rw [hins]; exact wellFormed_extended h hn

/-! ## Many additions -/

/-- Add dashboards one after the other. -/
def insertAll (s : Store) (ds : List Dashboard) : Store :=
  ds.foldl (fun s d => (s.insert d).2) s

theorem insertAll_concat (s : Store) (ds : List Dashboard) (d : Dashboard) :
    s.insertAll (ds ++ [d]) = ((s.insertAll ds).insert d).2 := by
  rw [insertAll, List.foldl_append]; rfl

theorem wellFormed_insertAll {s : Store} (h : WellFormed s) (ds : List Dashboard) :
    WellFormed (s.insertAll ds) := by
  induction ds generalizing s with
  | nil => exact h
  | cons d ds ih => exact ih (wellFormed_insert h d)

/-- A history that the numbers suffice for leads to a store that comes about. -/
theorem reachable_insertAll {s : Store} (h : Reachable s) {ds : List Dashboard}
    (hn : s.lastId + ds.length ≤ Text.maxInt64) : Reachable (s.insertAll ds) := by
  induction ds generalizing s with
  | nil => exact h
  | cons d ds ih =>
      rw [List.length_cons] at hn
      refine ih (h.insert d (by omega)) ?_
      rw [insert_lastId]; omega

/-- An addition succeeds as long as there is a number left. -/
theorem add_eq_ok {s s' : Store} {d : Dashboard} {id : Int} :
    s.add d = .ok (id, s') ↔ s.lastId < Text.maxInt64 ∧ s.insert d = (id, s') := by
  unfold add
  constructor
  · intro h
    split at h
    · rename_i hlt
      exact ⟨hlt, Except.ok.inj h⟩
    · exact absurd h (by simp)
  · rintro ⟨hlt, h⟩
    rw [if_pos hlt, h]

theorem Reachable.add {s s' : Store} {d : Dashboard} {id : Int} (h : Reachable s)
    (hadd : s.add d = .ok (id, s')) : Reachable s' := by
  obtain ⟨hlt, hinsert⟩ := add_eq_ok.mp hadd
  have hnext := h.insert d hlt
  rwa [hinsert] at hnext

/-! ## Every store -/

/-- Opening changes the note at most. -/
theorem migrate_cases {s s' : Store} (h : s.migrate = .ok s') :
    ∃ v, s' = { s with schemaVersion := v } := by
  unfold migrate at h
  dsimp only at h
  split at h
  · exact ⟨s.schemaVersion, (Except.ok.inj h).symm⟩
  · split at h
    · exact absurd h (by simp)
    · exact ⟨_, (Except.ok.inj h).symm⟩

theorem wellFormed_note {s : Store} (h : WellFormed s) (v : Option String) :
    WellFormed { s with schemaVersion := v } :=
  ⟨h.ascending, h.taken, h.counted, h.uids, h.tags, h.owned⟩

/-- **Every reachable store is well formed.** -/
theorem wellFormed_reachable {s : Store} (h : Reachable s) : WellFormed s := by
  induction h with
  | fresh => exact wellFormed_fresh
  | insert d _ _ ih => exact wellFormed_insert ih d
  | note v _ ih => exact wellFormed_note ih v
  | migrate _ hm ih =>
      obtain ⟨v, rfl⟩ := migrate_cases hm
      exact wellFormed_note ih v

theorem lastId_le_of_reachable {s : Store} (h : Reachable s) : s.lastId ≤ Text.maxInt64 := by
  induction h with
  | fresh => decide
  | insert d _ hlt _ => rw [insert_lastId]; omega
  | note v _ ih => exact ih
  | migrate _ hm ih => obtain ⟨v, rfl⟩ := migrate_cases hm; exact ih

/-- There are never more rows than numbers. -/
theorem count_le_of_reachable {s : Store} (h : Reachable s) : (s.count : Int) ≤ Text.maxInt64 :=
  Int.le_trans (wellFormed_reachable h).counted (lastId_le_of_reachable h)

/-! ## What the invariant gives -/

theorem WellFormed.nodup_ids {s : Store} (h : WellFormed s) : (s.rows.map Row.id).Nodup :=
  List.pairwise_map.mpr (h.ascending.imp fun hab => Int.ne_of_lt hab)

theorem WellFormed.eq_of_id {s : Store} (h : WellFormed s) {a b : Row}
    (ha : a ∈ s.rows) (hb : b ∈ s.rows) (hid : a.id = b.id) : a = b :=
  List.inj_on_of_nodup_map h.nodup_ids ha hb hid

theorem WellFormed.row?_of_mem {s : Store} (h : WellFormed s) {r : Row} (hr : r ∈ s.rows) :
    s.row? r.uid = some r :=
  (row?_eq_some h.uids).mpr ⟨hr, rfl⟩

theorem tagsFor_sorted (s : Store) (id : Int) : (s.tagsFor id).Pairwise (fun a b => a ≤ b) := by
  have hsort : (s.tagsFor id).Pairwise (fun a b => decide (a ≤ b) = true) :=
    List.pairwise_mergeSort
      (fun a b c hab hbc => by
        rw [decide_eq_true_eq] at *; exact String.le_trans hab hbc)
      (fun a b => by
        rw [Bool.or_eq_true, decide_eq_true_eq, decide_eq_true_eq]; exact String.le_total a b) _
  exact hsort.imp of_decide_eq_true

/-- A set of tags stands in one order only. -/
theorem tagsFor_eq_of_perm {s s' : Store} {id id' : Int}
    (h : (s.tagsFor id).Perm (s'.tagsFor id')) : s.tagsFor id = s'.tagsFor id' :=
  h.eq_of_pairwise (fun _ _ _ _ => String.le_antisymm) (tagsFor_sorted s id) (tagsFor_sorted s' id')

theorem WellFormed.nodup_tagsFor {s : Store} (h : WellFormed s) (id : Int) :
    (s.tagsFor id).Nodup := by
  refine (List.mergeSort_perm _ _).nodup_iff.mpr ?_
  refine (h.tags.filter _).map_on fun a ha b hb hab => ?_
  obtain ⟨_, ha⟩ := List.mem_filter.mp ha
  obtain ⟨_, hb⟩ := List.mem_filter.mp hb
  rw [beq_iff_eq] at ha hb
  obtain ⟨ka, ta⟩ := a
  obtain ⟨kb, tb⟩ := b
  exact TagEntry.mk.injEq .. ▸ ⟨ha.trans hb.symm, hab⟩

/-- The tags of a dashboard come without repetition, by ascending bytes. -/
theorem WellFormed.tagsFor_ascending {s : Store} (h : WellFormed s) (id : Int) :
    (s.tagsFor id).Pairwise (fun a b => Text.NoCase.bytes a < Text.NoCase.bytes b) := by
  refine ((tagsFor_sorted s id).and (h.nodup_tagsFor id)).imp fun {a b} hab =>
    Text.lt_iff_bytes_lt.mp ?_
  rw [← String.not_le]
  exact fun hba => hab.2 (String.le_antisymm hab.1 hba)

end DashIndex.Store
